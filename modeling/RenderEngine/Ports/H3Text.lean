import Mathlib.Tactic.IntervalCases
import RenderEngine.Ports.RustStd
import RenderEngine.Verified.Numerals

/-!
# The text form of a cell (`render-core/src/types.rs`)

`from_hex` drops every `0x` a text starts with and leaves the rest to
`u64::from_str_radix`, which takes a sign `+`.  So it reads more than a
hexadecimal numeral with an optional `0x`: `Slips` is what it reads besides.

## Main results

* `fromHex_eq_ok_iff`: the texts `from_hex` reads, and their cells.
* `fromHex_exact_iff`: it follows the grammar exactly on the texts that are no
  slip, and reads every cell it has written.
-/

namespace RenderEngine.Ports.H3Text

open RenderEngine.Ports.CoreTypes
open RenderEngine.Ports.RustStd
open RenderEngine.Ports.Serde
open RenderEngine.Verified.Numerals

/-! ## `u64::from_str_radix` -/

/-- The `IntErrorKind`s of an unsigned type. -/
inductive IntErrorKind where
  | empty
  | invalidDigit
  | posOverflow
  deriving DecidableEq

/-- The text of a `ParseIntError`. -/
def IntErrorKind.toText : IntErrorKind → Text
  | .empty => "cannot parse integer from empty string".toList
  | .invalidDigit => "invalid digit found in string".toList
  | .posOverflow => "number too large to fit in target type".toList

/-- The loop over the digits: at each the product is checked after the digit
and before the sum. -/
def readDigits : Nat → Text → Except IntErrorKind Nat
  | n, [] => .ok n
  | n, c :: cs =>
      match hexDigit c with
      | none => .error .invalidDigit
      | some d =>
          if 2 ^ 64 ≤ n * 16 then .error .posOverflow
          else if 2 ^ 64 ≤ n * 16 + d then .error .posOverflow
          else readDigits (n * 16 + d) cs

/-- `u64::from_str_radix(s, 16)`. -/
def fromStrRadix16 (s : Text) : Except IntErrorKind Nat :=
  match s with
  | [] => .error .empty
  | ['+'] => .error .invalidDigit
  | ['-'] => .error .invalidDigit
  | '+' :: digits => readDigits 0 digits
  -- a minus sign of an unsigned type is no digit
  | digits => readDigits 0 digits

/-! ## Cells -/

/-- `trim_start_matches("0x")`. -/
def trimStart0x : Text → Text
  | '0' :: 'x' :: rest => trimStart0x rest
  | s => s

/-- `H3Cell::from_hex`. -/
def fromHex (s : Text) : Except CoreError H3Cell :=
  match fromStrRadix16 (trimStart0x s) with
  | .ok n => .ok ⟨BitVec.ofNat 64 n⟩
  | .error e => .error (.invalidH3Cell e.toText)

/-- `Serialize for H3Cell`. -/
def serialize (h : H3Cell) : Text := hexLower h.bits.toNat

/-! ## The texts that are read -/

/-- A run of hexadecimal digits, not empty, of this value below `2 ^ 64`. -/
structure IsNumeral (digits : Text) (n : Nat) : Prop where
  ne_nil : digits ≠ []
  allDigits : AllDigits 16 hexDigit digits
  value_eq : value 16 hexDigit digits = n
  lt : n < 2 ^ 64

theorem hexDigit_lt {c : Char} {d : Nat} (h : hexDigit c = some d) :
    d < 16 := by
  unfold hexDigit at h
  split at h
  · next hc =>
    simp only [Char.isDigit, Bool.and_eq_true, decide_eq_true_eq] at hc
    have hle : c.toNat ≤ 57 := UInt32.le_iff_toNat_le.mp hc.2
    cases h
    omega
  split at h
  · next hc =>
    have hle : c.toNat ≤ 102 := UInt32.le_iff_toNat_le.mp hc.2
    cases h
    omega
  split at h
  · next hc =>
    have hle : c.toNat ≤ 70 := UInt32.le_iff_toNat_le.mp hc.2
    cases h
    omega
  · cases h

theorem readDigits_eq_ok_iff {n : Nat} (hn : n < 2 ^ 64) (cs : Text) (m : Nat) :
    readDigits n cs = .ok m ↔
      AllDigits 16 hexDigit cs ∧ valueFrom 16 hexDigit n cs = m ∧ m < 2 ^ 64 := by
  induction cs generalizing n with
  | nil =>
      simp only [readDigits, Except.ok.injEq, allDigits_nil, true_and,
        valueFrom, List.foldl_nil]
      constructor
      · rintro rfl
        exact ⟨rfl, hn⟩
      · exact fun h => h.1
  | cons c cs ih =>
      rw [allDigits_cons, valueFrom_cons, readDigits]
      cases hc : hexDigit c with
      | none => simp
      | some d =>
          have hd := hexDigit_lt hc
          have hgrows : n * 16 + d ≤ valueFrom 16 hexDigit (n * 16 + d) cs :=
            le_valueFrom (by decide) _ cs
          simp only [Option.some.injEq, exists_eq_right', hd, true_and,
            Option.getD_some]
          by_cases hover : 2 ^ 64 ≤ n * 16 + d
          · have herror : ∀ e : Except IntErrorKind Nat,
                (if 2 ^ 64 ≤ n * 16 then .error .posOverflow
                  else if 2 ^ 64 ≤ n * 16 + d then .error .posOverflow
                  else e) = (.error .posOverflow : Except IntErrorKind Nat) := by
              intro e
              rw [if_pos hover, ite_self]
            rw [herror]
            constructor
            · intro h
              cases h
            · rintro ⟨-, hm, hlt⟩
              omega
          · rw [if_neg (by omega), if_neg hover]
            exact ih (by omega)

theorem fromStrRadix16_eq_ok_iff (s : Text) (n : Nat) :
    fromStrRadix16 s = .ok n ↔ IsNumeral (stripPlus s) n := by
  have hread : ∀ digits : Text, digits ≠ [] →
      (readDigits 0 digits = .ok n ↔ IsNumeral digits n) := by
    intro digits hne
    rw [readDigits_eq_ok_iff (by decide)]
    exact ⟨fun h => ⟨hne, h.1, h.2.1, h.2.2⟩,
      fun h => ⟨h.allDigits, h.value_eq, h.lt⟩⟩
  have hnil : ¬ IsNumeral [] n := fun h => h.ne_nil rfl
  unfold fromStrRadix16
  split
  · exact iff_of_false (fun h => nomatch h) hnil
  · exact iff_of_false (fun h => nomatch h) hnil
  · refine iff_of_false (fun h => nomatch h) ?_
    exact fun h => h.allDigits.not_mem (by decide) List.mem_cons_self
  · next digits hdigits =>
    exact hread digits hdigits
  · next digits hempty hplus hminus hsigned =>
    have hstrip : stripPlus s = s := by
      unfold stripPlus
      split
      · next rest => exact (hsigned rest rfl).elim
      · rfl
    rw [hstrip]
    exact hread s hempty

/-- A numeral after `k` times `0x` and, if there is one, a sign `+`. -/
def written (k : Nat) (plus : Bool) (digits : Text) : Text :=
  (List.replicate k ['0', 'x']).flatten
    ++ ((if plus then ['+'] else []) ++ digits)

theorem trimStart0x_eq (s : Text) :
    ∃ k, s = (List.replicate k ['0', 'x']).flatten ++ trimStart0x s := by
  fun_induction trimStart0x s with
  | case1 rest ih =>
      obtain ⟨k, hk⟩ := ih
      refine ⟨k + 1, ?_⟩
      rw [List.replicate_succ, List.flatten_cons, List.append_assoc, ← hk]
      rfl
  | case2 s _ => exact ⟨0, rfl⟩

/-- Neither sign nor digits are trimmed. -/
theorem trimStart0x_written (k : Nat) (plus : Bool) {digits : Text} {n : Nat}
    (h : IsNumeral digits n) :
    trimStart0x (written k plus digits) =
      (if plus then ['+'] else []) ++ digits := by
  induction k with
  | succ k ih => exact ih
  | zero =>
      show trimStart0x ((if plus then ['+'] else []) ++ digits) = _
      unfold trimStart0x
      split
      · next rest hrest =>
        cases plus with
        | true => exact absurd (List.cons.inj hrest).1 (by decide)
        | false =>
            have hx : 'x' ∈ digits := by
              rw [show digits = '0' :: 'x' :: rest from hrest]
              simp
            exact absurd hx (h.allDigits.not_mem (by decide))
      · rfl

theorem stripPlus_written (plus : Bool) {digits : Text} {n : Nat}
    (h : IsNumeral digits n) :
    stripPlus ((if plus then ['+'] else []) ++ digits) = digits := by
  cases plus with
  | true => rfl
  | false =>
      show stripPlus digits = digits
      unfold stripPlus
      split
      · exact absurd List.mem_cons_self (h.allDigits.not_mem (by decide))
      · rfl

/-- **What `from_hex` reads**: a numeral after any number of `0x` and an
optional `+`. -/
theorem fromHex_eq_ok_iff (s : Text) (cell : H3Cell) :
    fromHex s = .ok cell ↔ ∃ k plus digits, s = written k plus digits ∧
      IsNumeral digits cell.bits.toNat := by
  have hnumeral : fromHex s = .ok cell ↔
      IsNumeral (stripPlus (trimStart0x s)) cell.bits.toNat := by
    rw [← fromStrRadix16_eq_ok_iff, fromHex]
    cases hread : fromStrRadix16 (trimStart0x s) with
    | error e => simp
    | ok n =>
        have hlt := ((fromStrRadix16_eq_ok_iff _ n).mp hread).lt
        simp only [Except.ok.injEq]
        constructor
        · rintro rfl
          exact (Nat.mod_eq_of_lt hlt).symm
        · rintro rfl
          rw [BitVec.ofNat_toNat, BitVec.setWidth_eq]
  rw [hnumeral]
  constructor
  · intro h
    obtain ⟨k, hk⟩ := trimStart0x_eq s
    generalize trimStart0x s = t at hk h
    unfold stripPlus at h
    split at h
    · next rest => exact ⟨k, true, rest, hk, h⟩
    · exact ⟨k, false, t, hk, h⟩
  · rintro ⟨k, plus, digits, rfl, h⟩
    rw [trimStart0x_written k plus h, stripPlus_written plus h]
    exact h

/-! ## The grammar -/

/-- An optional `0x`, and a numeral of this value. -/
def Spells (s : Text) (n : Nat) : Prop :=
  ∃ digits, (s = digits ∨ s = '0' :: 'x' :: digits) ∧ IsNumeral digits n

/-- `from_hex` reads the text exactly if it is in the grammar, as its
value. -/
def FromHexExact (s : Text) : Prop :=
  ∀ cell, fromHex s = .ok cell ↔ Spells s cell.bits.toNat

/-- A numeral after two or more `0x`, or after a sign `+`. -/
def Slips (s : Text) : Prop :=
  ∃ k plus digits n, s = written k plus digits ∧ IsNumeral digits n ∧
    (2 ≤ k ∨ plus = true)

theorem spells_iff (s : Text) (n : Nat) :
    Spells s n ↔ ∃ k ≤ 1, ∃ digits, s = written k false digits ∧
      IsNumeral digits n := by
  constructor
  · rintro ⟨digits, rfl | rfl, h⟩
    · exact ⟨0, by decide, _, rfl, h⟩
    · exact ⟨1, by decide, _, rfl, h⟩
  · rintro ⟨k, hk, digits, rfl, h⟩
    rcases Nat.le_one_iff_eq_zero_or_eq_one.mp hk with rfl | rfl
    · exact ⟨digits, .inl rfl, h⟩
    · exact ⟨digits, .inr rfl, h⟩

private theorem length_times0x (k : Nat) :
    (List.replicate k ['0', 'x']).flatten.length = 2 * k := by
  simp [Nat.mul_comm]

/-- A text is a numeral after one number of `0x` and one sign only. -/
theorem written_injective {k k' : Nat} {plus plus' : Bool}
    {digits digits' : Text} {n n' : Nat} (h : IsNumeral digits n)
    (h' : IsNumeral digits' n')
    (heq : written k plus digits = written k' plus' digits') :
    k = k' ∧ plus = plus' := by
  have htrim := congrArg trimStart0x heq
  rw [trimStart0x_written k plus h, trimStart0x_written k' plus' h'] at htrim
  have hdigits := congrArg stripPlus htrim
  rw [stripPlus_written plus h, stripPlus_written plus' h'] at hdigits
  subst hdigits
  have hplus : plus = plus' := by
    have hlength := congrArg List.length htrim
    cases plus <;> cases plus' <;> simp at hlength ⊢
  subst hplus
  have htimes := congrArg List.length (List.append_cancel_right heq)
  rw [length_times0x, length_times0x] at htimes
  exact ⟨by omega, rfl⟩

theorem hexDigit_digitChar {d : Nat} (hd : d < 16) :
    hexDigit d.digitChar = some d := by
  interval_cases d <;> decide

/-- A cell is read back from its text. -/
theorem fromHex_serialize (cell : H3Cell) :
    fromHex (serialize cell) = .ok cell := by
  rw [fromHex_eq_ok_iff]
  have hvalue : AllDigits 16 hexDigit (serialize cell) ∧
      value 16 hexDigit (serialize cell) = cell.bits.toNat :=
    value_toDigits (by decide) (fun _ => hexDigit_digitChar) _
  exact ⟨0, false, serialize cell, rfl,
    ⟨Nat.toDigits_ne_nil, hvalue.1, hvalue.2, cell.bits.isLt⟩⟩

/-- **`from_hex` follows its grammar exactly on the texts that are no slip**,
and reads back every cell. -/
theorem fromHex_exact_iff (s : Text) :
    (FromHexExact s ↔ ¬ Slips s) ∧
      ∀ cell, fromHex (serialize cell) = .ok cell := by
  refine ⟨?_, fromHex_serialize⟩
  constructor
  · rintro hexact ⟨k, plus, digits, n, rfl, hnum, hslip⟩
    have hlt := hnum.lt
    have hbits : (BitVec.ofNat 64 n).toNat = n := Nat.mod_eq_of_lt hlt
    have hread : fromHex (written k plus digits) = .ok ⟨BitVec.ofNat 64 n⟩ :=
      (fromHex_eq_ok_iff _ _).mpr ⟨k, plus, digits, rfl, by rwa [hbits]⟩
    have hspells := (hexact _).mp hread
    rcases (spells_iff _ _).mp hspells with ⟨k', hk', digits', heq, hnum'⟩
    obtain ⟨rfl, rfl⟩ := written_injective hnum hnum' heq
    rcases hslip with hslip | hslip
    · omega
    · cases hslip
  · intro hslip cell
    rw [fromHex_eq_ok_iff, spells_iff]
    constructor
    · rintro ⟨k, plus, digits, rfl, hnum⟩
      have hk : k ≤ 1 := by
        by_contra hk
        exact hslip ⟨k, plus, digits, _, rfl, hnum, .inl (by omega)⟩
      cases plus with
      | true => exact absurd ⟨k, true, digits, _, rfl, hnum, .inr rfl⟩ hslip
      | false => exact ⟨k, hk, digits, rfl, hnum⟩
    · rintro ⟨k, -, digits, rfl, hnum⟩
      exact ⟨k, false, digits, rfl, hnum⟩

/-- A sign `+` is read. -/
theorem not_fromHexExact_plus :
    fromHex "+8b1e8050145bfff".toList = .ok ⟨0x8b1e8050145bfff⟩ ∧
      ¬ FromHexExact "+8b1e8050145bfff".toList := by
  refine ⟨by decide, ?_⟩
  intro hexact
  obtain ⟨digits, rfl | hdigits, hnum⟩ :=
    (hexact ⟨0x8b1e8050145bfff⟩).mp (by decide)
  · exact hnum.allDigits.not_mem (by decide : hexDigit '+' = none) (by decide)
  · exact absurd (List.cons.inj hdigits).1 (by decide)

end RenderEngine.Ports.H3Text
