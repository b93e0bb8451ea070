import Mathlib.Data.List.TakeWhile
import RenderEngine.Ports.OfflineVerify
import RenderEngine.Verified.Numerals

/-!
# `hexToBytes` on every string

The offline verifiers read hexadecimal texts two characters at a time with
`parseInt`, which skips blanks, takes signs and a `0x`, stops at the first
character that is no digit, and gives `NaN` for none; a `Uint8Array` stores
that as 0.  So only the parity of the length is checked.

## Main results

* `parseIntHex_of_digits`: `parseInt(s, 16)` of a run of digits is its value.
* `hexToBytes_faithful_iff`: the strings that are rejected or read as the bytes
  they write.
-/

namespace RenderEngine.Ports.HexDecode

open RenderEngine.Ports.CoreTypes
open RenderEngine.Ports.Serde
open RenderEngine.Ports.JavaScript
open RenderEngine.Ports.OfflineVerify
open RenderEngine.Verified.Numerals

/-! ## Hexadecimal digits -/

private theorem hexDigit_range : ∀ n < 128,
    hexDigit (Char.ofNat n) =
      if 48 ≤ n ∧ n ≤ 57 then some (n - 48)
      else if 97 ≤ n ∧ n ≤ 102 then some (n - 87)
      else if 65 ≤ n ∧ n ≤ 70 then some (n - 55)
      else none := by
  decide

private theorem hexDigit_of_le {c : Char} (hc : 128 ≤ c.toNat) :
    hexDigit c = none := by
  have hnot : ∀ hi : Char, hi.toNat < 128 → ¬ c ≤ hi := by
    intro hi hlt hle
    have hnat : c.toNat ≤ hi.toNat := UInt32.le_iff_toNat_le.mp hle
    omega
  have hdigit : ¬ c.isDigit = true := by
    intro h
    simp only [Char.isDigit, Bool.and_eq_true, decide_eq_true_eq] at h
    exact hnot '9' (by decide) h.2
  rw [hexDigit, if_neg hdigit,
    if_neg (fun h => hnot 'f' (by decide) h.2),
    if_neg (fun h => hnot 'F' (by decide) h.2)]

/-- The code units that are digits, and their values. -/
theorem hexValue_eq (u : CodeUnit) :
    hexValue u =
      if 48 ≤ u.val ∧ u.val ≤ 57 then some (u.val - 48)
      else if 97 ≤ u.val ∧ u.val ≤ 102 then some (u.val - 87)
      else if 65 ≤ u.val ∧ u.val ≤ 70 then some (u.val - 55)
      else none := by
  by_cases hlt : u.val < 128
  · exact hexDigit_range u.val hlt
  · rw [if_neg (by omega), if_neg (by omega), if_neg (by omega)]
    by_cases hvalid : u.val.isValidChar
    · apply hexDigit_of_le
      rw [CodeUnit.toChar, Char.ofNat, dif_pos hvalid]
      show 128 ≤ u.val
      omega
    · rw [hexValue, CodeUnit.toChar, Char.ofNat, dif_neg hvalid]
      rfl

theorem hexValue_lt {u : CodeUnit} {d : Nat} (h : hexValue u = some d) :
    d < 16 := by
  rw [hexValue_eq] at h
  split_ifs at h <;> cases h <;> omega

/-! ## `parseInt(s, 16)` of digits -/

theorem foldl_filterMap_hexValue {s : JsString}
    (h : AllDigits 16 hexValue s) (n : Nat) :
    (s.filterMap hexValue).foldl (fun n d => n * 16 + d) n =
      valueFrom 16 hexValue n s := by
  induction s generalizing n with
  | nil => rfl
  | cons u s ih =>
      obtain ⟨⟨d, -, hu⟩, hs⟩ := allDigits_cons.mp h
      rw [List.filterMap_cons_some hu, List.foldl_cons, valueFrom_cons, hu]
      exact ih hs _

/-- A digit is no blank. -/
private theorem isWhiteSpace_of_digit {u : CodeUnit} {d : Nat}
    (h : hexValue u = some d) : isWhiteSpace u = false := by
  have hrange : (48 ≤ u.val ∧ u.val ≤ 57) ∨ (97 ≤ u.val ∧ u.val ≤ 102) ∨
      (65 ≤ u.val ∧ u.val ≤ 70) := by
    rw [hexValue_eq] at h
    split_ifs at h <;> omega
  have hne : ∀ v : CodeUnit, ¬ ((48 ≤ v.val ∧ v.val ≤ 57) ∨
      (97 ≤ v.val ∧ v.val ≤ 102) ∨ (65 ≤ v.val ∧ v.val ≤ 70)) → u ≠ v := by
    rintro v hv rfl
    exact hv hrange
  simp only [isWhiteSpace, Bool.or_eq_false_iff, decide_eq_false_iff_not,
    beq_eq_false_iff_ne]
  refine ⟨⟨⟨⟨⟨⟨⟨⟨⟨⟨?_, ?_⟩, ?_⟩, ?_⟩, ?_⟩, ?_⟩, ?_⟩, ?_⟩, ?_⟩, ?_⟩, ?_⟩
  all_goals first
    | exact hne _ (by decide)
    | omega

/-- Digits do not start with a mark. -/
theorem take_two_ne_of_digits {s mark : JsString}
    (h : AllDigits 16 hexValue s) {c : Char} (hc : hexValue (unit c) = none)
    (hmem : unit c ∈ mark) : s.take 2 ≠ mark := by
  rintro rfl
  exact h.not_mem hc (List.mem_of_mem_take hmem)

theorem hexPrefix_of_digits {s : JsString} (hne : s ≠ [])
    (h : AllDigits 16 hexValue s) :
    hexPrefix s = some (value 16 hexValue s) := by
  have hall : s.takeWhile (fun u => (hexValue u).isSome) = s := by
    apply List.takeWhile_eq_self_iff.mpr
    intro v hv
    obtain ⟨e, -, he⟩ := h v hv
    rw [he]
    rfl
  obtain ⟨u, rest, rfl⟩ := List.exists_cons_of_ne_nil hne
  obtain ⟨⟨d, -, hu⟩, -⟩ := allDigits_cons.mp h
  rw [hexPrefix, hall, foldl_filterMap_hexValue h,
    List.filterMap_cons_some hu]
  rfl

/-- **A run of hexadecimal digits is parsed as its value.** -/
theorem parseIntHex_of_digits {s : JsString} (hne : s ≠ [])
    (h : AllDigits 16 hexValue s) :
    parseIntHex s = some (value 16 hexValue s : Int) := by
  have hspace : s.dropWhile isWhiteSpace = s := by
    obtain ⟨u, rest, rfl⟩ := List.exists_cons_of_ne_nil hne
    obtain ⟨⟨d, -, hu⟩, -⟩ := allDigits_cons.mp h
    rw [List.dropWhile_cons_of_neg (by simp [isWhiteSpace_of_digit hu])]
  have hsign : ∀ c, hexValue (unit c) = none →
      (s.head? == some (unit c)) = false := by
    intro c hc
    exact beq_eq_false_iff_ne.mpr fun heq =>
      h.not_mem hc (List.mem_of_mem_head? heq)
  have hmark : ¬ (s.take 2 = js "0x" ∨ s.take 2 = js "0X") := by
    rw [not_or]
    exact ⟨take_two_ne_of_digits h (by decide : hexValue (unit 'x') = none)
        (by decide),
      take_two_ne_of_digits h (by decide : hexValue (unit 'X') = none)
        (by decide)⟩
  simp only [parseIntHex, hspace, hsign '-' (by decide), hsign '+' (by decide),
    Bool.or_false, Bool.false_eq_true, if_false, if_neg hmark,
    hexPrefix_of_digits hne h]
  rfl

/-! ## Bytes and their digits -/

/-- `toLowerCase` of the ASCII letters.  No other character has a lower case
that is a hexadecimal digit or an `x`. -/
def toLowerCase (s : JsString) : JsString :=
  s.map fun u =>
    if 65 ≤ u.val ∧ u.val ≤ 90 then Fin.ofNat 65536 (u.val + 32) else u

@[simp] theorem toLowerCase_length (s : JsString) :
    (toLowerCase s).length = s.length := List.length_map _

private theorem digitBytes_cons (a b : CodeUnit) (rest : JsString) :
    digitBytes (a :: b :: rest) =
      toUint8 (parseIntHex [a, b]) :: digitBytes rest := by
  have hhalf : (a :: b :: rest).length / 2 = rest.length / 2 + 1 := by
    simp only [List.length_cons]
    omega
  rw [digitBytes, hhalf, List.range_succ_eq_map, List.map_cons, List.map_map]
  congr 1
  apply List.map_congr_left
  intro i _
  have hlow : (i + 1) * 2 = i * 2 + 2 := by omega
  have hwidth : i * 2 + 2 + 2 - (i * 2 + 2) = i * 2 + 2 - i * 2 := by omega
  show toUint8 (parseIntHex (slice _ ((i + 1) * 2) ((i + 1) * 2 + 2))) = _
  rw [hlow, slice, slice, hwidth]
  rfl

/-- The two digits of a byte are its halves in lower case. -/
private theorem byteHex_halves : ∀ x < 16, ∀ y < 16,
    byteHex (toUint8 (some ((x * 16 + y : Nat) : Int))) =
      [unit x.digitChar, unit y.digitChar] := by
  decide

private theorem toLowerCase_range : ∀ n < 128,
    (hexValue (Fin.ofNat 65536 n)).all (fun d =>
      toLowerCase [Fin.ofNat 65536 n] == [unit d.digitChar]) = true := by
  decide

private theorem toLowerCase_digit {u : CodeUnit} {d : Nat}
    (h : hexValue u = some d) : toLowerCase [u] = [unit d.digitChar] := by
  have hlt : u.val < 128 := by
    rw [hexValue_eq] at h
    split_ifs at h <;> omega
  have hall := toLowerCase_range u.val hlt
  rw [Fin.ofNat_val_eq_self, h] at hall
  exact beq_iff_eq.mp hall

theorem toLowerCase_append (s t : JsString) :
    toLowerCase (s ++ t) = toLowerCase s ++ toLowerCase t := List.map_append

/-- **Digits are read as the bytes they write.** -/
theorem bytesToHex_digitBytes {s : JsString} (heven : s.length % 2 = 0)
    (h : AllDigits 16 hexValue s) :
    bytesToHex (digitBytes s) = toLowerCase s := by
  induction s using List.twoStepInduction with
  | nil => rfl
  | singleton u => simp at heven
  | cons_cons a b rest ih =>
      obtain ⟨⟨x, hx, ha⟩, htail⟩ := allDigits_cons.mp h
      obtain ⟨⟨y, hy, hb⟩, hrest⟩ := allDigits_cons.mp htail
      have hpair : parseIntHex [a, b] = some ((x * 16 + y : Nat) : Int) := by
        rw [parseIntHex_of_digits (List.cons_ne_nil _ _)
          (allDigits_cons.mpr ⟨⟨x, hx, ha⟩,
            allDigits_cons.mpr ⟨⟨y, hy, hb⟩, allDigits_nil⟩⟩)]
        simp [value, valueFrom, ha, hb]
      have hlow : toLowerCase (a :: b :: rest) =
          [unit x.digitChar, unit y.digitChar] ++ toLowerCase rest := by
        rw [← List.singleton_append, ← List.singleton_append (l := rest),
          toLowerCase_append, toLowerCase_append, toLowerCase_digit ha,
          toLowerCase_digit hb]
        rfl
      have hlen : rest.length % 2 = 0 := by
        simp only [List.length_cons] at heven
        omega
      rw [digitBytes_cons, hpair, bytesToHex, List.flatMap_cons,
        byteHex_halves x hx y hy, hlow]
      exact congrArg _ (ih hlen hrest)

private theorem hexValue_digitChar_unit : ∀ d < 16,
    hexValue (unit d.digitChar) = some d := by
  decide

private theorem byteHex_eq (b : UInt8) :
    byteHex b =
      [unit (b.toNat / 16).digitChar, unit (b.toNat % 16).digitChar] := by
  have hb := b.toNat_lt
  have h := byteHex_halves (b.toNat / 16) (by omega) (b.toNat % 16) (by omega)
  have hsum : b.toNat / 16 * 16 + b.toNat % 16 = b.toNat := by omega
  have hbyte : toUint8 (some (b.toNat : Int)) = b := by
    have hmod : ((b.toNat : Int) % 256).toNat = b.toNat := by omega
    rw [toUint8, hmod, UInt8.ofNat_toNat]
  rw [hsum, hbyte] at h
  exact h

/-- What `bytesToHex` writes are digits, two a byte. -/
theorem bytesToHex_spec (bytes : List UInt8) :
    (bytesToHex bytes).length = 2 * bytes.length ∧
      AllDigits 16 hexValue (bytesToHex bytes) := by
  induction bytes with
  | nil => exact ⟨rfl, allDigits_nil⟩
  | cons b bytes ih =>
      have hb := b.toNat_lt
      have hlow : b.toNat % 16 < 16 := by omega
      have hhigh : b.toNat / 16 < 16 := by omega
      rw [bytesToHex, List.flatMap_cons, byteHex_eq]
      refine ⟨?_, allDigits_append.mpr ⟨?_, ih.2⟩⟩
      · have hrest : (bytes.flatMap byteHex).length = _ := ih.1
        rw [List.length_append, hrest]
        simp only [List.length_cons, List.length_nil]
        omega
      · exact allDigits_cons.mpr ⟨⟨_, hhigh, hexValue_digitChar_unit _ hhigh⟩,
          allDigits_cons.mpr ⟨⟨_, hlow, hexValue_digitChar_unit _ hlow⟩,
            allDigits_nil⟩⟩

/-- Lower case takes no text of digits to another one. -/
theorem allDigits_toLowerCase_iff (s : JsString) :
    AllDigits 16 hexValue (toLowerCase s) ↔ AllDigits 16 hexValue s := by
  have hunit : ∀ u : CodeUnit, (∃ d < 16, hexValue u = some d) ↔
      (48 ≤ u.val ∧ u.val ≤ 57) ∨ (97 ≤ u.val ∧ u.val ≤ 102) ∨
        (65 ≤ u.val ∧ u.val ≤ 70) := by
    intro u
    constructor
    · rintro ⟨d, -, h⟩
      rw [hexValue_eq] at h
      split_ifs at h <;> omega
    · intro h
      obtain ⟨d, hd⟩ : ∃ d, hexValue u = some d := by
        rw [hexValue_eq]
        split_ifs <;> first | exact ⟨_, rfl⟩ | omega
      exact ⟨d, hexValue_lt hd, hd⟩
  simp only [AllDigits, toLowerCase, List.forall_mem_map, hunit]
  apply forall₂_congr
  intro u _
  split_ifs with hupper
  · have hval : (Fin.ofNat 65536 (u.val + 32)).val = u.val + 32 :=
      Nat.mod_eq_of_lt (by omega)
    rw [hval]
    omega
  · rfl

/-! ## The strings that are read as written -/

/-- The function rejects the string or returns the bytes whose digits are the
string in lower case, without the `0x` it may start with. -/
def Faithful (decode : JsString → Throws (List UInt8)) (s : JsString) : Prop :=
  ∀ bytes, decode s = .ok bytes →
    bytesToHex bytes = cleanHex (toLowerCase s)

/-- Without its `0x` the string has an odd length or only digits. -/
def OddOrDigits (s : JsString) : Prop :=
  (cleanHex s).length % 2 = 1 ∨ AllDigits 16 hexValue (cleanHex s)

theorem cleanHex_toLowerCase_of_mark {s : JsString}
    (h : s.take 2 = js "0x") :
    cleanHex (toLowerCase s) = toLowerCase (cleanHex s) := by
  have hmark : (toLowerCase s).take 2 = js "0x" := by
    rw [toLowerCase, ← List.map_take, h]
    decide
  rw [cleanHex, if_pos hmark, cleanHex, if_pos h, toLowerCase, ← List.map_drop]
  rfl

theorem cleanHex_toLowerCase_of_digits {s : JsString}
    (h : AllDigits 16 hexValue (cleanHex s)) :
    cleanHex (toLowerCase s) = toLowerCase (cleanHex s) := by
  by_cases hmark : s.take 2 = js "0x"
  · exact cleanHex_toLowerCase_of_mark hmark
  · have hclean : cleanHex s = s := if_neg hmark
    rw [hclean] at h ⊢
    have hdigits := (allDigits_toLowerCase_iff s).mpr h
    exact if_neg (take_two_ne_of_digits hdigits
      (by decide : hexValue (unit 'x') = none) (by decide))

theorem faithful_iff (oddLength : Nat → JsError) (s : JsString) :
    Faithful (hexToBytesWith oddLength) s ↔ OddOrDigits s := by
  unfold Faithful OddOrDigits
  simp only [hexToBytesWith_eq_ok_iff, Decodes]
  constructor
  · intro h
    by_cases hodd : (cleanHex s).length % 2 = 1
    · exact .inl hodd
    have hread := h _ ⟨by omega, rfl⟩
    have hspec := bytesToHex_spec (digitBytes (cleanHex s))
    rw [hread] at hspec
    right
    by_cases hmark : s.take 2 = js "0x"
    · rw [cleanHex_toLowerCase_of_mark hmark] at hspec
      exact (allDigits_toLowerCase_iff _).mp hspec.2
    · have hclean : cleanHex s = s := if_neg hmark
      rw [hclean] at hspec hodd ⊢
      by_cases hlow : (toLowerCase s).take 2 = js "0x"
      · -- `0X` is read as a byte of its own
        have hlong : 2 ≤ s.length := by
          have htake : ((toLowerCase s).take 2).length = 2 := by
            rw [hlow]
            rfl
          rw [List.length_take, toLowerCase_length] at htake
          omega
        have hlen := hspec.1
        rw [cleanHex, if_pos hlow, List.length_drop, toLowerCase_length,
          digitBytes, List.length_map, List.length_range] at hlen
        omega
      · rw [cleanHex, if_neg hlow] at hspec
        exact (allDigits_toLowerCase_iff s).mp hspec.2
  · rintro (hodd | hdigits) bytes ⟨heven, rfl⟩
    · omega
    · rw [bytesToHex_digitBytes heven hdigits,
        cleanHex_toLowerCase_of_digits hdigits]

/-- **Either `hexToBytes` rejects a string or reads what it writes exactly if
without its `0x` the string has an odd length or only digits**; of two such
strings that are read as the same bytes, the digits are the same. -/
theorem hexToBytes_faithful_iff (s : JsString) :
    (∀ decode ∈ [Demo.hexToBytes, Client.hexToBytes],
      (Faithful decode s ↔ OddOrDigits s)) ∧
    ∀ decode ∈ [Demo.hexToBytes, Client.hexToBytes], ∀ s' bytes,
      OddOrDigits s → OddOrDigits s' →
      decode s = .ok bytes → decode s' = .ok bytes →
      cleanHex (toLowerCase s) = cleanHex (toLowerCase s') := by
  have hboth : ∀ decode ∈ [Demo.hexToBytes, Client.hexToBytes], ∀ t,
      Faithful decode t ↔ OddOrDigits t := by
    intro decode hdecode
    simp only [List.mem_cons, List.not_mem_nil, or_false] at hdecode
    rcases hdecode with rfl | rfl
    · exact faithful_iff _
    · exact faithful_iff _
  refine ⟨fun decode hdecode => hboth decode hdecode s, ?_⟩
  intro decode hdecode s' bytes hs hs' hread hread'
  have h := (hboth decode hdecode s).mpr hs bytes hread
  have h' := (hboth decode hdecode s').mpr hs' bytes hread'
  exact h.symm.trans h'

/-- `1g` is read as the byte 1, the byte of `01`. -/
theorem not_faithful_1g :
    Demo.hexToBytes (js "1g") = .ok [1] ∧ Demo.hexToBytes (js "01") = .ok [1] ∧
      ¬ Faithful Demo.hexToBytes (js "1g") ∧
      ¬ Faithful Client.hexToBytes (js "1g") := by
  have hne : bytesToHex [1] ≠ cleanHex (toLowerCase (js "1g")) := by decide
  refine ⟨by decide, by decide, ?_, ?_⟩
  · intro h
    exact hne (h [1] (by decide))
  · intro h
    exact hne (h [1] (by decide))

end RenderEngine.Ports.HexDecode
