import RenderEngine.Ports.JavaScriptJson

/-!
# `TextEncoder` on JSON texts

`encode` puts U+FFFD for a surrogate without its partner, so it takes some
strings to the same bytes.  `JSON.stringify` escapes such surrogates; a JSON
text has none left, and on strings without them `encode` is injective.

## Main results

* `flatMap_injective_of_read`: a code that can be read from the front is
  uniquely decodable.
* `textEncode_injective`: so is UTF-8 over paired surrogates.
* `jsonText_wellPaired`: every JSON text is of that kind.
-/

namespace RenderEngine.Ports.TextEncoding

open RenderEngine.Ports.CoreTypes
open RenderEngine.Ports.JavaScript
open RenderEngine.Ports.JavaScriptJson
open RenderEngine.Verified.JsonGrammar
open RenderEngine.Verified.JsonSpelling

/-! ## Codes read from the front -/

theorem flatMap_injective_of_read {A B : Type} {code : A → List B}
    {read : List B → Option (A × List B)} {P : A → Prop}
    (hread : ∀ a, P a → ∀ rest, read (code a ++ rest) = some (a, rest))
    (hnil : read [] = none) {xs ys : List A} (hxs : ∀ x ∈ xs, P x)
    (hys : ∀ y ∈ ys, P y) (h : xs.flatMap code = ys.flatMap code) :
    xs = ys := by
  have hcons : ∀ a as, P a → read ((a :: as).flatMap code) =
      some (a, as.flatMap code) := by
    intro a as ha
    rw [List.flatMap_cons]
    exact hread a ha _
  induction xs generalizing ys with
  | nil =>
      cases ys with
      | nil => rfl
      | cons y ys =>
          have hy := hcons y ys (hys y List.mem_cons_self)
          rw [← h, List.flatMap_nil, hnil] at hy
          cases hy
  | cons x xs ih =>
      have hx := hcons x xs (hxs x List.mem_cons_self)
      cases ys with
      | nil =>
          rw [h, List.flatMap_nil, hnil] at hx
          cases hx
      | cons y ys =>
          have hy := hcons y ys (hys y List.mem_cons_self)
          rw [h, hy, Option.some.injEq, Prod.mk.injEq] at hx
          rw [hx.1, ih (fun a ha => hxs a (List.mem_cons_of_mem _ ha))
            (fun a ha => hys a (List.mem_cons_of_mem _ ha)) hx.2.symm]

/-! ## UTF-8 -/

/-- Read `k` continuation bytes after the bits `n`. -/
def readTail : Nat → Nat → List UInt8 → Option (Nat × List UInt8)
  | 0, n, rest => some (n, rest)
  | _ + 1, _, [] => none
  | k + 1, n, b :: rest => readTail k (n * 0x40 + (b.toNat - 0x80)) rest

/-- Read one code point; the first byte says how many follow. -/
def readUtf8 : List UInt8 → Option (Nat × List UInt8)
  | [] => none
  | a :: rest =>
      if a.toNat < 0x80 then readTail 0 a.toNat rest
      else if a.toNat < 0xE0 then readTail 1 (a.toNat - 0xC0) rest
      else if a.toNat < 0xF0 then readTail 2 (a.toNat - 0xE0) rest
      else readTail 3 (a.toNat - 0xF0) rest

private theorem some_pair_eq {m n : Nat} (h : m = n) (rest : List UInt8) :
    some (m, rest) = some (n, rest) := by rw [h]

theorem readUtf8_utf8 {n : Nat} (hn : n < 0x110000) (rest : List UInt8) :
    readUtf8 (utf8 n ++ rest) = some (n, rest) := by
  have hbyte : ∀ m, m < 256 → (UInt8.ofNat m).toNat = m :=
    fun m hm => UInt8.toNat_ofNat_of_lt hm
  unfold utf8
  by_cases h1 : n < 0x80
  · have ha := hbyte n (by omega)
    rw [if_pos h1]
    simp only [List.cons_append, List.nil_append, readUtf8, readTail, ha]
    rw [if_pos h1]
  · rw [if_neg h1]
    by_cases h2 : n < 0x800
    · have ha := hbyte (0xC0 + n / 0x40) (by omega)
      have hb := hbyte (0x80 + n % 0x40) (by omega)
      rw [if_pos h2]
      simp only [List.cons_append, List.nil_append, readUtf8, readTail, ha, hb]
      rw [if_neg (by omega), if_pos (by omega)]
      exact some_pair_eq (by omega) rest
    · rw [if_neg h2]
      by_cases h3 : n < 0x10000
      · have ha := hbyte (0xE0 + n / 0x1000) (by omega)
        have hb := hbyte (0x80 + n / 0x40 % 0x40) (by omega)
        have hc := hbyte (0x80 + n % 0x40) (by omega)
        rw [if_pos h3]
        simp only [List.cons_append, List.nil_append, readUtf8, readTail, ha,
          hb, hc]
        rw [if_neg (by omega), if_neg (by omega), if_pos (by omega)]
        exact some_pair_eq (by omega) rest
      · have ha := hbyte (0xF0 + n / 0x40000) (by omega)
        have hb := hbyte (0x80 + n / 0x1000 % 0x40) (by omega)
        have hc := hbyte (0x80 + n / 0x40 % 0x40) (by omega)
        have hd := hbyte (0x80 + n % 0x40) (by omega)
        rw [if_neg h3]
        simp only [List.cons_append, List.nil_append, readUtf8, readTail, ha,
          hb, hc, hd]
        rw [if_neg (by omega), if_neg (by omega), if_neg (by omega)]
        exact some_pair_eq (by omega) rest

/-! ## Paired surrogates -/

/-- A code unit that is no half of a pair. -/
def Plain (u : CodeUnit) : Prop := isLead u = false ∧ isTrail u = false

instance (u : CodeUnit) : Decidable (Plain u) :=
  inferInstanceAs (Decidable (_ ∧ _))

/-- Every surrogate stands in a pair. -/
inductive WellPaired : JsString → Prop where
  | nil : WellPaired []
  | unit {u : CodeUnit} {rest : JsString} (hu : Plain u)
      (hrest : WellPaired rest) : WellPaired (u :: rest)
  | pair {u v : CodeUnit} {rest : JsString} (hu : isLead u = true)
      (hv : isTrail v = true) (hrest : WellPaired rest) :
      WellPaired (u :: v :: rest)

theorem WellPaired.append {s t : JsString} (hs : WellPaired s)
    (ht : WellPaired t) : WellPaired (s ++ t) := by
  induction hs with
  | nil => exact ht
  | unit hu _ ih => exact .unit hu ih
  | pair hu hv _ ih => exact .pair hu hv ih

theorem wellPaired_of_plain {s : JsString} (h : ∀ u ∈ s, Plain u) :
    WellPaired s := by
  induction s with
  | nil => exact .nil
  | cons u s ih =>
      exact .unit (h u List.mem_cons_self)
        (ih fun v hv => h v (List.mem_cons_of_mem _ hv))

/-- The code units of a code point. -/
def unitsOf (n : Nat) : JsString :=
  if n < 0x10000 then [Fin.ofNat 65536 n]
  else
    [ Fin.ofNat 65536 (0xD800 + (n - 0x10000) / 0x400)
    , Fin.ofNat 65536 (0xDC00 + (n - 0x10000) % 0x400) ]

theorem codePoints_unit {u : CodeUnit} (hu : Plain u) (rest : JsString) :
    codePoints (u :: rest) = u.val :: codePoints rest := by
  cases rest with
  | nil => simp [codePoints, hu.1, hu.2]
  | cons v rest => simp [codePoints, hu.1, hu.2]

theorem codePoints_pair {u v : CodeUnit} (hu : isLead u = true)
    (hv : isTrail v = true) (rest : JsString) :
    codePoints (u :: v :: rest) =
      (0x10000 + (u.val - 0xD800) * 0x400 + (v.val - 0xDC00)) ::
        codePoints rest := by
  simp [codePoints, hu, hv]

theorem unitsOf_pair {u v : CodeUnit} (hu : isLead u = true)
    (hv : isTrail v = true) :
    unitsOf (0x10000 + (u.val - 0xD800) * 0x400 + (v.val - 0xDC00)) =
      [u, v] := by
  simp only [isLead, isTrail, decide_eq_true_eq] at hu hv
  rw [unitsOf, if_neg (by omega)]
  have hlead : Fin.ofNat 65536 (0xD800 + (0x10000 + (u.val - 0xD800) * 0x400
      + (v.val - 0xDC00) - 0x10000) / 0x400) = u := by
    apply Fin.ext
    rw [Fin.val_ofNat, Nat.mod_eq_of_lt (by omega)]
    omega
  have htrail : Fin.ofNat 65536 (0xDC00 + (0x10000 + (u.val - 0xD800) * 0x400
      + (v.val - 0xDC00) - 0x10000) % 0x400) = v := by
    apply Fin.ext
    rw [Fin.val_ofNat, Nat.mod_eq_of_lt (by omega)]
    omega
  rw [hlead, htrail]

/-- Nothing is lost between code units and code points. -/
theorem WellPaired.flatMap_unitsOf {s : JsString} (h : WellPaired s) :
    (codePoints s).flatMap unitsOf = s := by
  induction h with
  | nil => rfl
  | @unit u rest hu _ ih =>
      have hself : unitsOf u.val = [u] := by
        rw [unitsOf, if_pos u.isLt, Fin.ofNat_val_eq_self]
      rw [codePoints_unit hu, List.flatMap_cons, ih, hself]
      rfl
  | pair hu hv _ ih =>
      rw [codePoints_pair hu hv, List.flatMap_cons, ih, unitsOf_pair hu hv]
      rfl

theorem WellPaired.codePoints_lt {s : JsString} (h : WellPaired s) :
    ∀ n ∈ codePoints s, n < 0x110000 := by
  induction h with
  | nil => simp [codePoints]
  | @unit u rest hu _ ih =>
      rw [codePoints_unit hu]
      intro n hn
      rcases List.mem_cons.mp hn with rfl | hn
      · have hlt := u.isLt
        omega
      · exact ih n hn
  | @pair u v rest hu hv _ ih =>
      rw [codePoints_pair hu hv]
      simp only [isLead, isTrail, decide_eq_true_eq] at hu hv
      intro n hn
      rw [List.mem_cons] at hn
      cases hn with
      | inl heq => omega
      | inr hrest => exact ih n hrest

/-- **`TextEncoder` is injective on strings of paired surrogates.** -/
theorem textEncode_injective {s t : JsString} (hs : WellPaired s)
    (ht : WellPaired t) (h : textEncode s = textEncode t) : s = t := by
  have hpoints : codePoints s = codePoints t :=
    flatMap_injective_of_read (fun _ hn rest => readUtf8_utf8 hn rest) rfl
      hs.codePoints_lt ht.codePoints_lt h
  rw [← hs.flatMap_unitsOf, hpoints, ht.flatMap_unitsOf]

/-! ## JSON texts -/

private theorem plain_digitChar : ∀ d < 16, Plain (unit (Nat.digitChar d)) := by
  decide

private theorem plain_fourHex (u : CodeUnit) : ∀ v ∈ fourHex u.val, Plain v := by
  have hlt := u.isLt
  intro v hv
  simp only [fourHex, ofText, List.map_cons, List.map_nil, List.mem_cons,
    List.not_mem_nil, or_false] at hv
  rcases hv with rfl | rfl | rfl | rfl
  all_goals exact plain_digitChar _ (by omega)

/-- No text of a single code unit holds a surrogate. -/
theorem plain_escapeUnit (u : CodeUnit) : ∀ v ∈ escapeUnit u, Plain v := by
  have hescape : ∀ c, Plain (unit c) →
      ∀ v ∈ ([unit '\\', unit c] : JsString), Plain v := by
    intro c hc v hv
    simp only [List.mem_cons, List.not_mem_nil, or_false] at hv
    rcases hv with rfl | rfl
    · decide
    · exact hc
  unfold escapeUnit
  split_ifs with h1 h2 h3 h4 h5 h6 h7 h8
  · exact hescape '"' (by decide)
  · exact hescape '\\' (by decide)
  · exact hescape 'b' (by decide)
  · exact hescape 't' (by decide)
  · exact hescape 'n' (by decide)
  · exact hescape 'f' (by decide)
  · exact hescape 'r' (by decide)
  · intro v hv
    rcases List.mem_append.mp hv with hv | hv
    · exact hescape 'u' (by decide) v hv
    · exact plain_fourHex u v hv
  · intro v hv
    rw [List.mem_singleton] at hv
    subst hv
    simp only [not_or, Bool.not_eq_true] at h8
    exact h8.2

theorem wellPaired_escapedUnits : ∀ s : JsString,
    WellPaired (escapedUnits s).flatten
  | [] => .nil
  | [u] => by
      rw [escapedUnits, List.flatten_cons, List.flatten_nil, List.append_nil]
      exact wellPaired_of_plain (plain_escapeUnit u)
  | u :: v :: rest => by
      rw [escapedUnits]
      split_ifs with hpair
      · rw [Bool.and_eq_true] at hpair
        exact .pair hpair.1 hpair.2 (wellPaired_escapedUnits rest)
      · rw [List.flatten_cons]
        exact (wellPaired_of_plain (plain_escapeUnit u)).append
          (wellPaired_escapedUnits (v :: rest))

theorem wellPaired_stringify (s : JsString) : WellPaired (stringify s) := by
  rw [stringify]
  apply WellPaired.unit (by decide)
  exact (wellPaired_escapedUnits s).append (.unit (by decide) .nil)

/-- A surrogate is no character, so none of a number. -/
private theorem plain_of_numberChar {u : CodeUnit}
    (h : isNumberChar (CodeUnit.toChar u) = true) : Plain u := by
  by_contra hplain
  have hnone : ¬ u.val.isValidChar := by
    intro hvalid
    apply hplain
    simp only [Plain, isLead, isTrail, decide_eq_false_iff_not]
    unfold Nat.isValidChar at hvalid
    omega
  rw [CodeUnit.toChar, Char.ofNat, dif_neg hnone] at h
  exact absurd h (by decide)

section Texts

variable {F : Type} (num : Numerals F)

theorem wellPaired_tokenText (t : Token (JsNumber F) JsString) :
    WellPaired ((spelling num).tokenText t) := by
  have hascii : ∀ word : Text, (word.all fun c => decide (Plain (unit c))) →
      WellPaired (word.map unit) := by
    intro word hword
    apply wellPaired_of_plain
    rw [List.forall_mem_map]
    intro c hc
    exact of_decide_eq_true (List.all_eq_true.mp hword c hc)
  cases t with
  | lbrace => exact hascii ['{'] (by decide)
  | rbrace => exact hascii ['}'] (by decide)
  | lbrack => exact hascii ['['] (by decide)
  | rbrack => exact hascii [']'] (by decide)
  | comma => exact hascii [','] (by decide)
  | colon => exact hascii [':'] (by decide)
  | null => exact hascii ['n', 'u', 'l', 'l'] (by decide)
  | bool b =>
      cases b with
      | true => exact hascii ['t', 'r', 'u', 'e'] (by decide)
      | false => exact hascii ['f', 'a', 'l', 's', 'e'] (by decide)
  | num n =>
      exact wellPaired_of_plain fun u hu =>
        plain_of_numberChar ((spelling num).number_chars n u hu)
  | str s => exact wellPaired_stringify s

theorem jsonText_wellPaired (v : Json (JsNumber F) JsString) :
    WellPaired (jsonText num v) := by
  have htexts : ∀ ts : List (Token (JsNumber F) JsString),
      WellPaired ((spelling num).lexicon.textOf ts) := by
    intro ts
    induction ts with
    | nil => exact .nil
    | cons t ts ih => exact (wellPaired_tokenText num t).append ih
  exact htexts (tokens v)

end Texts

end RenderEngine.Ports.TextEncoding
