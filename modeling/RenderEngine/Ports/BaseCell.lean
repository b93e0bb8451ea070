import RenderEngine.Ports.HexDecode

/-!
# The base cell of an index (`isEuCell`, `compliance_overlay.js`)

The compliance overlay asks `h3-js` for the base cell of an index and decodes
it by itself where the library is not loaded.  An index is written without its
leading zero, in 15 digits, so the eight digits that the fallback reads are
bits 28 to 59 and not bits 32 to 63: what it takes for bits 45 to 51 are bits
41 to 47.

## Main results

* `fallbackBase_eq`: the bits the fallback reads.
* `isEuCell_fallback_iff`: the indices where it finds the base cell, and those
  where it answers as the library.
-/

namespace RenderEngine.Ports.BaseCell

open RenderEngine.Ports.JavaScript
open RenderEngine.Ports.HexDecode
open RenderEngine.Verified.Numerals

/-- `IT_BASE_CELLS`. -/
def itBaseCells : List Nat := [14, 15]

/-- `ToUint32`. -/
def toUint32 : Option Int → BitVec 32
  | some i => BitVec.ofInt 32 i
  | none => 0

/-- `base` of the fallback, which throws for no string. -/
def fallbackBase (h3 : JsString) : Nat :=
  let hi := parseIntHex (slice h3 0 8)
  (toUint32 hi >>> 13 &&& 0x7F).toNat

/-- `isEuCell`.  `h3lib` is `getBaseCellNumber`, where it is loaded. -/
def isEuCell {F : Type} (h3lib : Option (JsString → Throws Nat)) :
    JsValue F → Bool
  | .string h3 =>
      if h3 = [] then false
      else match h3lib.map (fun getBaseCellNumber => getBaseCellNumber h3) with
        | some (Except.ok base) => itBaseCells.contains base
        -- not loaded, or it threw
        | _ => itBaseCells.contains (fallbackBase h3)
  | _ => false

/-! ## The digits of an index -/

/-- An index is 15 digits. -/
structure Index (h3 : JsString) : Prop where
  length : h3.length = 15
  digits : AllDigits 16 hexValue h3

/-- Bits 45 to 51. -/
def baseCell (h3 : JsString) : Nat := value 16 hexValue h3 / 2 ^ 45 % 2 ^ 7

/-- The digit at a place. -/
def digitAt (h3 : JsString) (k : Nat) : Nat := (h3[k]?.bind hexValue).getD 0

theorem Index.digitAt_eq {h3 : JsString} (h : Index h3) {k : Nat}
    (hk : k < 15) :
    digitAt h3 k = value 16 hexValue h3 / 16 ^ (14 - k) % 16 := by
  have hlt : k < h3.length := h.length ▸ hk
  have hplace : h3.length - (k + 1) = 14 - k := by
    rw [h.length]
    omega
  rw [← hplace, value_digit h.digits hlt, digitAt,
    List.getElem?_eq_getElem hlt]
  rfl

theorem Index.digitAt_lt {h3 : JsString} (h : Index h3) {k : Nat}
    (hk : k < 15) : digitAt h3 k < 16 := by
  rw [h.digitAt_eq hk]
  exact Nat.mod_lt _ (by decide)

theorem Index.baseCell_eq {h3 : JsString} (h : Index h3) :
    baseCell h3 = digitAt h3 2 * 8 + digitAt h3 3 / 2 := by
  rw [h.digitAt_eq (by decide), h.digitAt_eq (by decide), baseCell]
  omega

/-- **The fallback reads bits 41 to 47.** -/
theorem Index.fallbackBase_eq {h3 : JsString} (h : Index h3) :
    fallbackBase h3 = value 16 hexValue h3 / 2 ^ 41 % 2 ^ 7 := by
  have hhead : AllDigits 16 hexValue (h3.take 8) :=
    fun u hu => h.digits u (List.mem_of_mem_take hu)
  have hlen : (h3.take 8).length = 8 := by
    rw [List.length_take, h.length]
    rfl
  have hne : h3.take 8 ≠ [] := by
    rw [← List.length_pos_iff, hlen]
    decide
  have hlt := value_lt hhead
  have htake := value_take h.digits 8
  rw [hlen] at hlt
  rw [h.length] at htake
  have hslice : slice h3 0 8 = h3.take 8 := rfl
  rw [fallbackBase, hslice, parseIntHex_of_digits hne hhead, toUint32]
  have hword : BitVec.ofInt 32 (value 16 hexValue (h3.take 8) : Int) =
      BitVec.ofNat 32 (value 16 hexValue (h3.take 8)) := BitVec.ofInt_natCast ..
  have hmask : (0x7F : BitVec 32).toNat = 2 ^ 7 - 1 := rfl
  rw [hword, BitVec.toNat_and, BitVec.toNat_ushiftRight, BitVec.toNat_ofNat,
    Nat.mod_eq_of_lt (by omega), hmask, Nat.and_two_pow_sub_one_eq_mod,
    Nat.shiftRight_eq_div_pow, htake]
  omega

theorem Index.fallbackBase_digits {h3 : JsString} (h : Index h3) :
    fallbackBase h3 = digitAt h3 3 * 8 + digitAt h3 4 / 2 := by
  rw [h.fallbackBase_eq, h.digitAt_eq (by decide), h.digitAt_eq (by decide)]
  omega

/-! ## The two ways to the base cell -/

section

variable (F : Type) (getBaseCellNumber : JsString → Throws Nat)

/-- What the demo relies on of `h3-js`. -/
def ReadsBaseCell : Prop :=
  ∀ h3, Index h3 → getBaseCellNumber h3 = .ok (baseCell h3)

/-- `isEuCell` answers the same with and without the library. -/
def SameAnswer (h3 : JsString) : Prop :=
  isEuCell (some getBaseCellNumber) (.string h3 : JsValue F) =
    isEuCell none (.string h3 : JsValue F)

/-- The fallback finds the base cell, so the answer is the same. -/
def FindsBaseCell (h3 : JsString) : Prop :=
  fallbackBase h3 = baseCell h3 ∧ SameAnswer F getBaseCellNumber h3

/-- The third digit is the fourth, and the fifth as well up to its lowest
bit. -/
def Aligned (h3 : JsString) : Prop :=
  digitAt h3 2 = digitAt h3 3 ∧ digitAt h3 3 / 2 = digitAt h3 4 / 2

/-- From the digit at a place on, the index reads as base cell 14 or 15. -/
def ItalianAt (h3 : JsString) (k : Nat) : Prop :=
  digitAt h3 k = 1 ∧ 12 ≤ digitAt h3 (k + 1)

instance (h3 : JsString) : Decidable (Aligned h3) :=
  inferInstanceAs (Decidable (_ ∧ _))

instance (h3 : JsString) (k : Nat) : Decidable (ItalianAt h3 k) :=
  inferInstanceAs (Decidable (_ ∧ _))

variable {F getBaseCellNumber}

theorem isEuCell_eq {h3 : JsString} (hread : ReadsBaseCell getBaseCellNumber)
    (h : Index h3) :
    isEuCell (some getBaseCellNumber) (.string h3 : JsValue F) =
        itBaseCells.contains (baseCell h3) ∧
      isEuCell none (.string h3 : JsValue F) =
        itBaseCells.contains (fallbackBase h3) := by
  have hne : h3 ≠ [] := by
    rw [← List.length_pos_iff, h.length]
    decide
  simp only [isEuCell, if_neg hne, Option.map_some, Option.map_none,
    hread h3 h, and_self]

theorem contains_iff (n : Nat) :
    itBaseCells.contains n = true ↔ n = 14 ∨ n = 15 := by
  simp [itBaseCells]

/-- **The fallback finds the base cell exactly on aligned indices.**  It
answers as the library exactly where both answer no: the digits of a cell of
Italy do not read as Italy one place on. -/
theorem isEuCell_fallback_iff {h3 : JsString}
    (hread : ReadsBaseCell getBaseCellNumber) (h : Index h3) :
    (FindsBaseCell F getBaseCellNumber h3 ↔ Aligned h3) ∧
    (SameAnswer F getBaseCellNumber h3 ↔
      ¬ ItalianAt h3 2 ∧ ¬ ItalianAt h3 3) := by
  have hthird : digitAt h3 2 < 16 := h.digitAt_lt (by decide)
  have hfourth : digitAt h3 3 < 16 := h.digitAt_lt (by decide)
  have hfifth : digitAt h3 4 < 16 := h.digitAt_lt (by decide)
  have hlib := h.baseCell_eq
  have hown := h.fallbackBase_digits
  obtain ⟨hwith, hwithout⟩ := isEuCell_eq (F := F) hread h
  rw [FindsBaseCell, SameAnswer, hwith, hwithout, Aligned]
  constructor
  · constructor
    · rintro ⟨hbase, -⟩
      omega
    · intro halign
      have hbase : fallbackBase h3 = baseCell h3 := by omega
      exact ⟨hbase, by rw [hbase]⟩
  · rw [Bool.eq_iff_iff, contains_iff, contains_iff]
    show _ ↔ ¬ (digitAt h3 2 = 1 ∧ 12 ≤ digitAt h3 3) ∧
      ¬ (digitAt h3 3 = 1 ∧ 12 ≤ digitAt h3 4)
    omega

/-- A cell of base cell 0. -/
theorem isEuCell_fallback_zero :
    FindsBaseCell Int (fun h3 => .ok (baseCell h3)) (js "85000003fffffff") ∧
      SameAnswer Int (fun h3 => .ok (baseCell h3)) (js "85000003fffffff") := by
  have hindex : Index (js "85000003fffffff") := ⟨by decide, fun u hu => by
    have hall : (js "85000003fffffff").all (fun u => (hexValue u).isSome) =
      true := by decide
    obtain ⟨d, hd⟩ := Option.isSome_iff_exists.mp
      (List.all_eq_true.mp hall u hu)
    exact ⟨d, hexValue_lt hd, hd⟩⟩
  have h := @isEuCell_fallback_iff Int (fun h3 => .ok (baseCell h3)) _
    (fun _ _ => rfl) hindex
  exact ⟨h.1.mpr (by decide), h.2.mpr (by decide)⟩

/-- The cell of Rome in the comment of `isEuCell`. -/
theorem not_findsBaseCell_rome :
    baseCell (js "8b1e8050145bfff") = 15 ∧
      fallbackBase (js "8b1e8050145bfff") = 116 ∧
      isEuCell (some fun h3 => .ok (baseCell h3))
        (.string (js "8b1e8050145bfff") : JsValue Int) = true ∧
      isEuCell none (.string (js "8b1e8050145bfff") : JsValue Int) = false ∧
      ¬ FindsBaseCell Int (fun h3 => .ok (baseCell h3))
        (js "8b1e8050145bfff") := by
  have hlib : baseCell (js "8b1e8050145bfff") = 15 := by decide
  have hown : fallbackBase (js "8b1e8050145bfff") = 116 := by decide
  refine ⟨hlib, hown, by decide, by decide, ?_⟩
  rintro ⟨hbase, -⟩
  rw [hlib, hown] at hbase
  cases hbase

end

end RenderEngine.Ports.BaseCell
