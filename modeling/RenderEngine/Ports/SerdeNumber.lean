import Mathlib.Data.Rat.Cast.Order
import RenderEngine.Ports.SerdeValue

/-!
# The numbers of `serde_json`

A number is a `u64`, a negative `i64` or a finite `f64`, told apart by how it
is spelled: `5` is a `u64`, `5.0` a double, and so is an integer that fits
into neither of the other two.  An accessor of one kind does not see the
others.  A double is the rational it stands for, `-0` being `0`.

## Main results

* `asI64_eq_some_iff`: `as_i64` reads back what an `i64` is written as.
-/

namespace RenderEngine.Ports.SerdeNumber

open RenderEngine.Ports.CoreTypes
open RenderEngine.Ports.Serde

/-- The value of a finite double. -/
def IsDouble (x : ℚ) : Prop :=
  ∃ m e : Int, m.natAbs < 2 ^ 53 ∧ -1074 ≤ e ∧ e ≤ 971 ∧ x = m * (2 : ℚ) ^ e

abbrev Double := { x : ℚ // IsDouble x }

/-- An integer below 2^53 is a double. -/
def Double.ofNat (n : Nat) (h : n < 2 ^ 53) : Double :=
  ⟨n, n, 0, by simpa using h, by decide, by decide, by simp⟩

/-- An `f64`. -/
inductive F64 where
  | finite (x : Double)
  | infinite (negative : Bool)
  | nan

inductive Number where
  | posInt (n : UInt64)
  | negInt (i : { i : Int64 // i < 0 })
  | float (x : Double)

namespace Number

/-- The number itself, whatever its kind. -/
def real : Number → ℚ
  | posInt n => n.toNat
  | negInt i => i.val.toInt
  | float x => x.val

/-- `From<i64>`. -/
def ofI64 (i : Int64) : Number :=
  if h : i < 0 then negInt ⟨i, h⟩ else posInt i.toUInt64

/-- `as_u64`. -/
def asU64 : Number → Option UInt64
  | posInt n => some n
  | _ => none

/-- `as_i64`. -/
def asI64 : Number → Option Int64
  | posInt n => if n.toNat < 2 ^ 63 then some n.toInt64 else none
  | negInt i => some i.val
  | float _ => none

theorem toInt64_neg_iff (n : UInt64) :
    n.toInt64 < 0 ↔ ¬ n.toNat < 2 ^ 63 := by
  have hint : n.toInt64.toInt = n.toBitVec.toInt := rfl
  have hnat : n.toBitVec.toNat = n.toNat := rfl
  have hlt := n.toNat_lt
  rw [Int64.lt_iff_toInt_lt, hint, BitVec.toInt_eq_toNat_cond, hnat]
  show _ < (0 : Int) ↔ _
  split_ifs with h
  · omega
  · omega

theorem asI64_ofI64 (i : Int64) : (ofI64 i).asI64 = some i := by
  unfold ofI64
  by_cases hneg : i < 0
  · rw [dif_pos hneg, asI64]
  · have hpos : i.toUInt64.toNat < 2 ^ 63 := by
      by_contra hlarge
      exact hneg ((toInt64_neg_iff i.toUInt64).mpr hlarge)
    rw [dif_neg hneg, asI64, if_pos hpos, Int64.toInt64_toUInt64]

/-- **`as_i64` reads back what an `i64` is written as.** -/
theorem asI64_eq_some_iff {n : Number} {i : Int64} :
    n.asI64 = some i ↔ n = ofI64 i := by
  constructor
  · intro h
    cases n with
    | posInt n =>
        rw [asI64] at h
        by_cases hsmall : n.toNat < 2 ^ 63
        · rw [if_pos hsmall] at h
          have hi : n.toInt64 = i := Option.some.inj h
          have hneg : ¬ i < 0 := by
            rw [← hi, toInt64_neg_iff]
            exact not_not_intro hsmall
          rw [ofI64, dif_neg hneg, ← hi, UInt64.toUInt64_toInt64]
        · rw [if_neg hsmall] at h
          cases h
    | negInt j =>
        have hi : j.val = i := Option.some.inj h
        have hneg : i < 0 := hi ▸ j.property
        rw [ofI64, dif_pos hneg]
        exact congrArg negInt (Subtype.ext hi)
    | float x => cases h
  · rintro rfl
    exact asI64_ofI64 i

end Number

/-! ## Values -/

/-- `as_u64`. -/
def asU64 (v : Value Number) : Option UInt64 :=
  match v.tree with
  | .num n => n.asU64
  | _ => none

/-- `as_i64`. -/
def asI64 (v : Value Number) : Option Int64 :=
  match v.tree with
  | .num n => n.asI64
  | _ => none

/-- `as_bool`. -/
def asBool (v : Value Number) : Option Bool :=
  match v.tree with
  | .bool b => some b
  | _ => none

/-- A number is the only value with this tree. -/
theorem value_eq_number {v : Value Number} {n : Number}
    (h : v.tree = .num n) : v = Value.number n :=
  Value.tree_injective h

theorem asU64_eq_some_iff {v : Value Number} {n : UInt64} :
    asU64 v = some n ↔ v = Value.number (.posInt n) := by
  constructor
  · intro h
    unfold asU64 at h
    split at h
    · next m htree =>
        cases m with
        | posInt m =>
            rw [value_eq_number htree]
            exact congrArg _ (congrArg _ (Option.some.inj h))
        | negInt _ => cases h
        | float _ => cases h
    · cases h
  · rintro rfl
    rfl

theorem asI64_eq_some_iff {v : Value Number} {i : Int64} :
    asI64 v = some i ↔ v = Value.number (.ofI64 i) := by
  constructor
  · intro h
    unfold asI64 at h
    split at h
    · next n htree =>
        rw [value_eq_number htree, Number.asI64_eq_some_iff.mp h]
    · cases h
  · rintro rfl
    exact Number.asI64_ofI64 i

theorem asStr_eq_some_iff {v : Value Number} {s : Text} :
    v.asStr = some s ↔ v = Value.string s := by
  constructor
  · intro h
    unfold Value.asStr at h
    split at h
    · next t htree =>
        rw [← Option.some.inj h]
        exact Value.tree_injective htree
    · cases h
  · rintro rfl
    rfl

/-- `to_value` of an `f64`: what is not finite becomes `null`. -/
def ofF64 : F64 → Value Number
  | .finite x => Value.number (.float x)
  | _ => Value.null

end RenderEngine.Ports.SerdeNumber
