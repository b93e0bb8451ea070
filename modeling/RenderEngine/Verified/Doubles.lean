import Mathlib.Algebra.Order.Field.Basic
import Mathlib.Data.Rat.Floor

/-!
# Rounded arithmetic on doubles

A finite double is the rational it stands for.  An operation rounds its exact
result, and all that is used of the rounding is that it leaves a double alone;
remainders and floors are exact.

## Main results

* `Rounding.floor_div_two`, `rem_two`: halving a natural number below `2 ^ 53`,
  and its parity, are exact.
* `NearestRounding.div_mono`, `abs_sub_mono`: rounding keeps the order of
  quotients and of distances.
-/

namespace RenderEngine.Verified.Doubles

/-- A finite double. -/
def IsDouble (x : ℚ) : Prop :=
  ∃ m e : ℤ, m.natAbs < 2 ^ 53 ∧ -1074 ≤ e ∧ e ≤ 971 ∧ x = m * 2 ^ e

/-- A rounding to doubles. -/
structure Rounding where
  round : ℚ → ℚ
  round_of_isDouble : ∀ x, IsDouble x → round x = x

/-- The rounding that does nothing, right where all results are doubles. -/
def Rounding.exact : Rounding := ⟨id, fun _ _ => rfl⟩

/-- `x / y` -/
def Rounding.div (R : Rounding) (x y : ℚ) : ℚ := R.round (x / y)

/-- `x % y`: the quotient is cut towards zero. -/
def rem (x y : ℚ) : ℚ :=
  x - y * (if 0 ≤ x / y then ⌊x / y⌋ else ⌈x / y⌉)

theorem isDouble_half {n : Nat} (hn : n < 2 ^ 53) : IsDouble ((n : ℚ) / 2) := by
  refine ⟨n, -1, by simpa using hn, by decide, by decide, ?_⟩
  rw [Int.cast_natCast, zpow_neg_one, div_eq_mul_inv]

theorem floor_half (n : Nat) : ⌊(n : ℚ) / 2⌋ = ((n / 2 : Nat) : ℤ) := by
  have h := Rat.floor_natCast_div_natCast n 2
  exact_mod_cast h

/-- Halving rounds to the exact half. -/
theorem Rounding.floor_div_two (R : Rounding) {n : Nat} (hn : n < 2 ^ 53) :
    (⌊R.div n 2⌋ : ℚ) = ((n / 2 : Nat) : ℚ) := by
  rw [div, R.round_of_isDouble _ (isDouble_half hn), floor_half]
  exact Int.cast_natCast _

theorem rem_two (n : Nat) : rem n 2 = ((n % 2 : Nat) : ℚ) := by
  have hdiv : (n : ℚ) = 2 * ((n / 2 : Nat) : ℚ) + ((n % 2 : Nat) : ℚ) := by
    exact_mod_cast (Nat.div_add_mod n 2).symm
  rw [rem, if_pos (by positivity), floor_half, Int.cast_natCast]
  linarith

/-! ## Order -/

/-- A rounding to the nearest double keeps the order, and treats both signs
alike. -/
structure NearestRounding extends Rounding where
  monotone : Monotone round
  odd : ∀ x, round (-x) = -round x

/-- The rounding that does nothing. -/
def NearestRounding.exact : NearestRounding :=
  { Rounding.exact with
    monotone := monotone_id
    odd := fun _ => rfl }

/-- `x - y` -/
def Rounding.sub (R : Rounding) (x y : ℚ) : ℚ := R.round (x - y)

namespace NearestRounding

variable (R : NearestRounding)

theorem round_zero : R.round 0 = 0 := by
  have h := R.odd 0
  rw [neg_zero] at h
  linarith

theorem abs_round (x : ℚ) : |R.round x| = R.round |x| := by
  rcases le_total 0 x with hx | hx
  · have hround := R.monotone hx
    rw [R.round_zero] at hround
    rw [abs_of_nonneg hx, abs_of_nonneg hround]
  · have hround := R.monotone hx
    rw [R.round_zero] at hround
    rw [abs_of_nonpos hx, abs_of_nonpos hround, R.odd]

theorem div_mono {x y z : ℚ} (hz : 0 < z) (h : x ≤ y) :
    R.div x z ≤ R.div y z :=
  R.monotone (div_le_div_of_nonneg_right h hz.le)

theorem abs_sub_mono {x y x' y' : ℚ} (h : |x - y| ≤ |x' - y'|) :
    |R.sub x y| ≤ |R.sub x' y'| := by
  rw [Rounding.sub, Rounding.sub, R.abs_round, R.abs_round]
  exact R.monotone h

end NearestRounding

end RenderEngine.Verified.Doubles
