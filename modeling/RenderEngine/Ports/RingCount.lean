import Mathlib.Algebra.Order.Floor.Ring
import Mathlib.Analysis.Real.Sqrt
import Mathlib.Tactic.FinCases
import RenderEngine.Ports.ViewportCells

/-!
# The ring count of a bounding box (`viewport_to_cells`)

`k = ((diag_km / (edge_km * 2.0)).ceil() as u32) + 1`, over the exact real
numbers.  Only the middle of the box is checked, so its diagonal has no bound:
past `2 ^ 32 - 2` rings the cast saturates at the largest `u32`, and the margin
overflows.

## Main results

* `ringCount_covers_iff`: the boxes whose disk has a radius that covers their
  diagonal.
* `ringsOf_wraps`: on the others an unchecked sum is 0.
-/

namespace RenderEngine.Ports.RingCount

open RenderEngine.Ports.CoreTypes
open RenderEngine.Ports.ViewportCells

/-- `k`. -/
def ringCount {F : Type} (f64 : F64 F) (southWest northEast : LatLng F)
    (res : Resolution) : Outcome (BitVec 32) :=
  addMargin (ringsOf f64 southWest northEast res)

/-- With a valid middle, the cells of a box are those of its disk. -/
theorem viewportToCells_boundingBox {F Cell Point : Type} (f64 : F64 F)
    (h3o : H3o F Cell Point) {southWest northEast : LatLng F}
    {resolution : UInt8} {res : Resolution} {point : Point}
    (hres : Resolution.tryFrom resolution = some res)
    (hmiddle : h3o.latLng
      (f64.div (f64.add southWest.lat northEast.lat) (f64.lit 2))
      (f64.div (f64.add southWest.lng northEast.lng) (f64.lit 2)) = .ok point) :
    viewportToCells f64 h3o (.boundingBox southWest northEast resolution) =
      (ringCount f64 southWest northEast res).map fun k =>
        (h3o.gridDisk (h3o.toCell point res) k).map fun c => ⟨h3o.toU64 c⟩ := by
  simp only [viewportToCells, hres, hmiddle, ringCount, pure_bind]
  cases addMargin (ringsOf f64 southWest northEast res) <;> rfl

/-! ## Exact arithmetic -/

/-- `f64` without rounding.  A cast to `u32` drops the fraction and saturates;
the cosine may be any function. -/
noncomputable def realF64 (toRadians cos : ℝ → ℝ) : F64 ℝ where
  lit := fun q => q
  add := (· + ·)
  sub := (· - ·)
  mul := (· * ·)
  div := (· / ·)
  max := max
  abs := abs
  toRadians := toRadians
  cos := cos
  sqrt := Real.sqrt
  ceil := fun x => ⌈x⌉
  asU32 := fun x => BitVec.ofNat 32 (min ⌊x⌋₊ (2 ^ 32 - 1))

section Exact

variable (toRadians cos : ℝ → ℝ) (southWest northEast : LatLng ℝ)

/-- `dlat_km`. -/
noncomputable def dlatKm : ℝ := |northEast.lat - southWest.lat| * 111

/-- `center_lat.to_radians().cos().max(0.01)`. -/
noncomputable def cosine : ℝ :=
  max (cos (toRadians ((southWest.lat + northEast.lat) / 2))) 0.01

/-- `dlng_km`. -/
noncomputable def dlngKm : ℝ :=
  |northEast.lng - southWest.lng| * 111 * cosine toRadians cos southWest northEast

/-- `diag_km`, squared. -/
noncomputable def diagSq : ℝ :=
  dlatKm southWest northEast ^ 2
    + dlngKm toRadians cos southWest northEast ^ 2

/-- `edge_km`. -/
noncomputable def edgeKm (res : Resolution) : ℝ :=
  avgEdgeKm (realF64 toRadians cos) res

/-- The rings over the diagonal, before they are rounded. -/
noncomputable def exactRings (res : Resolution) : ℝ :=
  √(diagSq toRadians cos southWest northEast)
    / (edgeKm toRadians cos res * 2)

theorem edgeKm_pos (res : Resolution) : 0 < edgeKm toRadians cos res := by
  have hpos : ∀ r : Resolution, 0 < edgesKm[r.val]?.getD 0.0005 := by
    intro r
    fin_cases r <;> norm_num [edgesKm]
  show (0 : ℝ) < ((edgesKm[res.val]?.getD 0.0005 : ℚ) : ℝ)
  exact_mod_cast hpos res

/-- The cast saturates after the rounding up. -/
theorem ringsOf_eq (res : Resolution) :
    ringsOf (realF64 toRadians cos) southWest northEast res =
      BitVec.ofNat 32
        (min ⌈exactRings toRadians cos southWest northEast res⌉₊
          (2 ^ 32 - 1)) := by
  have hrings : exactRings toRadians cos southWest northEast res =
      √(dlatKm southWest northEast * dlatKm southWest northEast
        + dlngKm toRadians cos southWest northEast
          * dlngKm toRadians cos southWest northEast)
        / (edgeKm toRadians cos res * ((2 : ℚ) : ℝ)) := by
    rw [exactRings, diagSq, pow_two, pow_two, Rat.cast_ofNat]
  have hcos : cosine toRadians cos southWest northEast =
      max (cos (toRadians ((southWest.lat + northEast.lat) / ((2 : ℚ) : ℝ))))
        ((0.01 : ℚ) : ℝ) := by
    rw [cosine, Rat.cast_ofNat]
    norm_num
  have hfloor (x : ℝ) : ⌊((⌈x⌉ : Int) : ℝ)⌋₊ = ⌈x⌉₊ := by
    rw [← Int.floor_toNat, Int.floor_intCast, Int.ceil_toNat]
  rw [← hfloor, hrings]
  simp only [dlngKm, hcos, dlatKm]
  have hkm : ((111 : ℚ) : ℝ) = 111 := Rat.cast_ofNat 111
  rw [← hkm]
  rfl

/-- The diagonal takes at most `2 ^ 32 - 2` rings. -/
def Fits (res : Resolution) : Prop :=
  diagSq toRadians cos southWest northEast ≤
    ((2 ^ 32 - 2) * (edgeKm toRadians cos res * 2)) ^ 2

theorem fits_iff (res : Resolution) :
    Fits toRadians cos southWest northEast res ↔
      ⌈exactRings toRadians cos southWest northEast res⌉₊ ≤ 2 ^ 32 - 2 := by
  have hedge := edgeKm_pos toRadians cos res
  have hwidth : 0 < edgeKm toRadians cos res * 2 := by positivity
  have hbound : ((2 ^ 32 - 2 : Nat) : ℝ) = 2 ^ 32 - 2 := by norm_num
  rw [Nat.ceil_le, hbound, exactRings, div_le_iff₀ hwidth, Real.sqrt_le_iff,
    Fits]
  have hnonneg : 0 ≤ (2 ^ 32 - 2) * (edgeKm toRadians cos res * 2) :=
    mul_nonneg (by norm_num) hwidth.le
  exact ⟨fun h => ⟨hnonneg, h⟩, fun h => h.2⟩

/-- The disk has `k` rings, and `k` edges twice over cover the diagonal. -/
def CoversDiagonal (res : Resolution) : Prop :=
  ∃ k, ringCount (realF64 toRadians cos) southWest northEast res = .ok k ∧
    diagSq toRadians cos southWest northEast ≤
      (k.toNat * 2 * edgeKm toRadians cos res) ^ 2

variable {toRadians cos southWest northEast}

theorem ringCount_of_fits {res : Resolution}
    (h : Fits toRadians cos southWest northEast res) :
    ringCount (realF64 toRadians cos) southWest northEast res =
      .ok (BitVec.ofNat 32
        (⌈exactRings toRadians cos southWest northEast res⌉₊ + 1)) := by
  rw [fits_iff] at h
  rw [ringCount, ringsOf_eq, Nat.min_eq_left (by omega), addMargin, if_neg]
  · rw [BitVec.ofNat_add]
    rfl
  · intro hmax
    have hnat := congrArg BitVec.toNat hmax
    rw [BitVec.toNat_ofNat, BitVec.toNat_allOnes] at hnat
    omega

/-- Past the bound the cast saturates. -/
theorem ringsOf_of_not_fits {res : Resolution}
    (h : ¬ Fits toRadians cos southWest northEast res) :
    ringsOf (realF64 toRadians cos) southWest northEast res =
      BitVec.allOnes 32 := by
  rw [fits_iff] at h
  rw [ringsOf_eq, Nat.min_eq_right (by omega)]
  rfl

theorem ringCount_of_not_fits {res : Resolution}
    (h : ¬ Fits toRadians cos southWest northEast res) :
    ringCount (realF64 toRadians cos) southWest northEast res =
      .error .panic := by
  rw [ringCount, ringsOf_of_not_fits h, addMargin, if_pos rfl]
  rfl

/-- Where overflow is not checked, the disk of such a box is its middle. -/
theorem ringsOf_wraps {res : Resolution}
    (h : ¬ Fits toRadians cos southWest northEast res) :
    ringsOf (realF64 toRadians cos) southWest northEast res + 1 = 0 := by
  rw [ringsOf_of_not_fits h]
  rfl

variable (toRadians cos southWest northEast)

theorem coversDiagonal_iff (res : Resolution) :
    CoversDiagonal toRadians cos southWest northEast res ↔
      Fits toRadians cos southWest northEast res := by
  constructor
  · rintro ⟨k, hk, -⟩
    by_contra h
    rw [ringCount_of_not_fits h] at hk
    cases hk
  · intro h
    refine ⟨_, ringCount_of_fits h, ?_⟩
    rw [fits_iff] at h
    have hedge := edgeKm_pos toRadians cos res
    have hdiag : 0 ≤ diagSq toRadians cos southWest northEast := by
      unfold diagSq
      positivity
    set n := ⌈exactRings toRadians cos southWest northEast res⌉₊ with hn
    have hk : (BitVec.ofNat 32 (n + 1)).toNat = n + 1 :=
      Nat.mod_eq_of_lt (by omega)
    have hrings : exactRings toRadians cos southWest northEast res ≤ n :=
      Nat.le_ceil _
    rw [exactRings, div_le_iff₀ (by positivity)] at hrings
    have hlen : √(diagSq toRadians cos southWest northEast) ≤
        (n + 1) * 2 * edgeKm toRadians cos res := by
      calc √(diagSq toRadians cos southWest northEast)
          ≤ n * (edgeKm toRadians cos res * 2) := hrings
        _ ≤ (n + 1) * (edgeKm toRadians cos res * 2) := by gcongr; simp
        _ = _ := by ring
    rw [hk, Nat.cast_add, Nat.cast_one]
    exact (Real.sqrt_le_iff.mp hlen).2

/-- With a valid middle, a box gets a disk that covers its diagonal just when
the diagonal takes at most `2 ^ 32 - 2` rings. -/
theorem ringCount_covers_iff {Cell Point : Type} (h3o : H3o ℝ Cell Point)
    {resolution : UInt8} {res : Resolution} {point : Point}
    (hres : Resolution.tryFrom resolution = some res)
    (hmiddle : h3o.latLng ((southWest.lat + northEast.lat) / ((2 : ℚ) : ℝ))
      ((southWest.lng + northEast.lng) / ((2 : ℚ) : ℝ)) = .ok point) :
    viewportToCells (realF64 toRadians cos) h3o
        (.boundingBox southWest northEast resolution) =
      (ringCount (realF64 toRadians cos) southWest northEast res).map
        (fun k => (h3o.gridDisk (h3o.toCell point res) k).map
          fun c => ⟨h3o.toU64 c⟩) ∧
    (CoversDiagonal toRadians cos southWest northEast res ↔
      Fits toRadians cos southWest northEast res) :=
  ⟨viewportToCells_boundingBox _ h3o hres hmiddle, coversDiagonal_iff ..⟩

end Exact

/-! ## Two boxes around the origin -/

/-- A grid that takes any middle. -/
def openGrid : H3o ℝ Unit Unit where
  cellTryFrom := fun _ => .ok ()
  toU64 := fun _ => 0
  resolution := fun _ => Fin.last 15
  children := fun _ _ => []
  latLng := fun _ _ => .ok ()
  toCell := fun _ _ => ()
  gridDisk := fun _ _ => [()]

/-- A box of one degree. -/
theorem ringCount_covers_degree :
    viewportToCells (realF64 id fun _ => 1) openGrid
        (.boundingBox ⟨0, 0⟩ ⟨1, 0⟩ 15) =
      (ringCount (realF64 id fun _ => 1) ⟨0, 0⟩ ⟨1, 0⟩ 15).map
        (fun _ => [⟨0⟩]) ∧
    CoversDiagonal id (fun _ => 1) ⟨0, 0⟩ ⟨1, 0⟩ 15 := by
  obtain ⟨hcells, hcovers⟩ := @ringCount_covers_iff id (fun _ => 1) ⟨0, 0⟩
    ⟨1, 0⟩ Unit Unit openGrid 15 15 () rfl rfl
  refine ⟨hcells, hcovers.mpr ?_⟩
  have hedge : edgeKm id (fun _ => 1) 15 = ((0.000509 : ℚ) : ℝ) := rfl
  rw [Fits, hedge]
  norm_num [diagSq, dlatKm, dlngKm]

/-- The middle of this box is the origin. -/
theorem not_coversDiagonal_tall :
    (realF64 id fun _ => 1).div ((realF64 id fun _ => 1).add (-40000) 40000)
        ((realF64 id fun _ => 1).lit 2) = 0 ∧
    ringCount (realF64 id fun _ => 1) ⟨-40000, 0⟩ ⟨40000, 0⟩ 15 =
      .error .panic ∧
    ¬ CoversDiagonal id (fun _ => 1) ⟨-40000, 0⟩ ⟨40000, 0⟩ 15 := by
  have hedge : edgeKm id (fun _ => 1) 15 = ((0.000509 : ℚ) : ℝ) := rfl
  have hfits : ¬ Fits id (fun _ => 1) ⟨-40000, 0⟩ ⟨40000, 0⟩ 15 := by
    rw [Fits, hedge]
    norm_num [diagSq, dlatKm, dlngKm]
  refine ⟨?_, ringCount_of_not_fits hfits, fun h => ?_⟩
  · show ((-40000 : ℝ) + 40000) / ((2 : ℚ) : ℝ) = 0
    norm_num
  · exact hfits ((coversDiagonal_iff ..).mp h)

end RenderEngine.Ports.RingCount
