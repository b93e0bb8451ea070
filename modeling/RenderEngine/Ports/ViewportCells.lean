import Mathlib.Data.Rat.Defs
import RenderEngine.Ports.CoreTypes

/-!
# `viewport_to_cells` (`mobydb-client/src/postgres.rs`)

The H3 cells of a viewport: the children of a parent cell, or a disk around
the middle of a bounding box.  `h3o` and the operations of `f64` are
parameters.
-/

namespace RenderEngine.Ports.ViewportCells

open RenderEngine.Ports.CoreTypes

/-! ## The types of `types.rs` -/

structure LatLng (F : Type) where
  lat : F
  lng : F

inductive Viewport (F : Type) where
  | parentCell (parent : H3Cell) (targetResolution : UInt8)
  | boundingBox (southWest northEast : LatLng F) (resolution : UInt8)

/-! ## Libraries -/

/-- `f64`. -/
structure F64 (F : Type) where
  /-- a literal, rounded -/
  lit : Rat → F
  add : F → F → F
  sub : F → F → F
  mul : F → F → F
  div : F → F → F
  max : F → F → F
  abs : F → F
  toRadians : F → F
  cos : F → F
  sqrt : F → F
  ceil : F → F
  /-- `as u32`, which saturates -/
  asU32 : F → BitVec 32

/-- `h3o::Resolution`. -/
abbrev Resolution := Fin 16

/-- `Resolution::try_from`. -/
def Resolution.tryFrom (r : UInt8) : Option Resolution :=
  if h : r.toNat < 16 then some ⟨r.toNat, h⟩ else none

/-- `h3o`: `Cell` is a valid cell index, `Point` a valid latitude and
longitude. -/
structure H3o (F Cell Point : Type) where
  cellTryFrom : BitVec 64 → Except Text Cell
  toU64 : Cell → BitVec 64
  resolution : Cell → Resolution
  children : Cell → Resolution → List Cell
  latLng : F → F → Except Text Point
  toCell : Point → Resolution → Cell
  gridDisk : Cell → BitVec 32 → List Cell

section Cells

variable {F Cell Point : Type} (f64 : F64 F) (h3o : H3o F Cell Point)

/-- `EDGES_KM`. -/
def edgesKm : List Rat := [
  1107.712591, 418.676005, 158.244656, 59.810858, 22.606379, 8.544408,
  3.229483, 1.220630, 0.461355, 0.174376, 0.065908, 0.024911, 0.009415,
  0.003560, 0.001349, 0.000509]

/-- `avg_edge_km`. -/
def avgEdgeKm (res : Nat) : F := f64.lit (edgesKm[res]?.getD 0.0005)

/-- `k` before the margin: the rings over the diagonal of the box. -/
def ringsOf (southWest northEast : LatLng F) (res : Resolution) : BitVec 32 :=
  let centerLat := f64.div (f64.add southWest.lat northEast.lat) (f64.lit 2)
  let edgeKm := avgEdgeKm f64 res
  let dlatKm := f64.mul (f64.abs (f64.sub northEast.lat southWest.lat))
    (f64.lit 111)
  let dlngKm := f64.mul
    (f64.mul (f64.abs (f64.sub northEast.lng southWest.lng)) (f64.lit 111))
    (f64.max (f64.cos (f64.toRadians centerLat)) (f64.lit 0.01))
  let diagKm := f64.sqrt
    (f64.add (f64.mul dlatKm dlatKm) (f64.mul dlngKm dlngKm))
  f64.asU32 (f64.ceil (f64.div diagKm (f64.mul edgeKm (f64.lit 2))))

/-- `+ 1` on `u32`, which panics where overflow is checked. -/
def addMargin (k : BitVec 32) : Outcome (BitVec 32) :=
  if k = BitVec.allOnes 32 then throw .panic else pure (k + 1)

/-- `viewport_to_cells`. -/
def viewportToCells : Viewport F → Outcome (List H3Cell)
  | .parentCell parent targetResolution => do
      let res ← match Resolution.tryFrom targetResolution with
        | some res => pure res
        | none => throw (.core (.invalidH3Resolution targetResolution))
      let parentCell ← match h3o.cellTryFrom parent.bits with
        | .ok cell => pure cell
        | .error e => throw (.core (.invalidH3Cell e))
      if h3o.resolution parentCell > res then
        throw (.core (.other ("target_resolution ".toList ++ decimal res
          ++ " is coarser than parent resolution ".toList
          ++ decimal (h3o.resolution parentCell))))
      return (h3o.children parentCell res).map fun c => ⟨h3o.toU64 c⟩
  | .boundingBox southWest northEast resolution => do
      let res ← match Resolution.tryFrom resolution with
        | some res => pure res
        | none => throw (.core (.invalidH3Resolution resolution))
      let centerLat := f64.div (f64.add southWest.lat northEast.lat) (f64.lit 2)
      let centerLng := f64.div (f64.add southWest.lng northEast.lng) (f64.lit 2)
      let center ← match h3o.latLng centerLat centerLng with
        | .ok point => pure (h3o.toCell point res)
        | .error e =>
            throw (.core (.other ("invalid lat/lng: ".toList ++ e)))
      let k ← addMargin (ringsOf f64 southWest northEast res)
      return (h3o.gridDisk center k).map fun c => ⟨h3o.toU64 c⟩

end Cells

end RenderEngine.Ports.ViewportCells
