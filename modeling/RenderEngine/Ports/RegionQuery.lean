import Mathlib.Data.List.Perm.Subperm
import RenderEngine.Ports.PostgresClient
import RenderEngine.Ports.SeedWriter
import RenderEngine.Ports.ViewportCells
import RenderEngine.Verified.RowQueries

/-!
# `query_cells_in_region` (`mobydb-client/src/postgres.rs`)

The region read and the point read choose the state of a cell by different
queries: pinned to an epoch by a filter on it, and otherwise by `DISTINCT ON`
against `ORDER BY epoch_id DESC LIMIT 1`.  They return the same states.

A query without `ORDER BY` returns its rows in table order here.  Postgres
leaves that order open: the results below do not depend on it.

## Main results

* `mem_selectRegion_iff`: the rows of the region read are those of the point
  reads of its cells.
* `queryCellsInRegion_spec`: the call refuses a list longer than the limit and
  otherwise returns each state once.
-/

namespace RenderEngine.Ports.RegionQuery

open RenderEngine.Ports.CoreTypes
open RenderEngine.Ports.Schema
open RenderEngine.Ports.PostgresClient
open RenderEngine.Ports.SeedWriter
open RenderEngine.Ports.ViewportCells
open RenderEngine.Verified.KeyedRows
open RenderEngine.Verified.RowQueries

section Region

variable {N : Type}

/-- `WHERE tenant_id = $1 AND h3_cell = ANY($2) AND epoch_id = $3`, in the order
in which the statement comes upon the rows. -/
def selectRegionAt (db : Database N) (tenant : TenantId) (cellIds : List Int)
    (epoch : EpochId) : List (CellStateRow N) :=
  db.cellStates.filter fun r =>
    r.tenantId = tenant ∧ r.h3Cell ∈ cellIds ∧ r.epochId = epoch.val

/-- `SELECT DISTINCT ON (h3_cell) .. WHERE tenant_id = $1 AND h3_cell = ANY($2)
ORDER BY h3_cell, epoch_id DESC`. -/
def selectRegionLatest (db : Database N) (tenant : TenantId)
    (cellIds : List Int) : List (CellStateRow N) :=
  distinctOn CellStateRow.h3Cell
    ((db.cellStates.filter fun r => r.tenantId = tenant ∧ r.h3Cell ∈ cellIds)
      |>.insertionSort (NewestFirst CellStateRow.h3Cell CellStateRow.epochId))

/-- The rows of either query. -/
def selectRegion (db : Database N) (tenant : TenantId) (cellIds : List Int) :
    Option EpochId → List (CellStateRow N)
  | some e => selectRegionAt db tenant cellIds e
  | none => selectRegionLatest db tenant cellIds

/-- `query_cells_in_region`. -/
def queryCellsInRegion {F Cell Point : Type} (f64 : F64 F)
    (h3o : H3o F Cell Point) (db : Database N) (tenant : TenantId)
    (viewport : Viewport F) (epoch : Option EpochId) (limit : Nat) :
    Outcome (List (CellState N)) := do
  let cells ← viewportToCells f64 h3o viewport
  if cells.length > limit then
    throw (.core (.viewportTooLarge cells.length limit))
  if cells.isEmpty then
    return []
  let cellIds := cells.map H3Cell.asI64
  (selectRegion db tenant cellIds epoch).mapM decodeCellState

/-! ## The two reads choose the same rows -/

/-- Within one tenant and cell the epoch tells rows apart. -/
theorem eq_of_epochId {db : Database N} {tenant : TenantId}
    {a b : CellStateRow N} (ha : a ∈ db.cellStates) (hb : b ∈ db.cellStates)
    (hta : a.tenantId = tenant) (htb : b.tenantId = tenant)
    (hcell : a.h3Cell = b.h3Cell) (hepoch : a.epochId = b.epochId) : a = b :=
  List.inj_on_of_nodup_map db.cellStates_pkey ha hb (by
    simp [CellStateRow.key, hta, htb, hcell, hepoch])

/-- The row is the tenant's newest one of its cell. -/
abbrev LatestOfCell (db : Database N) (tenant : TenantId) (cellId : Int)
    (r : CellStateRow N) : Prop :=
  IsNewest CellStateRow.epochId
    (fun r => r.tenantId = tenant ∧ r.h3Cell = cellId) db.cellStates r

theorem selectLatestCell_eq_some_iff (db : Database N) (tenant : TenantId)
    (h3 : H3Cell) (r : CellStateRow N) :
    selectLatestCell db tenant h3 = some r ↔
      LatestOfCell db tenant h3.asI64 r := by
  have hiff : selectLatestCell db tenant h3 = some r ↔
      IsNewest CellStateRow.epochId
        (fun r => decide (r.tenantId = tenant ∧ r.h3Cell = h3.asI64) = true)
        db.cellStates r := by
    apply head?_scan_eq_some_iff
    intro a ha b hb hpa hpb hcol
    rw [decide_eq_true_eq] at hpa hpb
    exact eq_of_epochId ha hb hpa.1 hpb.1 (hpa.2.trans hpb.2.symm) hcol
  simpa only [decide_eq_true_eq] using hiff

theorem mem_selectRegionLatest_iff (db : Database N) (tenant : TenantId)
    (cellIds : List Int) (r : CellStateRow N) :
    r ∈ selectRegionLatest db tenant cellIds ↔
      r.h3Cell ∈ cellIds ∧ LatestOfCell db tenant r.h3Cell r := by
  have hmem : ∀ a, a ∈ (db.cellStates.filter fun r =>
      r.tenantId = tenant ∧ r.h3Cell ∈ cellIds) ↔
      a ∈ db.cellStates ∧ a.tenantId = tenant ∧ a.h3Cell ∈ cellIds := by
    intro a
    rw [List.mem_filter, decide_eq_true_eq]
  rw [selectRegionLatest, mem_distinctOn_sort_iff (by
    intro a ha b hb hkey hcol
    have ha' := (hmem a).mp ha
    have hb' := (hmem b).mp hb
    exact eq_of_epochId ha'.1 hb'.1 ha'.2.1 hb'.2.1 hkey hcol)]
  constructor
  · intro h
    have hr := (hmem r).mp h.mem
    refine ⟨hr.2.2, hr.1, ⟨hr.2.1, rfl⟩, ?_⟩
    intro r' hr' hp
    exact h.newest r' ((hmem r').mpr ⟨hr', hp.1, hp.2 ▸ hr.2.2⟩) hp.2
  · rintro ⟨hin, h⟩
    refine ⟨(hmem r).mpr ⟨h.mem, h.selected.1, hin⟩, rfl, ?_⟩
    intro r' hr' hkey
    have hr := (hmem r').mp hr'
    exact h.newest r' hr.1 ⟨hr.2.1, hkey⟩

/-- **The rows of a region are the point reads of its cells.** -/
theorem mem_selectRegion_iff (db : Database N) (tenant : TenantId)
    (cells : List H3Cell) (epoch : Option EpochId) (r : CellStateRow N) :
    r ∈ selectRegion db tenant (cells.map H3Cell.asI64) epoch ↔
      ∃ h3 ∈ cells, selectPoint db tenant h3 epoch = some r := by
  cases epoch with
  | none =>
      show r ∈ selectRegionLatest _ _ _ ↔
        ∃ h3 ∈ cells, selectLatestCell _ _ _ = _
      rw [mem_selectRegionLatest_iff]
      simp only [selectLatestCell_eq_some_iff, List.mem_map]
      constructor
      · rintro ⟨⟨h3, hmem, hcell⟩, h⟩
        exact ⟨h3, hmem, hcell ▸ h⟩
      · rintro ⟨h3, hmem, h⟩
        have hcell : r.h3Cell = h3.asI64 := h.selected.2
        exact ⟨⟨h3, hmem, hcell.symm⟩, hcell ▸ h⟩
  | some e =>
      show r ∈ selectRegionAt _ _ _ _ ↔ ∃ h3 ∈ cells, selectCell _ _ _ _ = _
      simp only [selectRegionAt, List.mem_filter, decide_eq_true_eq, selectCell,
        findKey_eq_some_iff db.cellStates_pkey, CellStateRow.key,
        Prod.mk.injEq, List.mem_map]
      constructor
      · rintro ⟨hr, ht, ⟨h3, hmem, hcell⟩, hepoch⟩
        exact ⟨h3, hmem, hr, ht, hcell.symm, hepoch⟩
      · rintro ⟨h3, hmem, hr, ht, hcell, hepoch⟩
        exact ⟨hr, ht, ⟨h3, hmem, hcell.symm⟩, hepoch⟩

/-- No cell occurs twice. -/
theorem selectRegion_nodup (db : Database N) (tenant : TenantId)
    (cellIds : List Int) (epoch : Option EpochId) :
    ((selectRegion db tenant cellIds epoch).map CellStateRow.h3Cell).Nodup := by
  cases epoch with
  | none => exact distinctOn_nodup CellStateRow.h3Cell _
  | some e =>
      show ((selectRegionAt db tenant cellIds e).map _).Nodup
      have hrows : (selectRegionAt db tenant cellIds e).Nodup :=
        List.filter_sublist.nodup (List.Nodup.of_map _ db.cellStates_pkey)
      apply List.Nodup.map_on _ hrows
      intro a ha b hb hcell
      rw [selectRegionAt, List.mem_filter, decide_eq_true_eq] at ha hb
      exact eq_of_epochId ha.1 hb.1 ha.2.1 hb.2.1 hcell
        (ha.2.2.2.trans hb.2.2.2.symm)

theorem selectPoint_h3Cell {db : Database N} {tenant : TenantId} {h3 : H3Cell}
    {epoch : Option EpochId} {r : CellStateRow N}
    (h : selectPoint db tenant h3 epoch = some r) : r.h3Cell = h3.asI64 := by
  cases epoch with
  | none => exact ((selectLatestCell_eq_some_iff db tenant h3 r).mp h).selected.2
  | some e =>
      have hkey := ((findKey_eq_some_iff db.cellStates_pkey _ r).mp h).2
      exact (Prod.mk.inj (Prod.mk.inj hkey).2).1

/-! ## The call -/

/-- A list that holds each point-read state of the cells once. -/
structure RegionOf (db : Database N) (tenant : TenantId)
    (cells : List H3Cell) (epoch : Option EpochId)
    (states : List (CellState N)) : Prop where
  mem_iff : ∀ s, s ∈ states ↔
    ∃ h3 ∈ cells, getCellState db tenant h3 epoch = .ok (some s)
  once : (states.map CellState.h3Cell).Nodup

theorem regionOf_selectRegion (db : Database N) (tenant : TenantId)
    (cells : List H3Cell) (epoch : Option EpochId) :
    RegionOf db tenant cells epoch
      ((selectRegion db tenant (cells.map H3Cell.asI64) epoch).map
        cellStateOf) where
  mem_iff := by
    intro s
    simp only [List.mem_map, mem_selectRegion_iff, getCellState_eq,
      Except.ok.injEq, Option.map_eq_some_iff]
    constructor
    · rintro ⟨r, ⟨h3, hmem, hpoint⟩, hs⟩
      exact ⟨h3, hmem, r, hpoint, hs⟩
    · rintro ⟨h3, hmem, r, hpoint, hs⟩
      exact ⟨r, ⟨h3, hmem, hpoint⟩, hs⟩
  once := by
    have hcells : (selectRegion db tenant (cells.map H3Cell.asI64) epoch).map
        (H3Cell.asI64 ∘ CellState.h3Cell ∘ cellStateOf) =
        (selectRegion db tenant (cells.map H3Cell.asI64) epoch).map
          CellStateRow.h3Cell := by
      apply List.map_congr_left
      intro r hr
      rcases (mem_selectRegion_iff db tenant cells epoch r).mp hr with
        ⟨h3, -, hpoint⟩
      show (H3Cell.fromI64 r.h3Cell).asI64 = r.h3Cell
      rw [selectPoint_h3Cell hpoint, H3Cell.fromI64_asI64]
    have hnodup := selectRegion_nodup db tenant (cells.map H3Cell.asI64) epoch
    rw [← hcells, ← List.map_map, ← List.map_map] at hnodup
    exact List.Nodup.of_map _ hnodup

/-- As each of its states is one of a cell, there are no more of them. -/
theorem RegionOf.length_le {db : Database N} {tenant : TenantId}
    {cells : List H3Cell} {epoch : Option EpochId}
    {states : List (CellState N)} (h : RegionOf db tenant cells epoch states) :
    states.length ≤ cells.length := by
  have hsub : states.map CellState.h3Cell ⊆ cells := by
    intro c hc
    rcases List.mem_map.mp hc with ⟨s, hs, rfl⟩
    rcases (h.mem_iff s).mp hs with ⟨h3, hmem, hget⟩
    rw [getCellState_eq, Except.ok.injEq, Option.map_eq_some_iff] at hget
    rcases hget with ⟨r, hpoint, rfl⟩
    show H3Cell.fromI64 r.h3Cell ∈ cells
    rwa [selectPoint_h3Cell hpoint, H3Cell.fromI64_asI64]
  have hle := (List.Nodup.subperm h.once hsub).length_le
  rwa [List.length_map] at hle

/-- **Region reads agree with point reads and never truncate.** -/
theorem queryCellsInRegion_spec {F Cell Point : Type} (f64 : F64 F)
    (h3o : H3o F Cell Point) (db : Database N) (tenant : TenantId)
    {viewport : Viewport F} {cells : List H3Cell}
    (hcells : viewportToCells f64 h3o viewport = .ok cells)
    (epoch : Option EpochId) (limit : Nat) :
    ((∃ requested max,
        queryCellsInRegion f64 h3o db tenant viewport epoch limit =
          .error (.core (.viewportTooLarge requested max))) ↔
      limit < cells.length) ∧
    (cells.length ≤ limit →
      ∃ states,
        queryCellsInRegion f64 h3o db tenant viewport epoch limit =
          .ok states ∧
        RegionOf db tenant cells epoch states ∧ states.length ≤ limit) := by
  have hlarge : limit < cells.length →
      queryCellsInRegion f64 h3o db tenant viewport epoch limit =
        .error (.core (.viewportTooLarge cells.length limit)) := by
    intro hlt
    rw [queryCellsInRegion, hcells, Outcome.ok_bind, if_pos hlt]
    rfl
  have hread : cells.length ≤ limit →
      queryCellsInRegion f64 h3o db tenant viewport epoch limit =
        .ok ((selectRegion db tenant (cells.map H3Cell.asI64) epoch).map
          cellStateOf) := by
    intro hle
    have hrows := Outcome.mapM_ok decodeCellState cellStateOf
      (selectRegion db tenant (cells.map H3Cell.asI64) epoch)
      (fun row _ => decodeCellState_ok row)
    rw [queryCellsInRegion, hcells, Outcome.ok_bind, if_neg (by omega)]
    cases cells with
    | nil =>
        have hnone : selectRegion db tenant ([].map H3Cell.asI64) epoch = [] := by
          rw [List.eq_nil_iff_forall_not_mem]
          intro r hr
          rcases (mem_selectRegion_iff db tenant [] epoch r).mp hr with
            ⟨h3, hmem, -⟩
          cases hmem
        rw [hnone]
        rfl
    | cons c cells => exact hrows
  refine ⟨⟨?_, fun hlt => ⟨_, _, hlarge hlt⟩⟩, ?_⟩
  · rintro ⟨requested, max, herror⟩
    by_contra hle
    rw [hread (by omega)] at herror
    cases herror
  · intro hle
    have hregion := regionOf_selectRegion db tenant cells epoch
    exact ⟨_, hread hle, hregion, hregion.length_le.trans hle⟩

end Region

/-! ## A small instance -/

/-- Whole numbers for `f64`. -/
def wholeF64 : F64 Int where
  lit := Rat.floor
  add := (· + ·)
  sub := (· - ·)
  mul := (· * ·)
  div := (· / ·)
  max := max
  abs := fun x => x.natAbs
  toRadians := id
  cos := fun _ => 1
  sqrt := id
  ceil := id
  asU32 := BitVec.ofInt 32

/-- Cells of resolution 0, each its own only child at that resolution. -/
def baseCellH3o : H3o Int (BitVec 64) Unit where
  cellTryFrom := .ok
  toU64 := id
  resolution := fun _ => 0
  children := fun c _ => [c]
  latLng := fun _ _ => .ok ()
  toCell := fun _ _ => 0x8001fffffffffff
  gridDisk := fun c _ => [c]

/-- The same with three cells to a parent. -/
def threeChildrenH3o : H3o Int (BitVec 64) Unit :=
  { baseCellH3o with children := fun c _ => [c, c + 1, c + 2] }

/-- Three candidates, the first and the last of them stored. -/
def candidates : List H3Cell :=
  [⟨0x8001fffffffffff⟩, ⟨0x800200000000000⟩, ⟨0x800200000000001⟩]

theorem queryCellsInRegion_spec_candidates :
    ∃ db root,
      writeEpoch checksumLibraries checksumPair
        (Database.migrated Int [ciTenant])
        ⟨ciTenant, 0, epochSealedAt 0, none,
          [bareSubstation "a" 0x8001fffffffffff,
            bareSubstation "b" 0x800200000000001], 0⟩ = .ok (db, root) ∧
      (∃ requested max,
        queryCellsInRegion wholeF64 threeChildrenH3o db ciTenant
          (.parentCell ⟨0x8001fffffffffff⟩ 0) none 2 =
          .error (.core (.viewportTooLarge requested max))) ∧
      ∃ states,
        queryCellsInRegion wholeF64 threeChildrenH3o db ciTenant
          (.parentCell ⟨0x8001fffffffffff⟩ 0) none 3 = .ok states ∧
        RegionOf db ciTenant candidates none states ∧ states.length ≤ 3 := by
  rcases writeEpoch_ok checksumLibraries checksumPair
    (Database.migrated Int [ciTenant])
    ⟨ciTenant, 0, epochSealedAt 0, none,
      [bareSubstation "a" 0x8001fffffffffff,
        bareSubstation "b" 0x800200000000001], 0⟩
    List.mem_cons_self with ⟨db, root, hcommit⟩
  have hcells : viewportToCells wholeF64 threeChildrenH3o
      (.parentCell ⟨0x8001fffffffffff⟩ 0) = .ok candidates := rfl
  have hspec := queryCellsInRegion_spec wholeF64 threeChildrenH3o db ciTenant
    hcells none
  exact ⟨db, root, hcommit, (hspec 2).1.mpr (by decide),
    (hspec 3).2 (by decide)⟩

end RenderEngine.Ports.RegionQuery
