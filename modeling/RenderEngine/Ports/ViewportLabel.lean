import RenderEngine.Ports.ConcurrentReads
import RenderEngine.Ports.RenderTools
import RenderEngine.Verified.Fallible

/-!
# The epoch `render_viewport` reports

The tool reads its cells in one transaction and, when the caller pins no
epoch, the latest epoch in a second one.  Writers that append rows may commit
between the two.  A cell refers to an epoch row that was there when the cell
was read and stays there, so the label read second is at least as new.

## Main results

* `renderViewport_interleaved`: the label of a call against the epochs of its
  cells, whatever is appended between its reads.
-/

namespace RenderEngine.Ports.ViewportLabel

open RenderEngine.Ports.CoreTypes
open RenderEngine.Ports.Schema
open RenderEngine.Ports.Serde
open RenderEngine.Ports.PostgresClient
open RenderEngine.Ports.SeedWriter
open RenderEngine.Ports.ViewportCells
open RenderEngine.Ports.RegionQuery
open RenderEngine.Ports.RenderTools
open RenderEngine.Ports.ConcurrentReads
open RenderEngine.Verified.Fallible
open RenderEngine.Verified.KeyedRows
open RenderEngine.Verified.RowQueries
open RenderEngine.Verified.StepRun

/-! ## Appended rows -/

/-- What an append-only writer commits. -/
inductive Append (N : Type) where
  | epoch (row : EpochRow)
  | cells (rows : List (CellStateRow N))

section Appends

variable {N : Type}

/-- The database after an append; one that breaks a key commits nothing. -/
def appendStep (db : Database N) : Append N → Option (Database N)
  | .epoch row => (db.insertEpoch row).toOption
  | .cells rows => (db.insertCells rows).toOption

theorem appendStep_kept (tenant : TenantId) {db db' : Database N}
    {a : Append N} (h : appendStep db a = some db') :
    Kept tenant db db' := by
  cases a with
  | epoch row =>
      have hcases := insertEpoch_of_ok (toOption_eq_some_iff.mp h)
      refine { epochs := ?_, cells := ?_ }
      · intro r hr _
        rw [hcases.2.1]
        exact List.mem_append_left _ hr
      · intro r hr _
        exact hcases.2.2 ▸ hr
  | cells rows =>
      have hcases := insertCells_of_ok (toOption_eq_some_iff.mp h)
      refine { epochs := ?_, cells := ?_ }
      · intro r hr _
        exact hcases.2.1 ▸ hr
      · intro r hr _
        rw [hcases.2.2]
        exact (prefix_insertAll CellStateRow.key _ _).subset hr

theorem run_append_kept (tenant : TenantId) {db db' : Database N}
    {appends : List (Append N)} (h : run appendStep db appends = some db') :
    Kept tenant db db' :=
  run_rel appendStep (Q := fun _ => True) Kept.refl (fun _ _ _ => Kept.trans)
    (fun _ _ _ _ hstep => appendStep_kept tenant hstep) h (fun _ _ => trivial)

end Appends

/-! ## The two reads -/

section Reads

variable {F Cell Point N : Type} {f64 : F64 F} {h3o : H3o F Cell Point}
variable {tenant : TenantId}

/-- What a point read returns is a row of its tenant, at the pinned epoch. -/
theorem selectPoint_mem {db : Database N} {h3 : H3Cell}
    {epoch : Option EpochId} {row : CellStateRow N}
    (h : selectPoint db tenant h3 epoch = some row) :
    row ∈ db.cellStates ∧ row.tenantId = tenant ∧
      ∀ e, epoch = some e → row.epochId = e.val := by
  cases epoch with
  | none =>
      have hlatest := (selectLatestCell_eq_some_iff db tenant h3 row).mp h
      exact ⟨hlatest.mem, hlatest.selected.1, fun e he => nomatch he⟩
  | some e =>
      have hfound := (findKey_eq_some_iff db.cellStates_pkey _ row).mp h
      have hkey : row.tenantId = tenant ∧ row.h3Cell = h3.asI64 ∧
          row.epochId = e.val := by
        simpa [CellStateRow.key] using hfound.2
      refine ⟨hfound.1, hkey.1, ?_⟩
      rintro e' ⟨⟩
      exact hkey.2.2

/-- Every state a region read returns is that of a row of its tenant, at the
pinned epoch. -/
theorem mem_of_queryCellsInRegion {db : Database N} {viewport : Viewport F}
    {epoch : Option EpochId} {limit : Nat} {states : List (CellState N)}
    (h : RegionQuery.queryCellsInRegion f64 h3o db tenant viewport epoch
      limit = .ok states) {s : CellState N} (hs : s ∈ states) :
    ∃ row ∈ db.cellStates, s = cellStateOf row ∧ row.tenantId = tenant ∧
      ∀ e, epoch = some e → row.epochId = e.val := by
  rw [RegionQuery.queryCellsInRegion, bind_eq_ok] at h
  rcases h with ⟨cells, -, hread⟩
  by_cases hlimit : cells.length > limit
  · rw [if_pos hlimit] at hread
    cases hread
  by_cases hempty : cells.isEmpty = true
  · rw [if_neg hlimit, if_pos hempty] at hread
    cases hread
    cases hs
  · rw [if_neg hlimit, if_neg hempty,
      Outcome.mapM_ok decodeCellState cellStateOf _
        (fun row _ => decodeCellState_ok row), Except.ok.injEq] at hread
    rw [← hread, List.mem_map] at hs
    rcases hs with ⟨row, hrow, rfl⟩
    rcases (mem_selectRegion_iff db tenant cells epoch row).mp hrow with
      ⟨h3, -, hpoint⟩
    have hmem := selectPoint_mem hpoint
    exact ⟨row, hmem.1, rfl, hmem.2.1, hmem.2.2⟩

/-- No epoch of the tenant is newer than the latest one. -/
theorem le_latestEpoch {db : Database N} {latest : Epoch}
    (h : latestEpoch db tenant = .ok latest) {row : EpochRow}
    (hrow : row ∈ db.epochs) (htenant : row.tenantId = tenant) :
    row.epochId ≤ latest.epochId.val := by
  unfold latestEpoch at h
  cases hselect : selectLatestEpoch db tenant with
  | none =>
      rw [hselect] at h
      cases h
  | some newest =>
      simp only [hselect, decodeEpoch_ok, Except.ok.injEq] at h
      rw [← h]
      exact (isNewest_of_head?_scan hselect).newest row hrow
        (decide_eq_true htenant)

/-- A cell of the first read has no newer epoch than the second one finds. -/
theorem cell_le_latestEpoch {db₁ db₂ : Database N}
    (hkept : Kept tenant db₁ db₂) {latest : Epoch}
    (hlatest : latestEpoch db₂ tenant = .ok latest) {row : CellStateRow N}
    (hrow : row ∈ db₁.cellStates) (htenant : row.tenantId = tenant) :
    row.epochId ≤ latest.epochId.val := by
  rcases List.mem_map.mp (db₁.cellStates_epoch_fkey row hrow) with
    ⟨epochRow, hepoch, hkey⟩
  have hsame : epochRow.tenantId = tenant ∧ epochRow.epochId = row.epochId := by
    simpa [EpochRow.key, CellStateRow.epochKey, htenant] using hkey
  rw [← hsame.2]
  exact le_latestEpoch hlatest (hkept.epochs epochRow hepoch hsame.1) hsame.1

/-- **The label of a viewport is never older than its cells**, whatever is
appended between the two reads of the call. -/
theorem renderViewport_interleaved {db₁ db₂ : Database N}
    {appends : List (Append N)} (hrun : run appendStep db₁ appends = some db₂)
    {input : RenderViewportInput F} {renderMs : F}
    {out : RenderedViewport F N}
    (hout : renderViewportFrom f64 h3o db₁ db₂ tenant input renderMs =
      .ok out) :
    (∀ e, input.epochId = some e →
      out.epochId = e ∧ ∀ c ∈ out.cells, c.epochId = e) ∧
    (input.epochId = none →
      ∀ c ∈ out.cells, c.epochId.val ≤ out.epochId.val) := by
  rw [renderViewportFrom, bind_eq_ok] at hout
  rcases hout with ⟨cells, hcells, hlabel⟩
  have hmem := fun c (hc : c ∈ cells) => mem_of_queryCellsInRegion hcells hc
  cases hepoch : input.epochId with
  | some e =>
      simp only [hepoch, pure_bind] at hlabel
      cases hlabel
      refine ⟨?_, fun hnone => nomatch hnone⟩
      rintro e' ⟨⟩
      refine ⟨rfl, ?_⟩
      intro c hc
      rcases hmem c hc with ⟨row, -, rfl, -, hpinned⟩
      exact congrArg EpochId.mk (hpinned e hepoch)
  | none =>
      simp only [hepoch, pure_bind, bind_eq_ok] at hlabel
      rcases hlabel with ⟨latest, hlatest, hret⟩
      cases hret
      refine ⟨fun e he => (nomatch he), ?_⟩
      intro _ c hc
      rcases hmem c hc with ⟨row, hrow, rfl, htenant, -⟩
      exact cell_le_latestEpoch (run_append_kept tenant hrun) hlatest hrow
        htenant

end Reads

/-! ## An epoch that is appended between the reads -/

/-- An epoch row, and the row of the only cell of epoch 0. -/
def bareEpochRow (epochId : Int) : EpochRow :=
  ⟨ciTenant, epochId, epochSealedAt epochId, HexBytes.zero 32, none, 0⟩

def bareCellRow : CellStateRow Int :=
  ⟨ciTenant, (H3Cell.mk 0x8001fffffffffff).asI64, 0, HexBytes.zero 32,
    Value.null, HexBytes.zero 32, HexBytes.zero 64, epochSealedAt 0⟩

theorem renderViewport_interleaved_new_epoch :
    ∃ db₁ db₂ : Database Int, ∃ out : RenderedViewport Int Int,
      run appendStep db₁ [.epoch (bareEpochRow 1)] = some db₂ ∧
      renderViewportFrom wholeF64 baseCellH3o db₁ db₂ ciTenant
        ⟨.parentCell ⟨0x8001fffffffffff⟩ 0, none, 1⟩ 0 = .ok out ∧
      out.cells = [cellStateOf bareCellRow] ∧ out.epochId = ⟨1⟩ ∧
      ∀ c ∈ out.cells, c.epochId.val ≤ out.epochId.val := by
  rcases insertEpoch_ok (Database.migrated Int [ciTenant]) (bareEpochRow 0)
    (by simp [Database.migrated]) List.mem_cons_self with
    ⟨db₀, -, htenants, hepochs, hcells⟩
  rcases insertCells_ok db₀ [bareCellRow] (by rw [hepochs]; decide) with
    ⟨db₁, -, htenants₁, hepochs₁, hcells₁⟩
  rcases insertEpoch_ok db₁ (bareEpochRow 1)
    (by rw [hepochs₁, hepochs]; decide)
    (by rw [htenants₁, htenants]; exact List.mem_cons_self) with
    ⟨db₂, hinsert, -, hepochs₂, -⟩
  have hrun : run appendStep db₁ [.epoch (bareEpochRow 1)] = some db₂ :=
    toOption_eq_some_iff.mpr hinsert
  have hlatest : latestEpoch db₂ ciTenant = .ok (epochOf (bareEpochRow 1)) := by
    rw [latestEpoch, selectLatestEpoch, hepochs₂, hepochs₁, hepochs]
    exact decodeEpoch_ok (bareEpochRow 1)
  have hread : RegionQuery.queryCellsInRegion wholeF64 baseCellH3o db₁ ciTenant
      (.parentCell ⟨0x8001fffffffffff⟩ 0) none 1 =
        .ok [cellStateOf bareCellRow] := by
    have hrows : selectRegion db₁ ciTenant
        [(H3Cell.mk 0x8001fffffffffff).asI64] none = [bareCellRow] := by
      rw [selectRegion, selectRegionLatest, hcells₁, hcells]
      rfl
    show (selectRegion db₁ ciTenant [(H3Cell.mk 0x8001fffffffffff).asI64]
      none).mapM decodeCellState = _
    rw [hrows]
    exact Outcome.mapM_ok decodeCellState cellStateOf [bareCellRow]
      (fun row _ => decodeCellState_ok row)
  have hout : renderViewportFrom wholeF64 baseCellH3o db₁ db₂ ciTenant
      ⟨.parentCell ⟨0x8001fffffffffff⟩ 0, none, 1⟩ 0 =
        .ok ⟨ciTenant, .parentCell ⟨0x8001fffffffffff⟩ 0, ⟨1⟩, 1,
          [cellStateOf bareCellRow], 0⟩ := by
    rw [renderViewportFrom, hread, Outcome.ok_bind]
    simp only [hlatest, Outcome.ok_bind]
    rfl
  exact ⟨db₁, db₂, _, hrun, hout, rfl, rfl,
    (renderViewport_interleaved hrun hout).2 rfl⟩

end RenderEngine.Ports.ViewportLabel
