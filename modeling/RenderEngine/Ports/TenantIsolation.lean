import RenderEngine.Ports.ConcurrentReads
import RenderEngine.Ports.RenderTools
import RenderEngine.Verified.Fallible

/-!
# Tenant isolation of the reads

Every statement of the client names the tenant in its `WHERE` clause.  So two
databases that agree on one tenant's rows give that tenant the same answers,
whatever they hold of the others and whether or not row-level security filters
anything.  The list of a table is the order in which a statement comes upon its
rows; Postgres does not fix it, and it shows where there is no `ORDER BY` or
where rows tie.

## Main results

* `exists_rearranged`: the same rows of a tenant, in the same order.
* `getProvenanceFrom_alike`: the four statements of a provenance bundle, each
  on its own state.
* `tenant_isolation`: every method of the client and every tool.
-/

namespace RenderEngine.Ports.TenantIsolation

open RenderEngine.Ports.CoreTypes
open RenderEngine.Ports.Serde
open RenderEngine.Ports.Schema
open RenderEngine.Ports.PostgresClient
open RenderEngine.Ports.SeedWriter
open RenderEngine.Ports.ConcurrentReads
open RenderEngine.Ports.RegionQuery
open RenderEngine.Ports.VerifyAttestation
open RenderEngine.Ports.ViewportCells
open RenderEngine.Verified.Fallible
open RenderEngine.Verified.KeyedRows
open RenderEngine.Verified.RowQueries

/-- Two databases hold the same rows of one tenant, in the same order. -/
structure AgreeOn {N : Type} (tenant : TenantId) (db db' : Database N) :
    Prop where
  tenants : db.tenants.filter (fun t => t = tenant) =
    db'.tenants.filter (fun t => t = tenant)
  epochs : db.epochs.filter (fun r => r.tenantId = tenant) =
    db'.epochs.filter (fun r => r.tenantId = tenant)
  cellStates : db.cellStates.filter (fun r => r.tenantId = tenant) =
    db'.cellStates.filter (fun r => r.tenantId = tenant)
  attestations : db.attestations.filter (fun r => r.tenantId = tenant) =
    db'.attestations.filter (fun r => r.tenantId = tenant)

/-- Another tenant's rows can be deleted unseen. -/
theorem clearTenant_agreeOn {N : Type} {tenant other : TenantId}
    (hne : tenant ≠ other) (db : Database N) :
    AgreeOn tenant db (clearTenant other db) := by
  have hrows : ∀ {R : Type} (owner : R → TenantId) (rows : List R),
      rows.filter (fun r => owner r = tenant) =
        (rows.filter fun r => owner r ≠ other).filter
          (fun r => owner r = tenant) := by
    intro R owner rows
    rw [List.filter_filter]
    apply List.filter_congr
    intro r _
    by_cases ht : owner r = tenant
    · simp [ht, hne]
    · simp [ht]
  exact {
    tenants := rfl
    epochs := hrows EpochRow.tenantId db.epochs
    cellStates := hrows CellStateRow.tenantId db.cellStates
    attestations := hrows AttestationRow.tenantId db.attestations }

/-! ## The order of the rows -/

/-- Two databases hold the same rows of one tenant. -/
structure SameRows {N : Type} (tenant : TenantId) (db db' : Database N) :
    Prop where
  tenants : (db.tenants.filter fun t => t = tenant).Perm
    (db'.tenants.filter fun t => t = tenant)
  epochs : (db.epochs.filter fun r => r.tenantId = tenant).Perm
    (db'.epochs.filter fun r => r.tenantId = tenant)
  cellStates : (db.cellStates.filter fun r => r.tenantId = tenant).Perm
    (db'.cellStates.filter fun r => r.tenantId = tenant)
  attestations : (db.attestations.filter fun r => r.tenantId = tenant).Perm
    (db'.attestations.filter fun r => r.tenantId = tenant)

/-- The same rows, in another order. -/
structure Rearranged {N : Type} (db db' : Database N) : Prop where
  tenants : db.tenants.Perm db'.tenants
  epochs : db.epochs.Perm db'.epochs
  cellStates : db.cellStates.Perm db'.cellStates
  attestations : db.attestations.Perm db'.attestations

section Order

variable {N : Type} {tenant : TenantId} {db db' : Database N}

theorem Rearranged.refl (db : Database N) : Rearranged db db :=
  ⟨.refl _, .refl _, .refl _, .refl _⟩

theorem Rearranged.sameRows (h : Rearranged db db') (tenant : TenantId) :
    SameRows tenant db db' where
  tenants := h.tenants.filter _
  epochs := h.epochs.filter _
  cellStates := h.cellStates.filter _
  attestations := h.attestations.filter _

theorem SameRows.trans {db'' : Database N} (h : SameRows tenant db db')
    (h' : SameRows tenant db' db'') : SameRows tenant db db'' where
  tenants := h.tenants.trans h'.tenants
  epochs := h.epochs.trans h'.epochs
  cellStates := h.cellStates.trans h'.cellStates
  attestations := h.attestations.trans h'.attestations

theorem AgreeOn.sameRows (h : AgreeOn tenant db db') : SameRows tenant db db' where
  tenants := .of_eq h.tenants
  epochs := .of_eq h.epochs
  cellStates := .of_eq h.cellStates
  attestations := .of_eq h.attestations

/-- A database with its tables in another order. -/
def reorder (db : Database N) {tenants : List TenantId}
    {epochs : List EpochRow} {cellStates : List (CellStateRow N)}
    {attestations : List (AttestationRow N)} (ht : db.tenants.Perm tenants)
    (he : db.epochs.Perm epochs) (hc : db.cellStates.Perm cellStates)
    (ha : db.attestations.Perm attestations) : Database N where
  tenants := tenants
  epochs := epochs
  cellStates := cellStates
  attestations := attestations
  epochs_pkey := (he.map _).nodup_iff.mp db.epochs_pkey
  epochs_tenant_fkey := fun r hr =>
    ht.mem_iff.mp (db.epochs_tenant_fkey r (he.mem_iff.mpr hr))
  cellStates_pkey := (hc.map _).nodup_iff.mp db.cellStates_pkey
  cellStates_epoch_fkey := fun r hr =>
    (he.map _).mem_iff.mp (db.cellStates_epoch_fkey r (hc.mem_iff.mpr hr))
  attestations_pkey := (ha.map _).nodup_iff.mp db.attestations_pkey
  attestations_cell_fkey := fun r hr =>
    (hc.map _).mem_iff.mp (db.attestations_cell_fkey r (ha.mem_iff.mpr hr))

/-- The rows of a selection as they come in one table, and then the others of
another table. -/
def ownFirst {R : Type} (own : R → Bool) (rows rows' : List R) : List R :=
  rows.filter own ++ rows'.filter fun r => !own r

theorem ownFirst_perm {R : Type} {own : R → Bool} {rows rows' : List R}
    (h : (rows.filter own).Perm (rows'.filter own)) :
    rows'.Perm (ownFirst own rows rows') :=
  (List.filter_append_perm own rows').symm.trans (h.symm.append_right _)

theorem filter_ownFirst {R : Type} (own : R → Bool) (rows rows' : List R) :
    rows.filter own = (ownFirst own rows rows').filter own := by
  rw [ownFirst, List.filter_append, List.filter_filter, List.filter_filter]
  simp

/-- **The same rows of a tenant, in the same order**, where the tables of the
other database are put in another one. -/
theorem exists_rearranged (h : SameRows tenant db db') :
    ∃ db'', Rearranged db' db'' ∧ AgreeOn tenant db db'' := by
  refine ⟨reorder db' (ownFirst_perm h.tenants) (ownFirst_perm h.epochs)
    (ownFirst_perm h.cellStates) (ownFirst_perm h.attestations),
    ⟨ownFirst_perm h.tenants, ownFirst_perm h.epochs,
      ownFirst_perm h.cellStates, ownFirst_perm h.attestations⟩, ?_⟩
  exact {
    tenants := filter_ownFirst _ _ _
    epochs := filter_ownFirst _ _ _
    cellStates := filter_ownFirst _ _ _
    attestations := filter_ownFirst _ _ _ }

end Order

section Statements

variable {N : Type} {tenant : TenantId} {db db' : Database N}

/-! ## One statement -/

theorem findEpoch_same (h : SameRows tenant db db') (epochId : Int) :
    db.findEpoch tenant epochId = db'.findEpoch tenant epochId := by
  refine findKey_eq_of_perm (fun r hkey => ?_) h.epochs db.epochs_pkey
    db'.epochs_pkey
  rw [decide_eq_true_eq]
  exact (Prod.mk.inj hkey).1

theorem selectCell_same (h : SameRows tenant db db') (h3 : H3Cell)
    (epoch : EpochId) :
    selectCell db tenant h3 epoch = selectCell db' tenant h3 epoch := by
  refine findKey_eq_of_perm (fun r hkey => ?_) h.cellStates db.cellStates_pkey
    db'.cellStates_pkey
  rw [decide_eq_true_eq]
  exact (Prod.mk.inj hkey).1

/-- An epoch's cells are ordered by their key. -/
theorem epochCells_same (h : SameRows tenant db db') (epochId : Int) :
    db.epochCells tenant epochId = db'.epochCells tenant epochId := by
  refine scan_eq_of_perm (fun r hr => ?_) h.cellStates ?_
  · rw [decide_eq_true_eq] at hr ⊢
    exact (Prod.mk.inj hr).1
  · intro a ha b hb hkey hkey' hcell
    rw [decide_eq_true_eq] at hkey hkey'
    obtain ⟨htenant, hepoch⟩ := Prod.mk.inj (hkey.trans hkey'.symm)
    exact List.inj_on_of_nodup_map db.cellStates_pkey ha hb (by
      simp [CellStateRow.key, htenant, hepoch, hcell])

theorem selectLatestEpoch_same (h : SameRows tenant db db') :
    selectLatestEpoch db tenant = selectLatestEpoch db' tenant := by
  refine congrArg List.head? (scan_eq_of_perm (fun _ hr => hr) h.epochs ?_)
  intro a ha b hb htenant htenant' hepoch
  rw [decide_eq_true_eq] at htenant htenant'
  exact List.inj_on_of_nodup_map db.epochs_pkey ha hb (by
    simp [EpochRow.key, htenant, htenant', neg_inj.mp hepoch])

theorem selectLatestCell_same (h : SameRows tenant db db') (h3 : H3Cell) :
    selectLatestCell db tenant h3 = selectLatestCell db' tenant h3 := by
  refine congrArg List.head? (scan_eq_of_perm (fun r hr => ?_) h.cellStates ?_)
  · rw [decide_eq_true_eq] at hr ⊢
    exact hr.1
  · intro a ha b hb hkey hkey' hepoch
    rw [decide_eq_true_eq] at hkey hkey'
    exact eq_of_epochId ha hb hkey.1 hkey'.1 (hkey.2.trans hkey'.2.symm)
      (neg_inj.mp hepoch)

/-- The attestations of one moment come in any order. -/
theorem selectAttestations_perm (h : SameRows tenant db db') (h3 : H3Cell)
    (epoch : EpochId) :
    (selectAttestations db tenant h3 epoch).Perm
        (selectAttestations db' tenant h3 epoch) ∧
      (selectAttestations db tenant h3 epoch).map AttestationRow.issuedAt =
        (selectAttestations db' tenant h3 epoch).map
          AttestationRow.issuedAt := by
  refine scan_perm (fun r hr => ?_) _ h.attestations
  rw [decide_eq_true_eq] at hr ⊢
  exact (Prod.mk.inj hr).1

/-- The rows of a region come in any order, at one epoch. -/
theorem selectRegion_perm (h : SameRows tenant db db') (cellIds : List Int)
    (epoch : Option EpochId) :
    (selectRegion db tenant cellIds epoch).Perm
      (selectRegion db' tenant cellIds epoch) := by
  have htenant : ∀ (p : CellStateRow N → Prop) [DecidablePred p] r,
      decide (r.tenantId = tenant ∧ p r) = true →
        decide (r.tenantId = tenant) = true := by
    intro p _ r hr
    rw [decide_eq_true_eq] at hr ⊢
    exact hr.1
  cases epoch with
  | none =>
      refine .of_eq (distinctOn_sort_eq_of_perm (filter_perm
        (htenant fun r => r.h3Cell ∈ cellIds) h.cellStates) ?_)
      intro a ha b hb hcell hepoch
      rw [List.mem_filter, decide_eq_true_eq] at ha hb
      exact eq_of_epochId ha.1 hb.1 ha.2.1 hb.2.1 hcell hepoch
  | some e =>
      exact filter_perm
        (htenant fun r => r.h3Cell ∈ cellIds ∧ r.epochId = e.val) h.cellStates

/-! ## One statement, where the order shows -/

theorem selectAttestations_congr (h : AgreeOn tenant db db') (h3 : H3Cell)
    (epoch : EpochId) : selectAttestations db tenant h3 epoch =
      selectAttestations db' tenant h3 epoch := by
  apply scan_congr _ _ h.attestations
  intro r hr
  rw [decide_eq_true_eq] at hr ⊢
  exact (Prod.mk.inj hr).1

theorem selectRegion_congr (h : AgreeOn tenant db db') (cellIds : List Int)
    (epoch : Option EpochId) :
    selectRegion db tenant cellIds epoch =
      selectRegion db' tenant cellIds epoch := by
  cases epoch with
  | none =>
      show selectRegionLatest db tenant cellIds =
        selectRegionLatest db' tenant cellIds
      rw [selectRegionLatest, selectRegionLatest,
        filter_congr _ h.cellStates]
      intro r hr
      rw [decide_eq_true_eq] at hr ⊢
      exact hr.1
  | some e =>
      apply filter_congr _ h.cellStates
      intro r hr
      rw [decide_eq_true_eq] at hr ⊢
      exact hr.1

/-! ## The methods of the client -/

theorem latestEpoch_same (h : SameRows tenant db db') :
    latestEpoch db tenant = latestEpoch db' tenant := by
  rw [latestEpoch, latestEpoch, selectLatestEpoch_same h]

theorem getEpoch_same (h : SameRows tenant db db') (epoch : EpochId) :
    getEpoch db tenant epoch = getEpoch db' tenant epoch := by
  rw [getEpoch, getEpoch, findEpoch_same h]

theorem getCellState_same (h : SameRows tenant db db') (h3 : H3Cell)
    (epoch : Option EpochId) :
    getCellState db tenant h3 epoch = getCellState db' tenant h3 epoch := by
  cases epoch with
  | none => simp only [getCellState, selectLatestCell_same h]
  | some e => simp only [getCellState, selectCell_same h]

theorem queryCellsInRegion_congr {F Cell Point : Type} (f64 : F64 F)
    (h3o : H3o F Cell Point) (h : AgreeOn tenant db db')
    (viewport : Viewport F) (epoch : Option EpochId) (limit : Nat) :
    queryCellsInRegion f64 h3o db tenant viewport epoch limit =
      queryCellsInRegion f64 h3o db' tenant viewport epoch limit := by
  simp only [queryCellsInRegion, selectRegion_congr h]

theorem listAttestations_congr (h : AgreeOn tenant db db') (h3 : H3Cell)
    (epoch : EpochId) : listAttestations db tenant h3 epoch =
      listAttestations db' tenant h3 epoch := by
  rw [listAttestations, listAttestations, selectAttestations_congr h]

theorem getProvenance_congr (pair : HexBytes32 → HexBytes32 → HexBytes32)
    (h : AgreeOn tenant db db') (h3 : H3Cell) (epoch : EpochId) :
    getProvenance pair db tenant h3 epoch =
      getProvenance pair db' tenant h3 epoch := by
  simp only [getProvenance, getProvenanceFrom, selectCell_same h.sameRows,
    selectAttestations_congr h, findEpoch_same h.sameRows,
    epochCells_same h.sameRows]

/-! ## All answers -/

section Answers

variable {F Cell Point K : Type} (f64 : F64 F) (h3o : H3o F Cell Point)
variable (pair : HexBytes32 → HexBytes32 → HexBytes32)
variable (crypto : Crypto K) (serde : SerdeText N)

/-- The tenant's answers from every method of `MobyDbClient`, errors
included. -/
structure SameReads (tenant : TenantId) (db db' : Database N) : Prop where
  latestEpoch : latestEpoch db tenant = latestEpoch db' tenant
  getEpoch : ∀ epoch, getEpoch db tenant epoch = getEpoch db' tenant epoch
  getCellState : ∀ h3 epoch,
    getCellState db tenant h3 epoch = getCellState db' tenant h3 epoch
  queryCellsInRegion : ∀ viewport epoch limit,
    queryCellsInRegion f64 h3o db tenant viewport epoch limit =
      queryCellsInRegion f64 h3o db' tenant viewport epoch limit
  getProvenance : ∀ h3 epoch,
    getProvenance pair db tenant h3 epoch =
      getProvenance pair db' tenant h3 epoch
  listAttestations : ∀ h3 epoch,
    listAttestations db tenant h3 epoch = listAttestations db' tenant h3 epoch

/-- The tenant's answers from every tool, errors included. -/
structure SameTools (tenant : TenantId) (db db' : Database N) : Prop where
  renderViewport : ∀ input renderMs,
    RenderTools.renderViewport f64 h3o db tenant input renderMs =
      RenderTools.renderViewport f64 h3o db' tenant input renderMs
  getCellState : ∀ input,
    RenderTools.getCellState db tenant input =
      RenderTools.getCellState db' tenant input
  queryCellsInRegion : ∀ input,
    RenderTools.queryCellsInRegion f64 h3o db tenant input =
      RenderTools.queryCellsInRegion f64 h3o db' tenant input
  getProvenance : ∀ input,
    RenderTools.getProvenance pair db tenant input =
      RenderTools.getProvenance pair db' tenant input
  verifyAttestation : ∀ now attestation,
    verifyAttestation crypto serde db tenant now attestation =
      verifyAttestation crypto serde db' tenant now attestation

theorem sameReads_of_agreeOn (h : AgreeOn tenant db db') :
    SameReads f64 h3o pair tenant db db' where
  latestEpoch := latestEpoch_same h.sameRows
  getEpoch := getEpoch_same h.sameRows
  getCellState := getCellState_same h.sameRows
  queryCellsInRegion := queryCellsInRegion_congr f64 h3o h
  getProvenance := getProvenance_congr pair h
  listAttestations := listAttestations_congr h

/-- The tools reach the database through the client only. -/
theorem sameTools_of_sameReads (h : SameReads f64 h3o pair tenant db db') :
    SameTools f64 h3o pair crypto serde tenant db db' where
  renderViewport := by
    intro input renderMs
    simp only [RenderTools.renderViewport, RenderTools.renderViewportFrom,
      h.queryCellsInRegion, h.latestEpoch]
  getCellState := by
    intro input
    simp only [RenderTools.getCellState, h.getCellState]
  queryCellsInRegion := by
    intro input
    simp only [RenderTools.queryCellsInRegion, h.queryCellsInRegion]
  getProvenance := fun input => h.getProvenance input.h3Cell input.epochId
  verifyAttestation := by
    intro now attestation
    simp only [verifyAttestation, h.getCellState]

/-- The same attestations, those of one moment in any order. -/
structure TiesOpen (xs ys : List (Attestation N)) : Prop where
  perm : xs.Perm ys
  issuedAt : xs.map Attestation.issuedAt = ys.map Attestation.issuedAt

/-- Bundles that differ in the order of attestations of one moment only. -/
structure AlikeBundles (p q : Provenance N) : Prop where
  attestations : TiesOpen p.attestations q.attestations
  others : { p with attestations := q.attestations } = q

/-- Viewports that differ in the order of their cells only. -/
structure AlikeViewports (v w : RenderTools.RenderedViewport F N) : Prop where
  cells : v.cells.Perm w.cells
  others : { v with cells := w.cells } = w

/-- Regions that differ in the order of their cells only. -/
structure AlikeRegions (v w : RenderTools.QueryCellsInRegionOutput N) :
    Prop where
  cells : v.cells.Perm w.cells
  count : v.count = w.count

/-- The tenant's answers from every method of `MobyDbClient`, errors included,
are the same but for an order that the statements leave open. -/
structure AlikeReads (tenant : TenantId) (db db' : Database N) : Prop where
  latestEpoch : latestEpoch db tenant = latestEpoch db' tenant
  getEpoch : ∀ epoch, getEpoch db tenant epoch = getEpoch db' tenant epoch
  getCellState : ∀ h3 epoch,
    getCellState db tenant h3 epoch = getCellState db' tenant h3 epoch
  queryCellsInRegion : ∀ viewport epoch limit, Alike List.Perm
    (queryCellsInRegion f64 h3o db tenant viewport epoch limit)
    (queryCellsInRegion f64 h3o db' tenant viewport epoch limit)
  getProvenance : ∀ h3 epoch, Alike AlikeBundles
    (getProvenance pair db tenant h3 epoch)
    (getProvenance pair db' tenant h3 epoch)
  listAttestations : ∀ h3 epoch, Alike TiesOpen
    (listAttestations db tenant h3 epoch)
    (listAttestations db' tenant h3 epoch)

/-- And so are its answers from every tool. -/
structure AlikeTools (tenant : TenantId) (db db' : Database N) : Prop where
  renderViewport : ∀ input renderMs, Alike AlikeViewports
    (RenderTools.renderViewport f64 h3o db tenant input renderMs)
    (RenderTools.renderViewport f64 h3o db' tenant input renderMs)
  getCellState : ∀ input,
    RenderTools.getCellState db tenant input =
      RenderTools.getCellState db' tenant input
  queryCellsInRegion : ∀ input, Alike AlikeRegions
    (RenderTools.queryCellsInRegion f64 h3o db tenant input)
    (RenderTools.queryCellsInRegion f64 h3o db' tenant input)
  getProvenance : ∀ input, Alike AlikeBundles
    (RenderTools.getProvenance pair db tenant input)
    (RenderTools.getProvenance pair db' tenant input)
  verifyAttestation : ∀ now attestation,
    verifyAttestation crypto serde db tenant now attestation =
      verifyAttestation crypto serde db' tenant now attestation

theorem queryCellsInRegion_alike (h : SameRows tenant db db')
    (viewport : Viewport F) (epoch : Option EpochId) (limit : Nat) :
    Alike List.Perm
      (queryCellsInRegion f64 h3o db tenant viewport epoch limit)
      (queryCellsInRegion f64 h3o db' tenant viewport epoch limit) := by
  have hrows : ∀ cellIds, Alike List.Perm
      ((selectRegion db tenant cellIds epoch).mapM decodeCellState)
      ((selectRegion db' tenant cellIds epoch).mapM decodeCellState) := by
    intro cellIds
    rw [Outcome.mapM_ok decodeCellState cellStateOf _
        (fun row _ => decodeCellState_ok row),
      Outcome.mapM_ok decodeCellState cellStateOf _
        (fun row _ => decodeCellState_ok row)]
    exact .ok ((selectRegion_perm h cellIds epoch).map _)
  refine Alike.bind_same _ fun cells => ?_
  by_cases hlarge : cells.length > limit
  · simp only [if_pos hlarge]
    exact .error _
  · simp only [if_neg hlarge]
    split_ifs
    · exact .ok (List.Perm.refl [])
    · exact hrows _

theorem attestations_alike (h : SameRows tenant db db') (h3 : H3Cell)
    (epoch : EpochId) : Alike TiesOpen
      ((selectAttestations db tenant h3 epoch).mapM decodeAttestation)
      ((selectAttestations db' tenant h3 epoch).mapM decodeAttestation) := by
  obtain ⟨hperm, hissued⟩ := selectAttestations_perm h h3 epoch
  rw [Outcome.mapM_ok decodeAttestation attestationOf _
      (fun row _ => decodeAttestation_ok row),
    Outcome.mapM_ok decodeAttestation attestationOf _
      (fun row _ => decodeAttestation_ok row)]
  refine .ok ⟨hperm.map _, ?_⟩
  rw [List.map_map, List.map_map]
  exact hissued

/-- **Each statement of a bundle comes upon its own state of the tenant.** -/
theorem getProvenanceFrom_alike
    {db₁ db₂ db₃ db₄ db₁' db₂' db₃' db₄' : Database N}
    (h₁ : SameRows tenant db₁ db₁') (h₂ : SameRows tenant db₂ db₂')
    (h₃ : SameRows tenant db₃ db₃') (h₄ : SameRows tenant db₄ db₄')
    (h3 : H3Cell) (epoch : EpochId) :
    Alike AlikeBundles
      (getProvenanceFrom pair db₁ db₂ db₃ db₄ tenant h3 epoch)
      (getProvenanceFrom pair db₁' db₂' db₃' db₄' tenant h3 epoch) := by
  rw [getProvenanceFrom, getProvenanceFrom, selectCell_same h₁,
    findEpoch_same h₃, epochCells_same h₄]
  cases selectCell db₁' tenant h3 epoch with
  | none => exact .error _
  | some cellRow =>
      refine Alike.bind_same (decodeCellState cellRow) fun cellState => ?_
      refine (attestations_alike h₂ h3 epoch).bind fun atts atts' hatts => ?_
      cases db₃'.findEpoch tenant epoch.val with
      | none => exact .error _
      | some epochRow =>
          refine Alike.bind_same (decodeEpoch epochRow) fun epochMeta => ?_
          refine Alike.bind_same _ fun merkleProof => ?_
          dsimp only
          split
          · exact .ok ⟨hatts, rfl⟩
          · exact .error _

theorem alikeReads_of_sameRows (h : SameRows tenant db db') :
    AlikeReads f64 h3o pair tenant db db' where
  latestEpoch := latestEpoch_same h
  getEpoch := getEpoch_same h
  getCellState := getCellState_same h
  queryCellsInRegion := queryCellsInRegion_alike f64 h3o h
  getProvenance := getProvenanceFrom_alike pair h h h h
  listAttestations := attestations_alike h

theorem alikeTools_of_alikeReads (h : AlikeReads f64 h3o pair tenant db db') :
    AlikeTools f64 h3o pair crypto serde tenant db db' where
  renderViewport := by
    intro input renderMs
    refine (h.queryCellsInRegion input.viewport input.epochId
      input.maxCells).bind fun cells cells' hcells => ?_
    rw [h.latestEpoch]
    cases input.epochId with
    | none =>
        refine Alike.bind_same (latestEpoch db' tenant) fun latest => ?_
        exact .ok ⟨hcells, by simp only [hcells.length_eq]⟩
    | some e => exact .ok ⟨hcells, by simp only [hcells.length_eq]⟩
  getCellState := by
    intro input
    simp only [RenderTools.getCellState, h.getCellState]
  queryCellsInRegion := by
    intro input
    refine (h.queryCellsInRegion input.viewport input.epochId
      input.limit).bind fun cells cells' hcells => ?_
    exact .ok ⟨hcells, hcells.length_eq⟩
  getProvenance := fun input => h.getProvenance input.h3Cell input.epochId
  verifyAttestation := by
    intro now attestation
    simp only [verifyAttestation, h.getCellState]

/-- **What a tenant is answered depends on its own rows only**: the answers are
the same up to an order that the statements leave open, and exactly those that
the other database gives with its rows in some order. -/
theorem tenant_isolation (h : SameRows tenant db db') :
    AlikeReads f64 h3o pair tenant db db' ∧
      AlikeTools f64 h3o pair crypto serde tenant db db' ∧
      ∃ db'', Rearranged db' db'' ∧ SameReads f64 h3o pair tenant db db'' ∧
        SameTools f64 h3o pair crypto serde tenant db db'' := by
  have halike := alikeReads_of_sameRows f64 h3o pair h
  obtain ⟨db'', hrearranged, hagree⟩ := exists_rearranged h
  have hreads := sameReads_of_agreeOn f64 h3o pair hagree
  exact ⟨halike, alikeTools_of_alikeReads f64 h3o pair crypto serde halike,
    db'', hrearranged, hreads,
    sameTools_of_sameReads f64 h3o pair crypto serde hreads⟩

end Answers

end Statements

/-- The tables in the opposite order. -/
def reversed {N : Type} (db : Database N) : Database N :=
  reorder db (List.reverse_perm db.tenants).symm
    (List.reverse_perm db.epochs).symm (List.reverse_perm db.cellStates).symm
    (List.reverse_perm db.attestations).symm

theorem rearranged_reversed {N : Type} (db : Database N) :
    Rearranged db (reversed db) :=
  ⟨(List.reverse_perm _).symm, (List.reverse_perm _).symm,
    (List.reverse_perm _).symm, (List.reverse_perm _).symm⟩

/-- Two cells of one tenant. -/
def firstTenantCall : EpochCall Int :=
  ⟨ciTenant, 0, epochSealedAt 0, none,
    [bareSubstation "a" 5, bareSubstation "b" 6], 0⟩

/-- One of the two cells, of another tenant. -/
def secondTenantCall : EpochCall Int :=
  ⟨⟨2⟩, 0, epochSealedAt 0, none, [bareSubstation "b" 5], 0⟩

/-- Both tenants hold an epoch. -/
def OfTwoTenants (db : Database Int) : Prop :=
  ∃ first root root',
    writeEpoch checksumLibraries checksumPair
      (Database.migrated Int [ciTenant, ⟨2⟩]) firstTenantCall =
        .ok (first, root) ∧
    writeEpoch checksumLibraries checksumPair first secondTenantCall =
      .ok (db, root')

theorem exists_ofTwoTenants : ∃ db, OfTwoTenants db := by
  rcases writeEpoch_ok checksumLibraries checksumPair
    (Database.migrated Int [ciTenant, ⟨2⟩]) firstTenantCall
    List.mem_cons_self with ⟨first, root, hfirst⟩
  have htenant : (⟨2⟩ : TenantId) ∈ first.tenants := by
    rw [(writeEpoch_cases checksumLibraries checksumPair hfirst).2.1]
    exact List.mem_cons_of_mem _ List.mem_cons_self
  rcases writeEpoch_ok checksumLibraries checksumPair first secondTenantCall
    htenant with ⟨db, root', hsecond⟩
  exact ⟨db, first, root, root', hfirst, hsecond⟩

/-- The first tenant's rows, without the second's and the other way round. -/
theorem sameRows_reversed_cleared {tenant other : TenantId}
    (hne : tenant ≠ other) (db : Database Int) :
    SameRows tenant db (reversed (clearTenant other db)) :=
  (clearTenant_agreeOn hne db).sameRows.trans
    ((rearranged_reversed _).sameRows tenant)

theorem tenant_isolation_two_tenants :
    ∃ db, OfTwoTenants db ∧
      AlikeReads wholeF64 baseCellH3o checksumPair ciTenant db
        (reversed (clearTenant ⟨2⟩ db)) ∧
      AlikeTools wholeF64 baseCellH3o checksumPair checksumCrypto intText
        ciTenant db (reversed (clearTenant ⟨2⟩ db)) := by
  obtain ⟨db, hdb⟩ := exists_ofTwoTenants
  obtain ⟨hreads, htools, -⟩ := tenant_isolation wholeF64 baseCellH3o
    checksumPair checksumCrypto intText
    (sameRows_reversed_cleared (by decide : ciTenant ≠ ⟨2⟩) db)
  exact ⟨db, hdb, hreads, htools⟩

end RenderEngine.Ports.TenantIsolation
