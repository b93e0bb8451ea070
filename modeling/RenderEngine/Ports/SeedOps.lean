import RenderEngine.Ports.SeedResume
import RenderEngine.Ports.TenantIsolation

/-!
# The scripts of the seed tenant (`scripts/ops`)

`hotfix_epoch0.sql` deletes epoch 0 of the seed tenant and `reseed_italy.sh`
all of its epochs, each before the seeder is run.  An early migration had put
a row for epoch 0 under a root of no cells; the seeder fills that epoch but
leaves its row.  Here the seeder, the hotfix and the reseed come in any order,
each run of the seeder over one list and stopped after any epoch.

## Main results

* `deleteSeeded_ok`: the deletes of a script never run into a reference.
* `seedLoop_fills`: what a run stores when each of its epochs is empty or full.
* `operations_consistent_iff`: the seed tenant ends in a state that every audit
  accepts exactly when a script ran or the early row was right.
-/

namespace RenderEngine.Ports.SeedOps

open RenderEngine.Ports.CoreTypes
open RenderEngine.Ports.Schema
open RenderEngine.Ports.MerkleProof
open RenderEngine.Ports.PostgresClient
open RenderEngine.Ports.SeedWriter
open RenderEngine.Ports.SealedEpochs
open RenderEngine.Ports.ConcurrentReads
open RenderEngine.Ports.EpochChain
open RenderEngine.Ports.SeedResume
open RenderEngine.Ports.TenantIsolation
open RenderEngine.Verified.KeyedRows
open RenderEngine.Verified.PairTree
open RenderEngine.Verified.StepRun

/-! ## The deletes -/

section Deletes

variable {N : Type} (p : TenantId × Int → Bool)

/-- `DELETE FROM cell_states` for the epochs in `p`; `ON DELETE CASCADE` takes
the attestations of a deleted cell with it. -/
def deleteCells (db : Database N) : Database N where
  tenants := db.tenants
  epochs := db.epochs
  cellStates := db.cellStates.filter fun r => !p r.epochKey
  attestations := db.attestations.filter fun r => !p (r.tenantId, r.epochId)
  epochs_pkey := db.epochs_pkey
  epochs_tenant_fkey := db.epochs_tenant_fkey
  cellStates_pkey := (List.filter_sublist.map _).nodup db.cellStates_pkey
  cellStates_epoch_fkey := fun r hr =>
    db.cellStates_epoch_fkey r (List.mem_filter.mp hr).1
  attestations_pkey := (List.filter_sublist.map _).nodup db.attestations_pkey
  attestations_cell_fkey := by
    intro r hr
    obtain ⟨hmem, hkept⟩ := List.mem_filter.mp hr
    obtain ⟨cell, hcell, hkey⟩ :=
      List.mem_map.mp (db.attestations_cell_fkey r hmem)
    refine List.mem_map.mpr ⟨cell, List.mem_filter.mpr ⟨hcell, ?_⟩, hkey⟩
    simp only [CellStateRow.key, AttestationRow.cellKey, Prod.mk.injEq] at hkey
    rwa [CellStateRow.epochKey, hkey.1, hkey.2.2]

/-- `DELETE FROM epochs` for the epochs in `p`; `ON DELETE RESTRICT` refuses
an epoch that a cell refers to. -/
def deleteEpochs (db : Database N) : Outcome (Database N) :=
  if hrestrict : ∀ r ∈ db.cellStates, p r.epochKey = false then
    .ok { db with
      epochs := db.epochs.filter fun r => !p r.key
      epochs_pkey := (List.filter_sublist.map _).nodup db.epochs_pkey
      epochs_tenant_fkey := fun r hr =>
        db.epochs_tenant_fkey r (List.mem_filter.mp hr).1
      cellStates_epoch_fkey := by
        intro r hr
        obtain ⟨row, hrow, hkey⟩ :=
          List.mem_map.mp (db.cellStates_epoch_fkey r hr)
        refine List.mem_map.mpr ⟨row, List.mem_filter.mpr ⟨hrow, ?_⟩, hkey⟩
        rw [hkey, hrestrict r hr]
        rfl }
  else .error (violates "cell_states_tenant_id_epoch_id_fkey")

/-- The transaction of either script. -/
def deleteSeeded (db : Database N) : Outcome (Database N) :=
  deleteEpochs p (deleteCells p db)

/-- **The deletes never run into a reference**: the cells of an epoch go
before it. -/
theorem deleteSeeded_ok (db : Database N) :
    ∃ db', deleteSeeded p db = .ok db' ∧ db'.tenants = db.tenants ∧
      db'.epochs = db.epochs.filter (fun r => !p r.key) ∧
      db'.cellStates = db.cellStates.filter (fun r => !p r.epochKey) ∧
      db'.attestations =
        db.attestations.filter (fun r => !p (r.tenantId, r.epochId)) := by
  have hrestrict : ∀ r ∈ (deleteCells p db).cellStates,
      p r.epochKey = false := by
    intro r hr
    simpa using (List.mem_filter.mp hr).2
  rw [deleteSeeded, deleteEpochs, dif_pos hrestrict]
  exact ⟨_, rfl, rfl, rfl, rfl, rfl⟩

/-- The rows of a tenant whose epochs are not in `p` stay. -/
theorem deleteSeeded_agreeOn {db db' : Database N} {tenant : TenantId}
    (hother : ∀ j, p (tenant, j) = false) (h : deleteSeeded p db = .ok db') :
    AgreeOn tenant db db' := by
  obtain ⟨db₁, hok, htenants, hepochs, hcells, hatts⟩ := deleteSeeded_ok p db
  obtain rfl : db₁ = db' := Except.ok.inj (hok.symm.trans h)
  have hrows : ∀ {R : Type} (owner : R → TenantId) (epoch : R → Int)
      (rows : List R), rows.filter (fun r => owner r = tenant) =
        (rows.filter fun r => !p (owner r, epoch r)).filter
          (fun r => owner r = tenant) := by
    intro R owner epoch rows
    rw [List.filter_filter]
    apply List.filter_congr
    intro r _
    by_cases ht : owner r = tenant
    · simp [ht, hother]
    · simp [ht]
  exact {
    tenants := by rw [htenants]
    epochs := by
      rw [hepochs]
      exact hrows EpochRow.tenantId EpochRow.epochId db.epochs
    cellStates := by
      rw [hcells]
      exact hrows CellStateRow.tenantId CellStateRow.epochId db.cellStates
    attestations := by
      rw [hatts]
      exact hrows AttestationRow.tenantId AttestationRow.epochId
        db.attestations }

theorem findEpoch_deleteSeeded {db db' : Database N}
    (h : deleteSeeded p db = .ok db') (tenant : TenantId) (j : Int) :
    db'.findEpoch tenant j =
      if p (tenant, j) then none else db.findEpoch tenant j := by
  obtain ⟨db₁, hok, -, hepochs, -, -⟩ := deleteSeeded_ok p db
  obtain rfl : db₁ = db' := Except.ok.inj (hok.symm.trans h)
  rw [Database.findEpoch, findKey, hepochs, List.find?_filter]
  split_ifs with hp
  · rw [List.find?_eq_none]
    intro r _ hr
    simp only [decide_eq_true_eq] at hr
    rw [hr.2, hp] at hr
    exact absurd hr.1 (by decide)
  · apply congrArg (fun q => List.find? q db.epochs)
    funext r
    by_cases hkey : r.key = (tenant, j)
    · simp [hkey, hp]
    · simp [hkey]

theorem epochCells_deleteSeeded {db db' : Database N}
    (h : deleteSeeded p db = .ok db') (tenant : TenantId) (j : Int) :
    db'.epochCells tenant j =
      if p (tenant, j) then [] else db.epochCells tenant j := by
  obtain ⟨db₁, hok, -, -, hcells, -⟩ := deleteSeeded_ok p db
  obtain rfl : db₁ = db' := Except.ok.inj (hok.symm.trans h)
  have hfilter : (db.cellStates.filter fun r => !p r.epochKey).filter
      (fun r => r.epochKey = (tenant, j)) =
        if p (tenant, j) then []
        else db.cellStates.filter fun r => r.epochKey = (tenant, j) := by
    rw [List.filter_filter]
    split_ifs with hp
    · rw [List.filter_eq_nil_iff]
      intro r _ hr
      simp only [Bool.and_eq_true, decide_eq_true_eq] at hr
      rw [hr.1, hp] at hr
      exact absurd hr.2 (by decide)
    · apply List.filter_congr
      intro r _
      by_cases hkey : r.epochKey = (tenant, j)
      · simp [hkey, hp]
      · simp [hkey]
  rw [Database.epochCells, scan, hcells, hfilter]
  split_ifs with hp
  · rfl
  · rfl

end Deletes

/-- `hotfix_epoch0.sql`. -/
def hotfixEpoch0 {N : Type} (db : Database N) : Outcome (Database N) :=
  deleteSeeded (fun key => key = (seedTenant, 0)) db

/-- The deletes of `reseed_italy.sh`. -/
def clearSeedTenant {N : Type} (db : Database N) : Outcome (Database N) :=
  deleteSeeded (fun key => key.1 = seedTenant) db

theorem clearSeedTenant_eq {N : Type} (db : Database N) :
    clearSeedTenant db = .ok (clearTenant seedTenant db) := by
  obtain ⟨db', hok, htenants, hepochs, hcells, hatts⟩ :=
    deleteSeeded_ok (fun key => key.1 = seedTenant) db
  have hkept : ∀ {R : Type} (owner : R → TenantId) (rows : List R),
      rows.filter (fun r => !decide (owner r = seedTenant)) =
        rows.filter (fun r => owner r ≠ seedTenant) := by
    intro R owner rows
    exact List.filter_congr fun r _ => by simp
  rw [clearSeedTenant, hok]
  exact congrArg Except.ok (database_ext htenants
    (hepochs.trans (hkept _ _)) (hcells.trans (hkept _ _))
    (hatts.trans (hkept _ _)))

/-! ## One epoch of one run -/

section Fills

variable {F N : Type} (lib : Libraries F N)
variable (pair : HexBytes32 → HexBytes32 → HexBytes32)
variable (substations : List (Substation F))

/-- The cells of the list at an epoch, times of writing left out. -/
def listCells (tenant : TenantId) (j : Int) : List (CellStateRow N) :=
  ((fullRun substations).call tenant j none).cells lib

/-- The epoch holds the cells of the list and no others. -/
def Filled (tenant : TenantId) (db : Database N) (j : Int) : Prop :=
  (db.epochCells tenant j).map withoutWrittenAt =
    listCells lib substations tenant j

/-- No cell of the epoch is stored, or every one is. -/
def AllOrNone (tenant : TenantId) (db : Database N) (j : Int) : Prop :=
  db.epochCells tenant j = [] ∨ Filled lib substations tenant db j

variable {lib pair substations}

theorem attestations_insertChunks {db db' : Database N} {call : EpochCall F}
    (blocks : List (List (SeedRow F N)))
    (h : blocks.foldlM
      (fun db chunk => db.insertCells (chunk.map call.cellOf)) db =
        (.ok db' : Outcome (Database N))) :
    db'.attestations = db.attestations := by
  induction blocks generalizing db with
  | nil =>
      cases h
      rfl
  | cons block blocks ih =>
      rw [List.foldlM_cons] at h
      cases hblock : db.insertCells (block.map call.cellOf) with
      | error e =>
          rw [hblock] at h
          cases h
      | ok db₁ =>
          rw [hblock] at h
          refine (ih h).trans ?_
          unfold Database.insertCells at hblock
          split at hblock
          · cases hblock
            rfl
          · cases hblock

theorem attestations_writeEpoch {db db' : Database N} {call : EpochCall F}
    {root : HexBytes32} (h : writeEpoch lib pair db call = .ok (db', root)) :
    db'.attestations = db.attestations := by
  simp only [writeEpoch, merkleRoot_eq_rootOf, Outcome.ok_bind] at h
  cases hopen : openEpoch db (call.epochRow lib
      (rootOf pair (HexBytes.zero 32) (call.hashes lib))) with
  | error e =>
      rw [hopen] at h
      cases h
  | ok db₁ =>
      rw [hopen, Outcome.ok_bind] at h
      cases hchunks : (chunks batchSize (call.rows lib)).foldlM
          (fun db chunk => db.insertCells (chunk.map call.cellOf)) db₁ with
      | error e =>
          rw [hchunks] at h
          cases h
      | ok db₂ =>
          rw [hchunks] at h
          cases h
          refine (attestations_insertChunks _ hchunks).trans ?_
          unfold openEpoch at hopen
          split at hopen
          · cases hopen
            rfl
          · unfold Database.insertEpoch at hopen
            split_ifs at hopen
            cases hopen
            rfl

/-- A call leaves the rows of every other tenant alone. -/
theorem writeEpoch_agreeOn {db db' : Database N} {call : EpochCall F}
    {root : HexBytes32} (h : writeEpoch lib pair db call = .ok (db', root))
    {tenant : TenantId} (hne : tenant ≠ call.tenant) :
    AgreeOn tenant db db' := by
  obtain ⟨-, htenants, hcells, hepochs⟩ := writeEpoch_cases lib pair h
  refine {
    tenants := by rw [htenants]
    epochs := ?_
    cellStates := ?_
    attestations := by rw [attestations_writeEpoch h] }
  · obtain ⟨-, hepochs⟩ | ⟨-, hepochs⟩ := hepochs
    · rw [hepochs]
    · rw [hepochs, List.filter_append, List.filter_singleton]
      have hrow : (call.epochRow lib root).tenantId = call.tenant := rfl
      simp [hrow, hne.symm]
  · rw [hcells, filter_insertAll_of_disjoint db.cellStates]
    intro r hr
    have hkey := cells_epochKey lib call hr
    have htenant : r.tenantId = call.tenant := (Prod.mk.inj hkey).1
    rw [htenant, decide_eq_false_iff_not]
    exact hne.symm

theorem epochCells_writeEpoch_other {db db' : Database N} {call : EpochCall F}
    {root : HexBytes32} (h : writeEpoch lib pair db call = .ok (db', root))
    {j : Int} (hne : j ≠ call.epochId) :
    db'.epochCells call.tenant j = db.epochCells call.tenant j := by
  rw [Database.epochCells, Database.epochCells, scan, scan,
    (writeEpoch_cases lib pair h).2.2.1,
    filter_insertAll_of_disjoint db.cellStates]
  intro r hr
  rw [cells_epochKey lib call hr, decide_eq_false_iff_not]
  exact fun hkey => hne (Prod.mk.inj hkey).2.symm

/-- **A call fills its epoch**, if it was empty or full. -/
theorem writeEpoch_fills {db db' : Database N} {root : HexBytes32}
    {tenant : TenantId} {r : SeederRun F} (hr : OverList substations r)
    (hdistinct : (substations.map Substation.h3).Nodup) {j : Int}
    {parent : Option HexBytes32}
    (h : writeEpoch lib pair db (r.call tenant j parent) = .ok (db', root))
    (hbefore : AllOrNone lib substations tenant db j) :
    Filled lib substations tenant db' j := by
  have hcells := (writeEpoch_cases lib pair h).2.2.1
  have hlist : ((r.call tenant j parent).cells lib).map withoutWrittenAt =
      listCells lib substations tenant j := by
    obtain ⟨subs, committed, now⟩ := r
    cases hr.substations
    rw [listCells, EpochCall.cells, EpochCall.cells, List.map_map]
    rfl
  rcases hbefore with hempty | hfull
  · have hnone : db.cellStates.filter (fun c => c.epochKey = (tenant, j)) =
        [] := by
      rw [Database.epochCells, scan] at hempty
      rw [← List.length_eq_zero_iff, ← List.length_insertionSort
        (fun a b : CellStateRow N => a.h3Cell ≤ b.h3Cell), hempty]
      rfl
    have hnodup : KeysNodup CellStateRow.key
        ((r.call tenant j parent).cells lib) := by
      rw [cells_keysNodup_iff]
      show (r.substations.map Substation.h3).Nodup
      rwa [hr.substations]
    have hselected :
        db'.cellStates.filter (fun c => c.epochKey = (tenant, j)) =
          (r.call tenant j parent).cells lib := by
      rw [hcells]
      exact filter_insertAll_of_fresh epochKey_of_key hnodup
        (fun c hc => decide_eq_true (cells_epochKey lib _ hc)) hnone
    rw [Filled, ← hlist, Database.epochCells, scan, hselected,
      (cells_sorted lib (r.call tenant j parent)).insertionSort_eq]
  · have hpresent : ∀ c ∈ (r.call tenant j parent).cells lib,
        c.key ∈ db.cellStates.map CellStateRow.key := by
      intro c hc
      have hmem : withoutWrittenAt c ∈
          (db.epochCells tenant j).map withoutWrittenAt := by
        rw [hfull, ← hlist]
        exact List.mem_map_of_mem hc
      obtain ⟨c', hc', heq⟩ := List.mem_map.mp hmem
      have hkey := congrArg CellStateRow.key heq
      change c'.key = c.key at hkey
      rw [← hkey]
      exact List.mem_map_of_mem (mem_epochCells.mp hc').1
    have hsame : db'.cellStates = db.cellStates :=
      hcells.trans (insertAll_of_present CellStateRow.key hpresent)
    rw [Filled, Database.epochCells, hsame]
    exact hfull

/-! ## One run -/

/-- What a run over `n` epochs from `start` on has done for its tenant. -/
structure Fills (lib : Libraries F N) (substations : List (Substation F))
    (tenant : TenantId) (start : Int) (n : Nat) (db db' : Database N) :
    Prop where
  tenants : db'.tenants = db.tenants
  others : ∀ t, t ≠ tenant → AgreeOn t db db'
  filled : ∀ j, start ≤ j → j < start + n →
    Filled lib substations tenant db' j
  rest : ∀ j, j < start ∨ start + n ≤ j →
    db'.epochCells tenant j = db.epochCells tenant j

theorem agreeOn_trans {tenant : TenantId} {db db' db'' : Database N}
    (h : AgreeOn tenant db db') (h' : AgreeOn tenant db' db'') :
    AgreeOn tenant db db'' where
  tenants := h.tenants.trans h'.tenants
  epochs := h.epochs.trans h'.epochs
  cellStates := h.cellStates.trans h'.cellStates
  attestations := h.attestations.trans h'.attestations

/-- **A run fills its epochs**, if each was empty or full. -/
theorem seedLoop_fills {tenant : TenantId} {r : SeederRun F}
    (hr : OverList substations r)
    (hdistinct : (substations.map Substation.h3).Nodup) (n : Nat) (start : Int)
    (parent : Option HexBytes32) {db : Database N}
    (htenant : tenant ∈ db.tenants)
    (hbefore : ∀ j, AllOrNone lib substations tenant db j) :
    ∃ db', seedLoop lib pair tenant r n start parent db = .ok db' ∧
      Fills lib substations tenant start n db db' := by
  induction n generalizing start parent db with
  | zero =>
      refine ⟨db, rfl, ?_⟩
      exact {
        tenants := rfl
        others := fun t _ => ⟨rfl, rfl, rfl, rfl⟩
        filled := fun j hle hlt => by omega
        rest := fun j _ => rfl }
  | succ n ih =>
      obtain ⟨db₁, root, hcommit⟩ :=
        writeEpoch_ok lib pair db (r.call tenant start parent) htenant
      have hfilled := writeEpoch_fills hr hdistinct hcommit (hbefore start)
      have hother : ∀ j, j ≠ start →
          db₁.epochCells tenant j = db.epochCells tenant j :=
        fun j hne => epochCells_writeEpoch_other hcommit hne
      have htenants : db₁.tenants = db.tenants :=
        (writeEpoch_cases lib pair hcommit).2.1
      have hbefore₁ : ∀ j, AllOrNone lib substations tenant db₁ j := by
        intro j
        by_cases hj : j = start
        · exact Or.inr (hj ▸ hfilled)
        · have h := hbefore j
          rwa [AllOrNone, Filled, ← hother j hj] at h
      obtain ⟨db', hloop, hfills⟩ :=
        ih (start + 1) (some root) (htenants ▸ htenant) hbefore₁
      refine ⟨db', ?_, ?_⟩
      · rw [seedLoop, hcommit, Outcome.ok_bind]
        exact hloop
      · refine {
          tenants := hfills.tenants.trans htenants
          others := fun t ht => agreeOn_trans
            (writeEpoch_agreeOn hcommit ht) (hfills.others t ht)
          filled := ?_
          rest := ?_ }
        · intro j hle hlt
          by_cases hj : j = start
          · rw [Filled, hfills.rest j (by omega), hj]
            exact hfilled
          · exact hfills.filled j (by omega) (by omega)
        · intro j hj
          rw [hfills.rest j (by omega), hother j (by omega)]

end Fills

/-! ## The audit of one epoch -/

section Audit

variable {F N : Type} {lib : Libraries F N}
variable {pair : HexBytes32 → HexBytes32 → HexBytes32}
variable {substations : List (Substation F)} {tenant : TenantId}
variable {db : Database N} {j : Int}

theorem Filled.leafHashes (h : Filled lib substations tenant db j) :
    PostgresClient.leafHashes db tenant j =
      ((fullRun substations).call tenant j none).hashes lib := by
  rw [← cells_hashes, ← listCells, ← h, List.map_map]
  rfl

/-- Every substation of the list has its cell. -/
theorem Filled.stored (h : Filled lib substations tenant db j)
    {sub : Substation F} (hsub : sub ∈ substations) :
    ∃ cell ∈ db.cellStates, cell.key = (tenant, sub.h3.asI64, j) := by
  have hlist : ((fullRun substations).call tenant j none).cellOf
      (seedRow lib j (epochSealedAt j) sub) ∈
        (db.epochCells tenant j).map withoutWrittenAt := by
    rw [h]
    exact List.mem_map_of_mem (List.mem_map_of_mem
      ((List.mem_insertionSort _).mpr hsub))
  obtain ⟨cell, hcell, heq⟩ := List.mem_map.mp hlist
  have hkey := congrArg CellStateRow.key heq
  exact ⟨cell, (mem_epochCells.mp hcell).1, hkey⟩

/-- A row names the root of the list and a count with as many layers. -/
def RootOfList (lib : Libraries F N)
    (pair : HexBytes32 → HexBytes32 → HexBytes32)
    (substations : List (Substation F)) (row : EpochRow) : Prop :=
  row.merkleRoot =
      runRoot lib pair row.tenantId (fullRun substations) row.epochId ∧
    Nat.clog 2 row.cellCount.toNat = Nat.clog 2 substations.length

variable (pair)

/-- **The bundle of a stored cell is accepted exactly when the epoch's row is
the one of the list**, in a full epoch. -/
theorem Filled.audits_iff (h : Filled lib substations tenant db j)
    {row : EpochRow} (hrow : db.findEpoch tenant j = some row)
    {sub : Substation F} (hsub : sub ∈ substations) :
    ∃ cell ∈ db.cellStates, cell.key = (tenant, sub.h3.asI64, j) ∧
      ∃ p, getProvenance pair db tenant sub.h3 ⟨j⟩ = .ok p ∧
        BundleOf db sub.h3 cell row p ∧
        (Audits pair p ↔ RootOfList lib pair substations row) := by
  obtain ⟨cell, hmem, hkey⟩ := h.stored hsub
  have hcell : selectCell db tenant sub.h3 ⟨j⟩ = some cell :=
    (findKey_eq_some_iff db.cellStates_pkey _ cell).mpr ⟨hmem, hkey⟩
  obtain ⟨i, hidx, hleaf⟩ := leafIndex_of_stored hmem hkey
  have hrowKey : row.key = (tenant, j) :=
    ((findEpoch_eq_some_iff db tenant j row).mp hrow).2
  have hlength : (db.epochCells tenant j).length = substations.length := by
    rw [← leafHashes_length, h.leafHashes, hashes_length]
    rfl
  have hroot := merkleRoot_eq_rootOf pair (HexBytes.zero 32)
    (PostgresClient.leafHashes db tenant j)
  obtain ⟨haccepted, hlen⟩ :=
    verifyProof_path pair hleaf hroot row.cellCount.toNat
  rw [leafHashes_length, hlength] at haccepted hlen
  rw [verifyProof_eq_true_iff, h.leafHashes] at haccepted
  refine ⟨cell, hmem, hkey, _, getProvenanceFrom_ok pair hcell hrow hidx, ?_,
    ?_⟩
  · obtain ⟨rfl, rfl⟩ := Prod.mk.inj hrowKey
    exact {
      tenantId := rfl
      h3Cell := rfl
      epochId := rfl
      cellState := rfl
      attestations := rfl
      epoch := rfl
      leaf := hleaf }
  have hlist : runRoot lib pair row.tenantId (fullRun substations)
      row.epochId = rootOf pair (HexBytes.zero 32)
        (((fullRun substations).call tenant j none).hashes lib) := by
    rw [(Prod.mk.inj hrowKey).1, (Prod.mk.inj hrowKey).2]
    rfl
  rw [RootOfList, hlist]
  constructor
  · intro ha
    have hpath := ha.length
    have hclimb := (verifyProof_eq_true_iff pair _ _ _ _ _).mp ha.accepted
    simp only [hlength, h.leafHashes] at hpath hclimb
    rw [h.leafHashes] at hlen
    exact ⟨hclimb.symm.trans haccepted, hpath.symm.trans hlen⟩
  · rintro ⟨hmerkle, hcount⟩
    refine { length := ?_, accepted := ?_ }
    · simp only [hlength]
      exact hlen.trans hcount.symm
    · rw [verifyProof_eq_true_iff]
      simp only [hlength, h.leafHashes]
      exact haccepted.trans hmerkle.symm

end Audit

/-! ## Any order of runs and scripts -/

/-- What an operator does to the seed tenant. -/
inductive Operation (F : Type) where
  /-- `cargo run --bin seed-data` -/
  | seedData (r : SeederRun F)
  | hotfixEpoch0
  /-- `reseed_italy.sh`; its seeder may stop early as well. -/
  | reseedItaly (r : SeederRun F)

/-- The operation deletes epoch 0. -/
def Operation.Deletes {F : Type} : Operation F → Prop
  | .seedData _ => False
  | .hotfixEpoch0 => True
  | .reseedItaly _ => True

/-- The operation's run of the seeder, if it has one, is over the list. -/
def Operation.OverList {F : Type} (substations : List (Substation F)) :
    Operation F → Prop
  | .seedData r => SeedResume.OverList substations r
  | .hotfixEpoch0 => True
  | .reseedItaly r => SeedResume.OverList substations r

/-- The operation ends with a run of the seeder that nothing interrupts. -/
def Operation.Completes {F : Type} (substations : List (Substation F)) :
    Operation F → Prop
  | .seedData r => Complete substations r
  | .hotfixEpoch0 => False
  | .reseedItaly r => Complete substations r

section Operations

variable {F N : Type} (lib : Libraries F N)
variable (pair : HexBytes32 → HexBytes32 → HexBytes32)

def operate (db : Database N) : Operation F → Outcome (Database N)
  | .seedData r => seed lib pair seedTenant db r
  | .hotfixEpoch0 => hotfixEpoch0 db
  | .reseedItaly r => do
      let db ← clearSeedTenant db
      seed lib pair seedTenant db r

/-- An operation as a step; one that fails ends the sequence. -/
def operationStep (db : Database N) (op : Operation F) :
    Option (Database N) :=
  match operate lib pair db op with
  | .ok db' => some db'
  | .error _ => none

variable (substations : List (Substation F))

/-- The row a run over the list writes for an epoch. -/
def listEpoch (j : Int) : EpochRow :=
  loopRow lib pair seedTenant (fullRun substations) 0 none j

/-- What holds between the operations, epoch 0's row aside. -/
structure Underway (db₀ db : Database N) : Prop where
  tenant : seedTenant ∈ db.tenants
  others : ∀ t, t ≠ seedTenant → AgreeOn t db₀ db
  cells : ∀ j, AllOrNone lib substations seedTenant db j
  epochs : ∀ j, j ≠ 0 → db.findEpoch seedTenant j = none ∨
    db.findEpoch seedTenant j = some (listEpoch lib pair substations j)
  last : ∀ j, j < 0 ∨ (epochCount : Int) ≤ j →
    db.findEpoch seedTenant j = none

/-- Epoch 0 has the row of the list, or none. -/
def Clean (db : Database N) : Prop :=
  db.findEpoch seedTenant 0 = none ∨
    db.findEpoch seedTenant 0 = some (listEpoch lib pair substations 0)

/-- The epochs table after a run of the seeder. -/
def RowsAfter (db db' : Database N) (committed : Nat) : Prop :=
  ∀ j, db'.findEpoch seedTenant j = (db.findEpoch seedTenant j).or
    (if 0 ≤ j ∧ j < committed
      then some (listEpoch lib pair substations j) else none)

variable {lib pair substations} {db₀ db : Database N}

/-- A run of the seeder goes through and fills the epochs it comes to. -/
theorem seed_underway (hdistinct : (substations.map Substation.h3).Nodup)
    (h : Underway lib pair substations db₀ db) {r : SeederRun F}
    (hr : OverList substations r) :
    ∃ db', seed lib pair seedTenant db r = .ok db' ∧
      Underway lib pair substations db₀ db' ∧
      RowsAfter lib pair substations db db' r.committed ∧
      ∀ j : Int, 0 ≤ j → j < r.committed →
        Filled lib substations seedTenant db' j := by
  obtain ⟨db', hloop, hfills⟩ := seedLoop_fills hr hdistinct r.committed 0
    none h.tenant h.cells
  have hseed : seed lib pair seedTenant db r = .ok db' := by
    rw [seed, verifyTenantExists_ok h.tenant, Outcome.ok_bind]
    exact hloop
  have hrows : RowsAfter lib pair substations db db' r.committed := by
    intro j
    have hstep : seedStep lib pair seedTenant db r = some db' := by
      rw [seedStep, hseed]
    have hlist : loopRow lib pair seedTenant r 0 none j =
        listEpoch lib pair substations j := by
      obtain ⟨subs, committed, now⟩ := r
      cases hr.substations
      rfl
    rw [findEpoch_seed lib pair seedTenant hstep j, hlist]
  have hcount := hr.committed
  refine ⟨db', hseed, ?_, hrows, ?_⟩
  · refine {
      tenant := hfills.tenants ▸ h.tenant
      others := fun t ht => agreeOn_trans (h.others t ht) (hfills.others t ht)
      cells := ?_
      epochs := ?_
      last := ?_ }
    · intro j
      by_cases hj : 0 ≤ j ∧ j < 0 + (r.committed : Int)
      · exact Or.inr (hfills.filled j hj.1 hj.2)
      · have hold := h.cells j
        rwa [AllOrNone, Filled, ← hfills.rest j (by omega)] at hold
    · intro j hj
      rw [hrows j]
      obtain hnone | hrow := h.epochs j hj
      · rw [hnone, Option.none_or]
        split_ifs
        · exact Or.inr rfl
        · exact Or.inl rfl
      · rw [hrow, Option.some_or]
        exact Or.inr rfl
    · intro j hj
      rw [hrows j, h.last j hj, Option.none_or, if_neg (by omega)]
  · intro j hle hlt
    exact hfills.filled j hle (by omega)

/-- The deletes of a script keep what holds between the operations. -/
theorem deleteSeeded_underway (h : Underway lib pair substations db₀ db)
    (p : TenantId × Int → Bool)
    (hseed : ∀ t, t ≠ seedTenant → ∀ j, p (t, j) = false) :
    ∃ db', deleteSeeded p db = .ok db' ∧
      Underway lib pair substations db₀ db' := by
  obtain ⟨db', hok, htenants, -⟩ := deleteSeeded_ok p db
  refine ⟨db', hok, ?_⟩
  refine {
    tenant := htenants ▸ h.tenant
    others := fun t ht =>
      agreeOn_trans (h.others t ht) (deleteSeeded_agreeOn p (hseed t ht) hok)
    cells := ?_
    epochs := ?_
    last := ?_ }
  · intro j
    have hcells := epochCells_deleteSeeded p hok seedTenant j
    split_ifs at hcells
    · exact Or.inl hcells
    · have hold := h.cells j
      rwa [AllOrNone, Filled, ← hcells] at hold
  · intro j hj
    rw [findEpoch_deleteSeeded p hok]
    split_ifs
    · exact Or.inl rfl
    · exact h.epochs j hj
  · intro j hj
    rw [findEpoch_deleteSeeded p hok, h.last j hj, ite_self]

/-- What one operation has done.  Epoch 0 is clean if it was before or the
operation deletes it, and else it keeps its row. -/
structure Operated (lib : Libraries F N)
    (pair : HexBytes32 → HexBytes32 → HexBytes32)
    (substations : List (Substation F)) (db₀ db : Database N)
    (op : Operation F) (db' : Database N) : Prop where
  underway : Underway lib pair substations db₀ db'
  clean : op.Deletes ∨ Clean lib pair substations db →
    Clean lib pair substations db'
  kept : ¬ op.Deletes → ∀ row, db.findEpoch seedTenant 0 = some row →
    db'.findEpoch seedTenant 0 = some row
  complete : op.Completes substations → ∀ j : Int, 0 ≤ j → j < epochCount →
    (db'.findEpoch seedTenant j).isSome ∧
      Filled lib substations seedTenant db' j

/-- **Every operation goes through.** -/
theorem operate_underway (hdistinct : (substations.map Substation.h3).Nodup)
    (h : Underway lib pair substations db₀ db) {op : Operation F}
    (hop : op.OverList substations) :
    ∃ db', operate lib pair db op = .ok db' ∧
      Operated lib pair substations db₀ db op db' := by
  have hclean : ∀ {db db' : Database N} {n : Nat},
      RowsAfter lib pair substations db db' n →
      Clean lib pair substations db → Clean lib pair substations db' := by
    intro db db' n hrows hc
    rw [Clean, hrows 0]
    obtain hnone | hrow := hc
    · rw [hnone, Option.none_or]
      split_ifs
      · exact Or.inr rfl
      · exact Or.inl rfl
    · rw [hrow, Option.some_or]
      exact Or.inr rfl
  have hcomplete : ∀ {db db' : Database N} {r : SeederRun F},
      RowsAfter lib pair substations db db' r.committed →
      (∀ j : Int, 0 ≤ j → j < r.committed →
        Filled lib substations seedTenant db' j) →
      Complete substations r → ∀ j : Int, 0 ≤ j → j < epochCount →
        (db'.findEpoch seedTenant j).isSome ∧
          Filled lib substations seedTenant db' j := by
    intro db db' r hrows hfilled hr j hle hlt
    have hj : j < r.committed := by
      rw [hr.committed]
      exact hlt
    refine ⟨?_, hfilled j hle hj⟩
    rw [hrows j, if_pos ⟨hle, hj⟩]
    cases db.findEpoch seedTenant j with
    | none => rfl
    | some row => rfl
  cases op with
  | seedData r =>
      obtain ⟨db', hseed, hunder, hrows, hfilled⟩ :=
        seed_underway hdistinct h hop
      refine ⟨db', hseed, ?_⟩
      refine {
        underway := hunder
        clean := fun hc => hclean hrows (hc.resolve_left id)
        kept := ?_
        complete := hcomplete hrows hfilled }
      intro _ row hrow
      rw [hrows 0, hrow, Option.some_or]
  | hotfixEpoch0 =>
      obtain ⟨db', hok, hunder⟩ := deleteSeeded_underway h
        (fun key => key = (seedTenant, 0)) (fun t ht j => by simp [ht])
      refine ⟨db', hok, ?_⟩
      refine {
        underway := hunder
        clean := fun _ => Or.inl ?_
        kept := fun hkept => absurd trivial hkept
        complete := fun hcompletes => hcompletes.elim }
      rw [findEpoch_deleteSeeded _ hok, if_pos (by simp)]
  | reseedItaly r =>
      obtain ⟨db₁, hok, hunder₁⟩ := deleteSeeded_underway h
        (fun key => key.1 = seedTenant) (fun t ht j => by simp [ht])
      obtain ⟨db', hseed, hunder, hrows, hfilled⟩ :=
        seed_underway hdistinct hunder₁ hop
      have hclear : clearSeedTenant db = .ok db₁ := hok
      refine ⟨db', ?_, ?_⟩
      · rw [operate, hclear, Outcome.ok_bind]
        exact hseed
      · refine {
          underway := hunder
          clean := fun _ => hclean hrows (Or.inl ?_)
          kept := fun hkept => absurd trivial hkept
          complete := hcomplete hrows hfilled }
        rw [findEpoch_deleteSeeded _ hok, if_pos (by simp)]

/-! ## Whole sequences -/

/-- Every substation has its cell at every epoch, and `get_provenance` returns
that cell and the epoch's row with an accepted proof. -/
def AllAudited (pair : HexBytes32 → HexBytes32 → HexBytes32)
    (substations : List (Substation F)) (db : Database N) : Prop :=
  ∀ j : Int, 0 ≤ j → j < epochCount → ∀ sub ∈ substations,
    ∃ row, db.findEpoch seedTenant j = some row ∧
      ∃ cell ∈ db.cellStates, cell.key = (seedTenant, sub.h3.asI64, j) ∧
        ∃ p, getProvenance pair db seedTenant sub.h3 ⟨j⟩ = .ok p ∧
          BundleOf db sub.h3 cell row p ∧ Audits pair p

/-- The chain of the seed tenant is linked, and every audit is accepted. -/
structure Consistent (pair : HexBytes32 → HexBytes32 → HexBytes32)
    (substations : List (Substation F)) (db : Database N) : Prop where
  linked : Linked seedTenant db
  audits : AllAudited pair substations db

/-- A row that the chain and the audits can do with for epoch 0. -/
def FitsGenesis (lib : Libraries F N)
    (pair : HexBytes32 → HexBytes32 → HexBytes32)
    (substations : List (Substation F)) (row : EpochRow) : Prop :=
  row.parentRoot = none ∧
    row.merkleRoot = runRoot lib pair seedTenant (fullRun substations) 0 ∧
    (substations ≠ [] →
      Nat.clog 2 row.cellCount.toNat = Nat.clog 2 substations.length)

/-- A sequence goes through; it leaves a clean epoch 0 clean, and cleans it if
one of its operations deletes it. -/
theorem run_underway (hdistinct : (substations.map Substation.h3).Nodup)
    (h : Underway lib pair substations db₀ db) {ops : List (Operation F)}
    (hops : ∀ op ∈ ops, op.OverList substations) :
    ∃ db', run (operationStep lib pair) db ops = some db' ∧
      Underway lib pair substations db₀ db' ∧
      ((∃ op ∈ ops, op.Deletes) ∨ Clean lib pair substations db →
        Clean lib pair substations db') ∧
      ((∀ op ∈ ops, ¬ op.Deletes) → ∀ row,
        db.findEpoch seedTenant 0 = some row →
        db'.findEpoch seedTenant 0 = some row) := by
  induction ops generalizing db with
  | nil =>
      refine ⟨db, rfl, h, ?_, fun _ row hrow => hrow⟩
      rintro (⟨op, hop, -⟩ | hc)
      · exact absurd hop List.not_mem_nil
      · exact hc
  | cons op ops ih =>
      obtain ⟨db₁, hok, hfirst⟩ :=
        operate_underway hdistinct h (hops op List.mem_cons_self)
      obtain ⟨db', hrun, hunder, hclean, hkept⟩ := ih hfirst.underway
        (fun o ho => hops o (List.mem_cons_of_mem op ho))
      have hstep : operationStep lib pair db op = some db₁ := by
        rw [operationStep, hok]
      refine ⟨db', ?_, hunder, ?_, ?_⟩
      · rw [run_cons, hstep]
        exact hrun
      · rintro (⟨o, ho, hdeletes⟩ | hc)
        · obtain rfl | ho := List.mem_cons.mp ho
          · exact hclean (Or.inr (hfirst.clean (Or.inl hdeletes)))
          · exact hclean (Or.inl ⟨o, ho, hdeletes⟩)
        · exact hclean (Or.inr (hfirst.clean (Or.inr hc)))
      · intro hnone row hrow
        exact hkept (fun o ho => hnone o (List.mem_cons_of_mem op ho)) row
          (hfirst.kept (hnone op List.mem_cons_self) row hrow)

/-- Once every epoch is stored, all depends on the row of epoch 0. -/
theorem consistent_iff (h : Underway lib pair substations db₀ db)
    (hfull : ∀ j : Int, 0 ≤ j → j < epochCount →
      (db.findEpoch seedTenant j).isSome ∧
        Filled lib substations seedTenant db j)
    {row : EpochRow} (hrow : db.findEpoch seedTenant 0 = some row) :
    Consistent pair substations db ↔
      FitsGenesis lib pair substations row := by
  have hkey := (findEpoch_eq_some_iff db seedTenant 0 row).mp hrow
  have hlater : ∀ j : Int, j ≠ 0 → 0 ≤ j → j < epochCount →
      db.findEpoch seedTenant j = some (listEpoch lib pair substations j) := by
    intro j hne hle hlt
    obtain hnone | hsome := h.epochs j hne
    · have hstored := (hfull j hle hlt).1
      rw [hnone] at hstored
      cases hstored
    · exact hsome
  have hparent : ∀ j : Int, j ≠ 0 →
      (listEpoch lib pair substations j).parentRoot =
        some (runRoot lib pair seedTenant (fullRun substations) (j - 1)) := by
    intro j hne
    rw [listEpoch, loopRow, if_neg hne]
    rfl
  have hroot : row.merkleRoot =
      runRoot lib pair seedTenant (fullRun substations) 0 ↔
        row.merkleRoot = runRoot lib pair row.tenantId (fullRun substations)
          row.epochId := by
    rw [(Prod.mk.inj hkey.2).1, (Prod.mk.inj hkey.2).2]
  constructor
  · intro hc
    have hfirst := hlater 1 (by decide) (by decide) (by decide)
    obtain ⟨prev, hprev, hlink⟩ := hc.linked.parent 0 (Int.le_refl 0) _ hfirst
    obtain rfl : row = prev := Option.some.inj (hrow.symm.trans hprev)
    rw [hparent 1 (by decide)] at hlink
    refine ⟨hc.linked.genesis row hrow, (Option.some.inj hlink).symm, ?_⟩
    intro hne
    obtain ⟨sub, hsub⟩ := List.exists_mem_of_ne_nil substations hne
    obtain ⟨-, -, -, -, -, p, hp, -, haudits⟩ :=
      hc.audits 0 (Int.le_refl 0) (by decide) sub hsub
    obtain ⟨-, -, -, p', hp', -, hiff⟩ :=
      (hfull 0 (Int.le_refl 0) (by decide)).2.audits_iff pair hrow hsub
    obtain rfl : p = p' := Except.ok.inj (hp.symm.trans hp')
    exact (hiff.mp haudits).2
  · intro hfits
    refine { linked := ?_, audits := ?_ }
    · refine { genesis := ?_, parent := ?_ }
      · intro row' hrow'
        obtain rfl : row = row' := Option.some.inj (hrow.symm.trans hrow')
        exact hfits.1
      · intro k hk row' hrow'
        have hlt : k + 1 < epochCount := by
          by_contra hge
          rw [h.last (k + 1) (by omega)] at hrow'
          cases hrow'
        rw [hlater (k + 1) (by omega) (by omega) hlt] at hrow'
        cases hrow'
        rw [hparent (k + 1) (by omega), Int.add_sub_cancel]
        by_cases hzero : k = 0
        · subst hzero
          exact ⟨row, hrow, congrArg some hfits.2.1.symm⟩
        · exact ⟨_, hlater k hzero hk (by omega), rfl⟩
    · intro j hle hlt sub hsub
      have hne : substations ≠ [] := List.ne_nil_of_mem hsub
      by_cases hzero : j = 0
      · subst hzero
        obtain ⟨cell, hcell, hkey, p, hp, hbundle, hiff⟩ :=
          (hfull 0 hle hlt).2.audits_iff pair hrow hsub
        exact ⟨row, hrow, cell, hcell, hkey, p, hp, hbundle,
          hiff.mpr ⟨hroot.mp hfits.2.1, hfits.2.2 hne⟩⟩
      · have hstored := hlater j hzero hle hlt
        obtain ⟨cell, hcell, hkey, p, hp, hbundle, hiff⟩ :=
          (hfull j hle hlt).2.audits_iff pair hstored hsub
        refine ⟨_, hstored, cell, hcell, hkey, p, hp, hbundle,
          hiff.mpr ⟨rfl, ?_⟩⟩
        show Nat.clog 2 (((fullRun substations).call seedTenant j _).rows
          lib).length = _
        rw [rows_length]
        rfl

theorem Operation.Completes.overList {op : Operation F}
    (h : op.Completes substations) : op.OverList substations := by
  cases op with
  | seedData r => exact Complete.overList h
  | hotfixEpoch0 => trivial
  | reseedItaly r => exact Complete.overList h

/-- Before the first operation, with at most a bare row for epoch 0. -/
theorem underway_start (htenant : seedTenant ∈ db.tenants)
    (hrows : ∀ j, j ≠ 0 → db.findEpoch seedTenant j = none)
    (hbare : db.epochCells seedTenant 0 = []) :
    Underway lib pair substations db db where
  tenant := htenant
  others := fun t _ => ⟨rfl, rfl, rfl, rfl⟩
  cells := by
    intro j
    by_cases hj : j = 0
    · exact Or.inl (hj ▸ hbare)
    · refine Or.inl ?_
      rw [Database.epochCells, scan, cellStates_of_no_epoch (hrows j hj)]
      rfl
  epochs := fun j hj => Or.inl (hrows j hj)
  last := by
    intro j hj
    have hcount : (0 : Int) < epochCount := by decide
    exact hrows j (by omega)

variable (lib pair)

/-- **When the seed tenant ends well.**  Take any sequence of runs, hotfixes and
reseeds, the runs over one list and stopped anywhere, and a last operation that
is not interrupted.  The sequence goes through, touches no other tenant, and
stores the list at every epoch.  The chain is linked and every audit accepted
exactly when epoch 0 was deleted on the way or its early row fits. -/
theorem operations_consistent_iff
    (hdistinct : (substations.map Substation.h3).Nodup)
    (htenant : seedTenant ∈ db.tenants)
    (hrows : ∀ j, j ≠ 0 → db.findEpoch seedTenant j = none)
    (hbare : db.epochCells seedTenant 0 = []) (ops : List (Operation F))
    (hops : ∀ op ∈ ops, op.OverList substations) (last : Operation F)
    (hlast : last.Completes substations) :
    ∃ db', run (operationStep lib pair) db (ops ++ [last]) = some db' ∧
      (∀ t, t ≠ seedTenant → AgreeOn t db db') ∧
      (∀ j : Int, 0 ≤ j → j < epochCount →
        Filled lib substations seedTenant db' j) ∧
      (Consistent pair substations db' ↔
        (∃ op ∈ ops ++ [last], op.Deletes) ∨
          ∀ row, db.findEpoch seedTenant 0 = some row →
            FitsGenesis lib pair substations row) := by
  have hstart : Underway lib pair substations db db :=
    underway_start htenant hrows hbare
  obtain ⟨t, ht, hunder, hclean, hkept⟩ := run_underway hdistinct hstart hops
  obtain ⟨db', hok, hdone⟩ :=
    operate_underway hdistinct hunder hlast.overList
  have hfull := hdone.complete hlast
  have hrun : run (operationStep lib pair) db (ops ++ [last]) = some db' := by
    rw [run_concat, ht, Option.bind_some, operationStep, hok]
  refine ⟨db', hrun, hdone.underway.others, fun j hle hlt => (hfull j hle hlt).2,
    ?_⟩
  obtain ⟨row, hrow⟩ := Option.isSome_iff_exists.mp
    (hfull 0 (Int.le_refl 0) (by decide)).1
  rw [consistent_iff hdone.underway hfull hrow]
  have hlist : FitsGenesis lib pair substations
      (listEpoch lib pair substations 0) := by
    refine ⟨rfl, rfl, fun _ => ?_⟩
    show Nat.clog 2 (((fullRun substations).call seedTenant 0 _).rows
      lib).length = _
    rw [rows_length]
    rfl
  have hfits : Clean lib pair substations db' →
      FitsGenesis lib pair substations row := by
    rintro (hnone | hsome)
    · rw [hrow] at hnone
      cases hnone
    · rw [hrow] at hsome
      cases hsome
      exact hlist
  by_cases hdeleted : ∃ op ∈ ops ++ [last], op.Deletes
  · refine iff_of_true (hfits ?_) (Or.inl hdeleted)
    obtain ⟨op, hop, hdeletes⟩ := hdeleted
    obtain hop | hop := List.mem_append.mp hop
    · exact hdone.clean (Or.inr (hclean (Or.inl ⟨op, hop, hdeletes⟩)))
    · rw [List.mem_singleton] at hop
      exact hdone.clean (Or.inl (hop ▸ hdeletes))
  · rw [or_iff_right hdeleted]
    have hnone : ∀ op ∈ ops, ¬ op.Deletes := fun op hop hdeletes =>
      hdeleted ⟨op, List.mem_append_left _ hop, hdeletes⟩
    have hlastNone : ¬ last.Deletes := fun hdeletes =>
      hdeleted ⟨last, List.mem_append_right _ (List.mem_singleton_self _),
        hdeletes⟩
    cases hearly : db.findEpoch seedTenant 0 with
    | none =>
        refine iff_of_true (hfits (hdone.clean (Or.inr ?_))) ?_
        · exact hclean (Or.inr (Or.inl hearly))
        · intro early hsome
          cases hsome
    | some early =>
        have hsame := hdone.kept hlastNone early (hkept hnone early hearly)
        rw [hrow] at hsame
        cases hsame
        constructor
        · rintro h _ ⟨⟩
          exact h
        · exact fun h => h row rfl

end Operations

/-! ## The early row -/

/-- The row that an early migration put in for epoch 0. -/
def placeholderEpoch : EpochRow where
  tenantId := seedTenant
  epochId := 0
  sealedAt := 0
  merkleRoot := HexBytes.zero 32
  parentRoot := none
  cellCount := 0

/-- Without the hotfix the audits fail, and with it they do not. -/
theorem operations_consistent_placeholder :
    ∃ db, (Database.migrated Int [seedTenant]).insertEpoch placeholderEpoch =
        .ok db ∧
      (∃ db', run (operationStep checksumLibraries checksumPair) db
          [.seedData ⟨threeCells, epochCount, 0⟩] = some db' ∧
        ¬ Consistent checksumPair
          threeCells db') ∧
      ∃ db', run (operationStep checksumLibraries checksumPair) db
          [.seedData ⟨threeCells, 3, 0⟩, .hotfixEpoch0,
            .seedData ⟨threeCells, epochCount, 0⟩] = some db' ∧
        Consistent checksumPair threeCells db' := by
  obtain ⟨db, hok, htenants, hepochs, hcells⟩ := insertEpoch_ok
    (Database.migrated Int [seedTenant]) placeholderEpoch List.not_mem_nil
    List.mem_cons_self
  have htenant : seedTenant ∈ db.tenants := htenants ▸ List.mem_cons_self
  have hrow : db.findEpoch seedTenant 0 = some placeholderEpoch := by
    rw [Database.findEpoch, hepochs]
    rfl
  have hrows : ∀ j, j ≠ 0 → db.findEpoch seedTenant j = none := by
    intro j hj
    rw [findEpoch_eq_none_iff, hepochs]
    intro hmem
    exact hj (Prod.mk.inj (List.mem_singleton.mp hmem)).2
  have hbare : db.epochCells seedTenant 0 = [] := by
    rw [Database.epochCells, hcells]
    rfl
  have hdistinct : (threeCells.map Substation.h3).Nodup :=
    by decide
  have hcomplete : Complete threeCells
      ⟨threeCells, epochCount, 0⟩ := ⟨rfl, rfl⟩
  obtain ⟨db₁, hrun₁, -, -, hiff₁⟩ := operations_consistent_iff
    checksumLibraries checksumPair hdistinct htenant hrows hbare
    [] (fun op hop => absurd hop List.not_mem_nil)
    (.seedData ⟨threeCells, epochCount, 0⟩) hcomplete
  obtain ⟨db₂, hrun₂, -, -, hiff₂⟩ := operations_consistent_iff
    checksumLibraries checksumPair hdistinct htenant hrows hbare
    [.seedData ⟨threeCells, 3, 0⟩, .hotfixEpoch0]
    (by
      intro op hop
      obtain rfl | hop := List.mem_cons.mp hop
      · exact ⟨rfl, by decide⟩
      · obtain rfl := List.mem_singleton.mp hop
        trivial)
    (.seedData ⟨threeCells, epochCount, 0⟩) hcomplete
  refine ⟨db, hok, ⟨db₁, hrun₁, ?_⟩, db₂, hrun₂, ?_⟩
  · rw [hiff₁]
    rintro (⟨op, hop, hdeletes⟩ | hfits)
    · obtain rfl := List.mem_singleton.mp hop
      exact hdeletes
    · have hroot := (hfits _ hrow).2.1
      revert hroot
      decide +kernel
  · exact hiff₂.mpr (Or.inl ⟨.hotfixEpoch0, by simp, trivial⟩)

end RenderEngine.Ports.SeedOps
