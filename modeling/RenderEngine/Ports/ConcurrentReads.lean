import RenderEngine.Ports.SealedEpochs
import RenderEngine.Verified.FullTree

/-!
# Provenance bundles under concurrent commits

The transaction of `get_provenance` runs at READ COMMITTED, so what commits
between two of its statements is seen by the later ones.  Two programs
commit: the seeder, which only adds rows, and `reseed_italy.sh`, which first
deletes every cell and epoch of the seed tenant.

`Unmixed` is the exact condition on the rows the statements read.  It holds in
every interleaving without a delete of the bundle's tenant, and fails when the
cell is read before a delete and the epoch after the new seeding.

## Main results

* `getProvenance_interleaved`: a bundle proves its cell exactly when the reads
  are `Unmixed`, and always when no delete of its tenant intervenes.
* `not_reconstructs_after_reseed`: a bundle mixed by a reseed.
-/

namespace RenderEngine.Ports.ConcurrentReads

open RenderEngine.Ports.CoreTypes
open RenderEngine.Ports.Schema
open RenderEngine.Ports.MerkleProof
open RenderEngine.Ports.PostgresClient
open RenderEngine.Ports.SeedWriter
open RenderEngine.Ports.SealedEpochs
open RenderEngine.Verified.KeyedRows
open RenderEngine.Verified.StepRun
open RenderEngine.Verified.PairTree
open RenderEngine.Verified.FullTree

/-! ## What other transactions commit -/

/-- `seed_tenant` of the reseed script. -/
def seedTenant : TenantId := ⟨1⟩

/-- The rows of one tenant are deleted, cells before epochs; the attestations
of a cell go with it. -/
def clearTenant {N : Type} (tenant : TenantId) (db : Database N) :
    Database N where
  tenants := db.tenants
  epochs := db.epochs.filter fun r => r.tenantId ≠ tenant
  cellStates := db.cellStates.filter fun r => r.tenantId ≠ tenant
  attestations := db.attestations.filter fun r => r.tenantId ≠ tenant
  epochs_pkey := (List.filter_sublist.map _).nodup db.epochs_pkey
  epochs_tenant_fkey := fun r hr =>
    db.epochs_tenant_fkey r (List.mem_filter.mp hr).1
  cellStates_pkey := (List.filter_sublist.map _).nodup db.cellStates_pkey
  cellStates_epoch_fkey := by
    intro r hr
    rcases List.mem_filter.mp hr with ⟨hmem, hother⟩
    rcases List.mem_map.mp (db.cellStates_epoch_fkey r hmem) with
      ⟨row, hrow, hkey⟩
    refine List.mem_map.mpr ⟨row, List.mem_filter.mpr ⟨hrow, ?_⟩, hkey⟩
    rw [show row.tenantId = r.tenantId from (Prod.mk.inj hkey).1]
    exact hother
  attestations_pkey := (List.filter_sublist.map _).nodup db.attestations_pkey
  attestations_cell_fkey := by
    intro r hr
    rcases List.mem_filter.mp hr with ⟨hmem, hother⟩
    rcases List.mem_map.mp (db.attestations_cell_fkey r hmem) with
      ⟨row, hrow, hkey⟩
    refine List.mem_map.mpr ⟨row, List.mem_filter.mpr ⟨hrow, ?_⟩, hkey⟩
    rw [show row.tenantId = r.tenantId from (Prod.mk.inj hkey).1]
    exact hother

/-- A transaction that commits. -/
inductive Commit (F : Type) where
  /-- One `write_epoch` of the seeder. -/
  | writeEpoch (call : EpochCall F)
  /-- The deletes of `reseed_italy.sh`. -/
  | reseedClear

/-- The commit deletes rows of the tenant. -/
def Commit.Clears {F : Type} (tenant : TenantId) : Commit F → Prop
  | .writeEpoch _ => False
  | .reseedClear => tenant = seedTenant

section Interleavings

variable {F N : Type} (lib : Libraries F N)
variable (pair : HexBytes32 → HexBytes32 → HexBytes32)

/-- The database after a commit. -/
def commitStep (db : Database N) : Commit F → Option (Database N)
  | .writeEpoch call => commit lib pair db call
  | .reseedClear => some (clearTenant seedTenant db)

/-- The proof and the leaf index of a bundle lead from its cell's content hash
to its epoch's root. -/
def Reconstructs (p : Provenance N) : Prop :=
  verifyProof pair p.cellState.contentHash p.leafIndex
    p.epoch.cellCount.toNat p.merkleProof p.epoch.merkleRoot = true

/-! ## The rows a call reads -/

section Reads

variable (db₁ db₂ db₃ db₄ : Database N)
variable (tenant : TenantId) (h3 : H3Cell) (epoch : EpochId)

/-- The content hash the first statement reads, put at its leaf among those
the fourth one reads, has the root the third one reads. -/
def Unmixed : Prop :=
  ∀ cell epochRow i, selectCell db₁ tenant h3 epoch = some cell →
    db₃.findEpoch tenant epoch.val = some epochRow →
    (db₄.epochCells tenant epoch.val).findIdx?
      (fun r => r.h3Cell == h3.asI64) = some i →
    merkleRoot pair (HexBytes.zero 32)
      ((filled (HexBytes.zero 32)
        (leafHashes db₄ tenant epoch.val)).set i cell.contentHash) =
      .ok epochRow.merkleRoot

variable {db₁ db₃ db₄ tenant h3 epoch}

/-- With its three rows found the call returns a bundle, which proves its cell
exactly when the hash in place of its leaf has the root. -/
theorem reconstructs_iff_of_found {cell : CellStateRow N}
    {epochRow : EpochRow} {i : Nat}
    (hcell : selectCell db₁ tenant h3 epoch = some cell)
    (hepoch : db₃.findEpoch tenant epoch.val = some epochRow)
    (hleaf : (db₄.epochCells tenant epoch.val).findIdx?
      (fun r => r.h3Cell == h3.asI64) = some i) :
    ∃ p, getProvenanceFrom pair db₁ db₂ db₃ db₄ tenant h3 epoch = .ok p ∧
      (Reconstructs pair p ↔
        merkleRoot pair (HexBytes.zero 32)
          ((filled (HexBytes.zero 32)
            (leafHashes db₄ tenant epoch.val)).set i cell.contentHash) =
          .ok epochRow.merkleRoot) := by
  have hi : i < (leafHashes db₄ tenant epoch.val).length := by
    rw [leafHashes_length]
    exact (List.findIdx?_eq_some_iff_getElem.mp hleaf).1
  have hset := root?_filled_set pair (HexBytes.zero 32)
    (List.length_pos_iff.mp (by omega)) cell.contentHash hi
  have hne : (filled (HexBytes.zero 32)
      (leafHashes db₄ tenant epoch.val)).set i cell.contentHash ≠ [] := by
    intro hnil
    rw [hnil] at hset
    cases hset
  rcases merkleRoot_spec pair (HexBytes.zero 32) _ hne with ⟨r, hr, hok⟩
  rw [hset, leafHashes_length, Option.some.injEq] at hr
  refine ⟨_, getProvenanceFrom_ok pair hcell hepoch hleaf, ?_⟩
  rw [hok, Except.ok.injEq, ← hr]
  exact verifyProof_eq_true_iff pair _ _ _ _ _

/-- Every bundle of a call proves its cell exactly when its reads are
`Unmixed`. -/
theorem reconstructs_iff_unmixed :
    (∀ p, getProvenanceFrom pair db₁ db₂ db₃ db₄ tenant h3 epoch = .ok p →
      Reconstructs pair p) ↔ Unmixed pair db₁ db₃ db₄ tenant h3 epoch := by
  constructor
  · intro h cell epochRow i hcell hepoch hleaf
    rcases reconstructs_iff_of_found pair db₂ hcell hepoch hleaf with
      ⟨p, hp, hiff⟩
    exact hiff.mp (h p hp)
  · intro h p hp
    rcases getProvenanceFrom_found pair hp with
      ⟨cell, epochRow, i, hcell, hepoch, hleaf⟩
    rcases reconstructs_iff_of_found pair db₂ hcell hepoch hleaf with
      ⟨p', hp', hiff⟩
    rw [hp, Except.ok.injEq] at hp'
    rw [hp']
    exact hiff.mpr (h cell epochRow i hcell hepoch hleaf)

end Reads

/-! ## Commits that leave every epoch sealed -/

/-- Another tenant's cells are left alone. -/
theorem epochCells_clearTenant {tenant t : TenantId} (hne : t ≠ tenant)
    (db : Database N) (epochId : Int) :
    (clearTenant tenant db).epochCells t epochId = db.epochCells t epochId := by
  show scan _ _ (db.cellStates.filter _) = scan _ _ db.cellStates
  rw [scan, scan, List.filter_filter]
  congr 1
  apply List.filter_congr
  intro r _
  by_cases hkey : r.epochKey = (t, epochId)
  · have ht : r.tenantId = t := (Prod.mk.inj hkey).1
    simp [hkey, ht, hne]
  · simp [hkey]

theorem findEpoch_clearTenant (tenant : TenantId) (db : Database N)
    (epochId : Int) :
    (clearTenant tenant db).findEpoch tenant epochId = none := by
  rw [findEpoch_eq_none_iff]
  intro hmem
  rcases List.mem_map.mp hmem with ⟨r, hr, hkey⟩
  have hother := (List.mem_filter.mp hr).2
  rw [decide_eq_true_eq] at hother
  exact hother (Prod.mk.inj hkey).1

/-- The script deletes an epoch with all of its cells. -/
theorem clearTenant_sealed {tenant : TenantId} {db : Database N}
    (h : Sealed pair db) : Sealed pair (clearTenant tenant db) := by
  intro row hrow
  rcases List.mem_filter.mp hrow with ⟨hmem, hother⟩
  rw [decide_eq_true_eq] at hother
  have hcells := epochCells_clearTenant hother db row.epochId
  have hold := h row hmem
  refine { root := ?_, count := ?_ }
  · simpa only [leafHashes, hcells] using hold.root
  · simpa only [hcells] using hold.count

/-- The condition under which a commit leaves every epoch sealed. -/
def CommitSealing (db : Database N) : Commit F → Prop
  | .writeEpoch call => Sealing db call
  | .reseedClear => True

/-- Every state a run of commits reaches is sealed exactly when its calls are
`Sealing`. -/
theorem sealed_throughout_commits_iff {db : Database N} (hs : Sealed pair db)
    (commits : List (Commit F)) :
    Throughout (commitStep lib pair) (Sealed pair) db commits ↔
      StepsMeet (commitStep lib pair) CommitSealing db commits := by
  apply throughout_iff_stepsMeet
  · intro db c db' hP hstep
    cases c with
    | writeEpoch call =>
        obtain ⟨root, hcommit⟩ := (commit_eq_some_iff lib pair).mp hstep
        exact sealed_step_iff hP hcommit
    | reseedClear =>
        cases hstep
        exact iff_of_true (clearTenant_sealed pair hP) trivial
  · exact hs

/-! ## Rows that no commit takes away -/

/-- The tenant's rows of `db` are rows of `db'`. -/
structure Kept (tenant : TenantId) (db db' : Database N) : Prop where
  epochs : ∀ r ∈ db.epochs, r.tenantId = tenant → r ∈ db'.epochs
  cells : ∀ r ∈ db.cellStates, r.tenantId = tenant → r ∈ db'.cellStates

variable {lib pair} {tenant : TenantId}

theorem Kept.refl (db : Database N) : Kept tenant db db where
  epochs := fun _ hr _ => hr
  cells := fun _ hr _ => hr

theorem Kept.trans {db db' db'' : Database N} (h : Kept tenant db db')
    (h' : Kept tenant db' db'') : Kept tenant db db'' where
  epochs := fun r hr ht => h'.epochs r (h.epochs r hr ht) ht
  cells := fun r hr ht => h'.cells r (h.cells r hr ht) ht

/-- The seeder only adds rows, and the script deletes one tenant's. -/
theorem commitStep_kept {db db' : Database N} {c : Commit F}
    (h : commitStep lib pair db c = some db') (hc : ¬ c.Clears tenant) :
    Kept tenant db db' := by
  cases c with
  | writeEpoch call =>
      obtain ⟨root, hcommit⟩ := (commit_eq_some_iff lib pair).mp h
      have hcases := writeEpoch_cases lib pair hcommit
      refine { epochs := ?_, cells := ?_ }
      · intro r hr _
        rcases hcases.2.2.2 with ⟨-, hepochs⟩ | ⟨-, hepochs⟩
        · exact hepochs ▸ hr
        · rw [hepochs]
          exact List.mem_append_left _ hr
      · intro r hr _
        rw [hcases.2.2.1]
        exact (prefix_insertAll CellStateRow.key _ _).subset hr
  | reseedClear =>
      cases h
      have hother : ∀ t : TenantId, t = tenant → decide (t ≠ seedTenant) = true :=
        fun t ht => by rw [decide_eq_true_eq, ht]; exact hc
      exact {
        epochs := fun r hr ht => List.mem_filter.mpr ⟨hr, hother _ ht⟩
        cells := fun r hr ht => List.mem_filter.mpr ⟨hr, hother _ ht⟩ }

theorem run_kept {db db' : Database N} {commits : List (Commit F)}
    (h : run (commitStep lib pair) db commits = some db')
    (hnone : ∀ c ∈ commits, ¬ c.Clears tenant) : Kept tenant db db' :=
  run_rel (commitStep lib pair) Kept.refl (fun _ _ _ => Kept.trans)
    (fun _ _ _ hc hstep => commitStep_kept hstep hc) h hnone

/-- Rows of one epoch that stay where they are do not mix. -/
theorem unmixed_of_kept {db₁ db₃ db₄ : Database N} {h3 : H3Cell}
    {epoch : EpochId} (hkept₃ : Kept tenant db₁ db₃)
    (hkept₄ : Kept tenant db₁ db₄) (hsealed : Sealed pair db₄) :
    Unmixed pair db₁ db₃ db₄ tenant h3 epoch := by
  intro cell epochRow i hcell hepoch hleaf
  have hmem := (findKey_eq_some_iff db₁.cellStates_pkey _ cell).mp hcell
  have hkey : cell.tenantId = tenant ∧ cell.h3Cell = h3.asI64 ∧
      cell.epochId = epoch.val := by
    simpa [CellStateRow.key] using hmem.2
  -- the cell's epoch stood in the first database, so it is the row read third
  rcases List.mem_map.mp (db₁.cellStates_epoch_fkey cell hmem.1) with
    ⟨row, hrow, hrowkey⟩
  have hrowkey' : row.key = (tenant, epoch.val) := by
    rw [hrowkey, CellStateRow.epochKey, hkey.1, hkey.2.2]
  have hrowtenant : row.tenantId = tenant := (Prod.mk.inj hrowkey').1
  have hsame : db₃.findEpoch tenant epoch.val = some row :=
    (findEpoch_eq_some_iff db₃ _ _ row).mpr
      ⟨hkept₃.epochs row hrow hrowtenant, hrowkey'⟩
  obtain rfl : row = epochRow := Option.some.inj (hsame.symm.trans hepoch)
  have hroot := (hsealed row (hkept₄.epochs row hrow hrowtenant)).root
  rw [hrowtenant, (Prod.mk.inj hrowkey').2] at hroot
  -- and the cell is the leaf read fourth
  rcases leafIndex_of_stored (hkept₄.cells cell hmem.1 hkey.1) hmem.2 with
    ⟨i', hi', hhash⟩
  obtain rfl : i' = i := Option.some.inj (hi'.symm.trans hleaf)
  have haudit := verifyProof_path pair hhash hroot row.cellCount.toNat
  rw [leafHashes_length] at haudit
  rcases reconstructs_iff_of_found pair db₁ hcell hepoch hleaf with
    ⟨p, hp, hiff⟩
  apply hiff.mp
  rw [getProvenanceFrom_ok pair hcell hepoch hleaf, Except.ok.injEq] at hp
  rw [← hp]
  exact haudit.1

/-- **A bundle under concurrent commits proves its cell exactly when its reads
are `Unmixed`, which they are unless a delete of its tenant commits between
the first and the last of them.** -/
theorem getProvenance_interleaved (tenant : TenantId) (h3 : H3Cell)
    (epoch : EpochId) {db₁ db₂ db₃ db₄ : Database N}
    {before₂ before₃ before₄ : List (Commit F)}
    (h₂ : run (commitStep lib pair) db₁ before₂ = some db₂)
    (h₃ : run (commitStep lib pair) db₂ before₃ = some db₃)
    (h₄ : run (commitStep lib pair) db₃ before₄ = some db₄)
    (hsealed : Throughout (commitStep lib pair) (Sealed pair) db₁
      (before₂ ++ before₃ ++ before₄)) :
    ((∀ p, getProvenanceFrom pair db₁ db₂ db₃ db₄ tenant h3 epoch = .ok p →
        Reconstructs pair p) ↔ Unmixed pair db₁ db₃ db₄ tenant h3 epoch) ∧
    ((∀ c ∈ before₂ ++ before₃ ++ before₄, ¬ c.Clears tenant) →
      ∀ p, getProvenanceFrom pair db₁ db₂ db₃ db₄ tenant h3 epoch = .ok p →
        Reconstructs pair p) := by
  refine ⟨reconstructs_iff_unmixed pair db₂, ?_⟩
  intro hnone
  have h₁₃ : run (commitStep lib pair) db₁ (before₂ ++ before₃) = some db₃ := by
    rw [run_append, h₂]
    exact h₃
  have h₁₄ : run (commitStep lib pair) db₁ (before₂ ++ before₃ ++ before₄) =
      some db₄ := by
    rw [run_append, h₁₃]
    exact h₄
  apply (reconstructs_iff_unmixed pair db₂).mpr
  apply unmixed_of_kept
  · exact run_kept h₁₃ fun c hc => hnone c (List.mem_append_left _ hc)
  · exact run_kept h₁₄ hnone
  · exact hsealed _ List.prefix_rfl db₄ h₁₄

end Interleavings

/-! ## A reseed between the first statement and the second -/

/-- The seed tenant's epoch 0 over another substation in the same cell. -/
def otherCall : EpochCall Int :=
  ⟨seedTenant, 0, epochSealedAt 0, none, [bareSubstation "b" 5], 0⟩

/-- The script's delete and the new seeding. -/
def reseed : List (Commit Int) := [.reseedClear, .writeEpoch otherCall]

private theorem reseed_sealed {db : Database Int}
    (h : Sealed checksumPair db) :
    Throughout (commitStep checksumLibraries checksumPair)
      (Sealed checksumPair) db reseed := by
  rw [sealed_throughout_commits_iff checksumLibraries checksumPair h]
  rw [reseed, stepsMeet_cons]
  rintro cleared ⟨⟩
  refine ⟨trivial, (stepsMeet_cons _ _ _ _ _).mpr ?_⟩
  intro db' _
  refine ⟨?_, stepsMeet_nil _ _ _⟩
  have hnone := findEpoch_clearTenant seedTenant db 0
  show Sealing (clearTenant seedTenant db) otherCall
  unfold Sealing otherCall
  rw [hnone]
  exact List.nodup_singleton _

/-- The first list is seeded, and the script runs. -/
private theorem exists_reseeded :
    ∃ db₁ db₂,
      run (commitStep checksumLibraries checksumPair)
        (Database.migrated Int [seedTenant]) [.writeEpoch firstCall] =
        some db₁ ∧
      run (commitStep checksumLibraries checksumPair) db₁ reseed = some db₂ ∧
      Throughout (commitStep checksumLibraries checksumPair)
        (Sealed checksumPair) db₁ reseed := by
  rcases writeEpoch_ok checksumLibraries checksumPair
    (Database.migrated Int [seedTenant]) firstCall List.mem_cons_self with
    ⟨db₁, root, hfirst⟩
  have hsealed : Sealed checksumPair db₁ :=
    (sealed_step_iff (by simp [Sealed, Database.migrated]) hfirst).mpr
      (List.nodup_singleton _)
  have htenant : seedTenant ∈ (clearTenant seedTenant db₁).tenants := by
    show seedTenant ∈ db₁.tenants
    rw [(writeEpoch_cases checksumLibraries checksumPair hfirst).2.1]
    exact List.mem_cons_self
  rcases writeEpoch_ok checksumLibraries checksumPair
    (clearTenant seedTenant db₁) otherCall htenant with ⟨db₂, root', hother⟩
  refine ⟨db₁, db₂, ?_, ?_, reseed_sealed hsealed⟩
  · rw [run_cons, commitStep, commit, hfirst]
    rfl
  · rw [reseed, run_cons, commitStep, Option.bind_some, run_cons, commitStep,
      commit, hother]
    rfl

/-- The next epoch of the first list. -/
def nextCall : EpochCall Int :=
  ⟨seedTenant, 1, epochSealedAt 1, none, [bareSubstation "a" 5], 0⟩

/-- The first list is seeded, and then its next epoch. -/
private theorem exists_continued :
    ∃ db₁ db₂ : Database Int,
      run (commitStep checksumLibraries checksumPair) db₁
        [.writeEpoch nextCall] = some db₂ ∧
      Throughout (commitStep checksumLibraries checksumPair)
        (Sealed checksumPair) db₁ [.writeEpoch nextCall] ∧
      ∃ cell, selectCell db₁ seedTenant ⟨5⟩ ⟨0⟩ = some cell := by
  rcases writeEpoch_ok checksumLibraries checksumPair
    (Database.migrated Int [seedTenant]) firstCall List.mem_cons_self with
    ⟨db₁, root, hfirst⟩
  obtain ⟨-, htenants, hcells, hepochs⟩ :=
    writeEpoch_cases checksumLibraries checksumPair hfirst
  have hepochs₁ : db₁.epochs = [firstCall.epochRow checksumLibraries root] := by
    rcases hepochs with ⟨⟨r, hr⟩, -⟩ | ⟨-, hepochs⟩
    · cases hr
    · exact hepochs
  have hsealed : Sealed checksumPair db₁ :=
    (sealed_step_iff (by simp [Sealed, Database.migrated]) hfirst).mpr
      (List.nodup_singleton _)
  have htenant : seedTenant ∈ db₁.tenants := by
    rw [htenants]
    exact List.mem_cons_self
  have hnone : db₁.findEpoch seedTenant 1 = none := by
    rw [Database.findEpoch, hepochs₁]
    rfl
  rcases writeEpoch_ok checksumLibraries checksumPair db₁ nextCall htenant with
    ⟨db₂, root', hnext⟩
  refine ⟨db₁, db₂, ?_, ?_, ?_⟩
  · rw [run_cons, commitStep, commit, hnext]
    rfl
  · rw [sealed_throughout_commits_iff checksumLibraries checksumPair hsealed,
      stepsMeet_cons]
    refine fun _ _ => ⟨?_, stepsMeet_nil _ _ _⟩
    show Sealing db₁ nextCall
    unfold Sealing nextCall
    rw [hnone]
    exact List.nodup_singleton _
  · rw [selectCell, hcells]
    exact ⟨_, rfl⟩

/-- A reseed between the statements, and an epoch more between them. -/
theorem getProvenance_interleaved_reseed :
    (∃ db₁ db₂,
      run (commitStep checksumLibraries checksumPair) db₁ reseed = some db₂ ∧
      ((∀ p, getProvenanceFrom checksumPair db₁ db₂ db₂ db₂ seedTenant ⟨5⟩ ⟨0⟩ =
          .ok p → Reconstructs checksumPair p) ↔
        Unmixed checksumPair db₁ db₂ db₂ seedTenant ⟨5⟩ ⟨0⟩)) ∧
    ∃ db₁ db₂,
      run (commitStep checksumLibraries checksumPair) db₁
        [.writeEpoch nextCall] = some db₂ ∧
      (∃ cell, selectCell db₁ seedTenant ⟨5⟩ ⟨0⟩ = some cell) ∧
      ∀ p, getProvenanceFrom checksumPair db₁ db₂ db₂ db₂ seedTenant ⟨5⟩ ⟨0⟩ =
        .ok p → Reconstructs checksumPair p := by
  constructor
  · rcases exists_reseeded with ⟨db₁, db₂, -, hreseed, hsealed⟩
    exact ⟨db₁, db₂, hreseed, (getProvenance_interleaved seedTenant ⟨5⟩ ⟨0⟩
      hreseed rfl rfl (by rwa [List.append_nil, List.append_nil])).1⟩
  · rcases exists_continued with ⟨db₁, db₂, hnext, hsealed, hcell⟩
    refine ⟨db₁, db₂, hnext, hcell, (getProvenance_interleaved seedTenant ⟨5⟩
      ⟨0⟩ hnext rfl rfl (by rwa [List.append_nil, List.append_nil])).2 ?_⟩
    intro c hc
    obtain rfl := List.mem_singleton.mp hc
    exact id

/-- The cell is read before the reseed and the epoch after it: the call
returns, and its proof, of no sibling, does not lead from the old hash to the
new root. -/
theorem not_reconstructs_after_reseed :
    ∃ db₁ db₂ p,
      run (commitStep checksumLibraries checksumPair)
        (Database.migrated Int [seedTenant]) [.writeEpoch firstCall] =
        some db₁ ∧
      run (commitStep checksumLibraries checksumPair) db₁ reseed = some db₂ ∧
      Throughout (commitStep checksumLibraries checksumPair)
        (Sealed checksumPair) db₁ reseed ∧
      getProvenanceFrom checksumPair db₁ db₂ db₂ db₂ seedTenant ⟨5⟩ ⟨0⟩ =
        .ok p ∧
      ¬ Reconstructs checksumPair p := by
  rcases exists_reseeded with ⟨db₁, db₂, hfirst, hreseed, hsealed⟩
  have hbundle : ((run (commitStep checksumLibraries checksumPair)
      (Database.migrated Int [seedTenant]) [.writeEpoch firstCall]).bind
      fun db₁ => (run (commitStep checksumLibraries checksumPair) db₁
        reseed).bind fun db₂ =>
        match getProvenanceFrom checksumPair db₁ db₂ db₂ db₂ seedTenant ⟨5⟩
          ⟨0⟩ with
        | .ok p => some (verifyProof checksumPair p.cellState.contentHash
            p.leafIndex p.epoch.cellCount.toNat p.merkleProof
            p.epoch.merkleRoot)
        | .error _ => none) = some false := by
    decide +kernel
  rw [hfirst, Option.bind_some, hreseed, Option.bind_some] at hbundle
  split at hbundle
  · next p hp =>
      refine ⟨db₁, db₂, p, hfirst, hreseed, hsealed, hp, ?_⟩
      rw [Reconstructs, Option.some.inj hbundle]
      decide
  · cases hbundle

end RenderEngine.Ports.ConcurrentReads
