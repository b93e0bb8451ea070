import RenderEngine.Ports.PostgresClient
import RenderEngine.Ports.SeedWriter
import RenderEngine.Verified.StepRun

/-!
# Sealed epochs and the audit of their cells

An epoch row is sealed when its root and count are those of the cell rows
stored under it; the seeder writes the two from one list, the server reads
them from two tables.  A sealed epoch is what makes `get_provenance` and
`verify_proof` agree.

`write_epoch` keeps an existing epoch row and still adds the cells that are
missing, so it seals or unseals depending on what is there: `Sealing` is the
condition on the database before the call and the call's list.

## Main results

* `getProvenance_of_sealed`: every cell of a sealed epoch has an accepted
  proof.
* `writeEpoch_audit`: a call for a new epoch with distinct cells seals it.
* `sealed_step_iff`: a call keeps all epochs sealed exactly when it is
  `Sealing`.
* `sealed_throughout_iff`: so does a run of calls.
-/

namespace RenderEngine.Ports.SealedEpochs

open RenderEngine.Ports.CoreTypes
open RenderEngine.Ports.Serde
open RenderEngine.Ports.Schema
open RenderEngine.Ports.MerkleProof
open RenderEngine.Ports.PostgresClient
open RenderEngine.Ports.SeedWriter
open RenderEngine.Verified.KeyedRows
open RenderEngine.Verified.StepRun
open RenderEngine.Verified.PairTree

section Sealed

variable {N : Type} (pair : HexBytes32 → HexBytes32 → HexBytes32)

/-- The row's root and count are those of the epoch's stored cells. -/
structure EpochSealed (db : Database N) (row : EpochRow) : Prop where
  root : merkleRoot pair (HexBytes.zero 32)
    (leafHashes db row.tenantId row.epochId) = .ok row.merkleRoot
  count : row.cellCount = (db.epochCells row.tenantId row.epochId).length

/-- The bundle's proof has one sibling for each layer over `cell_count`
leaves, and the library's verifier accepts it. -/
structure Audits (p : Provenance N) : Prop where
  length : p.merkleProof.length = Nat.clog 2 p.epoch.cellCount.toNat
  accepted : verifyProof pair p.cellState.contentHash p.leafIndex
    p.epoch.cellCount.toNat p.merkleProof p.epoch.merkleRoot = true

/-- The bundle is that of a stored cell, under the row of its epoch. -/
structure BundleOf (db : Database N) (h3 : H3Cell) (cell : CellStateRow N)
    (row : EpochRow) (p : Provenance N) : Prop where
  tenantId : p.tenantId = row.tenantId
  h3Cell : p.h3Cell = h3
  epochId : p.epochId = ⟨row.epochId⟩
  cellState : p.cellState = cellStateOf cell
  attestations : p.attestations =
    (selectAttestations db row.tenantId h3 ⟨row.epochId⟩).map attestationOf
  epoch : p.epoch = epochOf row
  leaf : (leafHashes db row.tenantId row.epochId)[p.leafIndex]? =
    some cell.contentHash

/-- `get_provenance` returns, for every cell stored under the epoch row, the
bundle of that cell and that row, with an accepted proof. -/
def Provable (db : Database N) (row : EpochRow) : Prop :=
  ∀ (h3 : H3Cell), ∀ cell ∈ db.cellStates,
    cell.key = (row.tenantId, h3.asI64, row.epochId) →
    ∃ p, getProvenance pair db row.tenantId h3 ⟨row.epochId⟩ = .ok p ∧
      BundleOf db h3 cell row p ∧ Audits pair p

/-- The cell of a key stands among its epoch's cells at the index the server
computes. -/
theorem leafIndex_of_stored {db : Database N} {tenant : TenantId}
    {epochId : Int} {h3 : H3Cell} {cell : CellStateRow N}
    (hmem : cell ∈ db.cellStates)
    (hkey : cell.key = (tenant, h3.asI64, epochId)) :
    ∃ i, (db.epochCells tenant epochId).findIdx?
        (fun r => r.h3Cell == h3.asI64) = some i ∧
      (leafHashes db tenant epochId)[i]? = some cell.contentHash := by
  simp only [CellStateRow.key, Prod.mk.injEq] at hkey
  have hcell : cell ∈ db.epochCells tenant epochId :=
    mem_epochCells.mpr ⟨hmem, by simp [CellStateRow.epochKey, hkey]⟩
  cases hfind : (db.epochCells tenant epochId).findIdx?
      (fun r => r.h3Cell == h3.asI64) with
  | none =>
      have hnone := List.findIdx?_eq_none_iff.mp hfind cell hcell
      simp [hkey.2.1] at hnone
  | some i =>
      refine ⟨i, rfl, ?_⟩
      rw [List.findIdx?_eq_some_iff_getElem] at hfind
      rcases hfind with ⟨hi, hp, -⟩
      have hat := List.getElem_mem hi
      rw [mem_epochCells] at hat
      have heq := hat.2
      simp only [CellStateRow.epochKey, Prod.mk.injEq] at heq
      have hsame := List.inj_on_of_nodup_map db.cellStates_pkey hat.1 hmem
        (by simp [CellStateRow.key, heq, hkey, eq_of_beq hp])
      rw [leafHashes, List.getElem?_map, List.getElem?_eq_getElem hi, hsame]
      rfl

/-- **Every cell of a sealed epoch has an accepted proof.** -/
theorem getProvenance_of_sealed {db : Database N} {row : EpochRow}
    (hrow : row ∈ db.epochs) (hs : EpochSealed pair db row) :
    Provable pair db row := by
  intro h3 cell hmem hkey
  have hcell : selectCell db row.tenantId h3 ⟨row.epochId⟩ = some cell :=
    (findKey_eq_some_iff db.cellStates_pkey _ cell).mpr ⟨hmem, hkey⟩
  have hepoch : db.findEpoch row.tenantId row.epochId = some row :=
    (findEpoch_eq_some_iff db _ _ row).mpr ⟨hrow, rfl⟩
  rcases leafIndex_of_stored hmem hkey with ⟨i, hidx, hleaf⟩
  have hpath := verifyProof_path pair hleaf hs.root row.cellCount.toNat
  have hcount : row.cellCount.toNat =
      (db.epochCells row.tenantId row.epochId).length := by
    rw [hs.count, Int.toNat_natCast]
  rw [leafHashes_length] at hpath
  refine ⟨_, getProvenanceFrom_ok pair hcell hepoch hidx, ?_, ?_⟩
  · exact {
      tenantId := rfl
      h3Cell := rfl
      epochId := rfl
      cellState := rfl
      attestations := rfl
      epoch := rfl
      leaf := hleaf }
  · exact { length := hcount ▸ hpath.2, accepted := hpath.1 }

/-- Every stored epoch row is sealed. -/
def Sealed (db : Database N) : Prop := ∀ row ∈ db.epochs, EpochSealed pair db row

/-- Every stored epoch row is sealed, and so every stored cell has an accepted
proof. -/
def SealedAndProvable (db : Database N) : Prop :=
  Sealed pair db ∧ ∀ row ∈ db.epochs, Provable pair db row

theorem sealedAndProvable_iff (db : Database N) :
    SealedAndProvable pair db ↔ Sealed pair db :=
  ⟨fun h => h.1, fun h => ⟨h, fun row hrow =>
    getProvenance_of_sealed pair hrow (h row hrow)⟩⟩

end Sealed

/-! ## One call -/

section Calls

variable {F N : Type} (lib : Libraries F N)
variable (pair : HexBytes32 → HexBytes32 → HexBytes32)

private theorem cells_keys (call : EpochCall F) :
    (call.cells lib).map CellStateRow.key = call.ordered.map
      (fun sub => (call.tenant, sub.h3.asI64, call.epochId)) := by
  rw [EpochCall.cells, EpochCall.rows, List.map_map, List.map_map]
  rfl

private theorem mem_ordered (call : EpochCall F) (sub : Substation F) :
    sub ∈ call.ordered ↔ sub ∈ call.substations :=
  List.mem_insertionSort _

/-- Every cell of the call is stored exactly when every substation's is. -/
private theorem cells_stored_iff (call : EpochCall F)
    (keys : List (TenantId × Int × Int)) :
    (∀ r ∈ call.cells lib, r.key ∈ keys) ↔
      ∀ sub ∈ call.substations,
        (call.tenant, sub.h3.asI64, call.epochId) ∈ keys := by
  have h := List.forall_mem_map (f := CellStateRow.key)
    (l := call.cells lib) (P := (· ∈ keys))
  rw [← h, cells_keys, List.forall_mem_map]
  simp only [mem_ordered]

/-- The cells of a call have distinct keys exactly when its substations lie in
distinct H3 cells. -/
theorem cells_keysNodup_iff (call : EpochCall F) :
    KeysNodup CellStateRow.key (call.cells lib) ↔
      (call.substations.map Substation.h3).Nodup := by
  have hperm := (List.perm_insertionSort
    (fun a b : Substation F => a.h3.asI64 ≤ b.h3.asI64)
    call.substations).map Substation.h3
  have hinj : Function.Injective
      (fun h : H3Cell => (call.tenant, h.asI64, call.epochId)) := by
    intro a b h
    simp only [Prod.mk.injEq] at h
    exact H3Cell.asI64_injective h.2.1
  rw [KeysNodup, cells_keys, ← hperm.nodup_iff,
    ← List.nodup_map_iff hinj, List.map_map]
  rfl

/-- The cells leave the writer in the order the server reads them. -/
theorem cells_sorted (call : EpochCall F) :
    (call.cells lib).Pairwise (fun a b => a.h3Cell ≤ b.h3Cell) := by
  rw [EpochCall.cells, EpochCall.rows, List.pairwise_map, List.pairwise_map]
  have htotal : Std.Total (fun a b : Substation F => a.h3.asI64 ≤ b.h3.asI64) :=
    ⟨fun a b => le_total a.h3.asI64 b.h3.asI64⟩
  have htrans : IsTrans (Substation F) (fun a b => a.h3.asI64 ≤ b.h3.asI64) :=
    ⟨fun a b c => le_trans⟩
  exact List.pairwise_insertionSort _ call.substations

theorem epochKey_of_key {tenant : TenantId} {epochId : Int}
    (a b : CellStateRow N) (h : a.key = b.key) :
    decide (a.epochKey = (tenant, epochId)) =
      decide (b.epochKey = (tenant, epochId)) := by
  simp only [CellStateRow.key, Prod.mk.injEq] at h
  simp [CellStateRow.epochKey, h.1, h.2.2]

/-- The condition under which a call leaves every epoch sealed.  An existing
epoch must already hold every cell of the list; a new one needs a list of
distinct cells. -/
def Sealing (db : Database N) (call : EpochCall F) : Prop :=
  match db.findEpoch call.tenant call.epochId with
  | some _ => ∀ sub ∈ call.substations,
      (call.tenant, sub.h3.asI64, call.epochId) ∈
        db.cellStates.map CellStateRow.key
  | none => (call.substations.map Substation.h3).Nodup

variable {lib pair} {db db' : Database N} {call : EpochCall F}
  {root : HexBytes32}

/-- The epoch's cells after the call number as many as before exactly when the
whole list was there. -/
private theorem epochCells_length_iff
    (hcells : db'.cellStates =
      insertAll CellStateRow.key db.cellStates (call.cells lib)) :
    (db'.epochCells call.tenant call.epochId).length =
        (db.epochCells call.tenant call.epochId).length ↔
      ∀ sub ∈ call.substations,
        (call.tenant, sub.h3.asI64, call.epochId) ∈
          db.cellStates.map CellStateRow.key := by
  have hiff := insertAll_eq_iff
    (p := fun r : CellStateRow N => r.epochKey = (call.tenant, call.epochId))
    epochKey_of_key db.cellStates
    (fun r hr => by simpa using cells_epochKey lib call hr)
  rw [Database.epochCells, Database.epochCells, scan, scan,
    List.length_insertionSort, List.length_insertionSort, hcells, hiff,
    cells_stored_iff]

/-- Cells of every other epoch are left alone. -/
private theorem epochCells_other
    (hcells : db'.cellStates =
      insertAll CellStateRow.key db.cellStates (call.cells lib))
    {row : EpochRow} (hne : row.key ≠ (call.tenant, call.epochId)) :
    db'.epochCells row.tenantId row.epochId =
      db.epochCells row.tenantId row.epochId := by
  rw [Database.epochCells, Database.epochCells, scan, scan, hcells,
    filter_insertAll_of_disjoint db.cellStates]
  intro r hr
  rw [cells_epochKey lib call hr, decide_eq_false_iff_not]
  exact fun h => hne h.symm

/-- Distinct cells of a new epoch are all stored, in leaf order. -/
theorem epochCells_new
    (hcells : db'.cellStates =
      insertAll CellStateRow.key db.cellStates (call.cells lib))
    (hnew : db.findEpoch call.tenant call.epochId = none)
    (hdistinct : (call.substations.map Substation.h3).Nodup) :
    db'.epochCells call.tenant call.epochId = call.cells lib := by
  rw [Database.epochCells, scan, hcells,
    filter_insertAll_of_fresh epochKey_of_key
      ((cells_keysNodup_iff lib call).mpr hdistinct)
      (fun r hr => by simpa using cells_epochKey lib call hr)
      (cellStates_of_no_epoch hnew)]
  exact (cells_sorted lib call).insertionSort_eq

/-- **A call for a new epoch with distinct cells seals it.** -/
theorem newEpoch_sealed
    (hcommit : writeEpoch lib pair db call = .ok (db', root))
    (hnew : db.findEpoch call.tenant call.epochId = none)
    (hdistinct : (call.substations.map Substation.h3).Nodup) :
    EpochSealed pair db' (call.epochRow lib root) := by
  have hcases := writeEpoch_cases lib pair hcommit
  have hcells := epochCells_new hcases.2.2.1 hnew hdistinct
  refine { root := ?_, count := ?_ }
  · have hhashes : leafHashes db' call.tenant call.epochId =
        call.hashes lib := by
      rw [leafHashes, hcells, cells_hashes]
    exact (congrArg _ hhashes).trans hcases.1
  · change ((call.rows lib).length : Int) =
      (db'.epochCells call.tenant call.epochId).length
    rw [hcells, EpochCall.cells, List.length_map]

/-- **One call keeps every epoch sealed exactly when it is `Sealing`.** -/
theorem sealed_step_iff (hs : Sealed pair db)
    (hcommit : writeEpoch lib pair db call = .ok (db', root)) :
    Sealed pair db' ↔ Sealing db call := by
  have hcases := writeEpoch_cases lib pair hcommit
  have hcells := hcases.2.2.1
  unfold Sealing
  rcases hcases.2.2.2 with ⟨⟨row, hfind⟩, hepochs⟩ | ⟨hnew, hepochs⟩
  · rw [hfind]
    have hrow := (findEpoch_eq_some_iff db _ _ row).mp hfind
    constructor
    · intro hs'
      have hcount := (hs row hrow.1).count
      have hcount' := (hs' row (hepochs ▸ hrow.1)).count
      have hkey : row.tenantId = call.tenant ∧ row.epochId = call.epochId :=
        Prod.mk.inj hrow.2
      rw [hkey.1, hkey.2] at hcount hcount'
      exact (epochCells_length_iff hcells).mp (by omega)
    · intro hpresent r hr
      have hsame : db'.cellStates = db.cellStates := by
        rw [hcells]
        apply insertAll_of_present
        exact (cells_stored_iff lib call _).mpr hpresent
      have hold := hs r (hepochs ▸ hr)
      refine { root := ?_, count := ?_ }
      · simpa only [leafHashes, Database.epochCells, hsame] using hold.root
      · simpa only [Database.epochCells, hsame] using hold.count
  · rw [hnew]
    constructor
    · intro hs'
      have hcount := (hs' (call.epochRow lib root) (by simp [hepochs])).count
      rw [← cells_keysNodup_iff lib call]
      apply (length_filter_insertAll_iff
        (p := fun r => r.epochKey = (call.tenant, call.epochId))
        epochKey_of_key db.cellStates_pkey
        (fun r hr => by simpa using cells_epochKey lib call hr)
        (cellStates_of_no_epoch hnew)).mp
      simp only [EpochCall.epochRow, Database.epochCells, scan,
        List.length_insertionSort, hcells] at hcount
      rw [EpochCall.cells, List.length_map]
      exact_mod_cast hcount.symm
    · intro hdistinct r hr
      rw [hepochs, List.mem_append, List.mem_singleton] at hr
      rcases hr with hr | rfl
      · have hne : r.key ≠ (call.tenant, call.epochId) := by
          intro hkey
          rw [findEpoch_eq_none_iff] at hnew
          exact hnew (hkey ▸ List.mem_map_of_mem hr)
        have hother := epochCells_other hcells hne
        have hold := hs r hr
        refine { root := ?_, count := ?_ }
        · simpa only [leafHashes, hother] using hold.root
        · simpa only [hother] using hold.count
      · exact newEpoch_sealed hcommit hnew hdistinct

/-! ## Completeness of the audit -/

/-- **The audit of a freshly sealed epoch is complete.**  After a call for a
new epoch with distinct cells the epoch's row has the root and the count of the
list, its cells are those of the list, and for each of them `get_provenance`
returns the cell and the row with a proof of one sibling a layer that
`verify_proof` accepts. -/
theorem writeEpoch_audit
    (hcommit : writeEpoch lib pair db call = .ok (db', root))
    (hnew : db.findEpoch call.tenant call.epochId = none)
    (hdistinct : (call.substations.map Substation.h3).Nodup) :
    db'.findEpoch call.tenant call.epochId = some (call.epochRow lib root) ∧
    db'.epochCells call.tenant call.epochId = call.cells lib ∧
    (∀ sub ∈ call.substations, (call.tenant, sub.h3.asI64, call.epochId) ∈
      db'.cellStates.map CellStateRow.key) ∧
    Provable pair db' (call.epochRow lib root) := by
  have hcases := writeEpoch_cases lib pair hcommit
  have hrow : call.epochRow lib root ∈ db'.epochs := by
    rcases hcases.2.2.2 with ⟨⟨r, hfind⟩, -⟩ | ⟨-, hepochs⟩
    · rw [hnew] at hfind
      cases hfind
    · rw [hepochs]
      exact List.mem_append_right _ List.mem_cons_self
  refine ⟨?_, epochCells_new hcases.2.2.1 hnew hdistinct, ?_, ?_⟩
  · exact (findEpoch_eq_some_iff db' _ _ _).mpr ⟨hrow, rfl⟩
  · rw [← cells_stored_iff lib, hcases.2.2.1]
    intro cell hcell
    exact key_mem_insertAll CellStateRow.key db.cellStates hcell
  · exact getProvenance_of_sealed pair hrow
      (newEpoch_sealed hcommit hnew hdistinct)

end Calls

/-- Three cells, one of them past the sign bit. -/
def threeCells : List (Substation Int) :=
  [bareSubstation "a" 5, bareSubstation "b" 9223372036854775808,
    bareSubstation "c" 7]

/-- An epoch over the three cells. -/
def threeCellsCall (epochId : Int) (parentRoot : Option HexBytes32) :
    EpochCall Int :=
  ⟨ciTenant, epochId, epochSealedAt epochId, parentRoot, threeCells, 0⟩

theorem writeEpoch_audit_three_cells :
    ∃ db' root,
      writeEpoch checksumLibraries checksumPair
        (Database.migrated Int [ciTenant]) (threeCellsCall 0 none) =
        .ok (db', root) ∧
      (db'.epochCells ciTenant 0).length = 3 ∧
      Provable checksumPair db'
        ((threeCellsCall 0 none).epochRow checksumLibraries root) := by
  rcases writeEpoch_ok checksumLibraries checksumPair
    (Database.migrated Int [ciTenant]) (threeCellsCall 0 none)
    List.mem_cons_self with ⟨db', root, hcommit⟩
  obtain ⟨-, hcells, -, hprovable⟩ :=
    writeEpoch_audit hcommit rfl (by decide +kernel)
  refine ⟨db', root, hcommit, ?_, hprovable⟩
  exact (congrArg List.length hcells).trans (by decide +kernel)

/-! ## Runs of calls -/

section Runs

variable {F N : Type} (lib : Libraries F N)
variable (pair : HexBytes32 → HexBytes32 → HexBytes32)

/-- One committed call; a call that fails commits nothing. -/
def commit (db : Database N) (call : EpochCall F) : Option (Database N) :=
  match writeEpoch lib pair db call with
  | .ok (db', _) => some db'
  | .error _ => none

theorem commit_eq_some_iff {db db' : Database N} {call : EpochCall F} :
    commit lib pair db call = some db' ↔
      ∃ root, writeEpoch lib pair db call = .ok (db', root) := by
  unfold commit
  cases writeEpoch lib pair db call with
  | error e => simp
  | ok result => simp [Prod.ext_iff]

/-- **A run of calls keeps every epoch sealed, and every stored cell provable,
exactly when each of its calls is `Sealing`.** -/
theorem sealed_throughout_iff {db : Database N} (hs : Sealed pair db)
    (calls : List (EpochCall F)) :
    Throughout (commit lib pair) (SealedAndProvable pair) db calls ↔
      StepsMeet (commit lib pair) Sealing db calls := by
  apply throughout_iff_stepsMeet
  · intro db call db' hP hstep
    rw [sealedAndProvable_iff] at hP ⊢
    obtain ⟨root, hcommit⟩ := (commit_eq_some_iff lib pair).mp hstep
    exact sealed_step_iff hP hcommit
  · exact (sealedAndProvable_iff pair db).mpr hs

end Runs

/-- The first list of an epoch. -/
def firstCall : EpochCall Int :=
  ⟨ciTenant, 0, epochSealedAt 0, none, [bareSubstation "a" 5], 0⟩

/-- The same epoch again, with one more cell. -/
def longerCall : EpochCall Int :=
  ⟨ciTenant, 0, epochSealedAt 0, none,
    [bareSubstation "a" 5, bareSubstation "b" 6], 0⟩

/-- Two epochs over three cells, and the first of them again. -/
theorem sealed_throughout_iff_migrated :
    Throughout (commit checksumLibraries checksumPair)
        (SealedAndProvable checksumPair) (Database.migrated Int [ciTenant])
        [threeCellsCall 0 none, threeCellsCall 1 none, threeCellsCall 0 none] ↔
      StepsMeet (commit checksumLibraries checksumPair) Sealing
        (Database.migrated Int [ciTenant])
        [threeCellsCall 0 none, threeCellsCall 1 none,
          threeCellsCall 0 none] :=
  sealed_throughout_iff checksumLibraries checksumPair
    (by simp [Sealed, Database.migrated])
    [threeCellsCall 0 none, threeCellsCall 1 none, threeCellsCall 0 none]

/-- An epoch row counting one cell stands over two after the second call. -/
theorem not_sealed_longer_list :
    ¬ Throughout (commit checksumLibraries checksumPair)
        (SealedAndProvable checksumPair) (Database.migrated Int [ciTenant])
        [firstCall, longerCall] := by
  intro h
  have hrun : (run (commit checksumLibraries checksumPair)
      (Database.migrated Int [ciTenant]) [firstCall, longerCall]).map
      (fun db => (db.epochs.map (fun r => (r.key, r.cellCount)),
        (db.epochCells ciTenant 0).length)) = some ([((ciTenant, 0), 1)], 2) := by
    decide +kernel
  rcases Option.map_eq_some_iff.mp hrun with ⟨db, hdb, hcounts⟩
  rw [Prod.mk.injEq, List.map_eq_singleton_iff] at hcounts
  rcases hcounts.1 with ⟨row, hrow, hkeys⟩
  simp only [EpochRow.key, Prod.mk.injEq] at hkeys
  have hsealed := (h _ List.prefix_rfl db hdb).1 row (by simp [hrow])
  have hcount := hsealed.count
  rw [hkeys.1.1, hkeys.1.2, hkeys.2, hcounts.2] at hcount
  exact absurd hcount (by decide)

end RenderEngine.Ports.SealedEpochs
