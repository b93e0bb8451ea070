import RenderEngine.Ports.Serde
import RenderEngine.Verified.KeyedRows

/-!
# The tables of `0001_initial_schema.sql`

One list of rows a table, in the order in which a statement comes upon them;
new rows come last, and Postgres fixes no order.  A column with a
`CHECK (length(..) = n)` has the type of `n`-byte blobs; primary and foreign
keys are fields of `Database`, so every database is one the schema allows,
and a statement either returns such a database or is refused.

Columns that no modelled statement reads (`genesis_hash`, a tenant's `slug`,
`display_name`, `status`) are left out.

## Main results

* `insertEpoch_ok`, `insertCells_ok`: when the two inserts of the seeder go
  through, and with what tables.
* `cellStates_of_no_epoch`: without its epoch row an epoch has no cells.
-/

namespace RenderEngine.Ports.Schema

open RenderEngine.Ports.CoreTypes
open RenderEngine.Ports.Serde
open RenderEngine.Verified.KeyedRows

/-! ## Rows -/

/-- A row of `epochs`. -/
structure EpochRow where
  tenantId : TenantId
  epochId : Int
  sealedAt : Timestamp
  merkleRoot : HexBytes32
  parentRoot : Option HexBytes32
  cellCount : Int
  deriving DecidableEq

/-- `PRIMARY KEY (tenant_id, epoch_id)`. -/
def EpochRow.key (r : EpochRow) : TenantId × Int := (r.tenantId, r.epochId)

/-- A row of `cell_states`. -/
structure CellStateRow (N : Type) where
  tenantId : TenantId
  h3Cell : Int
  epochId : Int
  identityPk : HexBytes32
  payload : Value N
  contentHash : HexBytes32
  signature : HexBytes64
  writtenAt : Timestamp

/-- `PRIMARY KEY (tenant_id, h3_cell, epoch_id)`. -/
def CellStateRow.key {N : Type} (r : CellStateRow N) : TenantId × Int × Int :=
  (r.tenantId, r.h3Cell, r.epochId)

/-- The epoch a cell belongs to. -/
def CellStateRow.epochKey {N : Type} (r : CellStateRow N) : TenantId × Int :=
  (r.tenantId, r.epochId)

/-- A row of `attestations`. -/
structure AttestationRow (N : Type) where
  attestationId : BitVec 128
  tenantId : TenantId
  h3Cell : Int
  epochId : Int
  attesterPk : HexBytes32
  claim : Value N
  claimHash : HexBytes32
  signature : HexBytes64
  issuedAt : Timestamp
  expiresAt : Option Timestamp

/-- `PRIMARY KEY (tenant_id, attestation_id)`. -/
def AttestationRow.key {N : Type} (r : AttestationRow N) :
    TenantId × BitVec 128 := (r.tenantId, r.attestationId)

/-- The cell an attestation is about. -/
def AttestationRow.cellKey {N : Type} (r : AttestationRow N) :
    TenantId × Int × Int := (r.tenantId, r.h3Cell, r.epochId)

/-! ## Databases -/

/-- Tables that satisfy the schema's keys.  `cell_states` also references
`tenants`; that follows from the two references below. -/
structure Database (N : Type) where
  tenants : List TenantId
  epochs : List EpochRow
  cellStates : List (CellStateRow N)
  attestations : List (AttestationRow N)
  epochs_pkey : KeysNodup EpochRow.key epochs
  epochs_tenant_fkey : ∀ r ∈ epochs, r.tenantId ∈ tenants
  cellStates_pkey : KeysNodup CellStateRow.key cellStates
  cellStates_epoch_fkey :
    ∀ r ∈ cellStates, r.epochKey ∈ epochs.map EpochRow.key
  attestations_pkey : KeysNodup AttestationRow.key attestations
  attestations_cell_fkey :
    ∀ r ∈ attestations, r.cellKey ∈ cellStates.map CellStateRow.key

variable {N : Type}

/-- The database after the migrations: tenants and nothing else. -/
def Database.migrated (N : Type) (tenants : List TenantId) : Database N where
  tenants := tenants
  epochs := []
  cellStates := []
  attestations := []
  epochs_pkey := List.nodup_nil
  epochs_tenant_fkey := by simp
  cellStates_pkey := List.nodup_nil
  cellStates_epoch_fkey := by simp
  attestations_pkey := List.nodup_nil
  attestations_cell_fkey := by simp

/-- The epoch row at a key, if there is one. -/
def Database.findEpoch (db : Database N) (tenant : TenantId) (epochId : Int) :
    Option EpochRow :=
  findKey EpochRow.key (tenant, epochId) db.epochs

/-- The rows `WHERE tenant_id = $1 AND epoch_id = $2 ORDER BY h3_cell ASC`. -/
def Database.epochCells (db : Database N) (tenant : TenantId) (epochId : Int) :
    List (CellStateRow N) :=
  scan (fun r => r.epochKey = (tenant, epochId)) CellStateRow.h3Cell
    db.cellStates

theorem findEpoch_eq_some_iff (db : Database N) (tenant : TenantId)
    (epochId : Int) (r : EpochRow) :
    db.findEpoch tenant epochId = some r ↔
      r ∈ db.epochs ∧ r.key = (tenant, epochId) :=
  findKey_eq_some_iff db.epochs_pkey _ r

theorem findEpoch_eq_none_iff (db : Database N) (tenant : TenantId)
    (epochId : Int) :
    db.findEpoch tenant epochId = none ↔
      (tenant, epochId) ∉ db.epochs.map EpochRow.key :=
  findKey_eq_none_iff _ db.epochs

theorem mem_epochCells {db : Database N} {tenant : TenantId} {epochId : Int}
    {r : CellStateRow N} :
    r ∈ db.epochCells tenant epochId ↔
      r ∈ db.cellStates ∧ r.epochKey = (tenant, epochId) := by
  simp [Database.epochCells, scan, List.mem_insertionSort]

/-- The foreign key: without its row an epoch has no cells. -/
theorem cellStates_of_no_epoch {db : Database N} {tenant : TenantId}
    {epochId : Int} (h : db.findEpoch tenant epochId = none) :
    db.cellStates.filter (fun r => r.epochKey = (tenant, epochId)) = [] := by
  rw [findEpoch_eq_none_iff] at h
  rw [List.filter_eq_nil_iff]
  intro r hr hkey
  rw [decide_eq_true_eq] at hkey
  exact h (hkey ▸ db.cellStates_epoch_fkey r hr)

/-! ## Inserts -/

/-- A violated constraint, as Postgres names it. -/
def violates (constraint : String) : Fault :=
  .core (.database ("violates constraint ".toList ++ constraint.toList))

/-- `INSERT INTO epochs`. -/
def Database.insertEpoch (db : Database N) (row : EpochRow) :
    Outcome (Database N) :=
  if hpkey : row.key ∈ db.epochs.map EpochRow.key then
    .error (violates "epochs_pkey")
  else if hfkey : row.tenantId ∈ db.tenants then
    .ok { db with
      epochs := db.epochs ++ [row]
      epochs_pkey := by
        have h := insertNew_nodup EpochRow.key db.epochs_pkey row
        rwa [insertNew, if_neg hpkey] at h
      epochs_tenant_fkey := by
        intro r hr
        rw [List.mem_append, List.mem_singleton] at hr
        rcases hr with hr | rfl
        · exact db.epochs_tenant_fkey r hr
        · exact hfkey
      cellStates_epoch_fkey := by
        intro r hr
        rw [List.map_append]
        exact List.mem_append_left _ (db.cellStates_epoch_fkey r hr) }
  else .error (violates "epochs_tenant_id_fkey")

/-- `INSERT INTO cell_states .. ON CONFLICT (tenant_id, h3_cell, epoch_id) DO
NOTHING`.  A row that is skipped has the epoch of the row it conflicts with,
so asking the reference of the whole batch asks it of the inserted rows. -/
def Database.insertCells (db : Database N) (rows : List (CellStateRow N)) :
    Outcome (Database N) :=
  if hfkey : ∀ r ∈ rows, r.epochKey ∈ db.epochs.map EpochRow.key then
    .ok { db with
      cellStates := insertAll CellStateRow.key db.cellStates rows
      cellStates_pkey := insertAll_nodup CellStateRow.key db.cellStates_pkey rows
      cellStates_epoch_fkey := by
        intro r hr
        rcases mem_of_mem_insertAll CellStateRow.key hr with hr | hr
        · exact db.cellStates_epoch_fkey r hr
        · exact hfkey r hr
      attestations_cell_fkey := by
        intro r hr
        have hpre := prefix_insertAll CellStateRow.key db.cellStates rows
        exact (hpre.map _).subset (db.attestations_cell_fkey r hr) }
  else .error (violates "cell_states_tenant_id_epoch_id_fkey")

theorem insertEpoch_ok (db : Database N) (row : EpochRow)
    (hpkey : row.key ∉ db.epochs.map EpochRow.key)
    (hfkey : row.tenantId ∈ db.tenants) :
    ∃ db', db.insertEpoch row = .ok db' ∧ db'.tenants = db.tenants ∧
      db'.epochs = db.epochs ++ [row] ∧ db'.cellStates = db.cellStates := by
  unfold Database.insertEpoch
  rw [dif_neg hpkey, dif_pos hfkey]
  exact ⟨_, rfl, rfl, rfl, rfl⟩

/-- An epoch insert that went through added its row. -/
theorem insertEpoch_of_ok {db db' : Database N} {row : EpochRow}
    (h : db.insertEpoch row = .ok db') :
    db'.tenants = db.tenants ∧ db'.epochs = db.epochs ++ [row] ∧
      db'.cellStates = db.cellStates := by
  unfold Database.insertEpoch at h
  split at h
  · cases h
  · split at h
    · cases h
      exact ⟨rfl, rfl, rfl⟩
    · cases h

theorem insertCells_ok (db : Database N) (rows : List (CellStateRow N))
    (hfkey : ∀ r ∈ rows, r.epochKey ∈ db.epochs.map EpochRow.key) :
    ∃ db', db.insertCells rows = .ok db' ∧ db'.tenants = db.tenants ∧
      db'.epochs = db.epochs ∧
      db'.cellStates = insertAll CellStateRow.key db.cellStates rows := by
  unfold Database.insertCells
  rw [dif_pos hfkey]
  exact ⟨_, rfl, rfl, rfl, rfl⟩

/-- A cell insert that went through left the epochs alone. -/
theorem insertCells_of_ok {db db' : Database N} {rows : List (CellStateRow N)}
    (h : db.insertCells rows = .ok db') :
    db'.tenants = db.tenants ∧ db'.epochs = db.epochs ∧
      db'.cellStates = insertAll CellStateRow.key db.cellStates rows := by
  unfold Database.insertCells at h
  split at h
  · cases h
    exact ⟨rfl, rfl, rfl⟩
  · cases h

end RenderEngine.Ports.Schema
