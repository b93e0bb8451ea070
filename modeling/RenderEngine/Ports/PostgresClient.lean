import RenderEngine.Ports.MerkleProof
import RenderEngine.Ports.Schema

/-!
# Reads of `mobydb-client/src/postgres.rs`

The row decoders and every read but `query_cells_in_region`.  A query is its
`WHERE` clause as a filter and its `ORDER BY` as a sort on the column; the
policies of row-level security are left out, so it sees the rows of every
tenant.

`get_provenance` runs four statements, and Postgres takes a snapshot for each
of them; `getProvenanceFrom` therefore reads four databases, and
`getProvenance` is the call with nothing committed in between.

## Main results

* `getProvenanceFrom_ok`: with the cell and the epoch stored the call returns
  `Ok`, its proof being the tree's path over the epoch's cells.
-/

namespace RenderEngine.Ports.PostgresClient

open RenderEngine.Ports.CoreTypes
open RenderEngine.Ports.Serde
open RenderEngine.Ports.Schema
open RenderEngine.Ports.MerkleProof
open RenderEngine.Verified.KeyedRows
open RenderEngine.Verified.PairTree

/-! ## The types of `types.rs` -/

structure CellState (N : Type) where
  tenantId : TenantId
  h3Cell : H3Cell
  epochId : EpochId
  identityPk : HexBytes32
  payload : Value N
  contentHash : HexBytes32
  signature : HexBytes64
  writtenAt : Timestamp

structure Epoch where
  tenantId : TenantId
  epochId : EpochId
  sealedAt : Timestamp
  merkleRoot : HexBytes32
  parentRoot : Option HexBytes32
  cellCount : Int

structure Attestation (N : Type) where
  attestationId : BitVec 128
  tenantId : TenantId
  h3Cell : H3Cell
  epochId : EpochId
  attesterPk : HexBytes32
  claim : Value N
  claimHash : HexBytes32
  signature : HexBytes64
  issuedAt : Timestamp
  expiresAt : Option Timestamp

structure Provenance (N : Type) where
  tenantId : TenantId
  h3Cell : H3Cell
  epochId : EpochId
  cellState : CellState N
  attestations : List (Attestation N)
  merkleProof : List HexBytes32
  leafIndex : Nat
  epoch : Epoch

variable {N : Type}

/-! ## Row decoders -/

def decodeCellState (row : CellStateRow N) : Outcome (CellState N) := do
  let identityPk ← HexBytes.fromSlice 32 row.identityPk.bytes
  let contentHash ← HexBytes.fromSlice 32 row.contentHash.bytes
  let signature ← HexBytes.fromSlice 64 row.signature.bytes
  return {
    tenantId := row.tenantId
    h3Cell := H3Cell.fromI64 row.h3Cell
    epochId := ⟨row.epochId⟩
    identityPk := identityPk
    payload := row.payload
    contentHash := contentHash
    signature := signature
    writtenAt := row.writtenAt }

def decodeEpoch (row : EpochRow) : Outcome Epoch := do
  let merkleRoot ← HexBytes.fromSlice 32 row.merkleRoot.bytes
  let parentRoot ← row.parentRoot.mapM fun b => HexBytes.fromSlice 32 b.bytes
  return {
    tenantId := row.tenantId
    epochId := ⟨row.epochId⟩
    sealedAt := row.sealedAt
    merkleRoot := merkleRoot
    parentRoot := parentRoot
    cellCount := row.cellCount }

def decodeAttestation (row : AttestationRow N) : Outcome (Attestation N) := do
  let attesterPk ← HexBytes.fromSlice 32 row.attesterPk.bytes
  let claimHash ← HexBytes.fromSlice 32 row.claimHash.bytes
  let signature ← HexBytes.fromSlice 64 row.signature.bytes
  return {
    attestationId := row.attestationId
    tenantId := row.tenantId
    h3Cell := H3Cell.fromI64 row.h3Cell
    epochId := ⟨row.epochId⟩
    attesterPk := attesterPk
    claim := row.claim
    claimHash := claimHash
    signature := signature
    issuedAt := row.issuedAt
    expiresAt := row.expiresAt }

/-- The cell state a row stands for. -/
def cellStateOf (row : CellStateRow N) : CellState N where
  tenantId := row.tenantId
  h3Cell := H3Cell.fromI64 row.h3Cell
  epochId := ⟨row.epochId⟩
  identityPk := row.identityPk
  payload := row.payload
  contentHash := row.contentHash
  signature := row.signature
  writtenAt := row.writtenAt

/-- The epoch a row stands for. -/
def epochOf (row : EpochRow) : Epoch where
  tenantId := row.tenantId
  epochId := ⟨row.epochId⟩
  sealedAt := row.sealedAt
  merkleRoot := row.merkleRoot
  parentRoot := row.parentRoot
  cellCount := row.cellCount

/-- The attestation a row stands for. -/
def attestationOf (row : AttestationRow N) : Attestation N where
  attestationId := row.attestationId
  tenantId := row.tenantId
  h3Cell := H3Cell.fromI64 row.h3Cell
  epochId := ⟨row.epochId⟩
  attesterPk := row.attesterPk
  claim := row.claim
  claimHash := row.claimHash
  signature := row.signature
  issuedAt := row.issuedAt
  expiresAt := row.expiresAt

/-- The length checks of the columns are those of the decoders. -/
@[simp] theorem decodeCellState_ok (row : CellStateRow N) :
    decodeCellState row = .ok (cellStateOf row) := by
  simp only [decodeCellState, HexBytes.fromSlice_bytes, Outcome.ok_bind]
  rfl

@[simp] theorem decodeEpoch_ok (row : EpochRow) :
    decodeEpoch row = .ok (epochOf row) := by
  rcases row with ⟨tenant, epoch, sealedAt, root, parent, count⟩
  cases parent with
  | none =>
      simp only [decodeEpoch, HexBytes.fromSlice_bytes, Outcome.ok_bind]
      rfl
  | some parent =>
      simp only [decodeEpoch, HexBytes.fromSlice_bytes, Outcome.ok_bind,
        Option.mapM_some]
      rfl

@[simp] theorem decodeAttestation_ok (row : AttestationRow N) :
    decodeAttestation row = .ok (attestationOf row) := by
  simp only [decodeAttestation, HexBytes.fromSlice_bytes, Outcome.ok_bind]
  rfl

/-! ## Statements -/

/-- `WHERE tenant_id = $1 AND h3_cell = $2 AND epoch_id = $3`. -/
def selectCell (db : Database N) (tenant : TenantId) (h3 : H3Cell)
    (epoch : EpochId) : Option (CellStateRow N) :=
  findKey CellStateRow.key (tenant, h3.asI64, epoch.val) db.cellStates

/-- `WHERE tenant_id = $1 AND h3_cell = $2 ORDER BY epoch_id DESC LIMIT 1`. -/
def selectLatestCell (db : Database N) (tenant : TenantId) (h3 : H3Cell) :
    Option (CellStateRow N) :=
  (scan (fun r => r.tenantId = tenant ∧ r.h3Cell = h3.asI64)
    (fun r => -r.epochId) db.cellStates).head?

/-- The attestations of one cell, `ORDER BY issued_at ASC`; those of one moment
come as the statement comes upon them. -/
def selectAttestations (db : Database N) (tenant : TenantId) (h3 : H3Cell)
    (epoch : EpochId) : List (AttestationRow N) :=
  scan (fun r => r.cellKey = (tenant, h3.asI64, epoch.val))
    AttestationRow.issuedAt db.attestations

/-- `WHERE tenant_id = $1 ORDER BY epoch_id DESC LIMIT 1`. -/
def selectLatestEpoch (db : Database N) (tenant : TenantId) :
    Option EpochRow :=
  (scan (fun r => r.tenantId = tenant) (fun r => -r.epochId) db.epochs).head?

/-- `latest_epoch`. -/
def latestEpoch (db : Database N) (tenant : TenantId) : Outcome Epoch :=
  match selectLatestEpoch db tenant with
  | some r => decodeEpoch r
  | none => .error (.core (.epochNotFound tenant.toText (-1)))

/-- `get_epoch`. -/
def getEpoch (db : Database N) (tenant : TenantId) (epoch : EpochId) :
    Outcome Epoch :=
  match db.findEpoch tenant epoch.val with
  | some r => decodeEpoch r
  | none => .error (.core (.epochNotFound tenant.toText epoch.val))

/-- `list_attestations`. -/
def listAttestations (db : Database N) (tenant : TenantId) (h3 : H3Cell)
    (epoch : EpochId) : Outcome (List (Attestation N)) :=
  (selectAttestations db tenant h3 epoch).mapM decodeAttestation

/-- `fetch_one` of no row. -/
def rowNotFound : Fault := .core (.database
  "no rows returned by a query that expected to return at least one row".toList)

/-- `get_cell_state`. -/
def getCellState (db : Database N) (tenant : TenantId) (h3 : H3Cell)
    (epoch : Option EpochId) : Outcome (Option (CellState N)) := do
  let row := match epoch with
    | some e => selectCell db tenant h3 e
    | none => selectLatestCell db tenant h3
  match row with
  | some r =>
      let state ← decodeCellState r
      return some state
  | none => return none

/-- The row `get_cell_state` reads. -/
def selectPoint (db : Database N) (tenant : TenantId) (h3 : H3Cell) :
    Option EpochId → Option (CellStateRow N)
  | some e => selectCell db tenant h3 e
  | none => selectLatestCell db tenant h3

/-- A point read returns, with the stored cell if there is one. -/
theorem getCellState_eq (db : Database N) (tenant : TenantId) (h3 : H3Cell)
    (epoch : Option EpochId) :
    getCellState db tenant h3 epoch =
      .ok ((selectPoint db tenant h3 epoch).map cellStateOf) := by
  have hrow : ∀ row : Option (CellStateRow N),
      (match row with
        | some r => do
            let state ← decodeCellState r
            return some state
        | none => return none : Outcome (Option (CellState N))) =
        .ok (row.map cellStateOf) := by
    intro row
    cases row with
    | none => rfl
    | some r =>
        simp only [decodeCellState_ok, Outcome.ok_bind]
        rfl
  cases epoch with
  | none => exact hrow _
  | some e => exact hrow _

section Provenance

variable (pair : HexBytes32 → HexBytes32 → HexBytes32)

/-- `get_provenance`, its four statements reading four snapshots. -/
def getProvenanceFrom (db₁ db₂ db₃ db₄ : Database N) (tenant : TenantId)
    (h3 : H3Cell) (epoch : EpochId) : Outcome (Provenance N) := do
  let cellNotFound : Fault :=
    .core (.cellNotFound tenant.toText h3.bits (some epoch.val))
  let cellRow ← match selectCell db₁ tenant h3 epoch with
    | some row => pure row
    | none => throw cellNotFound
  let cellState ← decodeCellState cellRow
  let atts ← (selectAttestations db₂ tenant h3 epoch).mapM decodeAttestation
  let epochRow ← match db₃.findEpoch tenant epoch.val with
    | some row => pure row
    | none => throw rowNotFound
  let epochMeta ← decodeEpoch epochRow
  let allHashes := (db₄.epochCells tenant epoch.val).map
    fun r => (r.h3Cell, r.contentHash.bytes)
  let merkleProof ← proofFor pair allHashes h3.asI64
  let leafIndex ← match allHashes.findIdx? (fun r => r.1 == h3.asI64) with
    | some i => pure i
    | none => throw cellNotFound
  return {
    tenantId := tenant
    h3Cell := h3
    epochId := epoch
    cellState := cellState
    attestations := atts
    merkleProof := merkleProof
    leafIndex := leafIndex
    epoch := epochMeta }

/-- `get_provenance` with no commit between its statements. -/
def getProvenance (db : Database N) (tenant : TenantId) (h3 : H3Cell)
    (epoch : EpochId) : Outcome (Provenance N) :=
  getProvenanceFrom pair db db db db tenant h3 epoch

/-- The content hashes of an epoch in leaf order. -/
def leafHashes (db : Database N) (tenant : TenantId) (epochId : Int) :
    List HexBytes32 :=
  (db.epochCells tenant epochId).map CellStateRow.contentHash

@[simp] theorem leafHashes_length (db : Database N) (tenant : TenantId)
    (epochId : Int) : (leafHashes db tenant epochId).length =
      (db.epochCells tenant epochId).length := List.length_map ..

/-- Once its cell, its epoch and its leaf are found the call returns, with the
tree's path from the leaf's position. -/
theorem getProvenanceFrom_ok {db₁ db₂ db₃ db₄ : Database N}
    {tenant : TenantId} {h3 : H3Cell} {epoch : EpochId}
    {cell : CellStateRow N} {epochRow : EpochRow} {i : Nat}
    (hcell : selectCell db₁ tenant h3 epoch = some cell)
    (hepoch : db₃.findEpoch tenant epoch.val = some epochRow)
    (hleaf : (db₄.epochCells tenant epoch.val).findIdx?
      (fun r => r.h3Cell == h3.asI64) = some i) :
    getProvenanceFrom pair db₁ db₂ db₃ db₄ tenant h3 epoch = .ok {
      tenantId := tenant
      h3Cell := h3
      epochId := epoch
      cellState := cellStateOf cell
      attestations := (selectAttestations db₂ tenant h3 epoch).map attestationOf
      merkleProof := path pair
        (Nat.clog 2 (db₄.epochCells tenant epoch.val).length)
        (leafHashes db₄ tenant epoch.val) i
      leafIndex := i
      epoch := epochOf epochRow } := by
  have hatts := Outcome.mapM_ok decodeAttestation attestationOf
    (selectAttestations db₂ tenant h3 epoch)
    (fun row _ => decodeAttestation_ok row)
  have hi : i < (db₄.epochCells tenant epoch.val).length := by
    rw [List.findIdx?_eq_some_iff_getElem] at hleaf
    exact hleaf.1
  have hproof := proofFor_spec pair ((db₄.epochCells tenant epoch.val).map
    fun r => (r.h3Cell, r.contentHash)) h3.asI64 (i := i) (by simpa using hi)
    (by rw [List.findIdx?_map]; exact hleaf)
  rw [List.map_map, List.map_map, List.length_map] at hproof
  have hidx : ((db₄.epochCells tenant epoch.val).map
      fun r => (r.h3Cell, r.contentHash.bytes)).findIdx?
      (fun r => r.1 == h3.asI64) = some i := by
    rw [List.findIdx?_map]
    exact hleaf
  simp only [Function.comp_def] at hproof
  simp only [getProvenanceFrom, hcell, hepoch, hatts, hidx, hproof, pure_bind,
    decodeCellState_ok, decodeEpoch_ok, Outcome.ok_bind]
  rfl

/-- A call that returns has found its cell, its epoch and its leaf. -/
theorem getProvenanceFrom_found {db₁ db₂ db₃ db₄ : Database N}
    {tenant : TenantId} {h3 : H3Cell} {epoch : EpochId} {p : Provenance N}
    (h : getProvenanceFrom pair db₁ db₂ db₃ db₄ tenant h3 epoch = .ok p) :
    ∃ cell epochRow i, selectCell db₁ tenant h3 epoch = some cell ∧
      db₃.findEpoch tenant epoch.val = some epochRow ∧
      (db₄.epochCells tenant epoch.val).findIdx?
        (fun r => r.h3Cell == h3.asI64) = some i := by
  have hatts := Outcome.mapM_ok decodeAttestation attestationOf
    (selectAttestations db₂ tenant h3 epoch)
    (fun row _ => decodeAttestation_ok row)
  cases hcell : selectCell db₁ tenant h3 epoch with
  | none =>
      rw [getProvenanceFrom, hcell] at h
      cases h
  | some cell =>
      cases hepoch : db₃.findEpoch tenant epoch.val with
      | none =>
          simp only [getProvenanceFrom, hcell, hepoch, hatts, pure_bind,
            decodeCellState_ok, Outcome.ok_bind] at h
          cases h
      | some epochRow =>
          cases hleaf : (db₄.epochCells tenant epoch.val).findIdx?
              (fun r => r.h3Cell == h3.asI64) with
          | some i => exact ⟨cell, epochRow, i, rfl, rfl, rfl⟩
          | none =>
              simp only [getProvenanceFrom, hcell, hepoch, hatts, pure_bind,
                decodeCellState_ok, decodeEpoch_ok, Outcome.ok_bind, proofFor,
                List.findIdx?_map, Function.comp_def, hleaf] at h
              split at h <;> cases h

end Provenance

end RenderEngine.Ports.PostgresClient
