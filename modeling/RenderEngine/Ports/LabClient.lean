import RenderEngine.Ports.CanonicalTime
import RenderEngine.Ports.RustStd
import RenderEngine.Verified.BoundSelect
import RenderEngine.Verified.Fallible

/-!
# The lab client (`lab-client/src/postgres.rs`, `types.rs`, `error.rs`)

`fetch_signed_predictions` has a statement for each of the four ways to give
its two filters, written out with their own placeholder numbers; the values
are bound in the order of the `bind` calls.

The table is not part of the repository.  Its rows have the columns that
`row_to_record` reads; a column without a value of the type it is read at is
`none`, and reading it is an error.  Postgres is any way of comparing texts
and of arranging rows its `ORDER BY` does not tell apart.

## Main results

* `fetchSignedPredictions_spec`: the four statements are one filter, sort and
  limit, and the certificates are all that `include_chain` changes.
-/

namespace RenderEngine.Ports.LabClient

open RenderEngine.Ports.CoreTypes
open RenderEngine.Ports.RustStd
open RenderEngine.Ports.CanonicalTime
open RenderEngine.Verified.BoundSelect
open RenderEngine.Verified.Fallible

/-! ## Records -/

structure InputAttestation (F : Type) where
  inputTileHash : Text
  stacItemId : Text
  acquisitionTimestamp : Text
  cloudCoverPercent : F

structure ModelAttestation where
  repoId : Text
  commitHash : Text
  weightSha256 : Text
  parameterCount : Int64

structure OutputAttestation where
  rawOutputSha256 : Text
  argmaxOutputSha256 : Text
  binaryOutputSha256 : Text
  outputShape : List Int32

structure RuntimeFingerprint where
  gpuName : Text
  cudaDriverVersion : Text
  cudaVersion : Text
  torchVersion : Text

structure SignedPredictionRecord (F : Type) where
  h3Cell : Text
  epoch : Int64
  modelVersion : Text
  input : InputAttestation F
  model : ModelAttestation
  output : OutputAttestation
  runtime : RuntimeFingerprint
  recordVersion : Int16
  signerPublicKey : Text
  signatureBytes : Text
  delegationChainHash : Text
  signedAt : Text
  rootCertJson : Option Text
  labCertJson : Option Text
  runtimeCertJson : Option Text

/-- The record without its delegation chain. -/
def SignedPredictionRecord.withoutChain {F : Type}
    (r : SignedPredictionRecord F) : SignedPredictionRecord F :=
  { r with rootCertJson := none, labCertJson := none, runtimeCertJson := none }

/-- `GEIANT_LAB_ROOT_PUBKEY`. -/
def geiantLabRootPubkey : Text :=
  "h9TRb07XyhDu06h40PSEwcIOn-Z_Md_3GfShCm67vUs".toList

/-! ## Errors -/

inductive LabClientError where
  | invalidH3Cell (s : Text)
  | invalidModelVersion (s : Text)
  | limitOutOfRange (requested max : UInt32)
  | configuration (message : Text)
  | database (message : Text)
  | decoding (message : Text)
  | serde (message : Text)
  | other (message : Text)
  deriving DecidableEq

/-- `to_string`. -/
def LabClientError.toText : LabClientError → Text
  | .invalidH3Cell s => "invalid H3 cell: ".toList ++ s
  | .invalidModelVersion s => "invalid model_version: ".toList ++ s
  | .limitOutOfRange requested max =>
      "limit out of range: requested ".toList ++ decimal requested.toNat
        ++ ", max ".toList ++ decimal max.toNat
  | .configuration message => "configuration error: ".toList ++ message
  | .database message => "database error: ".toList ++ message
  | .decoding message => "row decoding error: ".toList ++ message
  | .serde message => "serialization error: ".toList ++ message
  | .other message => "unexpected: ".toList ++ message

/-! ## Validation -/

def hardLimitMax : UInt32 := 1000

/-- `is_ascii_hexdigit`. -/
def isAsciiHexdigit (c : Char) : Bool :=
  decide ('0' ≤ c ∧ c ≤ '9') || decide ('a' ≤ c ∧ c ≤ 'f')
    || decide ('A' ≤ c ∧ c ≤ 'F')

def validH3Cell (s : Text) : Bool :=
  byteLength s == 15 && s.all isAsciiHexdigit

def validModelVersion (s : Text) : Bool :=
  !s.isEmpty && decide (byteLength s ≤ 200)

def validLimit (n : UInt32) : Bool := !(n == 0 || decide (hardLimitMax < n))

theorem validLimit_iff (n : UInt32) :
    validLimit n = true ↔ 1 ≤ n.toNat ∧ n.toNat ≤ 1000 := by
  have hzero : n = 0 ↔ n.toNat = 0 := UInt32.toNat_inj.symm
  have hmax : hardLimitMax < n ↔ 1000 < n.toNat := UInt32.lt_iff_toNat_lt
  simp only [validLimit, Bool.not_eq_true', Bool.or_eq_false_iff,
    beq_eq_false_iff_ne, ne_eq, decide_eq_false_iff_not, hzero, hmax]
  omega

def validateH3Cell (s : Text) : Except LabClientError Unit :=
  if validH3Cell s then .ok () else .error (.invalidH3Cell s)

def validateModelVersion (s : Text) : Except LabClientError Unit :=
  if validModelVersion s then .ok () else .error (.invalidModelVersion s)

def validateLimit (n : UInt32) : Except LabClientError Unit :=
  if validLimit n then .ok () else .error (.limitOutOfRange n hardLimitMax)

/-! ## The table `predictions` -/

structure PredictionRow (F : Type) where
  h3Cell : Option Text
  epoch : Option Int64
  modelVersion : Option Text
  inputTileHash : Option Text
  stacItemId : Option Text
  acquisitionTimestamp : Option Timestamp
  cloudCoverPercent : Option F
  modelRepoId : Option Text
  modelCommitHash : Option Text
  modelWeightSha256 : Option Text
  modelParameterCount : Option Int64
  rawOutputSha256 : Option Text
  argmaxOutputSha256 : Option Text
  binaryOutputSha256 : Option Text
  outputShape : Option (List Int32)
  gpuName : Option Text
  cudaDriverVersion : Option Text
  cudaVersion : Option Text
  torchVersion : Option Text
  recordVersion : Option Int16
  signerPublicKey : Option Text
  signatureBytes : Option Text
  delegationChainHash : Option Text
  signedAt : Option Timestamp
  rootCertJson : Option Text
  labCertJson : Option Text
  runtimeCertJson : Option Text

/-- The columns the statements name. -/
inductive Column where
  | h3Cell
  | epoch
  | modelVersion

def Column.name : Column → Text
  | .h3Cell => "h3_cell".toList
  | .epoch => "epoch".toList
  | .modelVersion => "model_version".toList

/-- Values that are bound. -/
inductive PgValue where
  | text (s : Text)
  | int8 (i : Int64)
  deriving DecidableEq

/-- The database server, and what `sqlx` says of errors. -/
structure Postgres (F : Type) where
  /-- `<=` of texts, in the collation of the database -/
  collate : Text → Text → Bool
  collate_total : ∀ s t, (collate s t || collate t s) = true
  collate_trans : ∀ s t u, collate s t = true → collate t u = true →
    collate s u = true
  arrangement : Arrangement (PredictionRow F)
  /-- A statement with a parameter missing -/
  bindError : Text
  /-- A column that cannot be read -/
  columnError : Text → Text

section Client

variable {F : Type}

def PredictionRow.value (row : PredictionRow F) : Column → Option PgValue
  | .h3Cell => row.h3Cell.map .text
  | .epoch => row.epoch.map .int8
  | .modelVersion => row.modelVersion.map .text

variable (pg : Postgres F)

/-- Values of one column have one type. -/
def Postgres.le : PgValue → PgValue → Bool
  | .int8 i, .int8 j => decide (i.toInt ≤ j.toInt)
  | .text s, .text t => pg.collate s t
  | .int8 _, .text _ => true
  | .text _, .int8 _ => false

theorem Postgres.le_total (x y : PgValue) :
    (pg.le x y || pg.le y x) = true := by
  cases x with
  | text s =>
      cases y with
      | text t => exact pg.collate_total s t
      | int8 j => rfl
  | int8 i =>
      cases y with
      | text t => rfl
      | int8 j =>
          simp only [Postgres.le, Bool.or_eq_true, decide_eq_true_eq]
          omega

theorem Postgres.le_trans (x y z : PgValue) (hxy : pg.le x y = true)
    (hyz : pg.le y z = true) : pg.le x z = true := by
  cases x with
  | text s =>
      cases y with
      | int8 j => cases hxy
      | text t =>
          cases z with
          | int8 k => cases hyz
          | text u => exact pg.collate_trans s t u hxy hyz
  | int8 i =>
      cases z with
      | text u => rfl
      | int8 k =>
          cases y with
          | text t => cases hyz
          | int8 j =>
              simp only [Postgres.le, decide_eq_true_eq] at hxy hyz ⊢
              omega

/-- A negative limit is an error. -/
def PgValue.asLimit : PgValue → Option Nat
  | .int8 i => if 0 ≤ i.toInt then some i.toInt.toNat else none
  | .text _ => none

/-- A `u32` is a limit as it stands. -/
theorem asLimit_ofNat (n : UInt32) :
    (PgValue.int8 (Int64.ofNat n.toNat)).asLimit = some n.toNat := by
  have hn : n.toNat < 2 ^ 32 := n.toNat_lt
  have hint : (Int64.ofNat n.toNat).toInt = n.toNat :=
    Int64.toInt_ofNat_of_lt (by omega)
  simp only [PgValue.asLimit, hint]
  simp

def Postgres.columns : Columns (PredictionRow F) Column PgValue where
  value := PredictionRow.value
  le := pg.le
  le_total := pg.le_total
  le_trans := pg.le_trans
  asLimit := PgValue.asLimit

/-! ## Statements -/

/-- `ORDER BY epoch DESC, model_version ASC` -/
def newestFirst : List (Column × Direction) :=
  [(.epoch, .desc), (.modelVersion, .asc)]

def selectByEpochAndModel : Statement Column where
  conditions := [(.h3Cell, 1), (.epoch, 2), (.modelVersion, 3)]
  orderBy := newestFirst
  limit := 4

def selectByEpoch : Statement Column where
  conditions := [(.h3Cell, 1), (.epoch, 2)]
  orderBy := newestFirst
  limit := 3

def selectByModel : Statement Column where
  conditions := [(.h3Cell, 1), (.modelVersion, 2)]
  orderBy := newestFirst
  limit := 3

def selectByCell : Statement Column where
  conditions := [(.h3Cell, 1)]
  orderBy := newestFirst
  limit := 2

/-- The text of a statement on the table. -/
def predictionsSql (s : Statement Column) : Text :=
  s.sql "predictions".toList Column.name

example :
    [selectByEpochAndModel, selectByEpoch, selectByModel, selectByCell].map
      predictionsSql =
    [ "SELECT * FROM predictions WHERE h3_cell = $1 AND epoch = $2".toList
        ++ " AND model_version = $3".toList
        ++ " ORDER BY epoch DESC, model_version ASC LIMIT $4".toList
    , "SELECT * FROM predictions WHERE h3_cell = $1 AND epoch = $2".toList
        ++ " ORDER BY epoch DESC, model_version ASC LIMIT $3".toList
    , "SELECT * FROM predictions WHERE h3_cell = $1".toList
        ++ " AND model_version = $2".toList
        ++ " ORDER BY epoch DESC, model_version ASC LIMIT $3".toList
    , "SELECT * FROM predictions WHERE h3_cell = $1".toList
        ++ " ORDER BY epoch DESC, model_version ASC LIMIT $2".toList ] := by
  decide +kernel

/-- `fetch_all`.  An unreachable database is the message of an error. -/
def fetchAll (pool : Except Text (List (PredictionRow F)))
    (s : Statement Column) (binds : List PgValue) :
    Except Text (List (PredictionRow F)) := do
  let table ← pool
  okOr pg.bindError (run pg.columns pg.arrangement s binds table)

/-! ## The row decoder -/

/-- `try_get(column).map_err(decoding)` -/
def tryGet {α : Type} (column : String) (v : Option α) :
    Except LabClientError α :=
  okOr (.decoding (pg.columnError column.toList)) v

/-- `row_to_record`. -/
def rowToRecord (includeChain : Bool) (row : PredictionRow F) :
    Except LabClientError (SignedPredictionRecord F) := do
  let acq ← tryGet pg "acquisition_timestamp" row.acquisitionTimestamp
  let signedAt ← tryGet pg "signed_at" row.signedAt
  let outputShape ← tryGet pg "output_shape" row.outputShape
  let cloud ← tryGet pg "cloud_cover_percent" row.cloudCoverPercent
  let h3Cell ← tryGet pg "h3_cell" row.h3Cell
  let epoch ← tryGet pg "epoch" row.epoch
  let modelVersion ← tryGet pg "model_version" row.modelVersion
  let inputTileHash ← tryGet pg "input_tile_hash" row.inputTileHash
  let stacItemId ← tryGet pg "stac_item_id" row.stacItemId
  let repoId ← tryGet pg "model_repo_id" row.modelRepoId
  let commitHash ← tryGet pg "model_commit_hash" row.modelCommitHash
  let weightSha256 ← tryGet pg "model_weight_sha256" row.modelWeightSha256
  let parameterCount ← tryGet pg "model_parameter_count" row.modelParameterCount
  let rawOutputSha256 ← tryGet pg "raw_output_sha256" row.rawOutputSha256
  let argmaxOutputSha256 ←
    tryGet pg "argmax_output_sha256" row.argmaxOutputSha256
  let binaryOutputSha256 ←
    tryGet pg "binary_output_sha256" row.binaryOutputSha256
  let gpuName ← tryGet pg "gpu_name" row.gpuName
  let cudaDriverVersion ← tryGet pg "cuda_driver_version" row.cudaDriverVersion
  let cudaVersion ← tryGet pg "cuda_version" row.cudaVersion
  let torchVersion ← tryGet pg "torch_version" row.torchVersion
  let recordVersion ← tryGet pg "record_version" row.recordVersion
  let signerPublicKey ← tryGet pg "signer_public_key" row.signerPublicKey
  let signatureBytes ← tryGet pg "signature_bytes" row.signatureBytes
  let delegationChainHash ←
    tryGet pg "delegation_chain_hash" row.delegationChainHash
  return {
    h3Cell := h3Cell
    epoch := epoch
    modelVersion := modelVersion
    input := {
      inputTileHash := inputTileHash
      stacItemId := stacItemId
      acquisitionTimestamp := formatCanonicalTs acq
      cloudCoverPercent := cloud }
    model := {
      repoId := repoId
      commitHash := commitHash
      weightSha256 := weightSha256
      parameterCount := parameterCount }
    output := {
      rawOutputSha256 := rawOutputSha256
      argmaxOutputSha256 := argmaxOutputSha256
      binaryOutputSha256 := binaryOutputSha256
      outputShape := outputShape }
    runtime := {
      gpuName := gpuName
      cudaDriverVersion := cudaDriverVersion
      cudaVersion := cudaVersion
      torchVersion := torchVersion }
    recordVersion := recordVersion
    signerPublicKey := signerPublicKey
    signatureBytes := signatureBytes
    delegationChainHash := delegationChainHash
    signedAt := formatCanonicalTs signedAt
    rootCertJson := if includeChain then row.rootCertJson else none
    labCertJson := if includeChain then row.labCertJson else none
    runtimeCertJson := if includeChain then row.runtimeCertJson else none }

/-! ## `fetch_signed_predictions` -/

/-- The statement and its parameters, in the order they are bound. -/
def predictionsQuery (h3Cell : Text) (epoch : Option Int64)
    (modelVersion : Option Text) (limit : UInt32) :
    Statement Column × List PgValue :=
  let limit := .int8 (Int64.ofNat limit.toNat)
  match epoch, modelVersion with
  | some ep, some mv =>
      (selectByEpochAndModel, [.text h3Cell, .int8 ep, .text mv, limit])
  | some ep, none => (selectByEpoch, [.text h3Cell, .int8 ep, limit])
  | none, some mv => (selectByModel, [.text h3Cell, .text mv, limit])
  | none, none => (selectByCell, [.text h3Cell, limit])

def fetchSignedPredictions (pool : Except Text (List (PredictionRow F)))
    (h3Cell : Text) (epoch : Option Int64) (modelVersion : Option Text)
    (limit : UInt32) (includeChain : Bool) :
    Except LabClientError (List (SignedPredictionRecord F)) := do
  validateH3Cell h3Cell
  match modelVersion with
    | some mv => validateModelVersion mv
    | none => pure ()
  validateLimit limit
  let query := predictionsQuery h3Cell epoch modelVersion limit
  let rows ← (fetchAll pg pool query.1 query.2).mapError .database
  rows.mapM (rowToRecord pg includeChain)

/-! ## One filter, one order -/

/-- The row is in the cell and satisfies each filter that is given. -/
def wanted (h3Cell : Text) (epoch : Option Int64) (modelVersion : Option Text)
    (row : PredictionRow F) : Bool :=
  decide (row.h3Cell = some h3Cell)
    && (epoch.all fun ep => row.epoch = some ep)
    && (modelVersion.all fun mv => row.modelVersion = some mv)

theorem wanted_iff {h3Cell : Text} {epoch : Option Int64}
    {modelVersion : Option Text} {row : PredictionRow F} :
    wanted h3Cell epoch modelVersion row = true ↔
      row.h3Cell = some h3Cell ∧
      (∀ ep, epoch = some ep → row.epoch = some ep) ∧
      (∀ mv, modelVersion = some mv → row.modelVersion = some mv) := by
  rw [wanted, Bool.and_eq_true, Bool.and_eq_true, decide_eq_true_eq, and_assoc]
  cases epoch <;> cases modelVersion <;> simp

/-- Epochs descending, model versions ascending. -/
def NewestFirst (a b : PredictionRow F) : Prop :=
  ∀ ep mv ep' mv', a.epoch = some ep → a.modelVersion = some mv →
    b.epoch = some ep' → b.modelVersion = some mv' →
    ep'.toInt < ep.toInt ∨ ep' = ep ∧ pg.collate mv mv' = true

@[simp] theorem value_h3Cell (row : PredictionRow F) (s : Text) :
    pg.columns.value row .h3Cell = some (.text s) ↔ row.h3Cell = some s := by
  simp [Postgres.columns, PredictionRow.value]

@[simp] theorem value_epoch (row : PredictionRow F) (i : Int64) :
    pg.columns.value row .epoch = some (.int8 i) ↔ row.epoch = some i := by
  simp [Postgres.columns, PredictionRow.value]

@[simp] theorem value_modelVersion (row : PredictionRow F) (s : Text) :
    pg.columns.value row .modelVersion = some (.text s) ↔
      row.modelVersion = some s := by
  simp [Postgres.columns, PredictionRow.value]

theorem newestFirst_of_orderLe {a b : PredictionRow F}
    (h : orderLe pg.columns newestFirst a b = true) : NewestFirst pg a b := by
  intro ep mv ep' mv' hep hmv hep' hmv'
  rw [← value_epoch pg] at hep hep'
  rw [← value_modelVersion pg] at hmv hmv'
  simp only [newestFirst, orderLe, keyLe, hep, hep', hmv, hmv', nullLe,
    Bool.and_eq_true, Bool.or_eq_true, Bool.not_eq_true'] at h
  simp only [Postgres.columns, Postgres.le, decide_eq_true_eq,
    decide_eq_false_iff_not] at h
  rcases h with ⟨hle, hlt | ⟨hmodel, -⟩⟩
  · exact Or.inl (by omega)
  · rcases eq_or_lt_of_le hle with heq | hlt
    · exact Or.inr ⟨Int64.toInt_inj.mp heq, hmodel⟩
    · exact Or.inl hlt

section Query

variable (h3Cell : Text) (epoch : Option Int64) (modelVersion : Option Text)
  (limit : UInt32)

/-- **Each of the four statements selects what is wanted.** -/
theorem selects_predictionsQuery (row : PredictionRow F) :
    selects pg.columns
        (predictionsQuery h3Cell epoch modelVersion limit).1
        (predictionsQuery h3Cell epoch modelVersion limit).2 row =
      wanted h3Cell epoch modelVersion row := by
  cases epoch with
  | none =>
      cases modelVersion with
      | none =>
          simp [predictionsQuery, selects, selectByCell, holds_eq, param, wanted]
      | some mv =>
          simp [predictionsQuery, selects, selectByModel, holds_eq, param,
            wanted]
  | some ep =>
      cases modelVersion with
      | none =>
          simp [predictionsQuery, selects, selectByEpoch, holds_eq, param,
            wanted]
      | some mv =>
          simp [predictionsQuery, selects, selectByEpochAndModel, holds_eq,
            param, wanted, Bool.and_assoc]

/-- **The statement returns the first rows that are wanted.** -/
theorem fetchAll_isTop (table : List (PredictionRow F)) :
    ∃ rows,
      fetchAll pg (.ok table)
        (predictionsQuery h3Cell epoch modelVersion limit).1
        (predictionsQuery h3Cell epoch modelVersion limit).2 = .ok rows ∧
      IsTop (wanted h3Cell epoch modelVersion) (NewestFirst pg) limit.toNat
        table rows := by
  let query := predictionsQuery h3Cell epoch modelVersion limit
  have horder : query.1.orderBy = newestFirst := by
    cases epoch <;> cases modelVersion <;> rfl
  have hbound : ∀ c ∈ query.1.conditions,
      (param query.2 c.2).isSome = true := by
    cases epoch <;> cases modelVersion <;>
      simp [query, predictionsQuery, selectByEpochAndModel, selectByEpoch,
        selectByModel, selectByCell, param]
  have hlimit : (param query.2 query.1.limit).bind pg.columns.asLimit =
      some limit.toNat := by
    rw [← asLimit_ofNat limit]
    cases epoch <;> cases modelVersion <;> rfl
  obtain ⟨rows, hrows, htop⟩ :=
    run_isTop pg.columns pg.arrangement hbound hlimit table
  have hselects : selects pg.columns query.1 query.2 =
      wanted h3Cell epoch modelVersion :=
    funext (selects_predictionsQuery pg h3Cell epoch modelVersion limit)
  rw [hselects, horder] at htop
  refine ⟨rows, ?_, htop.mono fun a _ b _ => newestFirst_of_orderLe pg⟩
  show okOr pg.bindError (run pg.columns pg.arrangement query.1 query.2 table) =
    .ok rows
  rw [hrows]
  rfl

end Query

/-! ## Decoding -/

/-- Without the chain a row gives the same record but for its certificates. -/
theorem rowToRecord_false (row : PredictionRow F) :
    rowToRecord pg false row =
      (rowToRecord pg true row).map SignedPredictionRecord.withoutChain := by
  show _ = SignedPredictionRecord.withoutChain <$> rowToRecord pg true row
  simp only [rowToRecord, map_bind, map_pure]
  rfl

/-- What a record has from its row that the statements select by. -/
theorem columns_of_rowToRecord {includeChain : Bool} {row : PredictionRow F}
    {r : SignedPredictionRecord F}
    (h : rowToRecord pg includeChain row = .ok r) :
    row.epoch = some r.epoch ∧ row.modelVersion = some r.modelVersion := by
  simp only [rowToRecord, tryGet, bind_eq_ok, okOr_eq_ok] at h
  obtain ⟨_, -, _, -, _, -, _, -, _, -, ep, hep, mv, hmv, h⟩ := h
  obtain ⟨_, -, _, -, _, -, _, -, _, -, _, -, _, -, _, -, _, -, h⟩ := h
  obtain ⟨_, -, _, -, _, -, _, -, _, -, _, -, _, -, _, -, h⟩ := h
  cases h
  exact ⟨hep, hmv⟩

/-- The errors a request is blamed for. -/
def LabClientError.isInvalid : LabClientError → Bool
  | .invalidH3Cell _ => true
  | .invalidModelVersion _ => true
  | .limitOutOfRange _ _ => true
  | _ => false

theorem errorsIn_tryGet {α : Type} (column : String) (v : Option α) :
    ErrorsIn (fun e : LabClientError => e.isInvalid = false)
      (tryGet pg column v) := by
  cases v with
  | none => exact errorsIn_error rfl
  | some a => exact errorsIn_ok a

theorem errorsIn_rowToRecord (includeChain : Bool) (row : PredictionRow F) :
    ErrorsIn (fun e : LabClientError => e.isInvalid = false)
      (rowToRecord pg includeChain row) := by
  unfold rowToRecord
  iterate 24 refine errorsIn_bind (errorsIn_tryGet pg _ _) fun _ => ?_
  exact errorsIn_ok _

/-! ## Requests -/

/-- The checks a request passes before it reaches the database. -/
def validRequest (h3Cell : Text) (modelVersion : Option Text)
    (limit : UInt32) : Bool :=
  validH3Cell h3Cell && modelVersion.all validModelVersion && validLimit limit

section Fetch

variable (pool : Except Text (List (PredictionRow F))) {h3Cell : Text}
  (epoch : Option Int64) {modelVersion : Option Text} {limit : UInt32}
  (includeChain : Bool)

/-- A valid request is answered by the database. -/
theorem fetchSignedPredictions_of_valid
    (h : validRequest h3Cell modelVersion limit = true) :
    fetchSignedPredictions pg pool h3Cell epoch modelVersion limit
        includeChain =
      ((fetchAll pg pool
        (predictionsQuery h3Cell epoch modelVersion limit).1
        (predictionsQuery h3Cell epoch modelVersion limit).2).mapError
          .database >>= List.mapM (rowToRecord pg includeChain)) := by
  simp only [validRequest, Bool.and_eq_true] at h
  obtain ⟨⟨hcell, hmodel⟩, hlimit⟩ := h
  unfold fetchSignedPredictions validateH3Cell validateLimit
  rw [if_pos hcell, if_pos hlimit]
  cases modelVersion with
  | none => rfl
  | some mv =>
      have hmv : validModelVersion mv = true := hmodel
      simp only [validateModelVersion, if_pos hmv]
      rfl

/-- An invalid request is refused. -/
theorem fetchSignedPredictions_of_invalid
    (h : validRequest h3Cell modelVersion limit = false) :
    ∃ e, fetchSignedPredictions pg pool h3Cell epoch modelVersion limit
        includeChain = .error e ∧ e.isInvalid = true := by
  unfold fetchSignedPredictions validateH3Cell
  by_cases hcell : validH3Cell h3Cell = true
  · rw [if_pos hcell]
    by_cases hlimit : validLimit limit = true
    · cases modelVersion with
      | none => simp [validRequest, hcell, hlimit] at h
      | some mv =>
          have hmv : validModelVersion mv = false := by
            simpa [validRequest, hcell, hlimit] using h
          refine ⟨.invalidModelVersion mv, ?_, rfl⟩
          simp only [validateModelVersion, hmv]
          rfl
    · rw [Bool.not_eq_true] at hlimit
      cases modelVersion with
      | none =>
          refine ⟨.limitOutOfRange limit hardLimitMax, ?_, rfl⟩
          simp only [validateLimit, hlimit]
          rfl
      | some mv =>
          by_cases hmv : validModelVersion mv = true
          · refine ⟨.limitOutOfRange limit hardLimitMax, ?_, rfl⟩
            simp only [validateModelVersion, if_pos hmv, validateLimit, hlimit]
            rfl
          · refine ⟨.invalidModelVersion mv, ?_, rfl⟩
            simp only [validateModelVersion, if_neg hmv]
            rfl
  · rw [if_neg hcell]
    exact ⟨.invalidH3Cell h3Cell, rfl, rfl⟩

/-- A valid request is never refused. -/
theorem errorsIn_fetchSignedPredictions
    (h : validRequest h3Cell modelVersion limit = true) :
    ErrorsIn (fun e : LabClientError => e.isInvalid = false)
      (fetchSignedPredictions pg pool h3Cell epoch modelVersion limit
        includeChain) := by
  rw [fetchSignedPredictions_of_valid pg pool epoch includeChain h]
  refine errorsIn_bind ?_ fun rows =>
    errorsIn_mapM (errorsIn_rowToRecord pg includeChain) rows
  cases fetchAll pg pool (predictionsQuery h3Cell epoch modelVersion limit).1
    (predictionsQuery h3Cell epoch modelVersion limit).2 with
  | error e => exact errorsIn_error rfl
  | ok rows => exact errorsIn_ok rows

/-- What a request that is answered was answered with. -/
theorem rows_of_fetchSignedPredictions {records : List (SignedPredictionRecord F)}
    (h : validRequest h3Cell modelVersion limit = true)
    (hok : fetchSignedPredictions pg pool h3Cell epoch modelVersion limit
      includeChain = .ok records) :
    ∃ table rows, pool = .ok table ∧
      IsTop (wanted h3Cell epoch modelVersion) (NewestFirst pg) limit.toNat
        table rows ∧
      List.Forall₂ (fun row r => rowToRecord pg includeChain row = .ok r) rows
        records := by
  rw [fetchSignedPredictions_of_valid pg pool epoch includeChain h] at hok
  obtain ⟨rows, hrows, hrecords⟩ := bind_eq_ok.mp hok
  rw [mapError_eq_ok] at hrows
  cases pool with
  | error e => cases hrows
  | ok table =>
      obtain ⟨rows', hrows', htop⟩ :=
        fetchAll_isTop pg h3Cell epoch modelVersion limit table
      rw [hrows] at hrows'
      cases hrows'
      exact ⟨table, rows, rfl, htop, mapM_eq_ok_iff.mp hrecords⟩

/-- Where the wanted rows decode, a valid request is answered. -/
theorem fetchSignedPredictions_returns {table : List (PredictionRow F)}
    (h : validRequest h3Cell modelVersion limit = true)
    (hdecode : ∀ row ∈ table, wanted h3Cell epoch modelVersion row = true →
      ∃ r, rowToRecord pg includeChain row = .ok r) :
    ∃ records, fetchSignedPredictions pg (.ok table) h3Cell epoch modelVersion
      limit includeChain = .ok records := by
  obtain ⟨rows, hrows, htop⟩ :=
    fetchAll_isTop pg h3Cell epoch modelVersion limit table
  obtain ⟨records, hrecords⟩ := mapM_returns fun row hrow =>
    hdecode row (htop.mem hrow).1 (htop.mem hrow).2
  refine ⟨records, ?_⟩
  rw [fetchSignedPredictions_of_valid pg (.ok table) epoch includeChain h, hrows]
  exact hrecords

end Fetch

/-! ## A row -/

/-- A row with values in all of its columns. -/
def fullRow (cloud : F) (h3Cell : Text) (epoch : Int64) (modelVersion : Text) :
    PredictionRow F where
  h3Cell := some h3Cell
  epoch := some epoch
  modelVersion := some modelVersion
  inputTileHash := some "0a".toList
  stacItemId := some "S2C_33TUG_20260213_0_L2A".toList
  acquisitionTimestamp := some 0
  cloudCoverPercent := some cloud
  modelRepoId := some "prithvi".toList
  modelCommitHash := some "918b9f140bb1".toList
  modelWeightSha256 := some "0b".toList
  modelParameterCount := some 300
  rawOutputSha256 := some "0c".toList
  argmaxOutputSha256 := some "0d".toList
  binaryOutputSha256 := some "0e".toList
  outputShape := some [1, 196, 1536]
  gpuName := some "NVIDIA A40".toList
  cudaDriverVersion := some "570.195.03".toList
  cudaVersion := some "12.8".toList
  torchVersion := some "2.1.0+cu118".toList
  recordVersion := some 1
  signerPublicKey := some "AQ".toList
  signatureBytes := some "Ag".toList
  delegationChainHash := some "0f".toList
  signedAt := some 0
  rootCertJson := some "null".toList
  labCertJson := none
  runtimeCertJson := none

theorem fullRow_decodes (includeChain : Bool) (cloud : F) (h3Cell : Text)
    (epoch : Int64) (modelVersion : Text) :
    ∃ r, rowToRecord pg includeChain
      (fullRow cloud h3Cell epoch modelVersion) = .ok r :=
  ⟨_, rfl⟩

end Client

/-- **One filter, one order, one limit.**  Where every wanted row decodes, a
request with or without a filter is answered with the first `limit` wanted
rows, epochs descending and model versions ascending; `include_chain` decides
on the three certificates and on nothing else. -/
theorem fetchSignedPredictions_spec {F : Type} (pg : Postgres F)
    (table : List (PredictionRow F)) (h3Cell : Text) (epoch : Option Int64)
    (modelVersion : Option Text) (limit : UInt32)
    (hcell : validH3Cell h3Cell = true)
    (hmodel : ∀ mv, modelVersion = some mv → validModelVersion mv = true)
    (hlimit : 1 ≤ limit.toNat ∧ limit.toNat ≤ 1000)
    (hdecode : ∀ row ∈ table, wanted h3Cell epoch modelVersion row = true →
      ∃ r, rowToRecord pg true row = .ok r) :
    ∃ rows records,
      IsTop (wanted h3Cell epoch modelVersion) (NewestFirst pg) limit.toNat
        table rows ∧
      List.Forall₂ (fun row r => rowToRecord pg true row = .ok r) rows
        records ∧
      fetchSignedPredictions pg (.ok table) h3Cell epoch modelVersion limit
        true = .ok records ∧
      fetchSignedPredictions pg (.ok table) h3Cell epoch modelVersion limit
        false = .ok (records.map SignedPredictionRecord.withoutChain) := by
  have hvalid : validRequest h3Cell modelVersion limit = true := by
    have hall : modelVersion.all validModelVersion = true := by
      cases modelVersion with
      | none => rfl
      | some mv => exact hmodel mv rfl
    have hrange : validLimit limit = true :=
      (validLimit_iff limit).mpr hlimit
    rw [validRequest, hcell, hall, hrange]
    rfl
  obtain ⟨rows, hrows, htop⟩ :=
    fetchAll_isTop pg h3Cell epoch modelVersion limit table
  have hreturn : ∀ row ∈ rows, ∃ r, rowToRecord pg true row = .ok r :=
    fun row hrow => hdecode row (htop.mem hrow).1 (htop.mem hrow).2
  obtain ⟨records, hrecords⟩ := mapM_returns hreturn
  have hwithout : rows.mapM (rowToRecord pg false) =
      .ok (records.map SignedPredictionRecord.withoutChain) := by
    rw [mapM_eq_ok_iff, List.forall₂_map_right_iff]
    refine (mapM_eq_ok_iff.mp hrecords).imp fun row r hr => ?_
    rw [rowToRecord_false, hr]
    rfl
  refine ⟨rows, records, htop, mapM_eq_ok_iff.mp hrecords, ?_, ?_⟩
  · rw [fetchSignedPredictions_of_valid pg (.ok table) epoch true hvalid, hrows]
    exact hrecords
  · rw [fetchSignedPredictions_of_valid pg (.ok table) epoch false hvalid, hrows]
    exact hwithout

/-- A server that compares texts by their characters and keeps rows of equal
rank as they come. -/
def plainPostgres (F : Type) : Postgres F where
  collate := fun s t => decide (s ≤ t)
  collate_total := by
    intro s t
    simp only [Bool.or_eq_true, decide_eq_true_eq]
    exact le_total s t
  collate_trans := by
    intro s t u hst htu
    rw [decide_eq_true_eq] at hst htu ⊢
    exact le_trans hst htu
  arrangement := Arrangement.stable (PredictionRow F)
  bindError := "wrong number of parameters".toList
  columnError := fun column => "error decoding column ".toList ++ column

/-- Three rows of one cell. -/
def threeRows : List (PredictionRow Unit) :=
  [ fullRow () "881f1d4805fffff".toList 1 "a".toList
  , fullRow () "881f1d4805fffff".toList 2 "b".toList
  , fullRow () "881f1d4805fffff".toList 2 "a".toList ]

theorem fetchSignedPredictions_spec_threeRows :
    ∃ rows records,
      IsTop (wanted "881f1d4805fffff".toList (some 2) none)
        (NewestFirst (plainPostgres Unit)) 1 threeRows rows ∧
      List.Forall₂ (fun row r =>
        rowToRecord (plainPostgres Unit) true row = .ok r) rows records ∧
      fetchSignedPredictions (plainPostgres Unit) (.ok threeRows)
        "881f1d4805fffff".toList (some 2) none 1 true = .ok records ∧
      fetchSignedPredictions (plainPostgres Unit) (.ok threeRows)
        "881f1d4805fffff".toList (some 2) none 1 false =
          .ok (records.map SignedPredictionRecord.withoutChain) := by
  refine fetchSignedPredictions_spec (plainPostgres Unit) threeRows _ _ _ 1
    (by decide) nofun (by decide) ?_
  intro row hrow _
  simp only [threeRows, List.mem_cons, List.not_mem_nil, or_false] at hrow
  rcases hrow with rfl | rfl | rfl
  all_goals exact fullRow_decodes _ true _ _ _ _

end RenderEngine.Ports.LabClient
