import RenderEngine.Ports.LabClient
import RenderEngine.Ports.Mcp
import RenderEngine.Ports.SerdeNumber

/-!
# The tool `query_predictions` (`mcp-server/src/tools.rs`)

Every argument is read by an accessor that knows one kind of value: whatever
is of another kind counts as absent, and an absent argument has a default or
is no filter.  The limit is a `u64` cut down to a `u32` before the lab client
looks at it.

## Main results

* `rejected_iff`: a call is the caller's fault exactly if the request that was
  read is invalid.
* `exists_rows_of_returned`: what is returned is what was read to be wanted.
-/

namespace RenderEngine.Ports.QueryPredictions

open RenderEngine.Ports.CoreTypes
open RenderEngine.Ports.RustStd
open RenderEngine.Ports.Serde
open RenderEngine.Ports.SerdeNumber
open RenderEngine.Ports.Mcp
open RenderEngine.Ports.LabClient
open RenderEngine.Verified.BoundSelect
open RenderEngine.Verified.Fallible

/-! ## Records as values -/

def inputToValue (a : InputAttestation F64) : Value Number :=
  Value.object
    [ ("input_tile_hash".toList, Value.string a.inputTileHash)
    , ("stac_item_id".toList, Value.string a.stacItemId)
    , ("acquisition_timestamp".toList, Value.string a.acquisitionTimestamp)
    , ("cloud_cover_percent".toList, ofF64 a.cloudCoverPercent) ]

def modelToValue (a : ModelAttestation) : Value Number :=
  Value.object
    [ ("repo_id".toList, Value.string a.repoId)
    , ("commit_hash".toList, Value.string a.commitHash)
    , ("weight_sha256".toList, Value.string a.weightSha256)
    , ("parameter_count".toList, Value.number (.ofI64 a.parameterCount)) ]

def outputToValue (a : OutputAttestation) : Value Number :=
  Value.object
    [ ("raw_output_sha256".toList, Value.string a.rawOutputSha256)
    , ("argmax_output_sha256".toList, Value.string a.argmaxOutputSha256)
    , ("binary_output_sha256".toList, Value.string a.binaryOutputSha256)
    , ("output_shape".toList, Value.array
        (a.outputShape.map fun i => Value.number (.ofI64 i.toInt64))) ]

def runtimeToValue (a : RuntimeFingerprint) : Value Number :=
  Value.object
    [ ("gpu_name".toList, Value.string a.gpuName)
    , ("cuda_driver_version".toList, Value.string a.cudaDriverVersion)
    , ("cuda_version".toList, Value.string a.cudaVersion)
    , ("torch_version".toList, Value.string a.torchVersion) ]

/-- The certificates that are there. -/
def chainMembers (r : SignedPredictionRecord F64) :
    List (Text × Value Number) :=
  (r.rootCertJson.map fun s =>
      ("root_cert_json".toList, Value.string s)).toList
    ++ (r.labCertJson.map fun s =>
      ("lab_cert_json".toList, Value.string s)).toList
    ++ (r.runtimeCertJson.map fun s =>
      ("runtime_cert_json".toList, Value.string s)).toList

def recordToValue (r : SignedPredictionRecord F64) : Value Number :=
  Value.object
    ([ ("h3_cell".toList, Value.string r.h3Cell)
     , ("epoch".toList, Value.number (.ofI64 r.epoch))
     , ("model_version".toList, Value.string r.modelVersion)
     , ("input".toList, inputToValue r.input)
     , ("model".toList, modelToValue r.model)
     , ("output".toList, outputToValue r.output)
     , ("runtime".toList, runtimeToValue r.runtime)
     , ("record_version".toList,
        Value.number (.ofI64 r.recordVersion.toInt64))
     , ("signer_public_key".toList, Value.string r.signerPublicKey)
     , ("signature_bytes".toList, Value.string r.signatureBytes)
     , ("delegation_chain_hash".toList, Value.string r.delegationChainHash)
     , ("signed_at".toList, Value.string r.signedAt) ]
      ++ chainMembers r)

/-- The chain has no part in the other members. -/
theorem get_recordToValue (r : SignedPredictionRecord F64) (k : Text)
    (hk : k ∉ ["root_cert_json".toList, "lab_cert_json".toList,
      "runtime_cert_json".toList]) :
    (recordToValue r).get k = (recordToValue r.withoutChain).get k := by
  have hchain : (chainMembers r).reverse.lookup k = none := by
    rw [List.lookup_eq_none_iff]
    intro m hm
    rw [List.mem_reverse] at hm
    have hkey : m.1 ∈ ["root_cert_json".toList, "lab_cert_json".toList,
        "runtime_cert_json".toList] := by
      simp only [chainMembers, List.mem_append, Option.mem_toList,
        Option.map_eq_some_iff] at hm
      rcases hm with (⟨s, -, rfl⟩ | ⟨s, -, rfl⟩) | ⟨s, -, rfl⟩
      all_goals simp
    rw [bne_iff_ne]
    rintro rfl
    exact hk hkey
  rw [recordToValue, recordToValue, Value.get_object, Value.get_object,
    List.reverse_append, List.lookup_append, hchain]
  rfl

theorem get_epoch_recordToValue (r : SignedPredictionRecord F64) :
    (recordToValue r).get "epoch".toList =
      some (Value.number (.ofI64 r.epoch)) := by
  rw [get_recordToValue r _ (by decide), recordToValue, Value.get_object]
  rfl

theorem get_modelVersion_recordToValue (r : SignedPredictionRecord F64) :
    (recordToValue r).get "model_version".toList =
      some (Value.string r.modelVersion) := by
  rw [get_recordToValue r _ (by decide), recordToValue, Value.get_object]
  rfl

/-! ## The call -/

/-- `JsonRpcError::INTERNAL_ERROR` -/
def internalError : Int := -32603

/-- `lab_err_to_jsonrpc`. -/
def labErrToJsonrpc (e : LabClientError) : JsonRpcError Number :=
  match e with
  | .invalidH3Cell _ => .new JsonRpcError.invalidParams e.toText
  | .invalidModelVersion _ => .new JsonRpcError.invalidParams e.toText
  | .limitOutOfRange _ _ => .new JsonRpcError.invalidParams e.toText
  | _ => .new internalError e.toText

theorem labErrToJsonrpc_code_iff (e : LabClientError) :
    (labErrToJsonrpc e).code = JsonRpcError.invalidParams ↔
      e.isInvalid = true := by
  have hinternal : internalError ≠ JsonRpcError.invalidParams := by decide
  cases e with
  | invalidH3Cell s => exact iff_of_true rfl rfl
  | invalidModelVersion s => exact iff_of_true rfl rfl
  | limitOutOfRange n m => exact iff_of_true rfl rfl
  | _ => exact iff_of_false hinternal Bool.false_ne_true

/-- The lab client of a server. -/
structure Lab where
  pg : Postgres F64
  pool : Except Text (List (PredictionRow F64))

def h3CellArg (args : Value Number) : Option Text :=
  (args.get "h3_cell".toList).bind Value.asStr

def epochArg (args : Value Number) : Option Int64 :=
  (args.get "epoch".toList).bind asI64

def modelVersionArg (args : Value Number) : Option Text :=
  (args.get "model_version".toList).bind Value.asStr

/-- `.and_then(|v| v.as_u64()).unwrap_or(100) as u32` -/
def limitArg (args : Value Number) : UInt32 :=
  (((args.get "limit".toList).bind asU64).getD 100).toUInt32

def includeChainArg (args : Value Number) : Bool :=
  ((args.get "include_chain".toList).bind asBool).getD true

/-- What the tool answers with. -/
def response (records : List (SignedPredictionRecord F64)) : Value Number :=
  Value.object
    [ ("records".toList, Value.array (records.map recordToValue))
    , ("trust_root".toList, Value.object
        [ ("root_pubkey".toList, Value.string geiantLabRootPubkey)
        , ("label".toList, Value.string "GEIANT Lab".toList) ]) ]

/-- The handler of `query_predictions`. -/
def queryPredictions (lab : Option Lab) (args : Value Number) :
    Except (JsonRpcError Number) (Value Number) := do
  let lab ← okOr (.new internalError
    "lab client not configured (LAB_DATABASE_URL unset)".toList) lab
  let h3Cell ← okOr (.new JsonRpcError.invalidParams
    "h3_cell required".toList) (h3CellArg args)
  let records ← (fetchSignedPredictions lab.pg lab.pool h3Cell (epochArg args)
    (modelVersionArg args) (limitArg args) (includeChainArg args)).mapError
      labErrToJsonrpc
  return response records

/-! ## Outcomes -/

/-- The call is rejected with `INVALID_PARAMS`. -/
def Rejected (outcome : Except (JsonRpcError Number) (Value Number)) : Prop :=
  ∃ e, outcome = .error e ∧ e.code = JsonRpcError.invalidParams

/-- The records the call returned; an error has none. -/
def returned (outcome : Except (JsonRpcError Number) (Value Number)) :
    List (Value Number) :=
  match outcome with
  | .ok v => ((v.get "records".toList).bind Value.asArray).getD []
  | .error _ => []

theorem returned_response (records : List (SignedPredictionRecord F64)) :
    returned (.ok (response records)) = records.map recordToValue := by
  have hget : (response records).get "records".toList =
      some (Value.array (records.map recordToValue)) := by
    rw [response, Value.get_object]
    rfl
  rw [returned, hget, Option.bind_some, Value.asArray_array]
  rfl

theorem returned_of_rejected
    {outcome : Except (JsonRpcError Number) (Value Number)}
    (h : Rejected outcome) : returned outcome = [] := by
  obtain ⟨e, rfl, -⟩ := h
  rfl

section Outcomes

variable (lab : Lab) {args : Value Number} {h3Cell : Text}
  (hcell : h3CellArg args = some h3Cell)

include hcell

/-- With a cell the call is that of the lab client. -/
theorem queryPredictions_eq :
    queryPredictions (some lab) args =
      ((fetchSignedPredictions lab.pg lab.pool h3Cell (epochArg args)
        (modelVersionArg args) (limitArg args)
        (includeChainArg args)).mapError labErrToJsonrpc >>= fun records =>
          pure (response records)) := by
  rw [queryPredictions, hcell]
  rfl

/-- **When a call is the caller's fault.** -/
theorem rejected_iff :
    Rejected (queryPredictions (some lab) args) ↔
      validRequest h3Cell (modelVersionArg args) (limitArg args) = false := by
  rw [queryPredictions_eq lab hcell]
  constructor
  · rintro ⟨e, he, hcode⟩
    rw [← Bool.not_eq_true]
    intro hvalid
    have herrors := errorsIn_fetchSignedPredictions lab.pg lab.pool
      (epochArg args) (includeChainArg args) hvalid
    cases hfetch : fetchSignedPredictions lab.pg lab.pool h3Cell
        (epochArg args) (modelVersionArg args) (limitArg args)
        (includeChainArg args) with
    | error e' =>
        rw [hfetch] at he
        cases he
        rw [labErrToJsonrpc_code_iff, herrors e' hfetch] at hcode
        exact Bool.false_ne_true hcode
    | ok records =>
        rw [hfetch] at he
        cases he
  · intro hinvalid
    obtain ⟨e, he, hblame⟩ := fetchSignedPredictions_of_invalid lab.pg lab.pool
      (epochArg args) (includeChainArg args) hinvalid
    rw [he]
    exact ⟨labErrToJsonrpc e, rfl, (labErrToJsonrpc_code_iff e).mpr hblame⟩

/-- What is returned are records of wanted rows, `limit` at most. -/
theorem exists_rows_of_returned
    (hvalid : validRequest h3Cell (modelVersionArg args) (limitArg args) = true) :
    ∃ records : List (SignedPredictionRecord F64),
      returned (queryPredictions (some lab) args) =
        records.map recordToValue ∧
      records.length ≤ (limitArg args).toNat ∧
      ∀ r ∈ records, ∃ row, rowToRecord lab.pg (includeChainArg args) row =
        .ok r ∧ wanted h3Cell (epochArg args) (modelVersionArg args) row =
          true := by
  rw [queryPredictions_eq lab hcell]
  cases hfetch : fetchSignedPredictions lab.pg lab.pool h3Cell (epochArg args)
      (modelVersionArg args) (limitArg args) (includeChainArg args) with
  | error e => exact ⟨[], rfl, Nat.zero_le _, List.forall_mem_nil _⟩
  | ok records =>
      obtain ⟨table, rows, -, htop, hdecoded⟩ := rows_of_fetchSignedPredictions
        lab.pg lab.pool (epochArg args) (includeChainArg args) hvalid hfetch
      refine ⟨records, returned_response records, ?_, ?_⟩
      · rw [← hdecoded.length_eq]
        exact htop.length_le
      · intro r hr
        obtain ⟨row, hrow, hdecode⟩ := exists_of_mem_right hdecoded hr
        exact ⟨row, hdecode, (htop.mem hrow).2⟩

omit lab in
/-- A table of one wanted row many times over is returned up to the limit. -/
theorem returned_replicate (pg : Postgres F64)
    (hvalid : validRequest h3Cell (modelVersionArg args) (limitArg args) = true)
    {cloud : F64} {ep : Int64} {mv : Text}
    (hwanted : wanted h3Cell (epochArg args) (modelVersionArg args)
      (fullRow cloud h3Cell ep mv) = true) (n : Nat) :
    ∃ records : List (SignedPredictionRecord F64),
      returned (queryPredictions (some ⟨pg, .ok (List.replicate n
        (fullRow cloud h3Cell ep mv))⟩) args) = records.map recordToValue ∧
      records.length = min (limitArg args).toNat n ∧
      ∀ r ∈ records, r.epoch = ep ∧ r.modelVersion = mv := by
  have hrow : ∀ row ∈ List.replicate n (fullRow cloud h3Cell ep mv),
      row = fullRow cloud h3Cell ep mv := fun row hmem =>
    List.eq_of_mem_replicate hmem
  obtain ⟨records, hfetch⟩ := fetchSignedPredictions_returns pg (epochArg args)
    (includeChainArg args) hvalid fun row hmem _ => by
      rw [hrow row hmem]
      exact fullRow_decodes pg (includeChainArg args) cloud h3Cell ep mv
  obtain ⟨table, rows, htable, htop, hdecoded⟩ := rows_of_fetchSignedPredictions
    pg _ (epochArg args) (includeChainArg args) hvalid hfetch
  cases htable
  refine ⟨records, ?_, ?_, ?_⟩
  · rw [queryPredictions_eq _ hcell]
    dsimp only
    rw [hfetch]
    exact returned_response records
  · rw [← hdecoded.length_eq, htop.length, List.filter_replicate_of_pos hwanted,
      List.length_replicate]
  · intro r hr
    obtain ⟨row, hmem, hdecode⟩ := exists_of_mem_right hdecoded hr
    rw [hrow row (htop.mem hmem).1] at hdecode
    obtain ⟨hep, hmv⟩ := columns_of_rowToRecord pg hdecode
    exact ⟨(Option.some.inj hep).symm, (Option.some.inj hmv).symm⟩

end Outcomes

end RenderEngine.Ports.QueryPredictions
