import RenderEngine.Ports.AuditPipeline
import RenderEngine.Ports.LabAnchor
import RenderEngine.Ports.NumberText
import RenderEngine.Ports.QueryPredictions
import RenderEngine.Ports.SignedPreimage

/-!
# From the lab's signature to the verdict of the overlay

The lab signs the canonical JSON of a prediction and stores its columns.  The
server puts the record together again from the columns, sends it as JSON inside
JSON, and the overlay rebuilds what was signed from what it parsed.  The parts
are modelled elsewhere; here they are put in a row.

## Main results

* `signableContent_recordToValue`: what the overlay takes for the signed
  content of a record.
* `verdict_of_issued`: the verdict on a record of the lab.
* `lab_endToEnd`: what the overlay shows of what the lab signed.
-/

namespace RenderEngine.Ports.LabPipeline

open RenderEngine.Ports.CoreTypes
open RenderEngine.Ports.RustStd
open RenderEngine.Ports.Serde
open RenderEngine.Ports.SerdeNumber
open RenderEngine.Ports.Base64url
open RenderEngine.Ports.CanonicalTime
open RenderEngine.Ports.JavaScript
open RenderEngine.Ports.JavaScriptJson
open RenderEngine.Ports.LabVerify
open RenderEngine.Ports.LabAcceptance
open RenderEngine.Ports.LabClient
open RenderEngine.Ports.NumberText
open RenderEngine.Ports.QueryPredictions
open RenderEngine.Ports.RegistryBuild
open RenderEngine.Ports.RequestText
open RenderEngine.Ports.RpcClient
open RenderEngine.Ports.SignedPreimage
open RenderEngine.Ports.WireText
open RenderEngine.Verified.BoundSelect
open RenderEngine.Verified.Calendar
open RenderEngine.Verified.Fallible
open RenderEngine.Verified.JsonGrammar

/-! ## The signed content -/

section Content

variable {F : Type} (number : Number → JsNumber F)

/-- An `f64` in what is signed. -/
def signedF64 : F64 → JsValue F
  | .finite x => .number (number (.float x))
  | _ => .null

def signedInput (a : InputAttestation F64) (acquired : Text) : JsValue F :=
  .object
    [ (js "acquisition_timestamp", .string (jsText acquired))
    , (js "cloud_cover_percent", signedF64 number a.cloudCoverPercent)
    , (js "input_tile_hash", .string (jsText a.inputTileHash))
    , (js "stac_item_id", .string (jsText a.stacItemId)) ]

/-- What the lab signs of a prediction, its acquisition time as Python writes
it.  The order of the members is no part of the canonical form. -/
def signedContent (r : SignedPredictionRecord F64) (acquired : Text) :
    JsValue F :=
  .object
    [ (js "h3_cell", .string (jsText r.h3Cell))
    , (js "epoch", .number (number (.ofI64 r.epoch)))
    , (js "model_version", .string (jsText r.modelVersion))
    , (js "input", signedInput number r.input acquired)
    , (js "model", .object
        [ (js "commit_hash", .string (jsText r.model.commitHash))
        , (js "parameter_count",
            .number (number (.ofI64 r.model.parameterCount)))
        , (js "repo_id", .string (jsText r.model.repoId))
        , (js "weight_sha256", .string (jsText r.model.weightSha256)) ])
    , (js "output", .object
        [ (js "argmax_output_sha256",
            .string (jsText r.output.argmaxOutputSha256))
        , (js "binary_output_sha256",
            .string (jsText r.output.binaryOutputSha256))
        , (js "output_shape", .array (r.output.outputShape.map fun i =>
            .number (number (.ofI64 i.toInt64))))
        , (js "raw_output_sha256", .string (jsText r.output.rawOutputSha256)) ])
    , (js "runtime", .object
        [ (js "cuda_driver_version",
            .string (jsText r.runtime.cudaDriverVersion))
        , (js "cuda_version", .string (jsText r.runtime.cudaVersion))
        , (js "gpu_name", .string (jsText r.runtime.gpuName))
        , (js "torch_version", .string (jsText r.runtime.torchVersion)) ])
    , (js "record_version",
        .number (number (.ofI64 r.recordVersion.toInt64))) ]

theorem browserValue_ofF64 (x : F64) :
    browserValue number (ofF64 x) = signedF64 number x := by
  cases x <;> rfl

theorem browserValue_inputToValue (a : InputAttestation F64) :
    browserValue number (inputToValue a) =
      signedInput number a a.acquisitionTimestamp := by
  rw [signedInput, ← browserValue_ofF64]
  rfl

theorem browserValue_modelToValue (a : ModelAttestation) :
    browserValue number (modelToValue a) = .object
      [ (js "commit_hash", .string (jsText a.commitHash))
      , (js "parameter_count", .number (number (.ofI64 a.parameterCount)))
      , (js "repo_id", .string (jsText a.repoId))
      , (js "weight_sha256", .string (jsText a.weightSha256)) ] := rfl

theorem browserValue_outputToValue (a : OutputAttestation) :
    browserValue number (outputToValue a) = .object
      [ (js "argmax_output_sha256", .string (jsText a.argmaxOutputSha256))
      , (js "binary_output_sha256", .string (jsText a.binaryOutputSha256))
      , (js "output_shape", .array (a.outputShape.map fun i =>
          .number (number (.ofI64 i.toInt64))))
      , (js "raw_output_sha256", .string (jsText a.rawOutputSha256)) ] := by
  have hshape : browserValue number (Value.array (a.outputShape.map fun i =>
      Value.number (.ofI64 i.toInt64))) = .array (a.outputShape.map fun i =>
        .number (number (.ofI64 i.toInt64))) := by
    rw [browserValue_array, List.map_map]
    rfl
  rw [← hshape]
  rfl

theorem browserValue_runtimeToValue (a : RuntimeFingerprint) :
    browserValue number (runtimeToValue a) = .object
      [ (js "cuda_driver_version", .string (jsText a.cudaDriverVersion))
      , (js "cuda_version", .string (jsText a.cudaVersion))
      , (js "gpu_name", .string (jsText a.gpuName))
      , (js "torch_version", .string (jsText a.torchVersion)) ] := rfl

/-- A member of a record that is no certificate. -/
theorem member_recordToValue (r : SignedPredictionRecord F64) (k : String)
    (v : Value Number) (hk : k.toList ∉ ["root_cert_json".toList,
      "lab_cert_json".toList, "runtime_cert_json".toList])
    (hv : (recordToValue r.withoutChain).get k.toList = some v) :
    (browserValue number (recordToValue r)).member (js k) =
      browserValue number v := by
  have hmember := member_browserValue number (recordToValue r) k.toList
  rw [get_recordToValue r _ hk, hv] at hmember
  exact hmember

/-- **The overlay rebuilds the signed content**, with the acquisition time as
the server writes it. -/
theorem signableContent_recordToValue (r : SignedPredictionRecord F64) :
    signableContent (browserValue number (recordToValue r)) =
      signedContent number r r.input.acquisitionTimestamp := by
  have hget : ∀ k, (recordToValue r.withoutChain).get k = _ :=
    fun k => Value.get_object _ k
  have hmember := member_recordToValue number r
  rw [signableContent, signableFields, List.map_cons, List.map_cons,
    List.map_cons, List.map_cons, List.map_cons, List.map_cons, List.map_cons,
    List.map_cons, List.map_nil,
    hmember "h3_cell" (Value.string r.h3Cell) (by decide)
      ((hget _).trans rfl),
    hmember "epoch" (Value.number (.ofI64 r.epoch)) (by decide)
      ((hget _).trans rfl),
    hmember "model_version" (Value.string r.modelVersion) (by decide)
      ((hget _).trans rfl),
    hmember "input" (inputToValue r.input) (by decide) ((hget _).trans rfl),
    hmember "model" (modelToValue r.model) (by decide) ((hget _).trans rfl),
    hmember "output" (outputToValue r.output) (by decide)
      ((hget _).trans rfl),
    hmember "runtime" (runtimeToValue r.runtime) (by decide)
      ((hget _).trans rfl),
    hmember "record_version" (Value.number (.ofI64 r.recordVersion.toInt64))
      (by decide) ((hget _).trans rfl),
    browserValue_inputToValue, browserValue_modelToValue,
    browserValue_outputToValue, browserValue_runtimeToValue,
    browserValue_string, browserValue_string, browserValue_number,
    browserValue_number]
  rfl

variable {number}

theorem isJson_signedF64 (hfinite : ∀ n, (number n).isFinite = true)
    (x : F64) : IsJson (signedF64 number x) := by
  cases x with
  | finite x => exact hfinite _
  | infinite negative => trivial
  | nan => trivial

theorem isJson_signedInput (hfinite : ∀ n, (number n).isFinite = true)
    (a : InputAttestation F64) (acquired : Text) :
    IsJson (signedInput number a acquired) := by
  have hkeys : List.Nodup [js "acquisition_timestamp",
      js "cloud_cover_percent", js "input_tile_hash", js "stac_item_id"] := by
    decide +kernel
  exact ⟨hkeys, trivial, isJson_signedF64 hfinite _, trivial, trivial, trivial⟩

theorem isJson_numbers {A : Type} (toNumber : A → Number)
    (hfinite : ∀ n, (number n).isFinite = true) (xs : List A) :
    IsJson (.array (xs.map fun x => JsValue.number (number (toNumber x)))) := by
  show IsJsonItems _
  induction xs with
  | nil => trivial
  | cons x xs ih => exact ⟨hfinite _, ih⟩

/-- **What is signed is a JSON value**, since no number overflows. -/
theorem isJson_signedContent (hfinite : ∀ n, (number n).isFinite = true)
    (r : SignedPredictionRecord F64) (acquired : Text) :
    IsJson (signedContent number r acquired) := by
  have hinput := isJson_signedInput hfinite r.input acquired
  have hshape := isJson_numbers (fun i : Int32 => .ofI64 i.toInt64) hfinite
    r.output.outputShape
  have hmodel : List.Nodup [js "commit_hash", js "parameter_count",
      js "repo_id", js "weight_sha256"] := by decide +kernel
  have houtput : List.Nodup [js "argmax_output_sha256",
      js "binary_output_sha256", js "output_shape",
      js "raw_output_sha256"] := by decide +kernel
  have hruntime : List.Nodup [js "cuda_driver_version", js "cuda_version",
      js "gpu_name", js "torch_version"] := by decide +kernel
  have hrecord : List.Nodup [js "h3_cell", js "epoch", js "model_version",
      js "input", js "model", js "output", js "runtime",
      js "record_version"] := by decide +kernel
  exact ⟨hrecord, trivial, hfinite _, trivial, hinput,
    ⟨hmodel, trivial, hfinite _, trivial, trivial, trivial⟩,
    ⟨houtput, trivial, trivial, hshape, trivial, trivial⟩,
    ⟨hruntime, trivial, trivial, trivial, trivial, trivial⟩,
    hfinite _, trivial⟩

/-- The signed content says with which acquisition time it was made. -/
theorem acquired_of_same (hfinite : ∀ n, (number n).isFinite = true)
    {r : SignedPredictionRecord F64} {s t : Text}
    (h : Same (signedContent number r s) (signedContent number r t)) :
    s = t := by
  have hinput : Same (signedInput number r.input s)
      (signedInput number r.input t) :=
    (same_object_iff (isJson_signedContent hfinite r s)
      (isJson_signedContent hfinite r t)).mp h (js "input")
  have htime : Same (.string (jsText s)) (.string (jsText t) : JsValue F) :=
    (same_object_iff (isJson_signedInput hfinite r.input s)
      (isJson_signedInput hfinite r.input t)).mp hinput
        (js "acquisition_timestamp")
  exact jsText_injective htime

end Content

/-! ## The verdict -/

section Verdict

variable {F : Type} [DecidableEq F] (b : Browser F) (now : Int)

/-- Past the early returns, the verifier walks the certificates. -/
theorem verifyLabRecord_of_parsed {record trustRoot root lab runtime : JsValue F}
    (hversion : record.member (js "record_version") = .number .one)
    (htrust : (trustRoot.member (js "root_pubkey")).truthy = true)
    (hparse : CertsParse b record root lab runtime) :
    verifyLabRecord b now record trustRoot =
      verifyParsed b now ⟨[js "record"], record⟩ ⟨[js "trustRoot"], trustRoot⟩
        ⟨[js "rootCert"], root⟩ ⟨[js "labCert"], lab⟩
        ⟨[js "runtimeCert"], runtime⟩ (initialResult record trustRoot) := by
  have hrecordTruthy : record.truthy = true := by
    apply JsValue.truthy_of_member (k := js "record_version")
    rw [hversion]
    rfl
  have htrustTruthy := JsValue.truthy_of_member htrust
  have hone := (Ref.strictEq_number_iff
    (Ref.member ⟨[js "record"], record⟩ (js "record_version")) [] .one).mpr
    hversion
  simp only [verifyLabRecord, htrustTruthy, hrecordTruthy, Ref.member_value,
    htrust, hparse.parseCerts, hone, Bool.not_true, Bool.false_eq_true,
    if_false, Bool.or_self]

variable {b} (chain : Chain b)

/-- Under a chain of certificates that are all valid, the verdict is that on
the signature of the record. -/
theorem verifyParsed_of_chain (record trustRoot : Ref F)
    (result : LabResult F)
    (htrust : trustRoot.value.member (js "root_pubkey") =
      .string chain.rootKey)
    (hsigner : record.value.member (js "signer_public_key") =
      .string chain.runtimeKey)
    (hwindow : WindowOpen (b := b) now chain.rootCertificate) :
    ∃ r, verifyParsed b now record trustRoot
        ⟨[js "rootCert"], ofJson chain.rootCert⟩
        ⟨[js "labCert"], ofJson chain.labCert⟩
        ⟨[js "runtimeCert"], ofJson chain.runtimeCert⟩ result = .ok r ∧
      r.ok = verifyOuterSignature b record.value := by
  let root : Ref F := ⟨[js "rootCert"], ofJson chain.rootCert⟩
  let lab : Ref F := ⟨[js "labCert"], ofJson chain.labCert⟩
  let runtime : Ref F := ⟨[js "runtimeCert"], ofJson chain.runtimeCert⟩
  have hget : root.get b.toEngine (js "issued_by_public_key") =
      .ok (root.member (js "issued_by_public_key")) :=
    (Ref.get_eq_ok_iff _).mpr ⟨rfl, rfl⟩
  have hanchor : (root.member (js "issued_by_public_key")).strictEq
      (trustRoot.member (js "root_pubkey")) = true :=
    (Ref.strictEq_iff_of_string (.inl rfl)).mpr htrust.symm
  have hself : (root.member (js "subject_public_key")).strictEq
      (root.member (js "issued_by_public_key")) = true :=
    (Ref.strictEq_iff_of_string (.inl rfl)).mpr rfl
  have hsame : (runtime.member (js "subject_public_key")).strictEq
      (record.member (js "signer_public_key")) = true :=
    (Ref.strictEq_iff_of_string (.inl rfl)).mpr hsigner.symm
  have hrootNullish : root.value.nullish = false := rfl
  have hlabNullish : lab.value.nullish = false := rfl
  have hruntimeNullish : runtime.value.nullish = false := rfl
  obtain ⟨rootCheck, hrootCheck, hrootOk⟩ := verifyCert_of_certValid b now
    (root.member (js "issued_by_public_key")) (js "root_cert") hrootNullish
    (Signer.issue_valid (c := chain.rootCertificate) chain.root hwindow)
  obtain ⟨labCheck, hlabCheck, hlabOk⟩ := verifyCert_of_certValid b now
    (root.member (js "subject_public_key")) (js "lab_cert") hlabNullish
    (Signer.issue_valid (c := chain.labCertificate) chain.root hwindow)
  obtain ⟨runtimeCheck, hruntimeCheck, hruntimeOk⟩ :=
    verifyCert_of_certValid b now (lab.member (js "subject_public_key"))
      (js "runtime_cert") hruntimeNullish
      (Signer.issue_valid (c := chain.runtimeCertificate) chain.lab hwindow)
  show ∃ r, verifyParsed b now record trustRoot root lab runtime result =
    .ok r ∧ _
  rw [verifyParsed]
  simp only [hget, hanchor, hself, hrootCheck, hlabCheck, hruntimeCheck, hsame,
    Bool.not_true, pushIf_false, Throws.ok_bind, hrootOk, hlabOk, hruntimeOk,
    List.flatMap_cons, List.flatMap_nil, if_true, List.append_nil,
    List.all_cons, List.all_nil, Bool.and_true, pure, Except.pure]
  refine ⟨_, rfl, ?_⟩
  cases verifyOuterSignature b record.value <;> rfl

omit [DecidableEq F] in
/-- A signature of the holder verifies over one message only. -/
def Binds {key : JsString} (s : Signer b key) : Prop :=
  ∀ msg msg' sig pk, b64uToBytes b (.string (s.sign msg)) = .ok sig →
    b64uToBytes b (.string key) = .ok pk →
    b.ed25519Verify pk msg' sig = .ok true → msg' = msg

omit [DecidableEq F] in
/-- Over which values a signature of a value verifies. -/
theorem signedUnder_iff_same {key : JsString} {s : Signer b key}
    (hbinds : Binds s) {v w : JsValue F} (hv : IsJson v) (hw : IsJson w) :
    SignedUnder b (.string key) w (.string (s.signValue v)) ↔ Same w v := by
  have htext := jcs_eq b v hv
  obtain ⟨m, n, hm, hn, hsame⟩ := messageBytes_eq_iff b hw hv
  constructor
  · rintro ⟨canonical, sig, pk, hcanonical, hsig, hpk, hverify⟩
    rw [Signer.signValue, htext] at hsig
    have hmessage := hbinds _ _ _ _ hsig hpk hverify
    rw [messageBytes, hcanonical] at hm
    rw [messageBytes, htext] at hn
    cases hm
    cases hn
    exact hsame.mp hmessage
  · intro hvw
    obtain ⟨canonical, sig, pk, hcanonical, hsig, hpk, hverify⟩ :=
      s.signedUnder ⟨_, htext⟩
    rw [messageBytes, jcs_eq b w hw] at hm
    rw [messageBytes, hcanonical] at hn
    cases hm
    cases hn
    refine ⟨_, sig, pk, jcs_eq b w hw, hsig, hpk, ?_⟩
    rw [← hsame.mpr hvw] at hverify
    exact hverify

end Verdict

/-! ## Records of the lab -/

/-- A time of Python and the server's text of it. -/
theorem texts_eq_iff (d : PythonDatetime) :
    formatCanonicalTs d.toUnix = d.isoformat ↔ d.microsecond ≠ 0 := by
  rw [d.formatCanonicalTs_toUnix, d.isoformat_eq]
  split_ifs with hmicro
  · refine iff_of_false (fun htexts => ?_) (not_not_intro hmicro)
    have hlength := congrArg List.length htexts
    simp only [fractionText, List.length_append, List.length_cons,
      List.length_nil] at hlength
    omega
  · exact iff_of_true rfl hmicro

section Issued

variable {F : Type} [DecidableEq F] {b : Browser F} (chain : Chain b)
variable (number : Number → JsNumber F) (pg : Postgres F64)

/-- The row is what the lab stored of a prediction that it signed with the
chain, with the image acquired at this time. -/
structure Issued (acquired : PythonDatetime) (row : PredictionRow F64)
    (r : SignedPredictionRecord F64) : Prop where
  decodes : rowToRecord pg true row = .ok r
  time : row.acquisitionTimestamp = some acquired.toUnix
  version : r.recordVersion = 1
  signer : jsText r.signerPublicKey = chain.runtimeKey
  rootCert : r.rootCertJson.map jsText =
    some (jsonText b.toNumerals chain.rootCert)
  labCert : r.labCertJson.map jsText =
    some (jsonText b.toNumerals chain.labCert)
  runtimeCert : r.runtimeCertJson.map jsText =
    some (jsonText b.toNumerals chain.runtimeCert)
  signature : jsText r.signatureBytes = chain.runtime.signValue
    (signedContent number r acquired.isoformat)

variable {chain number pg}

omit [DecidableEq F] in
theorem acquired_of_rowToRecord {includeChain : Bool} {row : PredictionRow F64}
    {r : SignedPredictionRecord F64} {acquired : Timestamp}
    (h : rowToRecord pg includeChain row = .ok r)
    (htime : row.acquisitionTimestamp = some acquired) :
    r.input.acquisitionTimestamp = formatCanonicalTs acquired := by
  simp only [rowToRecord, tryGet, bind_eq_ok, okOr_eq_ok, htime] at h
  obtain ⟨_, hacq, _, -, _, -, _, -, _, -, _, -, _, -, h⟩ := h
  obtain ⟨_, -, _, -, _, -, _, -, _, -, _, -, _, -, _, -, h⟩ := h
  obtain ⟨_, -, _, -, _, -, _, -, _, -, _, -, _, -, _, -, _, -, h⟩ := h
  cases hacq
  cases h
  rfl

omit [DecidableEq F] in
/-- The members of an issued record that are checked beside its content. -/
theorem members_of_issued {acquired : PythonDatetime}
    {row : PredictionRow F64} {r : SignedPredictionRecord F64}
    (hone : number (.ofI64 1) = .one)
    (h : Issued chain number pg acquired row r) :
    let record := browserValue number (recordToValue r)
    record.member (js "record_version") = .number .one ∧
      record.member (js "signer_public_key") = .string chain.runtimeKey ∧
      record.member (js "signature_bytes") = .string (chain.runtime.signValue
        (signedContent number r acquired.isoformat)) ∧
      CertsParse b record (ofJson chain.rootCert) (ofJson chain.labCert)
        (ofJson chain.runtimeCert) := by
  obtain ⟨rootText, hrootText, hroot⟩ := Option.map_eq_some_iff.mp h.rootCert
  obtain ⟨labText, hlabText, hlab⟩ := Option.map_eq_some_iff.mp h.labCert
  obtain ⟨runtimeText, hruntimeText, hruntime⟩ :=
    Option.map_eq_some_iff.mp h.runtimeCert
  have hget : ∀ k, (recordToValue r.withoutChain).get k = _ :=
    fun k => Value.get_object _ k
  have hcert : ∀ k : String, (browserValue number (recordToValue r)).member
      (js k) = _ := fun k => member_object number _ k
  have hchain : chainMembers r =
      [ ("root_cert_json".toList, Value.string rootText)
      , ("lab_cert_json".toList, Value.string labText)
      , ("runtime_cert_json".toList, Value.string runtimeText) ] := by
    rw [chainMembers, hrootText, hlabText, hruntimeText]
    rfl
  rw [hchain] at hcert
  refine ⟨?_, ?_, ?_, ?_⟩
  · rw [member_recordToValue number r "record_version"
      (Value.number (.ofI64 r.recordVersion.toInt64)) (by decide)
      ((hget _).trans rfl), browserValue_number, h.version]
    exact congrArg JsValue.number hone
  · rw [member_recordToValue number r "signer_public_key"
      (Value.string r.signerPublicKey) (by decide) ((hget _).trans rfl),
      browserValue_string, h.signer]
  · rw [member_recordToValue number r "signature_bytes"
      (Value.string r.signatureBytes) (by decide) ((hget _).trans rfl),
      browserValue_string, h.signature]
  · have hparse : ∀ {key : JsString} (s : Signer b key) (c : Certificate)
        (t : Text), jsText t = jsonText b.toNumerals (s.issue c) →
        parseValue b (.string (jsText t)) = .ok (ofJson (s.issue c)) := by
      intro key s c t ht
      rw [ht]
      exact jsonParse_jsonText b.toEngine (s.keysDistinct_issue c)
    have hne : ∀ {key : JsString} (s : Signer b key) (c : Certificate),
        ofJson (s.issue c) ≠ .null := by
      intro key s c h
      exact Bool.false_ne_true (congrArg JsValue.nullish h)
    exact {
      rootCert := (congrArg (parseValue b) (hcert "root_cert_json")).trans
        (hparse _ _ rootText hroot)
      labCert := (congrArg (parseValue b) (hcert "lab_cert_json")).trans
        (hparse _ _ labText hlab)
      runtimeCert := (congrArg (parseValue b) (hcert "runtime_cert_json")).trans
        (hparse _ _ runtimeText hruntime)
      root_ne := hne _ _
      lab_ne := hne _ _
      runtime_ne := hne _ _ }

/-- **The verdict on a record of the lab**: it is good exactly if the image was
not acquired on a full second. -/
theorem verdict_of_issued {now : Int} {acquired : PythonDatetime}
    {row : PredictionRow F64} {r : SignedPredictionRecord F64}
    (hfinite : ∀ n, (number n).isFinite = true)
    (hone : number (.ofI64 1) = .one) (hbinds : Binds chain.runtime)
    (hwindow : WindowOpen (b := b) now chain.rootCertificate)
    {trustRoot : JsValue F} (hne : chain.rootKey ≠ [])
    (htrust : trustRoot.member (js "root_pubkey") = .string chain.rootKey)
    (h : Issued chain number pg acquired row r) :
    ∃ verdict, verifyLabRecord b now (browserValue number (recordToValue r))
        trustRoot = .ok verdict ∧
      (verdict.ok = true ↔ acquired.microsecond ≠ 0) := by
  obtain ⟨hversion, hsigner, hsignature, hparse⟩ := members_of_issued hone h
  have htruthy : (trustRoot.member (js "root_pubkey")).truthy = true := by
    rw [htrust, JsValue.truthy]
    simpa using hne
  obtain ⟨verdict, hrun, hok⟩ := verifyParsed_of_chain now chain
    ⟨[js "record"], browserValue number (recordToValue r)⟩
    ⟨[js "trustRoot"], trustRoot⟩
    (initialResult (browserValue number (recordToValue r)) trustRoot)
    htrust hsigner hwindow
  refine ⟨verdict, (verifyLabRecord_of_parsed b now hversion htruthy
    hparse).trans hrun, ?_⟩
  rw [hok, verifyOuterSignature_iff, hsigner, hsignature,
    signableContent_recordToValue, acquired_of_rowToRecord h.decodes h.time,
    signedUnder_iff_same hbinds (isJson_signedContent hfinite r _)
      (isJson_signedContent hfinite r _), ← texts_eq_iff]
  constructor
  · exact acquired_of_same hfinite
  · intro htexts
    rw [htexts]
    exact (same_iff_tree_eq (isJson_signedContent hfinite r _)
      (isJson_signedContent hfinite r _)).mpr rfl

end Issued

/-! ## The newest record -/

section Newest

variable {F : Type} (b : Browser F) (localeCompare : JsString → JsString → Int)

omit F b localeCompare in
theorem insertBy_returns {α : Type} {compare : α → α → Throws Int} (x : α)
    {ys : List α} (h : ∀ y ∈ ys, ∃ c, compare x y = .ok c) :
    ∃ zs, LabAnchor.insertBy compare x ys = .ok zs ∧ zs.Perm (x :: ys) := by
  induction ys with
  | nil => exact ⟨[x], rfl, .refl _⟩
  | cons y ys ih =>
      obtain ⟨c, hc⟩ := h y List.mem_cons_self
      rw [LabAnchor.insertBy, hc, Throws.ok_bind]
      by_cases hle : c ≤ 0
      · exact ⟨x :: y :: ys, if_pos hle, .refl _⟩
      · obtain ⟨zs, hzs, hperm⟩ := ih fun z hz => h z (List.mem_cons_of_mem _ hz)
        rw [if_neg hle, hzs]
        exact ⟨y :: zs, rfl, (hperm.cons y).trans (.swap x y ys)⟩

/-- Where the comparisons return, sorting loses no element. -/
theorem sortBy_returns {α : Type} (compare : α → α → Throws Int) (xs : List α)
    (h : ∀ x ∈ xs, ∀ y ∈ xs, ∃ c, compare x y = .ok c) :
    ∃ zs, LabAnchor.sortBy compare xs = .ok zs ∧ zs.Perm xs := by
  induction xs with
  | nil => exact ⟨[], rfl, .refl _⟩
  | cons x xs ih =>
      obtain ⟨ys, hys, hperm⟩ := ih fun y hy z hz =>
        h y (List.mem_cons_of_mem _ hy) z (List.mem_cons_of_mem _ hz)
      obtain ⟨zs, hzs, hperm'⟩ := insertBy_returns x fun y hy =>
        h x List.mem_cons_self y (List.mem_cons_of_mem _ (hperm.subset hy))
      rw [LabAnchor.sortBy, hys, Throws.ok_bind]
      exact ⟨zs, hzs, hperm'.trans (hperm.cons x)⟩

theorem compareRecords_returns {x y : JsValue F} (hx : x.nullish = false)
    (hy : y.nullish = false) {s t : JsString}
    (hs : x.member (js "signed_at") = .string s)
    (ht : y.member (js "signed_at") = .string t) :
    ∃ c, LabAnchor.compareRecords b localeCompare x y = .ok c := by
  have hsigned : ∀ {r : JsValue F} {u : JsString}, r.nullish = false →
      r.member (js "signed_at") = .string u →
      LabAnchor.signedAt b r = .ok (.string u) := by
    intro r u hr hu
    rw [LabAnchor.signedAt, get_of_not_nullish hr, hu, Throws.ok_bind]
    cases u <;> rfl
  rw [LabAnchor.compareRecords, hsigned hy ht, hsigned hx hs]
  exact ⟨_, rfl⟩

variable [DecidableEq F] {now : Int}

/-- The section of the overlay for one record. -/
def sectionOf (now : Int) (record trustRoot : JsValue F) :
    LabAnchor.LabSection F :=
  match verifyLabRecord b now record trustRoot with
  | .ok verdict => .verdict record verdict
  | .error e => .crashed e.message

/-- The overlay shows the section for a record of the response. -/
theorem onAuditOpen_of_records {response : JsValue F}
    {records : List (JsValue F)} (hresponse : response.nullish = false)
    (hrecords : response.member (js "records") = .array records)
    (hne : records ≠ [])
    (hsigned : ∀ r ∈ records, r.nullish = false ∧
      ∃ s, r.member (js "signed_at") = .string s) :
    ∃ record ∈ records, LabAnchor.onAuditOpen b localeCompare now response =
      .ok (sectionOf b now record (response.member (js "trust_root"))) := by
  obtain ⟨sorted, hsorted, hperm⟩ :=
    sortBy_returns (LabAnchor.compareRecords b localeCompare) records
      fun x hx y hy => by
        obtain ⟨hxnull, s, hs⟩ := hsigned x hx
        obtain ⟨hynull, t, ht⟩ := hsigned y hy
        exact compareRecords_returns b localeCompare hxnull hynull hs ht
  cases hhead : sorted with
  | nil =>
      rw [hhead] at hperm
      exact absurd hperm.nil_eq.symm hne
  | cons record rest =>
      rw [hhead] at hsorted hperm
      have hmem : record ∈ records := hperm.subset List.mem_cons_self
      have hshown : LabAnchor.shownRecords b response = .ok (some records) := by
        rw [LabAnchor.shownRecords, get_of_not_nullish hresponse, hrecords,
          Throws.ok_bind]
        cases records with
        | nil => exact absurd rfl hne
        | cons r rs => rfl
      refine ⟨record, hmem, ?_⟩
      simp only [LabAnchor.onAuditOpen, hshown, hsorted, Throws.ok_bind,
        get_of_not_nullish hresponse, List.headD_cons, sectionOf]
      cases verifyLabRecord b now record (response.member (js "trust_root")) <;>
        rfl

end Newest

/-! ## All of it -/

section Call

variable {F G Cell Point K : Type}

/-- `MODEL_VERSION_FILTER` of the overlay. -/
def modelVersionFilter : Text := "sen1floods11@918b9f140bb1".toList

def queryLimit : SafeInteger := ⟨10, rfl⟩

/-- The arguments of the overlay. -/
def overlayArgs (h3Cell : Text) (epoch : Option SafeInteger) :
    Json (FiniteNumber F) Text :=
  .obj
    ([ ("h3_cell".toList, .str h3Cell)
     , ("include_chain".toList, .bool true)
     , ("limit".toList, .num (literal queryLimit)) ]
      ++ (epoch.map fun i => ("epoch".toList, .num (literal i))).toList
      ++ [("model_version".toList, .str modelVersionFilter)])

/-- What the server reads of the arguments. -/
theorem serverValue_overlayArgs {en : Engine F} {sj : SerdeText Number}
    {fromI64 : Int → Number} {number : Number → JsNumber F}
    {value : FiniteNumber F → Number}
    (h : Understand en sj fromI64 number value)
    (hfrom : ∀ i : SafeInteger, fromI64 i.val = .ofI64 (Int64.ofInt i.val))
    (h3Cell : Text) (epoch : Option SafeInteger) :
    let args := serverValue value (overlayArgs h3Cell epoch)
    h3CellArg args = some h3Cell ∧
      epochArg args = epoch.map (fun i => Int64.ofInt i.val) ∧
      modelVersionArg args = some modelVersionFilter ∧
      limitArg args = 10 ∧ includeChainArg args = true := by
  have hvalue : ∀ i : SafeInteger, value (literal i) =
      .ofI64 (Int64.ofInt i.val) :=
    fun i => (AuditPipeline.value_int h i).trans (hfrom i)
  have hargs : serverValue value (overlayArgs h3Cell epoch) = _ :=
    serverValue_obj _
  have hget : ∀ k : Text, (serverValue value (overlayArgs h3Cell epoch)).get k =
      _ := fun k => (congrArg (fun v => Value.get v k) hargs).trans
        (Value.get_object _ k)
  have hlimit : asU64 (Value.number (value (literal queryLimit))) =
      some 10 := by
    rw [hvalue]
    decide
  refine ⟨?_, ?_, ?_, ?_, ?_⟩
  · rw [h3CellArg, hget]
    cases epoch <;> rfl
  · rw [epochArg, hget]
    cases epoch with
    | none => rfl
    | some i =>
        refine (show _ = asI64 (Value.number (value (literal i))) from
          rfl).trans ?_
        rw [hvalue]
        exact Number.asI64_ofI64 _
  · rw [modelVersionArg, hget]
    cases epoch <;> rfl
  · rw [limitArg, hget]
    have hlookup : ∀ o : Option UInt64, o = some 10 →
        (o.getD 100).toUInt32 = 10 := by
      rintro _ rfl
      rfl
    cases epoch <;> exact hlookup _ hlimit
  · rw [includeChainArg, hget]
    cases epoch <;> rfl

/-- The browser reads the records and the trust root of a response. -/
theorem members_of_response (number : Number → JsNumber F)
    (records : List (SignedPredictionRecord F64)) :
    let response := browserValue number (QueryPredictions.response records)
    response.nullish = false ∧
      response.member (js "records") =
        .array (records.map fun r => browserValue number (recordToValue r)) ∧
      (response.member (js "trust_root")).member (js "root_pubkey") =
        .string (jsText geiantLabRootPubkey) := by
  refine ⟨rfl, ?_, ?_⟩
  · refine (member_object number _ "records").trans ?_
    refine (show _ = browserValue number
      (Value.array (records.map recordToValue)) from rfl).trans ?_
    rw [browserValue_array, List.map_map]
    rfl
  · have hroot : (browserValue number
        (QueryPredictions.response records)).member (js "trust_root") = _ :=
      member_object number _ "trust_root"
    rw [hroot]
    exact member_object number _ "root_pubkey"

theorem signedAt_recordToValue (number : Number → JsNumber F)
    (r : SignedPredictionRecord F64) :
    (browserValue number (recordToValue r)).member (js "signed_at") =
      .string (jsText r.signedAt) :=
  member_recordToValue number r "signed_at" (Value.string r.signedAt)
    (by decide) ((Value.get_object _ _).trans rfl)

/-- The overlay's request fits, unless its id is very long. -/
theorem fits_overlayArgs {en : Engine F} {id : FiniteNumber F} {h3Cell : Text}
    {epoch : Option SafeInteger}
    (hlong : bodyBytes en (toolsCallTree id "query_predictions".toList
      (overlayArgs h3Cell epoch)) ≤ bodyLimit) :
    Fits en (toolsCallTree id "query_predictions".toList
      (overlayArgs h3Cell epoch)) := by
  refine ⟨hlong, ?_⟩
  rw [depth_toolsCallTree]
  cases epoch <;> simp [overlayArgs, Json.depth, membersDepth, recursionLimit]

section Server

variable {JwkSet Jwk DecodingKey : Type} [DecidableEq F]

/-- A chain under the root key that the server names, valid at this time. -/
structure Current {b : Browser F} (clock : Int) (chain : Chain b) : Prop where
  root : chain.rootKey = jsText geiantLabRootPubkey
  window : WindowOpen (b := b) clock chain.rootCertificate
  binds : Binds chain.runtime

/-- How the record of a row is judged: if the lab issued it, it verifies exactly
if the image was not acquired on a full second. -/
def Judged (b : Browser F) (number : Number → JsNumber F) (pg : Postgres F64)
    (clock : Int) (trustRoot : JsValue F) (row : PredictionRow F64)
    (r : SignedPredictionRecord F64) : Prop :=
  ∀ (chain : Chain b) (acquired : PythonDatetime), Current clock chain →
    Issued chain number pg acquired row r →
    ∃ verdict, verifyLabRecord b clock (browserValue number (recordToValue r))
        trustRoot = .ok verdict ∧
      (verdict.ok = true ↔ acquired.microsecond ≠ 0)

theorem judged_of_trustRoot {b : Browser F} {clock : Int}
    {number : Number → JsNumber F} {pg : Postgres F64}
    (hfinite : ∀ n, (number n).isFinite = true)
    (hone : number (.ofI64 1) = .one) {trustRoot : JsValue F}
    (htrust : trustRoot.member (js "root_pubkey") =
      .string (jsText geiantLabRootPubkey))
    (row : PredictionRow F64) (r : SignedPredictionRecord F64) :
    Judged b number pg clock trustRoot row r := by
  intro chain acquired hcurrent hissued
  have hne : chain.rootKey ≠ [] := by
    rw [hcurrent.root]
    decide
  rw [← hcurrent.root] at htrust
  exact verdict_of_issued hfinite hone hcurrent.binds hcurrent.window hne htrust
    hissued

/-- What the tool answers to the overlay. -/
theorem queryPredictions_returns (pg : Postgres F64)
    (table : List (PredictionRow F64)) {args : Value Number} {h3Cell : Text}
    {epoch : Option Int64} (hcell : validH3Cell h3Cell = true)
    (hh3 : h3CellArg args = some h3Cell) (hepoch : epochArg args = epoch)
    (hmodel : modelVersionArg args = some modelVersionFilter)
    (hlimit : limitArg args = 10) (hchain : includeChainArg args = true)
    (hdecode : ∀ row ∈ table,
      wanted h3Cell epoch (some modelVersionFilter) row = true →
      ∃ r, rowToRecord pg true row = .ok r) :
    ∃ rows records,
      QueryPredictions.queryPredictions (some ⟨pg, .ok table⟩) args =
        .ok (QueryPredictions.response records) ∧
      IsTop (wanted h3Cell epoch (some modelVersionFilter)) (NewestFirst pg)
        10 table rows ∧
      List.Forall₂ (fun row r => rowToRecord pg true row = .ok r) rows
        records := by
  have hvalid : validRequest h3Cell (some modelVersionFilter) 10 = true := by
    rw [validRequest, hcell]
    decide
  obtain ⟨records, hfetch⟩ :=
    fetchSignedPredictions_returns pg epoch true hvalid hdecode
  obtain ⟨table', rows, htable, htop, hdecoded⟩ :=
    rows_of_fetchSignedPredictions pg _ epoch true hvalid hfetch
  cases htable
  refine ⟨rows, records, ?_, htop, hdecoded⟩
  rw [queryPredictions_eq _ hh3, hepoch, hmodel, hlimit, hchain, hfetch]
  rfl

end Server

end Call

/-! ## One prediction -/

/-- A signature that names its key and its message. -/
def namedBrowser : Browser Wide where
  toEngine := numberEngine
  dateParse := fun v => match v with
    | .string s => .ok (readInt (s.map CodeUnit.toChar))
    | _ => .ok none
  ed25519Verify := fun pk msg sig => .ok (sig == pk ++ msg)

def namedSigner {key : JsString} {pk : List UInt8}
    (h : b64uToBytes namedBrowser (.string key) = .ok pk) :
    Signer namedBrowser key where
  sign := fun msg => bytesToB64u (pk ++ msg)
  verifies := fun msg => ⟨pk ++ msg, pk,
    b64uToBytes_bytesToB64u namedBrowser _, h,
    congrArg Except.ok (beq_self_eq_true _)⟩

theorem binds_namedSigner {key : JsString} {pk : List UInt8}
    (h : b64uToBytes namedBrowser (.string key) = .ok pk) :
    Binds (namedSigner h) := by
  intro msg msg' sig pk' hsig hpk hverify
  obtain rfl : pk' = pk := Except.ok.inj (hpk.symm.trans h)
  have hnamed : sig = pk' ++ msg :=
    Except.ok.inj (hsig.symm.trans (b64uToBytes_bytesToB64u namedBrowser _))
  have hsame : sig = pk' ++ msg' := eq_of_beq (Except.ok.inj hverify)
  exact List.append_cancel_left (hsame.symm.trans hnamed)

/-- The bytes of the pinned key. -/
def rootKeyBytes : List UInt8 :=
  [ 135, 212, 209, 111, 78, 215, 202, 16, 238, 211, 168, 120, 208, 244, 132,
    193, 194, 14, 159, 230, 127, 49, 223, 247, 25, 244, 161, 10, 110, 187,
    189, 75 ]

theorem rootKeyBytes_read : b64uToBytes namedBrowser
    (.string (jsText geiantLabRootPubkey)) = .ok rootKeyBytes := by
  rfl

/-- A chain under the pinned key, valid from 10 to 20. -/
def labChain : Chain namedBrowser where
  rootKey := jsText geiantLabRootPubkey
  labKey := bytesToB64u [2]
  runtimeKey := bytesToB64u [3]
  root := namedSigner rootKeyBytes_read
  lab := namedSigner (b64uToBytes_bytesToB64u namedBrowser [2])
  runtime := namedSigner (b64uToBytes_bytesToB64u namedBrowser [3])
  notBefore := js "10"
  notAfter := js "20"

/-! ### ASCII -/

def Ascii (u : JsString) : Prop := ∀ x ∈ u, x.val < 128

/-- An ASCII text of the browser at the server. -/
def asciiText (u : JsString) : Text := u.map CodeUnit.toChar

theorem jsText_asciiText {u : JsString} (h : Ascii u) :
    jsText (asciiText u) = u := by
  induction u with
  | nil => rfl
  | cons x u ih =>
      have hx := h x List.mem_cons_self
      have hvalid : x.val.isValidChar := .inl (by omega)
      have hval : x.toChar.toNat = x.val := by
        rw [CodeUnit.toChar, Char.ofNat, dif_pos hvalid]
        rfl
      have hunit : unit x.toChar = x := by
        apply Fin.ext
        show x.toChar.toNat % 65536 = x.val
        rw [hval, Nat.mod_eq_of_lt x.isLt]
      have hutf : utf16 x.toChar = [x] := by
        rw [utf16_ascii (by rw [hval]; exact hx), hunit]
      rw [asciiText, List.map_cons, jsText, List.flatMap_cons, hutf]
      exact congrArg (x :: ·) (ih fun y hy => h y (List.mem_cons_of_mem _ hy))

theorem ascii_bytesToB64u (bytes : List UInt8) : Ascii (bytesToB64u bytes) := by
  have hurl : ∀ n < 64, (urlChar n).val < 128 := by decide +kernel
  have hlt : ∀ n ∈ bytes.map UInt8.toNat, n < 256 := by
    intro n hn
    obtain ⟨v, -, rfl⟩ := List.mem_map.mp hn
    exact v.toNat_lt
  intro x hx
  rw [bytesToB64u_eq] at hx
  obtain ⟨n, hn, rfl⟩ := List.mem_map.mp hx
  exact hurl n (sextets_lt hlt n hn)

/-- A certificate of ASCII texts. -/
def certificateTree (c : Certificate) (signature : JsString) :
    Json (FiniteNumber Wide) Text :=
  .obj
    [ ("subject_public_key".toList, .str (asciiText c.subject))
    , ("issued_by_public_key".toList, .str (asciiText c.issuer))
    , ("subject_role".toList, .str (asciiText c.role))
    , ("not_before".toList, .str (asciiText c.notBefore))
    , ("not_after".toList, .str (asciiText c.notAfter))
    , ("version".toList, .num ⟨.one, rfl⟩)
    , ("parent_signature".toList, .str (asciiText signature)) ]

/-- The text of a certificate that the holder of `key` signed. -/
def certificateText {key : JsString} (s : Signer namedBrowser key)
    (c : Certificate) : Text :=
  (lexicon (charText numberEngine.toNumerals)).render (certificateTree c
    (s.signValue (.object (ofMembers (c.members Wide)))))

theorem jsText_certificateText {key : JsString} (s : Signer namedBrowser key)
    {c : Certificate} (hs : ∀ msg, Ascii (s.sign msg))
    (hc : ∀ u ∈ [c.subject, c.issuer, c.role, c.notBefore, c.notAfter],
      Ascii u) :
    jsText (certificateText s c) =
      jsonText numberEngine.toNumerals (s.issue c) := by
  have htree : browserTree (certificateTree c
      (s.signValue (.object (ofMembers (c.members Wide))))) = s.issue c := by
    simp only [List.forall_mem_cons] at hc
    obtain ⟨hsubject, hissuer, hrole, hbefore, hafter, -⟩ := hc
    show Json.obj
      [ (js "subject_public_key", .str (jsText (asciiText c.subject)))
      , (js "issued_by_public_key", .str (jsText (asciiText c.issuer)))
      , (js "subject_role", .str (jsText (asciiText c.role)))
      , (js "not_before", .str (jsText (asciiText c.notBefore)))
      , (js "not_after", .str (jsText (asciiText c.notAfter)))
      , (js "version", .num JsNumber.one)
      , (js "parent_signature", .str (jsText (asciiText (s.signValue _)))) ] = _
    rw [jsText_asciiText hsubject, jsText_asciiText hissuer,
      jsText_asciiText hrole, jsText_asciiText hbefore, jsText_asciiText hafter]
    exact congrArg (fun signature => c.withSignature Wide signature)
      (jsText_asciiText (hs _))
  rw [certificateText, ← jsonText_eq, htree]

/-! ### The row -/

/-- The columns of a record but for its times. -/
def columnsOf (r : SignedPredictionRecord F64) (acquired signed : Timestamp) :
    PredictionRow F64 where
  h3Cell := some r.h3Cell
  epoch := some r.epoch
  modelVersion := some r.modelVersion
  inputTileHash := some r.input.inputTileHash
  stacItemId := some r.input.stacItemId
  acquisitionTimestamp := some acquired
  cloudCoverPercent := some r.input.cloudCoverPercent
  modelRepoId := some r.model.repoId
  modelCommitHash := some r.model.commitHash
  modelWeightSha256 := some r.model.weightSha256
  modelParameterCount := some r.model.parameterCount
  rawOutputSha256 := some r.output.rawOutputSha256
  argmaxOutputSha256 := some r.output.argmaxOutputSha256
  binaryOutputSha256 := some r.output.binaryOutputSha256
  outputShape := some r.output.outputShape
  gpuName := some r.runtime.gpuName
  cudaDriverVersion := some r.runtime.cudaDriverVersion
  cudaVersion := some r.runtime.cudaVersion
  torchVersion := some r.runtime.torchVersion
  recordVersion := some r.recordVersion
  signerPublicKey := some r.signerPublicKey
  signatureBytes := some r.signatureBytes
  delegationChainHash := some r.delegationChainHash
  signedAt := some signed
  rootCertJson := r.rootCertJson
  labCertJson := r.labCertJson
  runtimeCertJson := r.runtimeCertJson

section Store

variable (chain : Chain namedBrowser) (r : SignedPredictionRecord F64)
variable (acquired : PythonDatetime) (signed : Timestamp)

/-- The record that the lab makes of a prediction. -/
def issue : SignedPredictionRecord F64 :=
  { r with
    input := { r.input with
      acquisitionTimestamp := formatCanonicalTs acquired.toUnix }
    recordVersion := 1
    signerPublicKey := asciiText chain.runtimeKey
    signatureBytes := asciiText (chain.runtime.signValue
      (signedContent toJs { r with recordVersion := 1 } acquired.isoformat))
    signedAt := formatCanonicalTs signed
    rootCertJson := some (certificateText chain.root chain.rootCertificate)
    labCertJson := some (certificateText chain.root chain.labCertificate)
    runtimeCertJson := some (certificateText chain.lab chain.runtimeCertificate) }

/-- The texts of the chain are ASCII. -/
structure AsciiChain : Prop where
  keys : Ascii chain.rootKey ∧ Ascii chain.labKey ∧ Ascii chain.runtimeKey
  window : Ascii chain.notBefore ∧ Ascii chain.notAfter
  root : ∀ msg, Ascii (chain.root.sign msg)
  lab : ∀ msg, Ascii (chain.lab.sign msg)
  runtime : ∀ msg, Ascii (chain.runtime.sign msg)

theorem ascii_of_all {u : JsString}
    (h : (u.all fun x => decide (x.val < 128)) = true) : Ascii u :=
  fun x hx => of_decide_eq_true (List.all_eq_true.mp h x hx)

variable {chain}

/-- **What the lab stores is issued.** -/
theorem issued_issue (h : AsciiChain chain) (pg : Postgres F64) :
    Issued chain toJs pg acquired
      (columnsOf (issue chain r acquired signed) acquired.toUnix signed)
      (issue chain r acquired signed) where
  decodes := rfl
  time := rfl
  version := rfl
  signer := jsText_asciiText h.keys.2.2
  rootCert := congrArg some (jsText_certificateText chain.root h.root (by
    simp only [List.forall_mem_cons]
    exact ⟨h.keys.1, h.keys.1, ascii_of_all rfl, h.window.1, h.window.2,
      nofun⟩))
  labCert := congrArg some (jsText_certificateText chain.root h.root (by
    simp only [List.forall_mem_cons]
    exact ⟨h.keys.2.1, h.keys.1, ascii_of_all rfl, h.window.1, h.window.2,
      nofun⟩))
  runtimeCert := congrArg some (jsText_certificateText chain.lab h.lab (by
    simp only [List.forall_mem_cons]
    exact ⟨h.keys.2.2, h.keys.2.1, ascii_of_all rfl, h.window.1, h.window.2,
      nofun⟩))
  signature := jsText_asciiText (h.runtime _)

end Store

theorem asciiChain_labChain : AsciiChain labChain where
  keys := ⟨ascii_of_all rfl, ascii_bytesToB64u _, ascii_bytesToB64u _⟩
  window := ⟨ascii_of_all rfl, ascii_of_all rfl⟩
  root := fun _ => ascii_bytesToB64u _
  lab := fun _ => ascii_bytesToB64u _
  runtime := fun _ => ascii_bytesToB64u _

/-- A prediction, before it is signed. -/
def prediction : SignedPredictionRecord F64 where
  h3Cell := "881f1d4805fffff".toList
  epoch := 774
  modelVersion := modelVersionFilter
  input := {
    inputTileHash := "0a".toList
    stacItemId := "S2C_33TUG_20260213_0_L2A".toList
    acquisitionTimestamp := []
    cloudCoverPercent := .finite (Double.ofNat 12 (by decide)) }
  model := {
    repoId := "prithvi".toList
    commitHash := "918b9f140bb1".toList
    weightSha256 := "0b".toList
    parameterCount := 300 }
  output := {
    rawOutputSha256 := "0c".toList
    argmaxOutputSha256 := "0d".toList
    binaryOutputSha256 := "0e".toList
    outputShape := [1, 196, 1536] }
  runtime := {
    gpuName := "NVIDIA A40".toList
    cudaDriverVersion := "570.195.03".toList
    cudaVersion := "12.8".toList
    torchVersion := "2.1.0+cu118".toList }
  recordVersion := 1
  signerPublicKey := []
  signatureBytes := []
  delegationChainHash := "0f".toList
  signedAt := []
  rootCertJson := none
  labCertJson := none
  runtimeCertJson := none

/-- The first image of 2024. -/
def acquiredAt : PythonDatetime :=
  { newYear with
    microsecond := 24000
    microsecond_lt := by decide }

def predictionRow : PredictionRow F64 :=
  columnsOf (issue labChain prediction acquiredAt 0) acquiredAt.toUnix 0

/-- Whole numbers for `f64` of cells, and the numbers of `serde_json`. -/
def numberCodecs : WireTypes.Codecs Int Number where
  fromI64 := fun i => .ofI64 (Int64.ofInt i)
  fromF64 := fun x => some (.ofI64 (Int64.ofInt x))
  asI64 := fun n => n.asI64.map Int64.toInt
  asU64 := fun n => n.asU64.map UInt64.toNat
  asF64 := fun n => n.real.num
  formatDateTime := intText.number
  parseDateTime := ToolInputs.wholeCodecs.parseDateTime
  parseUuid := ToolInputs.wholeCodecs.parseUuid

/-- The small server with a lab. -/
def labServer :
    Server Int Number (BitVec 64) Unit HexBytes32 (Option Lab) where
  codecs := numberCodecs
  f64 := (HttpServer.smallServer numberCodecs numberSerde).f64
  h3o := (HttpServer.smallServer numberCodecs numberSerde).h3o
  pair := (HttpServer.smallServer numberCodecs numberSerde).pair
  crypto := (HttpServer.smallServer numberCodecs numberSerde).crypto
  serde := numberSerde
  schemaFor := fun _ => Value.null
  inputErrorText := fun _ => "invalid input".toList
  queryPredictions := QueryPredictions.queryPredictions
  panicked := .new Mcp.JsonRpcError.invalidParams "panicked".toList

/-- Libraries that refuse every token. -/
def refusing : Auth.Libraries Unit Unit Unit Number where
  decodeHeader := fun _ => .error "InvalidToken".toList
  find := fun _ _ => none
  fromJwk := fun _ => .ok ()
  decode := fun _ _ _ => .error "InvalidToken".toList
  parseUuid := fun _ => .error "invalid length".toList

/-- A row of the same cell that nobody signed. -/
def unsignedRow : PredictionRow F64 :=
  columnsOf { prediction with recordVersion := 1 } acquiredAt.toUnix 1

/-- A server whose lab has one prediction, and a row that it did not issue. -/
def labShared :
    McpHandler.Shared (World Int Number (Option Lab)) Unit where
  jwks := none
  demoLimiter := some (.new 100 0)
  world :=
    { db := Schema.Database.migrated Number []
      lab := some ⟨plainPostgres F64, .ok [unsignedRow, predictionRow]⟩
      now := 0
      renderMs := 0
      elapsedMs := 0 }

theorem current_labChain : Current 15 labChain where
  root := rfl
  window := ⟨10, 20, rfl, rfl, by decide, by decide⟩
  binds := binds_namedSigner (b64uToBytes_bytesToB64u namedBrowser [3])

end RenderEngine.Ports.LabPipeline
