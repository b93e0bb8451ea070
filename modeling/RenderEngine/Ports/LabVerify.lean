import RenderEngine.Ports.JavaScriptJson

/-!
# The lab record verifier (`demo/lab_verify.js`)

A record carries three certificates as JSON strings.  `verifyLabRecord` walks
root, lab and runtime certificate, then the record's own signature, and
collects errors on the way; the verdict is `ok` when none was collected and
every check passed.

Ed25519, `Date.parse` and the wording of the engine's errors come with a
`Browser`; all else is defined.  A promise that rejects is a `Throws` error.

## Main results

* `checkSignature_eq_ok_true_iff`: when a signature check succeeds.
* `pushIf_eq_ok_nil_iff`: no error is collected exactly where no condition
  holds.
* `jcs_object_returns`: an object of serialisable values is serialisable.
-/

namespace RenderEngine.Ports.LabVerify

open RenderEngine.Ports.CoreTypes
open RenderEngine.Ports.Serde
open RenderEngine.Ports.JavaScript
open RenderEngine.Ports.JavaScriptJson
open RenderEngine.Verified.Fallible
open RenderEngine.Verified.SortedMap

/-- What the verifier uses of its surroundings. -/
structure Browser (F : Type) extends Engine F where
  /-- `Date.parse`; `none` is `NaN` -/
  dateParse : JsValue F → Throws (Option Int)
  /-- `ed25519Verify(pubkeyBytes, msgBytes, sigBytes)` -/
  ed25519Verify : List UInt8 → List UInt8 → List UInt8 → Throws Bool

section Verify

variable {F : Type} (b : Browser F)

/-! ## Base64url and canonical JSON -/

def b64uToBytes : JsValue F → Throws (List UInt8)
  | .string s => do
      let b64 := (s.map fun u => if u = unit '-' then unit '+' else u).map
        fun u => if u = unit '_' then unit '/' else u
      let pad := (4 - b64.length % 4) % 4
      let bin ← atob b.toEngine (b64 ++ List.replicate pad (unit '='))
      return bin.map fun u => UInt8.ofNat u.val
  | _ => .error ⟨js "b64u: not a string"⟩

/-- `s.replace(/=+$/, '')` -/
def trimPadding (s : JsString) : JsString :=
  (s.reverse.dropWhile fun u => u = unit '=').reverse

def bytesToB64u (bytes : List UInt8) : JsString :=
  let b64 := btoa (bytes.map fun v => Fin.ofNat 65536 v.toNat)
  trimPadding ((b64.map fun u => if u = unit '+' then unit '-' else u).map
    fun u => if u = unit '/' then unit '_' else u)

mutual

def jcs : JsValue F → Throws JsString
  | .null => .ok (js "null")
  | .undefined =>
      .error ⟨js "jcs: undefined is not serializable; remove the field"⟩
  | .bool v => .ok (js (if v then "true" else "false"))
  | .number n =>
      if n.isFinite then .ok (JsValue.numberToString b.toEngine n)
      else .error ⟨js "jcs: non-finite number"⟩
  | .string s => .ok (stringify s)
  | .array items => do
      let parts ← jcsItems items
      return js "[" ++ (js ",").intercalate parts ++ js "]"
  | .object ms => do
      let parts ← (sortByKey (jcsMembers ms)).mapM fun m => do
        let value ← m.2
        return stringify m.1 ++ js ":" ++ value
      return js "\x7b" ++ (js ",").intercalate parts ++ js "\x7d"

/-- `value.map(jcs)`. -/
def jcsItems : List (JsValue F) → Throws (List JsString)
  | [] => .ok []
  | x :: xs => do
      let part ← jcs x
      let parts ← jcsItems xs
      return part :: parts

/-- The members that are not `undefined`, with what `jcs` makes of their
values. -/
def jcsMembers : List (JsString × JsValue F) → List (JsString × Throws JsString)
  | [] => []
  | (k, v) :: ms =>
      if v.isUndefined then jcsMembers ms else (k, jcs v) :: jcsMembers ms

end

private theorem mem_jcsMembers {m : JsString × Throws JsString}
    {ms : List (JsString × JsValue F)} (h : m ∈ jcsMembers b ms) :
    ∃ v, (m.1, v) ∈ ms ∧ v.isUndefined = false ∧ m.2 = jcs b v := by
  induction ms with
  | nil => simp [jcsMembers] at h
  | cons m' ms ih =>
      rw [jcsMembers] at h
      split_ifs at h with hundefined
      · rcases ih h with ⟨v, hmem, hv⟩
        exact ⟨v, List.mem_cons_of_mem _ hmem, hv⟩
      · rcases List.mem_cons.mp h with rfl | h
        · exact ⟨m'.2, List.mem_cons_self, by simpa using hundefined, rfl⟩
        · rcases ih h with ⟨v, hmem, hv⟩
          exact ⟨v, List.mem_cons_of_mem _ hmem, hv⟩

/-- An object whose defined members are serialisable is serialisable. -/
theorem jcs_object_returns {ms : List (JsString × JsValue F)}
    (h : ∀ m ∈ ms, m.2.isUndefined = false → ∃ t, jcs b m.2 = .ok t) :
    ∃ t, jcs b (.object ms) = .ok t := by
  have hparts : ∃ parts, (sortByKey (jcsMembers b ms)).mapM (fun m => do
      let value ← m.2
      return stringify m.1 ++ js ":" ++ value) = Except.ok parts := by
    apply mapM_returns
    intro m hm
    rw [sortByKey, List.mem_insertionSort] at hm
    obtain ⟨v, hmem, hdefined, hv⟩ := mem_jcsMembers b hm
    obtain ⟨t, ht⟩ := h _ hmem hdefined
    refine ⟨stringify m.1 ++ js ":" ++ t, ?_⟩
    rw [hv, ht]
    rfl
  obtain ⟨parts, hparts⟩ := hparts
  refine ⟨js "\x7b" ++ (js ",").intercalate parts ++ js "\x7d", ?_⟩
  rw [jcs, hparts]
  rfl

/-! ## Signatures -/

/-- The signature check of a body, as `verifyCert` and `verifyOuterSignature`
make it: every step may throw. -/
def checkSignature (body signature key : JsValue F) : Throws Bool := do
  let canonical ← jcs b body
  let msgBytes := textEncode canonical
  let sigBytes ← b64uToBytes b signature
  let pkBytes ← b64uToBytes b key
  b.ed25519Verify pkBytes msgBytes sigBytes

/-- `signature` verifies under `key` over the canonical form of `body`. -/
def SignedUnder (key body signature : JsValue F) : Prop :=
  ∃ canonical sig pk, jcs b body = .ok canonical ∧
    b64uToBytes b signature = .ok sig ∧ b64uToBytes b key = .ok pk ∧
    b.ed25519Verify pk (textEncode canonical) sig = .ok true

theorem checkSignature_eq_ok_true_iff (body signature key : JsValue F) :
    checkSignature b body signature key = .ok true ↔
      SignedUnder b key body signature := by
  simp only [checkSignature, bind_eq_ok, SignedUnder]
  constructor
  · rintro ⟨canonical, hjcs, sig, hsig, pk, hpk, hverify⟩
    exact ⟨canonical, sig, pk, hjcs, hsig, hpk, hverify⟩
  · rintro ⟨canonical, sig, pk, hjcs, hsig, hpk, hverify⟩
    exact ⟨canonical, hjcs, sig, hsig, pk, hpk, hverify⟩

/-- Only a string is a key. -/
theorem SignedUnder.key_string {b : Browser F} {key body signature : JsValue F}
    (h : SignedUnder b key body signature) : ∃ s, key = .string s := by
  rcases h with ⟨canonical, sig, pk, -, -, hpk, -⟩
  cases key with
  | string s => exact ⟨s, rfl⟩
  | _ => cases hpk

/-- The names of the eight signed fields of a record. -/
def signableFields : List JsString :=
  [ js "h3_cell", js "epoch", js "model_version", js "input", js "model"
  , js "output", js "runtime", js "record_version" ]

/-- `signableContent`: an object with a member for each signed field,
`undefined` where the record has none. -/
def signableContent (record : JsValue F) : JsValue F :=
  .object (signableFields.map fun k => (k, record.member k))

/-- `verifyOuterSignature`: whatever throws counts as a bad signature. -/
def verifyOuterSignature (record : JsValue F) : Bool :=
  match checkSignature b (signableContent record)
      (record.member (js "signature_bytes"))
      (record.member (js "signer_public_key")) with
  | .ok verified => verified
  | .error _ => false

theorem verifyOuterSignature_iff (record : JsValue F) :
    verifyOuterSignature b record = true ↔
      SignedUnder b (record.member (js "signer_public_key"))
        (signableContent record) (record.member (js "signature_bytes")) := by
  rw [← checkSignature_eq_ok_true_iff, verifyOuterSignature]
  cases checkSignature b (signableContent record)
    (record.member (js "signature_bytes"))
    (record.member (js "signer_public_key")) <;> simp

/-! ## Certificates -/

/-- `if (c) errs.push(message)`, where writing the message may throw. -/
def pushIf (c : Bool) (message : Throws JsString) (errs : List JsString) :
    Throws (List JsString) :=
  if c then do
    let m ← message
    return errs ++ [m]
  else return errs

@[simp] theorem pushIf_false (message : Throws JsString)
    (errs : List JsString) : pushIf false message errs = .ok errs := rfl

/-- No error is collected exactly where no condition holds. -/
theorem pushIf_eq_ok_nil_iff (c : Bool) (message : Throws JsString)
    (errs : List JsString) :
    pushIf c message errs = .ok [] ↔ c = false ∧ errs = [] := by
  cases c with
  | false => simp
  | true => cases message <;> simp [pushIf, pure, Except.pure]

/-- What `verifyCert` returns beside its verdict once every field is there. -/
structure CertDetail (F : Type) where
  subject : JsValue F
  issuer : JsValue F
  notBefore : JsValue F
  notAfter : JsValue F
  current : Bool
  constraints : JsValue F

structure CertCheck (F : Type) where
  ok : Bool
  errors : List JsString
  role : JsValue F
  detail : Option (CertDetail F)

/-- `required` of `verifyCert`. -/
def requiredFields : List JsString :=
  [ js "subject_public_key", js "issued_by_public_key", js "subject_role"
  , js "not_before", js "not_after", js "version", js "parent_signature" ]

/-- The loop over the required fields. -/
def missingFields (label : JsString) (cert : Ref F) :
    List JsString → Throws (List JsString)
  | [] => .ok []
  | k :: ks => do
      let v ← cert.get b.toEngine k
      let errs ← missingFields label cert ks
      return if v.value.isUndefined then
        (label ++ js ": missing field \"" ++ k ++ js "\"") :: errs
      else errs

theorem missingFields_eq_ok_nil_iff (label : JsString) {cert : Ref F}
    (hcert : cert.value.nullish = false) (ks : List JsString) :
    missingFields b label cert ks = .ok [] ↔
      ∀ k ∈ ks, (cert.value.member k).isUndefined = false := by
  induction ks with
  | nil => simp [missingFields]
  | cons k ks ih =>
      have hget : cert.get b.toEngine k = .ok (cert.member k) :=
        (Ref.get_eq_ok_iff _).mpr ⟨hcert, rfl⟩
      rw [List.forall_mem_cons, ← ih, missingFields, hget]
      simp only [Throws.ok_bind, bind_eq_ok, Ref.member_value]
      by_cases hk : (cert.value.member k).isUndefined = true <;>
        simp [hk, pure, Except.pure]

/-- `Number.isFinite(nb) && Number.isFinite(na) && nb <= now && now <= na` -/
def isCurrent (now : Int) (nb na : Option Int) : Bool :=
  match nb, na with
  | some nb, some na => decide (nb ≤ now ∧ now ≤ na)
  | _, _ => false

theorem isCurrent_iff (now : Int) (nb na : Option Int) :
    isCurrent now nb na = true ↔
      ∃ t t', nb = some t ∧ na = some t' ∧ t ≤ now ∧ now ≤ t' := by
  cases nb <;> cases na <;> simp [isCurrent]

def windowMessage (label : JsString) (notBefore notAfter : JsValue F) :
    Throws JsString := do
  let nb ← notBefore.toText b.toEngine
  let na ← notAfter.toText b.toEngine
  return label ++ js ": outside validity window (" ++ nb ++ js " → " ++ na
    ++ js ")"

def issuerMessage (label : JsString) (issuer parent : JsValue F) :
    Throws JsString := do
  let cert ← issuer.toText b.toEngine
  let expected ← parent.toText b.toEngine
  return label ++ js ": issuer mismatch (cert says " ++ cert
    ++ js ", expected " ++ expected ++ js ")"

/-- The own members of a value that has the fields of a certificate, which
only an object can have. -/
def ownEntries : JsValue F → List (JsString × JsValue F)
  | .object ms => ms
  | _ => []

/-- `certBody`: the certificate without its signature. -/
def certBody (cert : JsValue F) : JsValue F :=
  .object ((ownEntries cert).filter fun m => m.1 ≠ js "parent_signature")

variable [DecidableEq F] (now : Int)

/-- `verifyCert`.  Reading the first required field throws if `cert` is
`null`; after that reading a field never throws. -/
def verifyCert (cert parentPubkeyB64u : Ref F) (label : JsString) :
    Throws (CertCheck F) := do
  let missing ← missingFields b label cert requiredFields
  let role := (cert.member (js "subject_role")).value
  if !missing.isEmpty then
    return { ok := false, errors := missing, role := role, detail := none }
  let notBefore := (cert.member (js "not_before")).value
  let notAfter := (cert.member (js "not_after")).value
  let nb ← b.dateParse notBefore
  let na ← b.dateParse notAfter
  let tempOk := isCurrent now nb na
  let errs ← pushIf (!tempOk) (windowMessage b label notBefore notAfter) []
  let issuer := cert.member (js "issued_by_public_key")
  let errs ← pushIf (!issuer.strictEq parentPubkeyB64u)
    (issuerMessage b label issuer.value parentPubkeyB64u.value) errs
  let signature := (cert.member (js "parent_signature")).value
  let attempt := checkSignature b (certBody cert.value) signature
    parentPubkeyB64u.value
  let (sigOk, errs) := match attempt with
    | .ok verified => (verified, errs)
    | .error e =>
        (false, errs ++ [label ++ js ": signature verify threw — " ++ e.message])
  let errs :=
    if !sigOk && errs.isEmpty then [label ++ js ": invalid signature"] else errs
  return {
    ok := sigOk && tempOk && errs.isEmpty
    errors := errs
    role := role
    detail := some {
      subject := (cert.member (js "subject_public_key")).value
      issuer := issuer.value
      notBefore := notBefore
      notAfter := notAfter
      current := tempOk
      constraints :=
        (cert.member (js "constraints")).value.orElse (.object []) } }

/-! ## Records -/

structure LabResult (F : Type) where
  ok : Bool
  trustRoot : JsValue F
  trustRootLabel : JsValue F
  chainDepth : Nat
  signer : JsValue F
  outerSignatureOk : Bool
  chain : List (CertCheck F)
  errors : List JsString

/-- `JSON.parse(v)`: the argument is made a string first. -/
def parseValue (v : JsValue F) : Throws (JsValue F) := do
  let text ← v.toText b.toEngine
  jsonParse b.toEngine text

/-- The three certificates of a record, parsed one after the other. -/
def parseCerts (record : JsValue F) : Throws (Ref F × Ref F × Ref F) := do
  let root ← parseValue b (record.member (js "root_cert_json"))
  let lab ← parseValue b (record.member (js "lab_cert_json"))
  let runtime ← parseValue b (record.member (js "runtime_cert_json"))
  return (⟨[js "rootCert"], root⟩, ⟨[js "labCert"], lab⟩,
    ⟨[js "runtimeCert"], runtime⟩)

/-- A message that names two values. -/
def mismatchMessage (before : JsString) (x : JsValue F) (between : JsString)
    (y : JsValue F) (after : JsString) : Throws JsString := do
  let x ← x.toText b.toEngine
  let y ← y.toText b.toEngine
  return before ++ x ++ between ++ y ++ after

/-- `verifyLabRecord` from the parsed certificates on. -/
def verifyParsed (record trustRoot rootCert labCert runtimeCert : Ref F)
    (result : LabResult F) : Throws (LabResult F) := do
  let rootPubkey := trustRoot.member (js "root_pubkey")
  let rootIssuer ← rootCert.get b.toEngine (js "issued_by_public_key")
  let rootSubject := rootCert.member (js "subject_public_key")
  let errors ← pushIf (!rootIssuer.strictEq rootPubkey)
    (mismatchMessage b (js "trust anchor mismatch: root cert issued by ")
      rootIssuer.value (js ", expected ") rootPubkey.value []) []
  let errors ← pushIf (!rootSubject.strictEq rootIssuer)
    (mismatchMessage b (js "root cert is not self-signed (subject ")
      rootSubject.value (js " !== issuer ") rootIssuer.value (js ")")) errors
  let rootCheck ← verifyCert b now rootCert rootIssuer (js "root_cert")
  let labCheck ← verifyCert b now labCert rootSubject (js "lab_cert")
  let labSubject := labCert.member (js "subject_public_key")
  let runtimeCheck ← verifyCert b now runtimeCert labSubject (js "runtime_cert")
  let chain := [rootCheck, labCheck, runtimeCheck]
  let errors := errors ++ chain.flatMap fun c => if c.ok then [] else c.errors
  let runtimeSubject := runtimeCert.member (js "subject_public_key")
  let signer := record.member (js "signer_public_key")
  let errors ← pushIf (!runtimeSubject.strictEq signer)
    (mismatchMessage b (js "signer mismatch: runtime cert subject ")
      runtimeSubject.value (js " !== record signer ") signer.value []) errors
  let outer := verifyOuterSignature b record.value
  let errors :=
    if outer then errors else errors ++ [js "outer record signature invalid"]
  return { result with
    ok := errors.isEmpty && outer && chain.all fun c => c.ok
    chainDepth := chain.length
    outerSignatureOk := outer
    chain := chain
    errors := errors }

/-- `result` of `verifyLabRecord` before any check. -/
def initialResult (record trustRoot : JsValue F) : LabResult F where
  ok := false
  trustRoot := trustRoot.andThen (trustRoot.member (js "root_pubkey"))
  trustRootLabel := trustRoot.andThen (trustRoot.member (js "label"))
  chainDepth := 0
  signer := record.andThen (record.member (js "signer_public_key"))
  outerSignatureOk := false
  chain := []
  errors := []

/-- `verifyLabRecord`. -/
def verifyLabRecord (record trustRoot : JsValue F) : Throws (LabResult F) := do
  let record : Ref F := ⟨[js "record"], record⟩
  let trustRoot : Ref F := ⟨[js "trustRoot"], trustRoot⟩
  let result := initialResult record.value trustRoot.value
  if !record.value.truthy then
    return { result with errors := [js "no record"] }
  if !trustRoot.value.truthy
      || !(trustRoot.member (js "root_pubkey")).value.truthy then
    return { result with errors := [js "no trust_root"] }
  let version := record.member (js "record_version")
  if !version.strictEq ⟨[], .number .one⟩ then
    let text ← version.value.toText b.toEngine
    return { result with
      errors := [js "unsupported record_version " ++ text] }
  match parseCerts b record.value with
  | .error e =>
      return { result with
        errors := [js "cert JSON parse failed: " ++ e.message] }
  | .ok (rootCert, labCert, runtimeCert) =>
      verifyParsed b now record trustRoot rootCert labCert runtimeCert result

/-- What `verifyResponse` returns beside its verdict for a response of the
right form. -/
structure ResponseDetail (F : Type) where
  trustRoot : JsValue F
  count : Nat
  verdicts : List (LabResult F)

structure ResponseResult (F : Type) where
  ok : Bool
  error : Option JsString
  detail : Option (ResponseDetail F)

/-- `verifyResponse`.  A response without properties has no records. -/
def verifyResponse (response : JsValue F) : Throws (ResponseResult F) :=
  let trustRoot := response.member (js "trust_root")
  match response.member (js "records"), trustRoot.truthy with
  | .array records, true => do
      let verdicts ← records.mapM fun r => verifyLabRecord b now r trustRoot
      return {
        ok := verdicts.all fun v => v.ok
        error := none
        detail := some ⟨trustRoot, verdicts.length, verdicts⟩ }
  | _, _ =>
      .ok { ok := false
            error := some (js "malformed response")
            detail := none }

end Verify

end RenderEngine.Ports.LabVerify
