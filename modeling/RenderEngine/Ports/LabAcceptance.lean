import RenderEngine.Ports.Base64url

/-!
# What the lab verifier accepts

`Acceptable` says what `verifyLabRecord` checks, without its order, its early
returns and its error texts: a record of version 1, three certificates each
valid under the key of its parent, the first under the trust root's key, and
the record's signature under the key of the last.

A `Chain` issues such records, so that acceptance is not vacuous: whoever
holds the three private keys signs what the verifier accepts.

## Main results

* `certValid_of_verifyCert`, `verifyCert_of_certValid`: one certificate.
* `acceptable_of_verifyParsed`, `verifyParsed_of_acceptable`: the walk.
* `verifyLabRecord_ok_iff`: a record is accepted exactly when it is
  acceptable.
* `Chain.accepts`: what a chain issues is accepted under its root key.
-/

namespace RenderEngine.Ports.LabAcceptance

open RenderEngine.Ports.CoreTypes
open RenderEngine.Ports.Serde
open RenderEngine.Ports.JavaScript
open RenderEngine.Ports.JavaScriptJson
open RenderEngine.Ports.LabVerify
open RenderEngine.Ports.Base64url
open RenderEngine.Verified.Fallible
open RenderEngine.Verified.JsonGrammar
open RenderEngine.Verified.SortedMap

section Acceptance

variable {F : Type} [DecidableEq F] (b : Browser F) (now : Int)

/-! ## One certificate -/

/-- A certificate at the time `now` under the key of its parent. -/
structure CertValid (cert parent : JsValue F) : Prop where
  fields : ∀ k ∈ requiredFields, (cert.member k).isUndefined = false
  current : ∃ nb na,
    b.dateParse (cert.member (js "not_before")) = .ok (some nb) ∧
    b.dateParse (cert.member (js "not_after")) = .ok (some na) ∧
    nb ≤ now ∧ now ≤ na
  issuer : cert.member (js "issued_by_public_key") = parent
  signature : SignedUnder b parent (certBody cert)
    (cert.member (js "parent_signature"))

theorem certValid_of_verifyCert {cert parent : Ref F} {label : JsString}
    {c : CertCheck F} (hcert : cert.value.nullish = false)
    (hrun : verifyCert b now cert parent label = .ok c)
    (hok : c.ok = true) : CertValid b now cert.value parent.value := by
  simp only [verifyCert, bind_eq_ok] at hrun
  rcases hrun with ⟨missing, hmissing, hrun⟩
  split_ifs at hrun with hempty
  · cases hrun
    exact absurd hok Bool.false_ne_true
  have hnil : missing = [] := by simpa using hempty
  rw [hnil, missingFields_eq_ok_nil_iff b label hcert] at hmissing
  simp only [bind_eq_ok] at hrun
  rcases hrun with ⟨nb, hnb, na, hna, errs, hwindow, errs', hissuer, hret⟩
  cases hcheck : checkSignature b (certBody cert.value)
      (cert.member (js "parent_signature")).value parent.value with
  | error e =>
      rw [hcheck] at hret
      cases hret
      exact absurd hok Bool.false_ne_true
  | ok verified =>
      rw [hcheck] at hret
      cases hret
      simp only [Bool.and_eq_true] at hok
      rcases hok with ⟨⟨hsig, htime⟩, herrs⟩
      -- with a good signature nothing is pushed after the issuer check
      have hnil' : errs' = [] := by simpa [hsig] using herrs
      rw [hnil', pushIf_eq_ok_nil_iff, Bool.not_eq_false'] at hissuer
      rw [hsig, checkSignature_eq_ok_true_iff] at hcheck
      rcases hcheck.key_string with ⟨s, hs⟩
      rcases (isCurrent_iff now nb na).mp htime with
        ⟨t, t', rfl, rfl, hle, hge⟩
      exact {
        fields := hmissing
        current := ⟨t, t', hnb, hna, hle, hge⟩
        issuer := (Ref.strictEq_iff_of_string (Or.inr hs)).mp hissuer.1
        signature := hcheck }

theorem verifyCert_of_certValid {cert : Ref F} (parent : Ref F)
    (label : JsString) (hcert : cert.value.nullish = false)
    (hvalid : CertValid b now cert.value parent.value) :
    ∃ c, verifyCert b now cert parent label = .ok c ∧ c.ok = true := by
  rcases hvalid.current with ⟨t, t', hnb, hna, hle, hge⟩
  rcases hvalid.signature.key_string with ⟨s, hs⟩
  have hmissing :=
    (missingFields_eq_ok_nil_iff b label hcert _).mpr hvalid.fields
  have htime : isCurrent now (some t) (some t') = true :=
    (isCurrent_iff now _ _).mpr ⟨t, t', rfl, rfl, hle, hge⟩
  have hissuer : (cert.member (js "issued_by_public_key")).strictEq parent =
      true := (Ref.strictEq_iff_of_string (Or.inr hs)).mpr hvalid.issuer
  have hcheck :=
    (checkSignature_eq_ok_true_iff b _ _ _).mpr hvalid.signature
  simp [verifyCert, hmissing, hnb, hna, hcheck, htime, hissuer, pure,
    Except.pure]

/-- A certificate that was checked at all has properties. -/
theorem nullish_of_verifyCert {cert parent : Ref F} {label : JsString}
    {c : CertCheck F} (h : verifyCert b now cert parent label = .ok c) :
    cert.value.nullish = false := by
  rcases bind_eq_ok.mp h with ⟨missing, hmissing, -⟩
  rcases bind_eq_ok.mp hmissing with ⟨v, hget, -⟩
  exact ((Ref.get_eq_ok_iff _).mp hget).1

/-! ## The walk over parsed certificates -/

/-- What a record is accepted for, given its three certificates. -/
structure Acceptable (record trustRoot root lab runtime : JsValue F) :
    Prop where
  version : record.member (js "record_version") = .number .one
  rootIssuer : root.member (js "issued_by_public_key") =
    trustRoot.member (js "root_pubkey")
  rootSubject : root.member (js "subject_public_key") =
    trustRoot.member (js "root_pubkey")
  rootCert : CertValid b now root (root.member (js "issued_by_public_key"))
  labCert : CertValid b now lab (root.member (js "subject_public_key"))
  runtimeCert : CertValid b now runtime (lab.member (js "subject_public_key"))
  signer : runtime.member (js "subject_public_key") =
    record.member (js "signer_public_key")
  signature : SignedUnder b (record.member (js "signer_public_key"))
    (signableContent record) (record.member (js "signature_bytes"))

section Walk

variable {record trustRoot root lab runtime : Ref F} {result : LabResult F}

/-- What the walk accepts is acceptable. -/
theorem acceptable_of_verifyParsed {r : LabResult F}
    (hversion : record.value.member (js "record_version") = .number .one)
    (hrun : verifyParsed b now record trustRoot root lab runtime result =
      .ok r)
    (hok : r.ok = true) :
    Acceptable b now record.value trustRoot.value root.value lab.value
      runtime.value := by
  simp only [verifyParsed, bind_eq_ok, Ref.get_eq_ok_iff] at hrun
  rcases hrun with ⟨issuer, ⟨hroot, rfl⟩, errs, hanchor, errs', hself,
    rootCheck, hrootCheck, labCheck, hlabCheck, runtimeCheck, hruntimeCheck,
    errs'', hsigner, hret⟩
  cases hret
  simp only [Bool.and_eq_true, List.all_cons, List.all_nil,
    Bool.and_true] at hok
  rcases hok with ⟨⟨herrs, houter⟩, hrootOk, hlabOk, hruntimeOk⟩
  -- an error list that is empty at the end was empty at every step before
  have hnil : errs'' = [] := by simpa [houter] using herrs
  rw [hnil, pushIf_eq_ok_nil_iff, Bool.not_eq_false',
    List.append_eq_nil_iff] at hsigner
  rw [hsigner.2.1, pushIf_eq_ok_nil_iff, Bool.not_eq_false'] at hself
  rw [hself.2, pushIf_eq_ok_nil_iff, Bool.not_eq_false'] at hanchor
  have hrootCert := certValid_of_verifyCert b now hroot hrootCheck hrootOk
  have hlabCert := certValid_of_verifyCert b now
    (nullish_of_verifyCert b now hlabCheck) hlabCheck hlabOk
  have hruntimeCert := certValid_of_verifyCert b now
    (nullish_of_verifyCert b now hruntimeCheck) hruntimeCheck hruntimeOk
  have hsignature := (verifyOuterSignature_iff b record.value).mp houter
  -- the keys that were compared are strings, for signatures verified under them
  rcases hrootCert.signature.key_string with ⟨rootKey, hrootKey⟩
  rcases hsignature.key_string with ⟨signerKey, hsignerKey⟩
  have hissuer := (Ref.strictEq_iff_of_string (Or.inl hrootKey)).mp hanchor.1
  have hsubject := (Ref.strictEq_iff_of_string (Or.inr hrootKey)).mp hself.1
  exact {
    version := hversion
    rootIssuer := hissuer
    rootSubject := hsubject.trans hissuer
    rootCert := hrootCert
    labCert := hlabCert
    runtimeCert := hruntimeCert
    signer := (Ref.strictEq_iff_of_string (Or.inr hsignerKey)).mp hsigner.1
    signature := hsignature }

/-- The walk accepts what is acceptable. -/
theorem verifyParsed_of_acceptable (hroot : root.value.nullish = false)
    (hlab : lab.value.nullish = false)
    (hruntime : runtime.value.nullish = false)
    (h : Acceptable b now record.value trustRoot.value root.value lab.value
      runtime.value) :
    ∃ r, verifyParsed b now record trustRoot root lab runtime result = .ok r ∧
      r.ok = true := by
  rcases h.rootCert.signature.key_string with ⟨rootKey, hrootKey⟩
  rcases h.signature.key_string with ⟨signerKey, hsignerKey⟩
  have hget : root.get b.toEngine (js "issued_by_public_key") =
      .ok (root.member (js "issued_by_public_key")) :=
    (Ref.get_eq_ok_iff _).mpr ⟨hroot, rfl⟩
  have hanchor : (root.member (js "issued_by_public_key")).strictEq
      (trustRoot.member (js "root_pubkey")) = true :=
    (Ref.strictEq_iff_of_string (Or.inl hrootKey)).mpr h.rootIssuer
  have hself : (root.member (js "subject_public_key")).strictEq
      (root.member (js "issued_by_public_key")) = true :=
    (Ref.strictEq_iff_of_string (Or.inr hrootKey)).mpr
      (h.rootSubject.trans h.rootIssuer.symm)
  have hsigner : (runtime.member (js "subject_public_key")).strictEq
      (record.member (js "signer_public_key")) = true :=
    (Ref.strictEq_iff_of_string (Or.inr hsignerKey)).mpr h.signer
  have houter := (verifyOuterSignature_iff b record.value).mpr h.signature
  obtain ⟨rootCheck, hrootCheck, hrootOk⟩ := verifyCert_of_certValid b now
    (root.member (js "issued_by_public_key")) (js "root_cert") hroot h.rootCert
  obtain ⟨labCheck, hlabCheck, hlabOk⟩ := verifyCert_of_certValid b now
    (root.member (js "subject_public_key")) (js "lab_cert") hlab h.labCert
  obtain ⟨runtimeCheck, hruntimeCheck, hruntimeOk⟩ :=
    verifyCert_of_certValid b now (lab.member (js "subject_public_key"))
      (js "runtime_cert") hruntime h.runtimeCert
  simp [verifyParsed, hget, hanchor, hself, hrootCheck, hlabCheck,
    hruntimeCheck, hsigner, houter, hrootOk, hlabOk, hruntimeOk, pure,
    Except.pure]

end Walk

/-! ## A record -/

/-- The verifier resolves to a result with `ok` set. -/
def Accepts (record trustRoot : JsValue F) : Prop :=
  ∃ r, verifyLabRecord b now record trustRoot = .ok r ∧ r.ok = true

/-- Past the early returns, the verdict is that of the walk. -/
theorem accepts_iff_of_parsed {record trustRoot : JsValue F}
    {root lab runtime : Ref F}
    (hversion : record.member (js "record_version") = .number .one)
    (htrust : (trustRoot.member (js "root_pubkey")).truthy = true)
    (hcerts : parseCerts b record = .ok (root, lab, runtime)) :
    Accepts b now record trustRoot ↔
      ∃ r, verifyParsed b now ⟨[js "record"], record⟩
        ⟨[js "trustRoot"], trustRoot⟩ root lab runtime
        (initialResult record trustRoot) = .ok r ∧ r.ok = true := by
  have hrecordTruthy : record.truthy = true := by
    apply JsValue.truthy_of_member (k := js "record_version")
    rw [hversion]
    rfl
  have htrustTruthy := JsValue.truthy_of_member htrust
  have hone := (Ref.strictEq_number_iff
    (Ref.member ⟨[js "record"], record⟩ (js "record_version")) [] .one).mpr
    hversion
  simp only [Accepts, verifyLabRecord, htrustTruthy, hrecordTruthy,
    Ref.member_value, htrust, hcerts, hone, Bool.not_true, Bool.false_eq_true,
    if_false, Bool.or_self]

/-- A record is accepted only past the early returns. -/
theorem parsed_of_accepts {record trustRoot : JsValue F}
    (h : Accepts b now record trustRoot) :
    record.member (js "record_version") = .number .one ∧
      (trustRoot.member (js "root_pubkey")).truthy = true ∧
      ∃ certs, parseCerts b record = .ok certs := by
  rcases h with ⟨r, hrun, hok⟩
  have hrefuse : ∀ errors, Except.ok { initialResult record trustRoot with
      errors := errors } ≠ (Except.ok r : Throws (LabResult F)) := by
    intro errors heq
    cases heq
    exact Bool.false_ne_true hok
  simp only [verifyLabRecord] at hrun
  split at hrun
  · exact absurd hrun (hrefuse _)
  split at hrun
  · exact absurd hrun (hrefuse _)
  next htrust =>
  split at hrun
  · rcases bind_eq_ok.mp hrun with ⟨text, -, hret⟩
    exact absurd hret (hrefuse _)
  next hversion =>
  rw [Bool.not_eq_true', Bool.not_eq_false, Ref.strictEq_number_iff] at hversion
  simp only [Bool.or_eq_true, Bool.not_eq_true', not_or,
    Bool.not_eq_false, Ref.member_value] at htrust
  refine ⟨hversion, htrust.2, ?_⟩
  cases hcerts : parseCerts b record with
  | error e =>
      rw [hcerts] at hrun
      exact absurd hrun (hrefuse _)
  | ok certs => exact ⟨certs, rfl⟩

/-- The three certificate strings parse, and none of them to `null`. -/
structure CertsParse (record root lab runtime : JsValue F) : Prop where
  rootCert : parseValue b (record.member (js "root_cert_json")) = .ok root
  labCert : parseValue b (record.member (js "lab_cert_json")) = .ok lab
  runtimeCert :
    parseValue b (record.member (js "runtime_cert_json")) = .ok runtime
  root_ne : root ≠ .null
  lab_ne : lab ≠ .null
  runtime_ne : runtime ≠ .null

omit [DecidableEq F] in
/-- A parsed text is `null` or has properties. -/
theorem nullish_of_parseValue {v w : JsValue F} (h : parseValue b v = .ok w)
    (hw : w ≠ .null) : w.nullish = false := by
  rcases bind_eq_ok.mp h with ⟨text, -, hparse⟩
  have hundefined := jsonParse_ne_undefined hparse
  cases w <;> first | rfl | exact absurd rfl hw | exact absurd rfl hundefined

omit [DecidableEq F] in
theorem CertsParse.parseCerts {b : Browser F}
    {record root lab runtime : JsValue F}
    (h : CertsParse b record root lab runtime) :
    parseCerts b record = .ok (⟨[js "rootCert"], root⟩,
      ⟨[js "labCert"], lab⟩, ⟨[js "runtimeCert"], runtime⟩) := by
  rw [LabVerify.parseCerts, h.rootCert, h.labCert, h.runtimeCert]
  rfl

/-- The certificates of an accepted record parse. -/
theorem certsParse_of_accepts {record trustRoot : JsValue F}
    (h : Accepts b now record trustRoot) :
    ∃ root lab runtime, CertsParse b record root lab runtime := by
  rcases parsed_of_accepts b now h with
    ⟨hversion, htrust, ⟨root, lab, runtime⟩, hcerts⟩
  rw [accepts_iff_of_parsed b now hversion htrust hcerts] at h
  rcases h with ⟨r, hrun, -⟩
  simp only [verifyParsed, bind_eq_ok, Ref.get_eq_ok_iff] at hrun
  rcases hrun with ⟨issuer, ⟨hrootNullish, -⟩, errs, -, errs', -, rootCheck, -,
    labCheck, hlabCheck, runtimeCheck, hruntimeCheck, -⟩
  simp only [LabVerify.parseCerts, bind_eq_ok] at hcerts
  rcases hcerts with ⟨root, hroot, lab, hlab, runtime, hruntime, hret⟩
  cases hret
  have hne : ∀ v : JsValue F, v.nullish = false → v ≠ .null := by
    rintro v hv rfl
    cases hv
  exact ⟨root, lab, runtime, {
    rootCert := hroot
    labCert := hlab
    runtimeCert := hruntime
    root_ne := hne root hrootNullish
    lab_ne := hne lab (nullish_of_verifyCert b now hlabCheck)
    runtime_ne := hne runtime (nullish_of_verifyCert b now hruntimeCheck) }⟩

/-- An acceptable record is accepted. -/
theorem accepts_of_acceptable {record trustRoot root lab runtime : JsValue F}
    (hparse : CertsParse b record root lab runtime)
    (htrust : (trustRoot.member (js "root_pubkey")).truthy = true)
    (h : Acceptable b now record trustRoot root lab runtime) :
    Accepts b now record trustRoot := by
  rw [accepts_iff_of_parsed b now h.version htrust hparse.parseCerts]
  exact verifyParsed_of_acceptable b now
    (nullish_of_parseValue b hparse.rootCert hparse.root_ne)
    (nullish_of_parseValue b hparse.labCert hparse.lab_ne)
    (nullish_of_parseValue b hparse.runtimeCert hparse.runtime_ne) h

/-- An accepted record is acceptable. -/
theorem acceptable_of_accepts {record trustRoot root lab runtime : JsValue F}
    (hparse : CertsParse b record root lab runtime)
    (h : Accepts b now record trustRoot) :
    Acceptable b now record trustRoot root lab runtime := by
  rcases parsed_of_accepts b now h with ⟨hversion, htrust, -⟩
  rw [accepts_iff_of_parsed b now hversion htrust hparse.parseCerts] at h
  rcases h with ⟨r, hrun, hok⟩
  exact acceptable_of_verifyParsed b now hversion hrun hok

end Acceptance

/-! ## Issuing records -/

section Issue

variable {F : Type} (b : Browser F)

/-- Whoever holds the private key of `key`. -/
structure Signer (key : JsString) where
  sign : List UInt8 → JsString
  verifies : ∀ msg, ∃ sig pk,
    b64uToBytes b (.string (sign msg)) = .ok sig ∧
    b64uToBytes b (.string key) = .ok pk ∧
    b.ed25519Verify pk msg sig = .ok true

variable {b}

/-- The signature over the canonical form of a value. -/
def Signer.signValue {key : JsString} (s : Signer b key) (v : JsValue F) :
    JsString :=
  s.sign (textEncode (match jcs b v with
    | .ok canonical => canonical
    | .error _ => []))

theorem Signer.signedUnder {key : JsString} (s : Signer b key) {v : JsValue F}
    (h : ∃ t, jcs b v = .ok t) :
    SignedUnder b (.string key) v (.string (s.signValue v)) := by
  obtain ⟨canonical, hcanonical⟩ := h
  obtain ⟨sig, pk, hsig, hpk, hverify⟩ := s.verifies (textEncode canonical)
  refine ⟨canonical, sig, pk, hcanonical, ?_, hpk, hverify⟩
  rw [Signer.signValue, hcanonical]
  exact hsig

/-- What a certificate says. -/
structure Certificate where
  subject : JsString
  issuer : JsString
  role : JsString
  notBefore : JsString
  notAfter : JsString

/-- The members of a certificate but for its signature. -/
def Certificate.members (F : Type) (c : Certificate) :
    List (JsString × Json (JsNumber F) JsString) :=
  [ (js "subject_public_key", .str c.subject)
  , (js "issued_by_public_key", .str c.issuer)
  , (js "subject_role", .str c.role)
  , (js "not_before", .str c.notBefore)
  , (js "not_after", .str c.notAfter)
  , (js "version", .num .one) ]

/-- The certificate with a signature. -/
def Certificate.withSignature (F : Type) (c : Certificate)
    (signature : JsString) : Json (JsNumber F) JsString :=
  .obj (c.members F ++ [(js "parent_signature", .str signature)])

theorem Certificate.certBody_withSignature (c : Certificate)
    (signature : JsString) :
    certBody (ofJson (c.withSignature F signature)) =
      .object (ofMembers (c.members F)) := by
  rfl

private theorem Certificate.body_returns (c : Certificate) :
    ∃ t, jcs b (.object (ofMembers (c.members F))) = .ok t := by
  apply jcs_object_returns
  intro m hm hdefined
  simp only [Certificate.members, ofMembers, ofJson, List.mem_cons,
    List.not_mem_nil, or_false] at hm
  rcases hm with rfl | rfl | rfl | rfl | rfl | rfl
  all_goals simp [jcs]

/-- The certificate signed by the holder of its issuer's key. -/
def Signer.issue {key : JsString} (s : Signer b key) (c : Certificate) :
    Json (JsNumber F) JsString :=
  c.withSignature F (s.signValue (.object (ofMembers (c.members F))))

theorem Signer.keysDistinct_issue {key : JsString} (s : Signer b key)
    (c : Certificate) : KeysDistinct (s.issue c) := by
  refine ⟨?_, ?_⟩
  · have hkeys : ((c.members F ++ [(js "parent_signature",
        Json.str (s.signValue (.object (ofMembers (c.members F)))))]).map
        Prod.fst).Nodup := by
      change List.Nodup [js "subject_public_key", js "issued_by_public_key",
        js "subject_role", js "not_before", js "not_after", js "version",
        js "parent_signature"]
      decide +kernel
    exact hkeys
  · simp [everyMember_iff, Certificate.members, Json.EveryObject]

/-- A window that contains `now`. -/
def WindowOpen (now : Int) (c : Certificate) : Prop :=
  ∃ nb na, b.dateParse (.string c.notBefore) = .ok (some nb) ∧
    b.dateParse (.string c.notAfter) = .ok (some na) ∧ nb ≤ now ∧ now ≤ na

/-- **What the issuer signs is valid under the issuer's key.** -/
theorem Signer.issue_valid {now : Int} {c : Certificate}
    (s : Signer b c.issuer) (hwindow : WindowOpen (b := b) now c) :
    CertValid b now (ofJson (s.issue c)) (.string c.issuer) where
  fields := by
    intro k hk
    simp only [requiredFields, List.mem_cons, List.not_mem_nil, or_false] at hk
    rcases hk with rfl | rfl | rfl | rfl | rfl | rfl | rfl <;> rfl
  current := hwindow
  issuer := rfl
  signature := by
    rw [Signer.issue, Certificate.certBody_withSignature]
    exact s.signedUnder c.body_returns

/-- What is signed of a record of an output for a cell can be written. -/
theorem signableContent_returns
    (h3Cell output key rootText labText runtimeText : JsString) :
    ∃ t, jcs b (signableContent (.object
      [ (js "h3_cell", .string h3Cell)
      , (js "output", .string output)
      , (js "record_version", .number .one)
      , (js "signer_public_key", .string key)
      , (js "root_cert_json", .string rootText)
      , (js "lab_cert_json", .string labText)
      , (js "runtime_cert_json", .string runtimeText) ])) = .ok t := by
  apply jcs_object_returns
  intro m hm hdefined
  simp only [signableFields, List.map_cons, List.map_nil, List.mem_cons,
    List.not_mem_nil, or_false] at hm
  rcases hm with rfl | rfl | rfl | rfl | rfl | rfl | rfl | rfl
  all_goals first
    | exact ⟨_, rfl⟩
    | exact absurd (show true = false from hdefined) (by decide)

/-- The three keys of a chain with their holders, and its window. -/
structure Chain (b : Browser F) where
  rootKey : JsString
  labKey : JsString
  runtimeKey : JsString
  root : Signer b rootKey
  lab : Signer b labKey
  runtime : Signer b runtimeKey
  notBefore : JsString
  notAfter : JsString

namespace Chain

variable (c : Chain b)

def rootCertificate : Certificate where
  subject := c.rootKey
  issuer := c.rootKey
  role := js "gns-foundation-root"
  notBefore := c.notBefore
  notAfter := c.notAfter

def labCertificate : Certificate where
  subject := c.labKey
  issuer := c.rootKey
  role := js "geiant-lab-env"
  notBefore := c.notBefore
  notAfter := c.notAfter

def runtimeCertificate : Certificate where
  subject := c.runtimeKey
  issuer := c.labKey
  role := js "prithvi-runtime"
  notBefore := c.notBefore
  notAfter := c.notAfter

def rootCert : Json (JsNumber F) JsString := c.root.issue c.rootCertificate

def labCert : Json (JsNumber F) JsString := c.root.issue c.labCertificate

def runtimeCert : Json (JsNumber F) JsString := c.lab.issue c.runtimeCertificate

/-- A record of an output for a cell, but for its signature. -/
def unsigned (h3Cell output : JsString) : List (JsString × JsValue F) :=
  [ (js "h3_cell", .string h3Cell)
  , (js "output", .string output)
  , (js "record_version", .number .one)
  , (js "signer_public_key", .string c.runtimeKey)
  , (js "root_cert_json", .string (jsonText b.toNumerals c.rootCert))
  , (js "lab_cert_json", .string (jsonText b.toNumerals c.labCert))
  , (js "runtime_cert_json", .string (jsonText b.toNumerals c.runtimeCert)) ]

/-- The record with the signature of the runtime key. -/
def record (h3Cell output : JsString) : JsValue F :=
  let unsigned := c.unsigned h3Cell output
  .object (unsigned ++ [(js "signature_bytes", .string
    (c.runtime.signValue (signableContent (.object unsigned))))])

theorem signableContent_record (h3Cell output : JsString) :
    signableContent (c.record h3Cell output) =
      signableContent (.object (c.unsigned h3Cell output)) := by
  rfl

/-- The certificate texts of the record parse to the certificates. -/
theorem certsParse (h3Cell output : JsString) :
    CertsParse b (c.record h3Cell output) (ofJson c.rootCert)
      (ofJson c.labCert) (ofJson c.runtimeCert) where
  rootCert := jsonParse_jsonText b.toEngine (c.root.keysDistinct_issue _)
  labCert := jsonParse_jsonText b.toEngine (c.root.keysDistinct_issue _)
  runtimeCert := jsonParse_jsonText b.toEngine (c.lab.keysDistinct_issue _)
  root_ne := nofun
  lab_ne := nofun
  runtime_ne := nofun

variable {now : Int}

theorem acceptable {trustRoot : JsValue F}
    (htrust : trustRoot.member (js "root_pubkey") = .string c.rootKey)
    (hwindow : WindowOpen (b := b) now c.rootCertificate)
    (h3Cell output : JsString) :
    Acceptable b now (c.record h3Cell output) trustRoot (ofJson c.rootCert)
      (ofJson c.labCert) (ofJson c.runtimeCert) where
  version := rfl
  rootIssuer := htrust.symm
  rootSubject := htrust.symm
  rootCert := Signer.issue_valid (c := c.rootCertificate) c.root hwindow
  labCert := Signer.issue_valid (c := c.labCertificate) c.root hwindow
  runtimeCert := Signer.issue_valid (c := c.runtimeCertificate) c.lab hwindow
  signer := rfl
  signature := by
    rw [signableContent_record]
    exact c.runtime.signedUnder (signableContent_returns _ _ _ _ _ _)

/-- **What a chain issues is accepted under its root key.** -/
theorem accepts [DecidableEq F] {trustRoot : JsValue F}
    (htrust : trustRoot.member (js "root_pubkey") = .string c.rootKey)
    (hkey : c.rootKey ≠ [])
    (hwindow : WindowOpen (b := b) now c.rootCertificate)
    (h3Cell output : JsString) :
    Accepts b now (c.record h3Cell output) trustRoot := by
  have htruthy : (trustRoot.member (js "root_pubkey")).truthy = true := by
    rw [htrust, JsValue.truthy]
    simpa using hkey
  exact accepts_of_acceptable b now (c.certsParse h3Cell output) htruthy
    (c.acceptable htrust hwindow h3Cell output)

end Chain

end Issue

/-! ## The exact acceptance condition -/

/-- **The exact acceptance condition.**  For a record whose certificate
strings parse to objects and a trust root with a key, at any time. -/
theorem verifyLabRecord_ok_iff {F : Type} [DecidableEq F] (b : Browser F)
    (now : Int) {record trustRoot root lab runtime : JsValue F}
    (hparse : CertsParse b record root lab runtime)
    (htrust : (trustRoot.member (js "root_pubkey")).truthy = true) :
    (∃ r, verifyLabRecord b now record trustRoot = .ok r ∧ r.ok = true) ↔
      Acceptable b now record trustRoot root lab runtime := by
  constructor
  · exact acceptable_of_accepts b now hparse
  · exact accepts_of_acceptable b now hparse htrust

/-- An engine whose numbers are the safe integers and the infinities. -/
def plainEngine : Engine Empty where
  numberText := Empty.elim
  readNumber := fun text =>
    if text = overflowText false then some (.infinity false)
    else if text = overflowText true then some (.infinity true)
    else none
  number_head := fun x => x.elim
  number_chars := fun x => x.elim
  numberText_ne := fun x => x.elim
  readNumber_numberText := fun x => x.elim
  readNumber_overflow := by decide
  syntaxError := fun _ => ⟨js "Unexpected token"⟩
  invalidCharacter := fun _ => ⟨js "The string is not correctly encoded."⟩
  nullAccess := fun k => ⟨js "Cannot read properties of null: " ++ k⟩
  notFunction := fun k => ⟨k ++ js " is not a function"⟩
  notPrimitive := ⟨js "Cannot convert object to primitive value"⟩

/-- The sum of the bytes of a key and a message. -/
def tag (pk msg : List UInt8) : UInt8 := (pk ++ msg).foldl (· + ·) 0

/-- Dates are written as integers, signatures are tags. -/
def plainBrowser : Browser Empty where
  toEngine := plainEngine
  dateParse := fun v => match v with
    | .string s => .ok (readInt (s.map CodeUnit.toChar))
    | _ => .ok none
  ed25519Verify := fun pk msg sig => .ok (sig == [tag pk msg])

/-- The holder of a key that is the text of one byte. -/
def plainSigner (n : UInt8) : Signer plainBrowser (bytesToB64u [n]) where
  sign := fun msg => bytesToB64u [tag [n] msg]
  verifies := fun msg => ⟨[tag [n] msg], [n],
    b64uToBytes_bytesToB64u plainBrowser _,
    b64uToBytes_bytesToB64u plainBrowser [n], by simp [plainBrowser]⟩

/-- A chain of three keys, valid from 10 to 20. -/
def plainChain : Chain plainBrowser where
  rootKey := bytesToB64u [1]
  labKey := bytesToB64u [2]
  runtimeKey := bytesToB64u [3]
  root := plainSigner 1
  lab := plainSigner 2
  runtime := plainSigner 3
  notBefore := js "10"
  notAfter := js "20"

/-- The trust root of the plain chain. -/
def plainTrustRoot : JsValue Empty :=
  .object [(js "root_pubkey", .string plainChain.rootKey)]

theorem plainChain_window :
    WindowOpen (b := plainBrowser) 15 plainChain.rootCertificate :=
  ⟨10, 20, rfl, rfl, by decide, by decide⟩

/-- A record of the plain chain is accepted. -/
theorem verifyLabRecord_ok_iff_plainChain :
    ∃ r, verifyLabRecord plainBrowser 15
        (plainChain.record (js "881f1d4805fffff") (js "dry"))
        plainTrustRoot = .ok r ∧ r.ok = true :=
  (verifyLabRecord_ok_iff plainBrowser 15
    (plainChain.certsParse (js "881f1d4805fffff") (js "dry"))
    (by decide +kernel)).mpr
    (plainChain.acceptable rfl plainChain_window _ _)

end RenderEngine.Ports.LabAcceptance
