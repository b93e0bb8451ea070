import RenderEngine.Ports.LabAcceptance

/-!
# Delegation levels of an accepted record (`demo/lab_verify.js`)

The trust model has three levels, each with a role: the root key certifies
lab keys, a lab key certifies runtime keys, a runtime key signs records.  The
verifier follows the keys and never compares a role, so that a certificate may
stand in the slot of another level.

A genuine certificate is one the trust model issues.  Of such certificates the
one arrangement that shifts the levels is the root certificate in the lab slot:
it is signed by the root key, as a lab certificate is, and the lab key then
signs the record.

## Main results

* `delegated_iff_rolesHeld`: what acceptance leaves open.
* `delegated_iff_of_genuine`: genuine certificates.
* `shifted_accepts`: the record of a lab key's holder.
* `delegation_iff`: the three together.
-/

namespace RenderEngine.Ports.LabDelegation

open RenderEngine.Ports.CoreTypes
open RenderEngine.Ports.Serde
open RenderEngine.Ports.JavaScript
open RenderEngine.Ports.JavaScriptJson
open RenderEngine.Ports.LabVerify
open RenderEngine.Ports.LabAcceptance

/-! ## Roles -/

def rootRole : JsString := js "gns-foundation-root"

def labRole : JsString := js "geiant-lab-env"

def runtimeRole : JsString := js "prithvi-runtime"

theorem rootRole_ne_labRole : rootRole ≠ labRole := by decide

theorem rootRole_ne_runtimeRole : rootRole ≠ runtimeRole := by decide

theorem labRole_ne_runtimeRole : labRole ≠ runtimeRole := by decide

section Delegation

variable {F : Type}

/-- The certificate states the role. -/
def HasRole (cert : JsValue F) (role : JsString) : Prop :=
  cert.member (js "subject_role") = .string role

/-- A certificate states one role at most. -/
theorem HasRole.unique {cert : JsValue F} {role role' : JsString}
    (h : HasRole cert role) (h' : HasRole cert role') : role = role' := by
  unfold HasRole at h h'
  rw [h] at h'
  exact JsValue.string.inj h'

def subjectKey (cert : JsValue F) : JsValue F :=
  cert.member (js "subject_public_key")

def issuerKey (cert : JsValue F) : JsValue F :=
  cert.member (js "issued_by_public_key")

def rootKey (trustRoot : JsValue F) : JsValue F :=
  trustRoot.member (js "root_pubkey")

def signerKey (record : JsValue F) : JsValue F :=
  record.member (js "signer_public_key")

/-! ## Delegation -/

variable (b : Browser F) (now : Int)

/-- The three certificates lead from the trust root to the record's signer,
level by level. -/
structure DelegatedBy (record trustRoot root lab runtime : JsValue F) :
    Prop where
  rootHasRole : HasRole root rootRole
  labHasRole : HasRole lab labRole
  runtimeHasRole : HasRole runtime runtimeRole
  rootValid : CertValid b now root (rootKey trustRoot)
  selfSigned : subjectKey root = rootKey trustRoot
  labValid : CertValid b now lab (subjectKey root)
  runtimeValid : CertValid b now runtime (subjectKey lab)
  signer : subjectKey runtime = signerKey record

/-- Some of the certificates do. -/
def Delegated (record trustRoot : JsValue F) (certs : List (JsValue F)) :
    Prop :=
  ∃ root ∈ certs, ∃ lab ∈ certs, ∃ runtime ∈ certs,
    DelegatedBy b now record trustRoot root lab runtime

/-- One of the certificates has the role, between the same keys as the
certificate in the slot. -/
def RoleHeld (certs : List (JsValue F)) (slot : JsValue F) (role : JsString) :
    Prop :=
  ∃ cert ∈ certs, HasRole cert role ∧ issuerKey cert = issuerKey slot ∧
    subjectKey cert = subjectKey slot

/-- Each slot's role is held. -/
structure RolesHeld (root lab runtime : JsValue F) : Prop where
  atRoot : RoleHeld [root, lab, runtime] root rootRole
  atLab : RoleHeld [root, lab, runtime] lab labRole
  atRuntime : RoleHeld [root, lab, runtime] runtime runtimeRole

/-- A certificate in the slot of its role holds it. -/
theorem roleHeld_of_hasRole {certs : List (JsValue F)} {cert : JsValue F}
    {role : JsString} (hmem : cert ∈ certs) (h : HasRole cert role) :
    RoleHeld certs cert role :=
  ⟨cert, hmem, h, rfl, rfl⟩

variable {b now}
variable {record trustRoot root lab runtime : JsValue F}

section Acceptable

variable (h : Acceptable b now record trustRoot root lab runtime)

include h

theorem rootIssuer_of_acceptable : issuerKey root = rootKey trustRoot :=
  h.rootIssuer

theorem rootSubject_of_acceptable : subjectKey root = rootKey trustRoot :=
  h.rootSubject

theorem labIssuer_of_acceptable : issuerKey lab = rootKey trustRoot :=
  h.labCert.issuer.trans h.rootSubject

theorem runtimeIssuer_of_acceptable : issuerKey runtime = subjectKey lab :=
  h.runtimeCert.issuer

/-- Every certificate is valid under the key it names. -/
theorem valid_of_acceptable {cert : JsValue F}
    (hmem : cert ∈ [root, lab, runtime]) :
    CertValid b now cert (issuerKey cert) := by
  have hvalid : ∀ {cert parent : JsValue F}, CertValid b now cert parent →
      CertValid b now cert (issuerKey cert) := by
    intro cert parent hcert
    rw [issuerKey, hcert.issuer]
    exact hcert
  simp only [List.mem_cons, List.not_mem_nil, or_false] at hmem
  rcases hmem with rfl | rfl | rfl
  · exact hvalid h.rootCert
  · exact hvalid h.labCert
  · exact hvalid h.runtimeCert

/-- A lab certificate of the levels has the keys of the lab slot, also where
it stands in another slot. -/
theorem labSubject_of_delegatedBy {root' lab' runtime' : JsValue F}
    (hroot' : root' ∈ [root, lab, runtime])
    (hlab' : lab' ∈ [root, lab, runtime])
    (hruntime' : runtime' ∈ [root, lab, runtime])
    (hlevels : DelegatedBy b now record trustRoot root' lab' runtime') :
    subjectKey lab' = subjectKey lab := by
  have hroot := rootSubject_of_acceptable h
  have hlabIssuer := labIssuer_of_acceptable h
  have hruntimeIssuer := runtimeIssuer_of_acceptable h
  have hlab'Issuer : issuerKey lab' = rootKey trustRoot :=
    hlevels.labValid.issuer.trans hlevels.selfSigned
  have hruntime'Issuer : issuerKey runtime' = subjectKey lab' :=
    hlevels.runtimeValid.issuer
  have hroot'Issuer : issuerKey root' = rootKey trustRoot :=
    hlevels.rootValid.issuer
  have hrootRuntime : root' ≠ runtime' := by
    rintro rfl
    exact rootRole_ne_runtimeRole
      (hlevels.rootHasRole.unique hlevels.runtimeHasRole)
  have hrootLab : root' ≠ lab' := by
    rintro rfl
    exact rootRole_ne_labRole (hlevels.rootHasRole.unique hlevels.labHasRole)
  have hlabRuntime : lab' ≠ runtime' := by
    rintro rfl
    exact labRole_ne_runtimeRole
      (hlevels.labHasRole.unique hlevels.runtimeHasRole)
  simp only [List.mem_cons, List.not_mem_nil, or_false] at hroot' hlab' hruntime'
  rcases hlab' with rfl | rfl | rfl
  · -- in the root slot: the two keys are one
    rw [hroot]
    rcases hruntime' with rfl | rfl | rfl
    · exact absurd rfl hlabRuntime
    · rcases hroot' with rfl | rfl | rfl
      · exact absurd rfl hrootLab
      · exact absurd rfl hrootRuntime
      · rw [← hruntimeIssuer, hroot'Issuer]
    · rw [← hruntimeIssuer, hruntime'Issuer, hroot]
  · rfl
  · -- in the runtime slot: all keys are one
    rw [← hruntimeIssuer, hlab'Issuer, ← hruntime'Issuer]
    rcases hruntime' with rfl | rfl | rfl
    · exact rootIssuer_of_acceptable h
    · exact hlabIssuer
    · exact absurd rfl hlabRuntime

/-- **What acceptance leaves open.**  An acceptable record is delegated
exactly if each slot's role is held. -/
theorem delegated_iff_rolesHeld :
    Delegated b now record trustRoot [root, lab, runtime] ↔
      RolesHeld root lab runtime := by
  constructor
  · rintro ⟨root', hroot', lab', hlab', runtime', hruntime', hlevels⟩
    have hkey := labSubject_of_delegatedBy h hroot' hlab' hruntime' hlevels
    have hlab'Issuer : issuerKey lab' = rootKey trustRoot :=
      hlevels.labValid.issuer.trans hlevels.selfSigned
    have hruntime'Issuer : issuerKey runtime' = subjectKey lab' :=
      hlevels.runtimeValid.issuer
    refine ⟨⟨root', hroot', hlevels.rootHasRole, ?_, ?_⟩,
      ⟨lab', hlab', hlevels.labHasRole, ?_, hkey⟩,
      ⟨runtime', hruntime', hlevels.runtimeHasRole, ?_, ?_⟩⟩
    · exact hlevels.rootValid.issuer.trans (rootIssuer_of_acceptable h).symm
    · exact hlevels.selfSigned.trans (rootSubject_of_acceptable h).symm
    · rw [hlab'Issuer, labIssuer_of_acceptable h]
    · rw [hruntime'Issuer, hkey, runtimeIssuer_of_acceptable h]
    · exact hlevels.signer.trans h.signer.symm
  · rintro ⟨⟨root', hroot', hrootRole, hrootIssuer, hrootSubject⟩,
      ⟨lab', hlab', hlabRole, hlabIssuer, hlabSubject⟩,
      ⟨runtime', hruntime', hruntimeRole, hruntimeIssuer, hruntimeSubject⟩⟩
    rw [rootIssuer_of_acceptable h] at hrootIssuer
    rw [rootSubject_of_acceptable h] at hrootSubject
    rw [labIssuer_of_acceptable h] at hlabIssuer
    rw [runtimeIssuer_of_acceptable h] at hruntimeIssuer
    refine ⟨root', hroot', lab', hlab', runtime', hruntime', {
      rootHasRole := hrootRole
      labHasRole := hlabRole
      runtimeHasRole := hruntimeRole
      rootValid := ?_
      selfSigned := hrootSubject
      labValid := ?_
      runtimeValid := ?_
      signer := hruntimeSubject.trans h.signer }⟩
    · rw [← hrootIssuer]
      exact valid_of_acceptable h hroot'
    · rw [hrootSubject, ← hlabIssuer]
      exact valid_of_acceptable h hlab'
    · rw [hlabSubject, ← hruntimeIssuer]
      exact valid_of_acceptable h hruntime'

end Acceptable

/-! ## Genuine certificates -/

/-- A certificate as the trust model issues it, given which keys are lab
keys. -/
inductive Genuine (rootKey : JsValue F) (LabKey : JsValue F → Prop)
    (cert : JsValue F) : Prop
  | root : HasRole cert rootRole → issuerKey cert = rootKey →
      subjectKey cert = rootKey → Genuine rootKey LabKey cert
  | lab : HasRole cert labRole → issuerKey cert = rootKey →
      LabKey (subjectKey cert) → Genuine rootKey LabKey cert
  | runtime : HasRole cert runtimeRole → LabKey (issuerKey cert) →
      Genuine rootKey LabKey cert

/-- **Genuine certificates.**  They are delegated unless the lab slot holds
the root certificate. -/
theorem delegated_iff_of_genuine
    (h : Acceptable b now record trustRoot root lab runtime)
    {LabKey : JsValue F → Prop} (hkeys : ¬ LabKey (rootKey trustRoot))
    (hgenuine : ∀ cert ∈ [root, lab, runtime],
      Genuine (rootKey trustRoot) LabKey cert) :
    Delegated b now record trustRoot [root, lab, runtime] ↔
      subjectKey lab ≠ rootKey trustRoot := by
  rw [delegated_iff_rolesHeld h]
  have hrootSubject := rootSubject_of_acceptable h
  have hlabIssuer := labIssuer_of_acceptable h
  have hruntimeIssuer := runtimeIssuer_of_acceptable h
  constructor
  · intro hroles hsame
    obtain ⟨cert, hmem, hrole, hissuer, -⟩ := hroles.atRuntime
    cases hgenuine cert hmem with
    | root hroot =>
        exact rootRole_ne_runtimeRole (hroot.unique hrole)
    | lab hlab =>
        exact labRole_ne_runtimeRole (hlab.unique hrole)
    | runtime _ hissuedByLab =>
        rw [hissuer, hruntimeIssuer, hsame] at hissuedByLab
        exact hkeys hissuedByLab
  · intro hother
    refine ⟨roleHeld_of_hasRole (by simp) ?_,
      roleHeld_of_hasRole (by simp) ?_, roleHeld_of_hasRole (by simp) ?_⟩
    · cases hgenuine root (by simp) with
      | root hrole => exact hrole
      | lab _ _ hsubject =>
          rw [hrootSubject] at hsubject
          exact absurd hsubject hkeys
      | runtime _ hissuer =>
          rw [rootIssuer_of_acceptable h] at hissuer
          exact absurd hissuer hkeys
    · cases hgenuine lab (by simp) with
      | root _ _ hsubject => exact absurd hsubject hother
      | lab hrole => exact hrole
      | runtime _ hissuer =>
          rw [hlabIssuer] at hissuer
          exact absurd hissuer hkeys
    · cases hgenuine runtime (by simp) with
      | root _ hissuer => exact absurd (hruntimeIssuer.symm.trans hissuer) hother
      | lab _ hissuer => exact absurd (hruntimeIssuer.symm.trans hissuer) hother
      | runtime hrole => exact hrole

/-! ## The holder of a lab key -/

/-- The texts of a genuine root certificate and of a genuine certificate of
the lab key. -/
structure GenuinePair (b : Browser F) (now : Int) (trustRoot : JsValue F)
    (labKey rootText labText : JsString) (root lab : JsValue F) : Prop where
  rootParses : parseValue b (.string rootText) = .ok root
  labParses : parseValue b (.string labText) = .ok lab
  rootHasRole : HasRole root rootRole
  labHasRole : HasRole lab labRole
  rootValid : CertValid b now root (rootKey trustRoot)
  selfSigned : subjectKey root = rootKey trustRoot
  labValid : CertValid b now lab (rootKey trustRoot)
  labSubject : subjectKey lab = .string labKey

/-- A record with each certificate one slot late, but for its signature. -/
def shiftedUnsigned (F : Type)
    (labKey rootText labText h3Cell output : JsString) :
    List (JsString × JsValue F) :=
  [ (js "h3_cell", .string h3Cell)
  , (js "output", .string output)
  , (js "record_version", .number .one)
  , (js "signer_public_key", .string labKey)
  , (js "root_cert_json", .string rootText)
  , (js "lab_cert_json", .string rootText)
  , (js "runtime_cert_json", .string labText) ]

/-- The record signed by the holder of the lab key. -/
def shifted {labKey : JsString} (s : Signer b labKey)
    (rootText labText h3Cell output : JsString) : JsValue F :=
  let unsigned := shiftedUnsigned F labKey rootText labText h3Cell output
  .object (unsigned ++ [(js "signature_bytes", .string
    (s.signValue (signableContent (.object unsigned))))])

theorem ne_null_of_certValid {cert parent : JsValue F}
    (h : CertValid b now cert parent) : cert ≠ .null := by
  rintro rfl
  exact Bool.false_ne_true
    (h.fields (js "version") (by simp [requiredFields])).symm

section Holder

variable {labKey rootText labText : JsString} (s : Signer b labKey)
  (hpair : GenuinePair b now trustRoot labKey rootText labText root lab)

include hpair

theorem shifted_certsParse (h3Cell output : JsString) :
    CertsParse b (shifted s rootText labText h3Cell output) root root lab where
  rootCert := hpair.rootParses
  labCert := hpair.rootParses
  runtimeCert := hpair.labParses
  root_ne := ne_null_of_certValid hpair.rootValid
  lab_ne := ne_null_of_certValid hpair.rootValid
  runtime_ne := ne_null_of_certValid hpair.labValid

omit hpair in
theorem shifted_signed (h3Cell output : JsString) :
    SignedUnder b (.string labKey)
      (signableContent (shifted s rootText labText h3Cell output))
      ((shifted s rootText labText h3Cell output).member
        (js "signature_bytes")) := by
  show SignedUnder b _ (signableContent (.object (shiftedUnsigned F labKey
    rootText labText h3Cell output))) (.string (s.signValue _))
  exact s.signedUnder (signableContent_returns _ _ _ _ _ _)

theorem shifted_acceptable (h3Cell output : JsString) :
    Acceptable b now (shifted s rootText labText h3Cell output) trustRoot root
      root lab where
  version := rfl
  rootIssuer := hpair.rootValid.issuer
  rootSubject := hpair.selfSigned
  rootCert := by
    rw [hpair.rootValid.issuer]
    exact hpair.rootValid
  labCert := by
    rw [show root.member (js "subject_public_key") = rootKey trustRoot from
      hpair.selfSigned]
    exact hpair.rootValid
  runtimeCert := by
    rw [show root.member (js "subject_public_key") = rootKey trustRoot from
      hpair.selfSigned]
    exact hpair.labValid
  signer := hpair.labSubject
  signature := shifted_signed s h3Cell output

/-- **The holder of a lab key.**  With the root certificate in the lab slot
and its own in the runtime slot, the lab key signs a record that verifies and
that no runtime certificate stands behind. -/
theorem shifted_accepts [DecidableEq F]
    (htrust : (trustRoot.member (js "root_pubkey")).truthy = true)
    (h3Cell output : JsString) :
    Accepts b now (shifted s rootText labText h3Cell output) trustRoot ∧
      ¬ Delegated b now (shifted s rootText labText h3Cell output) trustRoot
        [root, root, lab] := by
  refine ⟨accepts_of_acceptable b now (shifted_certsParse s hpair _ _) htrust
    (shifted_acceptable s hpair _ _), ?_⟩
  rintro ⟨_, _, _, _, runtime', hruntime', hlevels⟩
  have hrole := hlevels.runtimeHasRole
  simp only [List.mem_cons, List.not_mem_nil, or_false] at hruntime'
  rcases hruntime' with rfl | rfl | rfl
  · exact rootRole_ne_runtimeRole (hpair.rootHasRole.unique hrole)
  · exact rootRole_ne_runtimeRole (hpair.rootHasRole.unique hrole)
  · exact labRole_ne_runtimeRole (hpair.labHasRole.unique hrole)

end Holder

end Delegation

/-! ## What an accepted record shows -/

/-- **What an accepted record shows.**  It is delegated exactly if each slot's
role is held; with genuine certificates, exactly if the lab slot does not
certify the root key again.  The holder of a lab key always gets past. -/
theorem delegation_iff {F : Type} [DecidableEq F] (b : Browser F) (now : Int) :
    (∀ record trustRoot root lab runtime : JsValue F,
      CertsParse b record root lab runtime → Accepts b now record trustRoot →
      (Delegated b now record trustRoot [root, lab, runtime] ↔
        RolesHeld root lab runtime) ∧
      ∀ LabKey : JsValue F → Prop, ¬ LabKey (rootKey trustRoot) →
        (∀ cert ∈ [root, lab, runtime],
          Genuine (rootKey trustRoot) LabKey cert) →
        (Delegated b now record trustRoot [root, lab, runtime] ↔
          subjectKey lab ≠ rootKey trustRoot)) ∧
    (∀ (trustRoot root lab : JsValue F) (labKey rootText labText : JsString)
      (s : Signer b labKey),
      GenuinePair b now trustRoot labKey rootText labText root lab →
      (rootKey trustRoot).truthy = true →
      ∀ h3Cell output,
        Accepts b now (shifted s rootText labText h3Cell output) trustRoot ∧
        ¬ Delegated b now (shifted s rootText labText h3Cell output) trustRoot
          [root, root, lab]) := by
  refine ⟨?_, ?_⟩
  · intro record trustRoot root lab runtime hparse hok
    have h := acceptable_of_accepts b now hparse hok
    exact ⟨delegated_iff_rolesHeld h, fun LabKey hkeys hgenuine =>
      delegated_iff_of_genuine h hkeys hgenuine⟩
  · intro trustRoot root lab labKey rootText labText s hpair htrust
    exact shifted_accepts s hpair htrust

def plainRootText : JsString :=
  jsonText plainBrowser.toNumerals plainChain.rootCert

def plainLabText : JsString :=
  jsonText plainBrowser.toNumerals plainChain.labCert

theorem plainPair :
    GenuinePair plainBrowser 15 plainTrustRoot plainChain.labKey plainRootText
      plainLabText (ofJson plainChain.rootCert) (ofJson plainChain.labCert) where
  rootParses := (plainChain.certsParse [] []).rootCert
  labParses := (plainChain.certsParse [] []).labCert
  rootHasRole := rfl
  labHasRole := rfl
  rootValid := Signer.issue_valid (c := plainChain.rootCertificate)
    plainChain.root plainChain_window
  selfSigned := rfl
  labValid := Signer.issue_valid (c := plainChain.labCertificate)
    plainChain.root plainChain_window
  labSubject := rfl

theorem plainTrustRoot_truthy : (rootKey plainTrustRoot).truthy = true := by
  decide +kernel

/-- What the plain chain issues is delegated; what its lab key signs is
accepted all the same. -/
theorem delegation_iff_plainChain :
    Delegated plainBrowser 15 (plainChain.record (js "881f1d4805fffff")
      (js "dry")) plainTrustRoot [ofJson plainChain.rootCert,
        ofJson plainChain.labCert, ofJson plainChain.runtimeCert] ∧
    Accepts plainBrowser 15 (shifted plainChain.lab plainRootText plainLabText
      (js "881f1d4805fffff") (js "dry")) plainTrustRoot := by
  obtain ⟨haccepted, hshifted⟩ := delegation_iff plainBrowser 15
  refine ⟨?_, (hshifted _ _ _ _ _ _ plainChain.lab plainPair
    plainTrustRoot_truthy _ _).1⟩
  rw [(haccepted _ _ _ _ _ (plainChain.certsParse _ _)
    (plainChain.accepts rfl (by decide) plainChain_window _ _)).1]
  exact ⟨roleHeld_of_hasRole (by simp) rfl, roleHeld_of_hasRole (by simp) rfl,
    roleHeld_of_hasRole (by simp) rfl⟩

/-- The plain lab key signs a record that verifies without a runtime
certificate. -/
theorem shifted_plainChain :
    CertsParse plainBrowser (shifted plainChain.lab plainRootText plainLabText
      (js "881f1d4805fffff") (js "flood")) (ofJson plainChain.rootCert)
      (ofJson plainChain.rootCert) (ofJson plainChain.labCert) ∧
    Accepts plainBrowser 15 (shifted plainChain.lab plainRootText plainLabText
      (js "881f1d4805fffff") (js "flood")) plainTrustRoot ∧
    ¬ Delegated plainBrowser 15 (shifted plainChain.lab plainRootText
      plainLabText (js "881f1d4805fffff") (js "flood")) plainTrustRoot
      [ofJson plainChain.rootCert, ofJson plainChain.rootCert,
        ofJson plainChain.labCert] :=
  ⟨shifted_certsParse plainChain.lab plainPair _ _,
    shifted_accepts plainChain.lab plainPair plainTrustRoot_truthy _ _⟩

end RenderEngine.Ports.LabDelegation
