import RenderEngine.Ports.LabAcceptance

/-!
# The trust anchor of the lab (`demo/lab_overlay.js`, `lab-client/client.rs`)

`verifyResponse` and the audit overlay take the trust root from the response
they verify.  `geiantLabRootPubkey` is the key that downstream verifiers are
to match; no step of either path reads it.

## Main results

* `accepts_of_reportsOk`: what either path reports as ok is accepted under the
  trust root of its own response.
* `anchored_iff`: the reports are anchored to the pinned key exactly when the
  response names that key.
-/

namespace RenderEngine.Ports.LabAnchor

open RenderEngine.Ports.JavaScript
open RenderEngine.Ports.JavaScriptJson
open RenderEngine.Ports.LabVerify
open RenderEngine.Ports.LabAcceptance
open RenderEngine.Verified.Fallible

/-- `GEIANT_LAB_ROOT_PUBKEY`. -/
def geiantLabRootPubkey : JsString :=
  js "h9TRb07XyhDu06h40PSEwcIOn-Z_Md_3GfShCm67vUs"

section Overlay

variable {F : Type} (b : Browser F)
variable (localeCompare : JsString → JsString → Int)

/-! ## The overlay -/

/-- `r.signed_at || ''` -/
def signedAt (r : JsValue F) : Throws (JsValue F) := do
  let v ← r.get b.toEngine (js "signed_at")
  return v.orElse (.string [])

/-- The comparator that puts the newest record first. -/
def compareRecords (x y : JsValue F) : Throws Int := do
  let sy ← signedAt b y
  let sx ← signedAt b x
  match sy with
  | .string s => do
      let t ← sx.toText b.toEngine
      return localeCompare s t
  | _ => .error (b.notFunction (js "localeCompare"))

/-- Put a value before the first one it does not come after. -/
def insertBy {α : Type} (compare : α → α → Throws Int) (x : α) :
    List α → Throws (List α)
  | [] => .ok [x]
  | y :: ys => do
      let c ← compare x y
      if c ≤ 0 then return x :: y :: ys
      let zs ← insertBy compare x ys
      return y :: zs

/-- `sort(compare)`: a stable sort.  The order of the comparisons is the
engine's choice; this is one. -/
def sortBy {α : Type} (compare : α → α → Throws Int) :
    List α → Throws (List α)
  | [] => .ok []
  | x :: xs => do
      let ys ← sortBy compare xs
      insertBy compare x ys

/-- What the overlay attaches once the response is there. -/
inductive LabSection (F : Type) where
  | empty
  | crashed (message : JsString)
  | verdict (record : JsValue F) (verdict : LabResult F)

/-- `response.records`, or `none` where the overlay shows an empty section.
What is neither an array nor empty has no `slice` or no `sort`. -/
def shownRecords (response : JsValue F) :
    Throws (Option (List (JsValue F))) := do
  let records ← response.get b.toEngine (js "records")
  match records with
  | .array [] => return none
  | .array items => return some items
  | .object ms =>
      match (JsValue.object ms).member (js "length") with
      | .number (.int ⟨0, _⟩) => return none
      | _ => .error (b.notFunction (js "slice"))
  | .string (_ :: _) => .error (b.notFunction (js "sort"))
  | v => if v.truthy then .error (b.notFunction (js "slice")) else return none

variable [DecidableEq F] (now : Int)

/-- `onAuditOpen` from the response on. -/
def onAuditOpen (response : JsValue F) : Throws (LabSection F) := do
  match ← shownRecords b response with
  | none => return .empty
  | some items => do
      let records ← sortBy (compareRecords b localeCompare) items
      let record := records.headD .undefined
      let trustRoot ← response.get b.toEngine (js "trust_root")
      match verifyLabRecord b now record trustRoot with
      | .ok verdict => return .verdict record verdict
      | .error e => return .crashed e.message

/-! ## What is reported -/

/-- The two paths from a response to a verdict. -/
inductive Reporter where
  | verifyResponse
  | onAuditOpen

/-- The path reports ok for a record of the response. -/
def ReportsOk (response record : JsValue F) : Reporter → Prop
  | .verifyResponse => ∃ result detail records,
      LabVerify.verifyResponse b now response = .ok result ∧
      result.detail = some detail ∧
      response.member (js "records") = .array records ∧
      ∃ verdict, (record, verdict) ∈ records.zip detail.verdicts ∧
        verdict.ok = true
  | .onAuditOpen => ∃ verdict,
      LabAnchor.onAuditOpen b localeCompare now response =
        .ok (.verdict record verdict) ∧ verdict.ok = true

/-- **Both paths trust the response.** -/
theorem accepts_of_reportsOk {response record : JsValue F} {p : Reporter}
    (h : ReportsOk b localeCompare now response record p) :
    Accepts b now record (response.member (js "trust_root")) := by
  cases p with
  | verifyResponse =>
      rcases h with ⟨result, detail, records, hrun, hdetail, hrecords,
        verdict, hmem, hok⟩
      rw [LabVerify.verifyResponse, hrecords] at hrun
      split at hrun
      · next items _ hitems _ =>
          cases hitems
          rcases bind_eq_ok.mp hrun with ⟨verdicts, hverdicts, hret⟩
          cases hret
          cases hdetail
          have hpoint := List.forall₂_iff_zip.mp
            (mapM_eq_ok_iff.mp hverdicts)
          exact ⟨verdict, hpoint.2 hmem, hok⟩
      · cases hrun
        cases hdetail
  | onAuditOpen =>
      rcases h with ⟨verdict, hrun, hok⟩
      rcases bind_eq_ok.mp hrun with ⟨shown, hshown, hrun⟩
      cases shown with
      | none => cases hrun
      | some items =>
          simp only [bind_eq_ok] at hrun
          rcases hrun with ⟨sorted, -, trustRoot, htrust, hrun⟩
          split at hrun
          · next hverify =>
              cases hrun
              rw [← ((JsValue.get_eq_ok_iff _).mp htrust).2] at hverify
              exact ⟨verdict, hverify, hok⟩
          · cases hrun

/-- The root certificate of a record certifies the key. -/
def RootKeyIs (record : JsValue F) (key : JsString) : Prop :=
  ∃ root, parseValue b (record.member (js "root_cert_json")) = .ok root ∧
    root.member (js "subject_public_key") = .string key

/-- Under this trust root, every record reported as ok, by either path and in
whatever response, has a root certificate of the pinned key. -/
def Anchored (trustRoot : JsValue F) : Prop :=
  ∀ (p : Reporter) (response record : JsValue F),
    response.member (js "trust_root") = trustRoot →
    ReportsOk b localeCompare now response record p →
    RootKeyIs b record geiantLabRootPubkey

/-- A reported record has the root key that the response names. -/
theorem rootKeyIs_of_reportsOk {response record : JsValue F} {p : Reporter}
    {key : JsString}
    (hkey : (response.member (js "trust_root")).member (js "root_pubkey") =
      .string key)
    (h : ReportsOk b localeCompare now response record p) :
    RootKeyIs b record key := by
  have haccepts := accepts_of_reportsOk b localeCompare now h
  rcases certsParse_of_accepts b now haccepts with ⟨root, lab, runtime, hparse⟩
  have hacceptable := acceptable_of_accepts b now hparse haccepts
  exact ⟨root, hparse.rootCert, hacceptable.rootSubject.trans hkey⟩

/-- A response with one record. -/
def singleResponse (record trustRoot : JsValue F) : JsValue F :=
  .object [(js "records", .array [record]), (js "trust_root", trustRoot)]

/-- The one record of a response is reported as ok if it is accepted. -/
theorem reportsOk_singleResponse {record trustRoot : JsValue F}
    (htrust : trustRoot.truthy = true)
    (h : Accepts b now record trustRoot) (p : Reporter) :
    ReportsOk b localeCompare now (singleResponse record trustRoot) record
      p := by
  rcases h with ⟨verdict, hrun, hok⟩
  have hrecords : (singleResponse record trustRoot).member (js "records") =
      .array [record] := rfl
  have hroot : (singleResponse record trustRoot).member (js "trust_root") =
      trustRoot := rfl
  cases p with
  | verifyResponse =>
      refine ⟨{ ok := [verdict].all fun v => v.ok
                error := none
                detail := some ⟨trustRoot, 1, [verdict]⟩ },
        ⟨trustRoot, 1, [verdict]⟩, [record], ?_, rfl, hrecords, verdict,
        List.mem_singleton.mpr rfl, hok⟩
      rw [LabVerify.verifyResponse, hrecords, hroot, htrust]
      simp only [List.mapM_cons, List.mapM_nil, hrun]
      rfl
  | onAuditOpen =>
      refine ⟨verdict, ?_, hok⟩
      have hshown : shownRecords b (singleResponse record trustRoot) =
          .ok (some [record]) := rfl
      have hsorted : sortBy (compareRecords b localeCompare) [record] =
          .ok [record] := rfl
      have hget : (singleResponse record trustRoot).get b.toEngine
          (js "trust_root") = .ok trustRoot := rfl
      simp only [onAuditOpen, hshown, hsorted, hget, hrun, Throws.ok_bind,
        List.headD_cons]
      rfl

/-! ## The anchor -/

/-- The chain whose three keys are one. -/
def forgedChain {key : JsString} (holder : Signer b key)
    (notBefore notAfter : JsString) : Chain b where
  rootKey := key
  labKey := key
  runtimeKey := key
  root := holder
  lab := holder
  runtime := holder
  notBefore := notBefore
  notAfter := notAfter

/-- `Date.parse` reads some text as a time up to `now` and some as a time
from `now` on. -/
def ClockReadable : Prop :=
  ∃ notBefore notAfter nb na,
    b.dateParse (.string notBefore) = .ok (some nb) ∧
    b.dateParse (.string notAfter) = .ok (some na) ∧ nb ≤ now ∧ now ≤ na

section Forge

variable {b now}
variable {trustRoot : JsValue F} {key : JsString} (holder : Signer b key)
variable (notBefore notAfter : JsString)

/-- The holder of the trust root's key gets a record of any output for any
cell reported as ok, by both paths. -/
theorem forged_reportsOk
    (hkey : trustRoot.member (js "root_pubkey") = .string key)
    (hne : key ≠ [])
    (hwindow : WindowOpen (b := b) now
      (forgedChain b holder notBefore notAfter).rootCertificate)
    (h3Cell output : JsString) (p : Reporter) :
    let record := (forgedChain b holder notBefore notAfter).record h3Cell output
    ReportsOk b localeCompare now (singleResponse record trustRoot) record
      p := by
  have haccepts := (forgedChain b holder notBefore notAfter).accepts hkey hne
    hwindow h3Cell output
  have htruthy : trustRoot.truthy = true := by
    apply JsValue.truthy_of_member (k := js "root_pubkey")
    rw [hkey, JsValue.truthy]
    simpa using hne
  exact reportsOk_singleResponse b localeCompare now htruthy haccepts p

omit [DecidableEq F] in
/-- Its root key is that of the holder. -/
theorem eq_of_forged_rootKeyIs {key' : JsString} {h3Cell output : JsString}
    (h : RootKeyIs b
      ((forgedChain b holder notBefore notAfter).record h3Cell output) key') :
    key' = key := by
  rcases h with ⟨root, hparse, hsubject⟩
  rw [((forgedChain b holder notBefore notAfter).certsParse h3Cell
    output).rootCert] at hparse
  cases hparse
  exact (JsValue.string.inj hsubject).symm

end Forge

/-- **The anchor is the response's.**  For a trust root whose key somebody can
sign for, the reports are anchored to the pinned key exactly when the trust
root's key is the pinned key. -/
theorem anchored_iff {trustRoot : JsValue F} {key : JsString}
    (hkey : trustRoot.member (js "root_pubkey") = .string key)
    (hne : key ≠ []) (holder : Signer b key)
    (hclock : ClockReadable b now) :
    Anchored b localeCompare now trustRoot ↔ key = geiantLabRootPubkey := by
  constructor
  · intro hanchored
    rcases hclock with ⟨notBefore, notAfter, hwindow⟩
    have hreports := forged_reportsOk localeCompare holder notBefore notAfter
      hkey hne hwindow [] [] .verifyResponse
    have hroot := hanchored .verifyResponse _ _ rfl hreports
    exact (eq_of_forged_rootKeyIs holder notBefore notAfter hroot).symm
  · rintro rfl p response record htrust hreports
    rw [← htrust] at hkey
    exact rootKeyIs_of_reportsOk b localeCompare now hkey hreports

end Overlay

/-! ## A forged response -/

/-- The trust root of the holder of another key. -/
def forgedTrustRoot : JsValue Empty :=
  .object [(js "root_pubkey", .string (bytesToB64u [1]))]

/-- A record signed by that holder, from the root certificate down. -/
def forgedRecord : JsValue Empty :=
  (forgedChain plainBrowser (plainSigner 1) (js "10") (js "20")).record
    (js "881f1d4805fffff") (js "dry")

private theorem plainClock : ClockReadable plainBrowser 15 :=
  ⟨js "10", js "20", 10, 20, rfl, rfl, by decide, by decide⟩

theorem anchored_iff_forgedTrustRoot :
    ¬ Anchored plainBrowser (fun _ _ => 0) 15 forgedTrustRoot := by
  have hkey : forgedTrustRoot.member (js "root_pubkey") =
      .string (bytesToB64u [1]) := rfl
  rw [anchored_iff plainBrowser (fun _ _ => 0) 15 hkey (by decide)
    (plainSigner 1) plainClock]
  decide

/-- Either path reports ok for a record whose chain is signed by a key of the
sender's own. -/
theorem not_anchored_forged :
    (∀ p, ReportsOk plainBrowser (fun _ _ => 0) 15
      (singleResponse forgedRecord forgedTrustRoot) forgedRecord p) ∧
    ¬ ∀ (p : Reporter) (response record : JsValue Empty),
      ReportsOk plainBrowser (fun _ _ => 0) 15 response record p →
      RootKeyIs plainBrowser record geiantLabRootPubkey := by
  have hreports : ∀ p, ReportsOk plainBrowser (fun _ _ => 0) 15
      (singleResponse forgedRecord forgedTrustRoot) forgedRecord p :=
    forged_reportsOk (fun _ _ => 0) (plainSigner 1) (js "10") (js "20") rfl
      (by decide) ⟨10, 20, rfl, rfl, by decide, by decide⟩ _ _
  refine ⟨hreports, fun hclaim => ?_⟩
  have hroot := hclaim .onAuditOpen _ _ (hreports .onAuditOpen)
  have hkey := eq_of_forged_rootKeyIs (plainSigner 1) _ _ hroot
  exact absurd hkey (by decide)

end RenderEngine.Ports.LabAnchor
