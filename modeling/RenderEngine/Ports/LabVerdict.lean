import RenderEngine.Ports.LabAcceptance

/-!
# When the lab verifier gives a verdict (`demo/lab_verify.js`)

A promise that rejects is a verdict that nobody sees: `verifyResponse` waits
for all of its records, so that one of them takes the others along.

The verifier catches what `JSON.parse` and a signature check throw, and nothing
else.  A certificate that parses to `null` has no properties to read, and a
value that has no text cannot be put into a message or made a date; what comes
out of a JSON text has no text exactly where it holds an object with a member
`toString` outside of any other object.

## Main results

* `toText_returns_iff`: which values have a text.
* `verifyCert_returns_iff`, `verifyParsed_returns_iff`: one certificate, and the
  walk over three.
* `verdict_iff`: a record, and a response.
-/

namespace RenderEngine.Ports.LabVerdict

open RenderEngine.Ports.CoreTypes
open RenderEngine.Ports.Serde
open RenderEngine.Ports.JavaScript
open RenderEngine.Ports.JavaScriptJson
open RenderEngine.Ports.LabVerify
open RenderEngine.Ports.LabAcceptance
open RenderEngine.Verified.Fallible

/-! ## Calls that return -/

/-- The call does not throw, the promise does not reject. -/
def Returns {α : Type} (x : Throws α) : Prop := ∃ a, x = .ok a

theorem returns_ok {α : Type} (a : α) : Returns (.ok a : Throws α) := ⟨a, rfl⟩

theorem returns_pure {α : Type} (a : α) : Returns (pure a : Throws α) :=
  ⟨a, rfl⟩

theorem not_returns_error {α : Type} (e : JsError) :
    ¬ Returns (.error e : Throws α) := by
  rintro ⟨a, ha⟩
  cases ha

/-- A call, and one after it that returns or not whatever the first returned. -/
theorem returns_bind_iff {α β : Type} {x : Throws α} {f : α → Throws β}
    {Q : Prop} (h : ∀ a, x = .ok a → (Returns (f a) ↔ Q)) :
    Returns (x >>= f) ↔ Returns x ∧ Q := by
  constructor
  · rintro ⟨b, hb⟩
    obtain ⟨a, ha, hfa⟩ := bind_eq_ok.mp hb
    exact ⟨⟨a, ha⟩, (h a ha).mp ⟨b, hfa⟩⟩
  · rintro ⟨⟨a, ha⟩, hQ⟩
    rw [ha, Throws.ok_bind]
    exact (h a ha).mpr hQ

section Verdict

variable {F : Type}

/-! ## Values with a text -/

mutual

/-- The value can be made a string: no object with a member `toString` is
reached through arrays. -/
def hasText : JsValue F → Bool
  | .array items => itemsHaveText items
  | .object ms => !ms.any fun m => m.1 = js "toString"
  | _ => true

def itemsHaveText : List (JsValue F) → Bool
  | [] => true
  | x :: xs => hasText x && itemsHaveText xs

end

/-- The text of an item of an array. -/
def itemText (en : Engine F) : JsValue F → Throws JsString
  | .undefined => .ok []
  | .null => .ok []
  | x => x.toText en

theorem itemTexts_cons (en : Engine F) (x : JsValue F) (xs : List (JsValue F)) :
    JsValue.itemTexts en (x :: xs) = do
      let s ← itemText en x
      let rest ← JsValue.itemTexts en xs
      return s :: rest := by
  cases x <;> simp only [JsValue.itemTexts, itemText]

mutual

/-- **The values with a text.** -/
theorem toText_returns_iff (en : Engine F) :
    ∀ v : JsValue F, Returns (v.toText en) ↔ hasText v = true
  | .undefined => iff_of_true (returns_ok _) rfl
  | .null => iff_of_true (returns_ok _) rfl
  | .bool _ => iff_of_true (returns_ok _) rfl
  | .number _ => iff_of_true (returns_ok _) rfl
  | .string _ => iff_of_true (returns_ok _) rfl
  | .array items => by
      have hitems := itemTexts_returns_iff en items
      rw [JsValue.toText, hasText, returns_bind_iff (Q := True)]
      · rw [and_true, hitems]
      · exact fun parts _ => iff_of_true (returns_pure _) trivial
  | .object ms => by
      rw [JsValue.toText, hasText]
      by_cases hown : (ms.any fun m => m.1 = js "toString") = true
      · rw [if_pos hown, hown]
        exact iff_of_false (not_returns_error _) Bool.false_ne_true
      · rw [if_neg hown]
        rw [Bool.not_eq_true] at hown
        rw [hown]
        exact iff_of_true (returns_ok _) rfl

theorem itemTexts_returns_iff (en : Engine F) :
    ∀ xs : List (JsValue F),
      Returns (JsValue.itemTexts en xs) ↔ itemsHaveText xs = true
  | [] => iff_of_true (returns_ok _) rfl
  | x :: xs => by
      have hx := toText_returns_iff en x
      have hxs := itemTexts_returns_iff en xs
      rw [itemTexts_cons, itemsHaveText, Bool.and_eq_true,
        returns_bind_iff (Q := itemsHaveText xs = true)]
      · refine and_congr ?_ Iff.rfl
        cases x with
        | undefined => exact iff_of_true (returns_ok _) rfl
        | null => exact iff_of_true (returns_ok _) rfl
        | _ => exact hx
      · intro s _
        rw [returns_bind_iff (Q := True)]
        · rw [and_true, hxs]
        · exact fun rest _ => iff_of_true (returns_pure _) trivial

end

/-! ## Messages -/

theorem pushIf_returns_iff (c : Bool) (message : Throws JsString)
    (errs : List JsString) :
    Returns (pushIf c message errs) ↔ (c = true → Returns message) := by
  by_cases hc : c = true
  · rw [hc, pushIf, if_pos rfl, returns_bind_iff (Q := True)]
    · simp
    · exact fun m _ => iff_of_true (returns_pure _) trivial
  · rw [pushIf, if_neg hc]
    exact iff_of_true (returns_pure _) fun htrue => absurd htrue hc

/-- Two values that are equal, or both have a text. -/
def Comparable [DecidableEq F] (x y : Ref F) : Prop :=
  x.strictEq y = true ∨ (hasText x.value = true ∧ hasText y.value = true)

variable (b : Browser F)

theorem mismatchMessage_returns_iff (before between after : JsString)
    (x y : JsValue F) :
    Returns (mismatchMessage b before x between y after) ↔
      hasText x = true ∧ hasText y = true := by
  unfold mismatchMessage
  rw [returns_bind_iff (Q := hasText y = true), toText_returns_iff]
  intro s _
  rw [returns_bind_iff (Q := True), toText_returns_iff, and_true]
  exact fun t _ => iff_of_true (returns_pure _) trivial

theorem windowMessage_returns_iff (label : JsString)
    (notBefore notAfter : JsValue F) :
    Returns (windowMessage b label notBefore notAfter) ↔
      hasText notBefore = true ∧ hasText notAfter = true :=
  mismatchMessage_returns_iff b (label ++ js ": outside validity window (")
    (js " → ") (js ")") notBefore notAfter

theorem issuerMessage_returns_iff (label : JsString)
    (issuer parent : JsValue F) :
    Returns (issuerMessage b label issuer parent) ↔
      hasText issuer = true ∧ hasText parent = true :=
  mismatchMessage_returns_iff b (label ++ js ": issuer mismatch (cert says ")
    (js ", expected ") (js ")") issuer parent

/-- A comparison whose failure is reported with both values. -/
theorem compare_returns_iff [DecidableEq F] {x y : Ref F}
    {message : Throws JsString} (errs : List JsString)
    (hmessage : Returns message ↔
      hasText x.value = true ∧ hasText y.value = true) :
    Returns (pushIf (!x.strictEq y) message errs) ↔ Comparable x y := by
  rw [pushIf_returns_iff, hmessage]
  unfold Comparable
  by_cases heq : x.strictEq y = true
  · simp [heq]
  · rw [Bool.not_eq_true] at heq
    simp [heq]

/-! ## Certificates -/

/-- Every required field is there. -/
def HasFields (cert : JsValue F) : Prop :=
  ∀ k ∈ requiredFields, (cert.member k).isUndefined = false

/-- Reading the fields throws exactly on a nullish certificate. -/
theorem missingFields_returns_iff (label : JsString) (cert : Ref F)
    (k : JsString) (ks : List JsString) :
    Returns (missingFields b label cert (k :: ks)) ↔
      cert.value.nullish = false := by
  constructor
  · rintro ⟨errs, herrs⟩
    obtain ⟨v, hv, -⟩ := bind_eq_ok.mp herrs
    exact ((Ref.get_eq_ok_iff _).mp hv).1
  · intro hcert
    have hget : ∀ k, cert.get b.toEngine k = .ok (cert.member k) :=
      fun k => (Ref.get_eq_ok_iff _).mpr ⟨hcert, rfl⟩
    have hall : ∀ ks, Returns (missingFields b label cert ks) := by
      intro ks
      induction ks with
      | nil => exact returns_ok _
      | cons k ks ih =>
          obtain ⟨errs, herrs⟩ := ih
          rw [missingFields, hget, Throws.ok_bind, herrs, Throws.ok_bind]
          exact returns_pure _
    exact hall (k :: ks)

/-- `Date.parse` makes its argument a string, and then returns. -/
def DateParseReturns : Prop :=
  ∀ v, Returns (b.dateParse v) ↔ hasText v = true

variable [DecidableEq F]

/-- What is read of a certificate can be read. -/
structure Readable (cert parent : Ref F) : Prop where
  present : cert.value.nullish = false
  dates : HasFields cert.value →
    hasText (cert.value.member (js "not_before")) = true ∧
    hasText (cert.value.member (js "not_after")) = true
  issuer : HasFields cert.value →
    Comparable (cert.member (js "issued_by_public_key")) parent

variable {b} (hdate : DateParseReturns b) (now : Int)

include hdate in
/-- Of a certificate with all its fields the dates are parsed and the issuer
is compared. -/
theorem verifyCert_returns_iff_of_fields {cert : Ref F} (parent : Ref F)
    (label : JsString)
    (hmissing : missingFields b label cert requiredFields = .ok []) :
    Returns (verifyCert b now cert parent label) ↔
      hasText (cert.member (js "not_before")).value = true ∧
      hasText (cert.member (js "not_after")).value = true ∧
      Comparable (cert.member (js "issued_by_public_key")) parent := by
  have hnb := hdate (cert.member (js "not_before")).value
  have hna := hdate (cert.member (js "not_after")).value
  have hwindow : ∀ c errs, hasText (cert.member (js "not_before")).value =
      true → hasText (cert.member (js "not_after")).value = true →
      Returns (pushIf c (windowMessage b label
        (cert.member (js "not_before")).value
        (cert.member (js "not_after")).value) errs) := by
    intro c errs htext htext'
    rw [pushIf_returns_iff]
    exact fun _ => (windowMessage_returns_iff b label _ _).mpr
      ⟨htext, htext'⟩
  unfold verifyCert
  rw [hmissing, Throws.ok_bind, if_neg (by simp), returns_bind_iff (Q :=
    hasText (cert.member (js "not_after")).value = true ∧
    Comparable (cert.member (js "issued_by_public_key")) parent), hnb]
  intro t ht
  rw [returns_bind_iff (Q :=
    Comparable (cert.member (js "issued_by_public_key")) parent), hna]
  intro t' ht'
  -- the dates have been parsed, so that they can be printed
  rw [returns_bind_iff (Q :=
    Comparable (cert.member (js "issued_by_public_key")) parent),
    and_iff_right (hwindow _ _ (hnb.mp ⟨t, ht⟩) (hna.mp ⟨t', ht'⟩))]
  intro errs _
  rw [returns_bind_iff (Q := True), and_true]
  · exact compare_returns_iff errs (issuerMessage_returns_iff b label _ _)
  · exact fun errs _ => iff_of_true (returns_pure _) trivial

include hdate in
theorem verifyCert_returns_iff (cert parent : Ref F) (label : JsString) :
    Returns (verifyCert b now cert parent label) ↔ Readable cert parent := by
  by_cases hcert : cert.value.nullish = false
  · obtain ⟨missing, hmissing⟩ : Returns
        (missingFields b label cert requiredFields) :=
      (missingFields_returns_iff b label cert _ _).mpr hcert
    have hfields := missingFields_eq_ok_nil_iff b label hcert requiredFields
    by_cases hnil : missing = []
    · subst hnil
      have hall : HasFields cert.value := hfields.mp hmissing
      rw [verifyCert_returns_iff_of_fields hdate now parent label hmissing]
      exact ⟨fun h => ⟨hcert, fun _ => ⟨h.1, h.2.1⟩, fun _ => h.2.2⟩,
        fun h => ⟨(h.dates hall).1, (h.dates hall).2, h.issuer hall⟩⟩
    · have hno : ¬ HasFields cert.value := by
        intro hall
        rw [hmissing] at hfields
        exact hnil (Except.ok.inj (hfields.mpr hall))
      have hempty : (!missing.isEmpty) = true := by simpa using hnil
      unfold verifyCert
      rw [hmissing, Throws.ok_bind, if_pos hempty]
      exact iff_of_true (returns_pure _)
        ⟨hcert, fun h => absurd h hno, fun h => absurd h hno⟩
  · refine iff_of_false ?_ fun h => hcert h.present
    rintro ⟨c, hc⟩
    exact hcert (nullish_of_verifyCert b now hc)

/-! ## Records -/

/-- What the walk compares, prints and parses can be. -/
structure Walkable (record trustRoot root lab runtime : Ref F) : Prop where
  anchor : Comparable (root.member (js "issued_by_public_key"))
    (trustRoot.member (js "root_pubkey"))
  selfSigned : Comparable (root.member (js "subject_public_key"))
    (root.member (js "issued_by_public_key"))
  rootCert : Readable root (root.member (js "issued_by_public_key"))
  labCert : Readable lab (root.member (js "subject_public_key"))
  runtimeCert : Readable runtime (lab.member (js "subject_public_key"))
  signer : Comparable (runtime.member (js "subject_public_key"))
    (record.member (js "signer_public_key"))

include hdate in
theorem verifyParsed_returns_iff (record trustRoot root lab runtime : Ref F)
    (result : LabResult F) :
    Returns (verifyParsed b now record trustRoot root lab runtime result) ↔
      Walkable record trustRoot root lab runtime := by
  by_cases hroot : root.value.nullish = false
  · have hget : root.get b.toEngine (js "issued_by_public_key") =
        .ok (root.member (js "issued_by_public_key")) :=
      (Ref.get_eq_ok_iff _).mpr ⟨hroot, rfl⟩
    have hcompare : ∀ (x y : Ref F) (before between after : JsString) errs,
        Returns (pushIf (!x.strictEq y)
          (mismatchMessage b before x.value between y.value after) errs) ↔
          Comparable x y := fun x y before between after errs =>
      compare_returns_iff errs (mismatchMessage_returns_iff b before between
        after x.value y.value)
    have hwalk : Walkable record trustRoot root lab runtime ↔
        Comparable (root.member (js "issued_by_public_key"))
          (trustRoot.member (js "root_pubkey")) ∧
        Comparable (root.member (js "subject_public_key"))
          (root.member (js "issued_by_public_key")) ∧
        Readable root (root.member (js "issued_by_public_key")) ∧
        Readable lab (root.member (js "subject_public_key")) ∧
        Readable runtime (lab.member (js "subject_public_key")) ∧
        Comparable (runtime.member (js "subject_public_key"))
          (record.member (js "signer_public_key")) :=
      ⟨fun h => ⟨h.anchor, h.selfSigned, h.rootCert, h.labCert, h.runtimeCert,
        h.signer⟩, fun ⟨h1, h2, h3, h4, h5, h6⟩ => ⟨h1, h2, h3, h4, h5, h6⟩⟩
    unfold verifyParsed
    dsimp only
    rw [hget, Throws.ok_bind, hwalk]
    -- each step returns or not whatever the ones before it returned
    rw [returns_bind_iff, hcompare]
    intro errs _
    rw [returns_bind_iff, hcompare]
    intro errs' _
    rw [returns_bind_iff, verifyCert_returns_iff hdate]
    intro rootCheck _
    rw [returns_bind_iff, verifyCert_returns_iff hdate]
    intro labCheck _
    rw [returns_bind_iff, verifyCert_returns_iff hdate]
    intro runtimeCheck _
    rw [returns_bind_iff (Q := True), hcompare, and_true]
    exact fun errs'' _ => iff_of_true (returns_pure _) trivial
  · refine iff_of_false ?_ fun h => hroot h.rootCert.present
    rintro ⟨r, hr⟩
    obtain ⟨v, hv, -⟩ := bind_eq_ok.mp hr
    exact hroot ((Ref.get_eq_ok_iff _).mp hv).1

/-- The record has a verdict under the trust root: what is printed, compared
and parsed on the way to it can be. -/
structure Answerable (b : Browser F) (record trustRoot : JsValue F) : Prop where
  version : (trustRoot.member (js "root_pubkey")).truthy = true →
    record.member (js "record_version") ≠ .number .one →
    hasText (record.member (js "record_version")) = true
  walk : (trustRoot.member (js "root_pubkey")).truthy = true →
    record.member (js "record_version") = .number .one →
    ∀ root lab runtime, parseCerts b record = .ok (root, lab, runtime) →
      Walkable ⟨[js "record"], record⟩ ⟨[js "trustRoot"], trustRoot⟩ root lab
        runtime

section EarlyReturns

variable {record trustRoot : JsValue F}

/-- Without a record or a root key the verdict is an early one. -/
theorem verifyLabRecord_returns_of_untrusted
    (h : record.truthy = true →
      ¬ (trustRoot.member (js "root_pubkey")).truthy = true) :
    Returns (verifyLabRecord b now record trustRoot) := by
  unfold verifyLabRecord
  dsimp only
  by_cases hrecord : record.truthy = true
  · rw [if_neg (by simp [hrecord]), if_pos (by simp [h hrecord])]
    exact returns_pure _
  · rw [if_pos (by simp [hrecord])]
    exact returns_pure _

variable (hrecord : record.truthy = true)
  (htrust : (trustRoot.member (js "root_pubkey")).truthy = true)

include hrecord htrust

/-- A version other than 1 is printed. -/
theorem verifyLabRecord_returns_iff_of_version_ne
    (hversion : record.member (js "record_version") ≠ .number .one) :
    Returns (verifyLabRecord b now record trustRoot) ↔
      hasText (record.member (js "record_version")) = true := by
  have hone : Ref.strictEq
      (Ref.member ⟨[js "record"], record⟩ (js "record_version"))
      ⟨[], .number .one⟩ = false := by
    rw [← Bool.not_eq_true, Ref.strictEq_number_iff]
    exact hversion
  unfold verifyLabRecord
  dsimp only
  rw [if_neg (by simp [hrecord]),
    if_neg (by simp [htrust, JsValue.truthy_of_member htrust]),
    if_pos (by simp [hone]), returns_bind_iff (Q := True), and_true,
    toText_returns_iff]
  · rfl
  · exact fun text _ => iff_of_true (returns_pure _) trivial

include hdate in
/-- With version 1 the certificates are parsed, and walked if they parse. -/
theorem verifyLabRecord_returns_iff_of_version
    (hversion : record.member (js "record_version") = .number .one) :
    Returns (verifyLabRecord b now record trustRoot) ↔
      ∀ root lab runtime, parseCerts b record = .ok (root, lab, runtime) →
        Walkable ⟨[js "record"], record⟩ ⟨[js "trustRoot"], trustRoot⟩ root lab
          runtime := by
  have hone := (Ref.strictEq_number_iff
    (Ref.member ⟨[js "record"], record⟩ (js "record_version")) []
    .one).mpr hversion
  unfold verifyLabRecord
  dsimp only
  rw [if_neg (by simp [hrecord]),
    if_neg (by simp [htrust, JsValue.truthy_of_member htrust]),
    if_neg (by simp [hone])]
  cases hcerts : parseCerts b record with
  | error e =>
      refine iff_of_true (returns_pure _) fun root lab runtime hok => ?_
      cases hok
  | ok certs =>
      obtain ⟨root, lab, runtime⟩ := certs
      refine (verifyParsed_returns_iff hdate now _ _ root lab runtime _).trans
        ⟨fun h root' lab' runtime' hok => ?_, fun h => h root lab runtime rfl⟩
      cases hok
      exact h

end EarlyReturns

include hdate in
/-- **When a record has a verdict.** -/
theorem verifyLabRecord_returns_iff (record trustRoot : JsValue F) :
    Returns (verifyLabRecord b now record trustRoot) ↔
      Answerable b record trustRoot := by
  by_cases hrecord : record.truthy = true
  · by_cases htrust : (trustRoot.member (js "root_pubkey")).truthy = true
    · by_cases hversion : record.member (js "record_version") = .number .one
      · rw [verifyLabRecord_returns_iff_of_version hdate now hrecord htrust
          hversion]
        exact ⟨fun h => ⟨fun _ hno => absurd hversion hno, fun _ _ => h⟩,
          fun h => h.walk htrust hversion⟩
      · rw [verifyLabRecord_returns_iff_of_version_ne now hrecord htrust
          hversion]
        exact ⟨fun htext => ⟨fun _ _ => htext,
          fun _ hyes => absurd hyes hversion⟩,
          fun h => h.version htrust hversion⟩
    · exact iff_of_true
        (verifyLabRecord_returns_of_untrusted now fun _ => htrust)
        ⟨fun h => absurd h htrust, fun h => absurd h htrust⟩
  · have hmember : ∀ k, record.member k = .undefined := by
      intro k
      by_contra hdefined
      obtain ⟨ms, rfl⟩ := JsValue.exists_object_of_member hdefined
      exact hrecord rfl
    refine iff_of_true
      (verifyLabRecord_returns_of_untrusted now fun h => absurd h hrecord)
      ⟨fun _ _ => ?_, fun _ hversion => ?_⟩
    · rw [hmember]
      rfl
    · rw [hmember] at hversion
      cases hversion

/-! ## Responses -/

/-- The response is answered with one verdict for each record, the record's
own. -/
def Answered (b : Browser F) (now : Int) (response : JsValue F)
    (records : List (JsValue F)) : Prop :=
  ∃ r verdicts, verifyResponse b now response = .ok r ∧
    r.detail = some ⟨response.member (js "trust_root"), records.length,
      verdicts⟩ ∧
    List.Forall₂ (fun record verdict =>
      verifyLabRecord b now record (response.member (js "trust_root")) =
        .ok verdict) records verdicts

omit [DecidableEq F] in
theorem mapM_returns_iff {α β : Type} {f : α → Throws β} {xs : List α} :
    Returns (xs.mapM f) ↔ ∀ x ∈ xs, Returns (f x) := by
  refine ⟨?_, mapM_returns⟩
  rintro ⟨ys, hys⟩
  intro x hx
  obtain ⟨y, -, hy⟩ := exists_of_mem_left (mapM_eq_ok_iff.mp hys) hx
  exact ⟨y, hy⟩

section Response

variable {response : JsValue F} {records : List (JsValue F)}
  (hrecords : response.member (js "records") = .array records)
  (htrust : (response.member (js "trust_root")).truthy = true)

include hrecords htrust

/-- One promise that rejects is enough for the response to be rejected. -/
theorem verifyResponse_returns_iff :
    Returns (verifyResponse b now response) ↔
      ∀ record ∈ records, Returns (verifyLabRecord b now record
        (response.member (js "trust_root"))) := by
  rw [← mapM_returns_iff]
  simp only [verifyResponse, hrecords, htrust]
  rw [returns_bind_iff (Q := True), and_true]
  exact fun verdicts _ => iff_of_true (returns_pure _) trivial

/-- A response that is not rejected is answered. -/
theorem answered_iff :
    Answered b now response records ↔
      Returns (verifyResponse b now response) := by
  constructor
  · rintro ⟨r, verdicts, hr, -, -⟩
    exact ⟨r, hr⟩
  · rintro ⟨r, hr⟩
    have hrun := hr
    simp only [verifyResponse, hrecords, htrust] at hrun
    obtain ⟨verdicts, hverdicts, hret⟩ := bind_eq_ok.mp hrun
    cases hret
    have hall := mapM_eq_ok_iff.mp hverdicts
    exact ⟨_, verdicts, hr, by rw [hall.length_eq], hall⟩

end Response

end Verdict

/-! ## The verdict -/

/-- **When there is a verdict.**  A record has one exactly when it is
answerable; a response has one for each of its records exactly when they all
are, and is rejected otherwise. -/
theorem verdict_iff {F : Type} [DecidableEq F] {b : Browser F}
    (hdate : DateParseReturns b) (now : Int) :
    (∀ record trustRoot,
      Returns (verifyLabRecord b now record trustRoot) ↔
        Answerable b record trustRoot) ∧
    (∀ response records,
      response.member (js "records") = .array records →
      (response.member (js "trust_root")).truthy = true →
      (Answered b now response records ↔
        ∀ record ∈ records,
          Answerable b record (response.member (js "trust_root"))) ∧
      (Returns (verifyResponse b now response) ↔
        ∀ record ∈ records,
          Answerable b record (response.member (js "trust_root")))) := by
  refine ⟨verifyLabRecord_returns_iff hdate now,
    fun response records hrecords htrust => ?_⟩
  have hresponse := verifyResponse_returns_iff (b := b) now hrecords htrust
  simp only [verifyLabRecord_returns_iff hdate] at hresponse
  exact ⟨(answered_iff now hrecords htrust).trans hresponse, hresponse⟩

/-- The plain browser, with a `Date.parse` that makes its argument a string. -/
def datingBrowser : Browser Empty where
  toEngine := plainEngine
  dateParse := fun v => do
    let s ← v.toText plainEngine
    return readInt (s.map CodeUnit.toChar)
  ed25519Verify := plainBrowser.ed25519Verify

theorem datingBrowser_dates : DateParseReturns datingBrowser := by
  intro v
  rw [← toText_returns_iff plainEngine]
  show Returns (v.toText plainEngine >>= _) ↔ _
  rw [returns_bind_iff (Q := True), and_true]
  exact fun s _ => iff_of_true (returns_pure _) trivial

/-- The plain chain under that browser. -/
def datingChain : Chain datingBrowser where
  rootKey := plainChain.rootKey
  labKey := plainChain.labKey
  runtimeKey := plainChain.runtimeKey
  root := ⟨plainChain.root.sign, plainChain.root.verifies⟩
  lab := ⟨plainChain.lab.sign, plainChain.lab.verifies⟩
  runtime := ⟨plainChain.runtime.sign, plainChain.runtime.verifies⟩
  notBefore := plainChain.notBefore
  notAfter := plainChain.notAfter

def dryRecord : JsValue Empty :=
  datingChain.record (js "881f1d4805fffff") (js "dry")

theorem dryRecord_accepted :
    Accepts datingBrowser 15 dryRecord plainTrustRoot :=
  datingChain.accepts rfl (by decide)
    ⟨10, 20, rfl, rfl, by decide, by decide⟩ _ _

def responseOf (records : List (JsValue Empty)) : JsValue Empty :=
  .object [(js "records", .array records), (js "trust_root", plainTrustRoot)]

/-- The accepted record has a verdict, and so has the response with it. -/
theorem verdict_iff_dryRecord :
    Answerable datingBrowser dryRecord plainTrustRoot ∧
    Answered datingBrowser 15 (responseOf [dryRecord]) [dryRecord] := by
  obtain ⟨hrecord, hresponse⟩ := verdict_iff datingBrowser_dates 15
  have hdry : Answerable datingBrowser dryRecord plainTrustRoot := by
    rw [← hrecord]
    obtain ⟨r, hr, -⟩ := dryRecord_accepted
    exact ⟨r, hr⟩
  refine ⟨hdry, (hresponse _ [dryRecord] rfl rfl).1.mpr ?_⟩
  intro record hmem
  rw [List.mem_singleton.mp hmem]
  exact hdry

/-- A record whose first certificate is `null`. -/
def nullRooted : JsValue Empty :=
  .object
    [ (js "record_version", .number .one)
    , (js "root_cert_json", .string (js "null"))
    , (js "lab_cert_json", .string (js "[]"))
    , (js "runtime_cert_json", .string (js "[]")) ]

theorem nullRooted_certs :
    parseCerts datingBrowser nullRooted = .ok (⟨[js "rootCert"], .null⟩,
      ⟨[js "labCert"], .array []⟩, ⟨[js "runtimeCert"], .array []⟩) := by
  rfl

/-- The promise of that record rejects, and takes the accepted one along. -/
theorem nullRooted_rejects :
    Accepts datingBrowser 15 dryRecord plainTrustRoot ∧
    ¬ Returns (verifyLabRecord datingBrowser 15 nullRooted plainTrustRoot) ∧
    ¬ Returns (verifyResponse datingBrowser 15
      (responseOf [dryRecord, nullRooted])) := by
  have hreject :
      ¬ Returns (verifyLabRecord datingBrowser 15 nullRooted plainTrustRoot) := by
    rw [verifyLabRecord_returns_iff datingBrowser_dates]
    intro h
    have hwalk := h.walk rfl rfl _ _ _ nullRooted_certs
    exact Bool.false_ne_true hwalk.rootCert.present.symm
  have hrecords : (responseOf [dryRecord, nullRooted]).member (js "records") =
      .array [dryRecord, nullRooted] := rfl
  refine ⟨dryRecord_accepted, hreject, ?_⟩
  rw [verifyResponse_returns_iff 15 hrecords rfl]
  exact fun hall => hreject (hall nullRooted (by simp))

end RenderEngine.Ports.LabVerdict
