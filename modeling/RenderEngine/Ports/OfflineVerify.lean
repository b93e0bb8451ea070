import RenderEngine.Ports.CanonicalJson
import RenderEngine.Ports.JavaScript
import RenderEngine.Verified.DiffBits

/-!
# Offline verification (`demo/verify.js`, `scripts/clients/typescript/client.ts`)

Both verifiers check a bundle of `get_provenance` without the server: the
signature over `content_hash`, and the Merkle path from `content_hash` to the
epoch's root.  They share their helpers up to the text of one error.

`Checked` is what acceptance comes to.  It names the signature, the key, the
content hash, the path and the root; the payload, the address and the epoch
the bundle displays stand nowhere in it.

## Main results

* `accepts_iff`: either verifier accepts exactly the checked bundles.
* `never_tamperEvident`: an accepted bundle stays accepted whatever it is made
  to display.
-/

namespace RenderEngine.Ports.OfflineVerify

open RenderEngine.Ports.CoreTypes
open RenderEngine.Ports.Serde
open RenderEngine.Ports.CanonicalJson
open RenderEngine.Ports.JavaScript
open RenderEngine.Verified.DiffBits
open RenderEngine.Verified.Fallible

/-! ## Bundles -/

/-- `CellState`, with the JSON value of its payload. -/
structure CellState (N : Type) where
  tenantId : JsString
  h3Cell : JsString
  epochId : Int
  identityPk : JsString
  payload : Value N
  contentHash : JsString
  signature : JsString
  writtenAt : JsString

structure Epoch where
  tenantId : JsString
  epochId : Int
  sealedAt : JsString
  merkleRoot : JsString
  parentRoot : Option JsString
  cellCount : Nat

/-- `Provenance`, without the attestations, which no verifier reads. -/
structure Provenance (N : Type) where
  tenantId : JsString
  h3Cell : JsString
  epochId : Int
  cellState : CellState N
  merkleProof : List JsString
  leafIndex : Nat
  epoch : Epoch

/-! ## Bytes -/

/-- The digits of a text, without the `0x` it may start with. -/
def cleanHex (hex : JsString) : JsString :=
  if hex.take 2 = js "0x" then hex.drop 2 else hex

/-- The bytes of two digits each. -/
def digitBytes (clean : JsString) : List UInt8 :=
  (List.range (clean.length / 2)).map fun i =>
    toUint8 (parseIntHex (slice clean (i * 2) (i * 2 + 2)))

/-- `hexToBytes`, given the error for an odd number of digits. -/
def hexToBytesWith (oddLength : Nat → JsError) (hex : JsString) :
    Throws (List UInt8) :=
  let clean := cleanHex hex
  if clean.length % 2 ≠ 0 then .error (oddLength clean.length)
  else .ok (digitBytes clean)

/-- `hexToBytes` returns these bytes. -/
def Decodes (hex : JsString) (bytes : List UInt8) : Prop :=
  (cleanHex hex).length % 2 = 0 ∧ digitBytes (cleanHex hex) = bytes

theorem hexToBytesWith_eq_ok_iff (oddLength : Nat → JsError) (hex : JsString)
    (bytes : List UInt8) :
    hexToBytesWith oddLength hex = .ok bytes ↔ Decodes hex bytes := by
  by_cases hodd : (cleanHex hex).length % 2 = 0 <;>
    simp [hexToBytesWith, Decodes, hodd]

theorem mapM_hexToBytesWith_eq_ok_iff (oddLength : Nat → JsError)
    (proof : List JsString) (siblings : List (List UInt8)) :
    proof.mapM (hexToBytesWith oddLength) = .ok siblings ↔
      List.Forall₂ Decodes proof siblings := by
  simp only [mapM_eq_ok_iff, hexToBytesWith_eq_ok_iff]

def bytesToHex (bytes : List UInt8) : JsString := bytes.flatMap byteHex

def concat (a b : List UInt8) : List UInt8 := a ++ b

def bytesEqual (a b : List UInt8) : Bool :=
  if a.length ≠ b.length then false
  else (a.zip b).foldl (fun diff x => diff ||| (x.1 ^^^ x.2)) 0 == 0

theorem bytesEqual_iff (a b : List UInt8) : bytesEqual a b = true ↔ a = b :=
  length_guarded_iff a b

/-! ## The path to the root -/

section Verify

variable (blake3 : List UInt8 → List UInt8)

namespace Demo

/-- `reconstructRoot` of `demo/verify.js`: the loop from `node` on. -/
def reconstructRoot : List UInt8 → List (List UInt8) → Nat → List UInt8
  | node, [], _ => node
  | node, sib :: siblings, idx =>
      let combined :=
        if idx % 2 = 1 then concat sib node else concat node sib
      reconstructRoot (blake3 combined) siblings (idx / 2)

def hexToBytes : JsString → Throws (List UInt8) :=
  hexToBytesWith fun _ => ⟨js "odd-length hex"⟩

end Demo

namespace Client

/-- `reconstructRoot` of `client.ts`, which also halves the layer's length. -/
def reconstructRoot :
    List UInt8 → List (List UInt8) → Nat → Nat → List UInt8
  | node, [], _, _ => node
  | node, sib :: siblings, idx, lenAtLayer =>
      let isRight := idx % 2 = 1
      let combined := if isRight then concat sib node else concat node sib
      reconstructRoot (blake3 combined) siblings (idx / 2)
        ((lenAtLayer + 1) / 2)

def hexToBytes : JsString → Throws (List UInt8) :=
  hexToBytesWith fun n => ⟨js "odd-length hex: " ++ ofText (decimal n)⟩

end Client

/-- The layer's length plays no part in the root. -/
theorem reconstructRoot_client (node : List UInt8)
    (siblings : List (List UInt8)) (idx lenAtLayer : Nat) :
    Client.reconstructRoot blake3 node siblings idx lenAtLayer =
      Demo.reconstructRoot blake3 node siblings idx := by
  induction siblings generalizing node idx lenAtLayer with
  | nil => rfl
  | cons sib siblings ih => exact ih _ _ _

/-! ## The verifiers -/

/-- `ed25519.verify` on a signature, a message and a key; it throws on keys
and signatures of a wrong length. -/
abbrev Ed25519Verify := List UInt8 → List UInt8 → List UInt8 → Throws Bool

/-- What `verifyProvenance` returns. -/
structure VerifyResult where
  ok : Bool
  sigOk : Bool
  rootOk : Bool
  reconstructedHex : Option JsString
  storedHex : Option JsString
  error : Option JsString
  deriving DecidableEq

variable {N : Type} (verify : Ed25519Verify)

/-- The body of the `try` block of `verifyProvenance`. -/
def tryVerifyProvenance (p : Provenance N) : Throws VerifyResult := do
  let sig ← Demo.hexToBytes p.cellState.signature
  let pk ← Demo.hexToBytes p.cellState.identityPk
  let ch ← Demo.hexToBytes p.cellState.contentHash
  let sigOk ← verify sig ch pk
  let siblings ← p.merkleProof.mapM Demo.hexToBytes
  let reconstructed := Demo.reconstructRoot blake3 ch siblings p.leafIndex
  let root ← Demo.hexToBytes p.epoch.merkleRoot
  let rootOk := bytesEqual reconstructed root
  return {
    ok := sigOk && rootOk
    sigOk := sigOk
    rootOk := rootOk
    reconstructedHex := some (bytesToHex reconstructed)
    storedHex := some p.epoch.merkleRoot
    error := none }

/-- `verifyProvenance` of the demo. -/
def verifyProvenance (p : Provenance N) : VerifyResult :=
  match tryVerifyProvenance blake3 verify p with
  | .ok result => result
  | .error e =>
      { ok := false
        sigOk := false
        rootOk := false
        reconstructedHex := none
        storedHex := none
        -- an `Error` with an empty message prints as its name
        error := some (if e.message.isEmpty then js "Error" else e.message) }

/-- `verifyProofLocally` of the client. -/
def verifyProofLocally (p : Provenance N) : Throws Bool := do
  let sig ← Client.hexToBytes p.cellState.signature
  let pk ← Client.hexToBytes p.cellState.identityPk
  let hash ← Client.hexToBytes p.cellState.contentHash
  if !(← verify sig hash pk) then return false
  let siblings ← p.merkleProof.mapM Client.hexToBytes
  let reconstructed := Client.reconstructRoot blake3 hash siblings p.leafIndex
    p.epoch.cellCount
  let root ← Client.hexToBytes p.epoch.merkleRoot
  return bytesEqual reconstructed root

inductive Verifier where
  | verifyProvenance
  | verifyProofLocally

def Accepts : Verifier → Provenance N → Prop
  | .verifyProvenance, p => (verifyProvenance blake3 verify p).ok = true
  | .verifyProofLocally, p => verifyProofLocally blake3 verify p = .ok true

/-- The signature is over the content hash, and the path leads from the
content hash to the root. -/
def Checked (p : Provenance N) : Prop :=
  ∃ sig pk hash siblings root,
    Decodes p.cellState.signature sig ∧
    Decodes p.cellState.identityPk pk ∧
    Decodes p.cellState.contentHash hash ∧
    verify sig hash pk = .ok true ∧
    List.Forall₂ Decodes p.merkleProof siblings ∧
    Decodes p.epoch.merkleRoot root ∧
    Demo.reconstructRoot blake3 hash siblings p.leafIndex = root

theorem verifyProvenance_ok_iff (p : Provenance N) :
    (verifyProvenance blake3 verify p).ok = true ↔
      Checked blake3 verify p := by
  have hok : (verifyProvenance blake3 verify p).ok = true ↔
      ∃ r, tryVerifyProvenance blake3 verify p = .ok r ∧ r.ok = true := by
    unfold verifyProvenance
    cases tryVerifyProvenance blake3 verify p <;> simp
  rw [hok]
  constructor
  · rintro ⟨r, hrun, hr⟩
    simp only [tryVerifyProvenance, bind_eq_ok, Demo.hexToBytes,
      hexToBytesWith_eq_ok_iff, mapM_hexToBytesWith_eq_ok_iff] at hrun
    rcases hrun with ⟨sig, hsig, pk, hpk, hash, hhash, sigOk, hverify,
      siblings, hsiblings, root, hroot, hret⟩
    cases hret
    rw [Bool.and_eq_true, bytesEqual_iff] at hr
    rw [hr.1] at hverify
    exact ⟨sig, pk, hash, siblings, root, hsig, hpk, hhash, hverify,
      hsiblings, hroot, hr.2⟩
  · rintro ⟨sig, pk, hash, siblings, root, hsig, hpk, hhash, hverify,
      hsiblings, hroot, hfold⟩
    simp only [tryVerifyProvenance, bind_eq_ok, Demo.hexToBytes,
      hexToBytesWith_eq_ok_iff, mapM_hexToBytesWith_eq_ok_iff]
    refine ⟨_, ⟨sig, hsig, pk, hpk, hash, hhash, true, hverify, siblings,
      hsiblings, root, hroot, rfl⟩, ?_⟩
    rw [Bool.true_and, bytesEqual_iff]
    exact hfold

theorem verifyProofLocally_ok_iff (p : Provenance N) :
    verifyProofLocally blake3 verify p = .ok true ↔
      Checked blake3 verify p := by
  simp only [verifyProofLocally, bind_eq_ok, Client.hexToBytes,
    hexToBytesWith_eq_ok_iff]
  constructor
  · rintro ⟨sig, hsig, pk, hpk, hash, hhash, sigOk, hverify, hrest⟩
    cases sigOk with
    | false => cases hrest
    | true =>
        simp only [Bool.not_true, Bool.false_eq_true, if_false,
          bind_eq_ok, mapM_hexToBytesWith_eq_ok_iff,
          hexToBytesWith_eq_ok_iff, reconstructRoot_client] at hrest
        rcases hrest with ⟨siblings, hsiblings, root, hroot, hret⟩
        refine ⟨sig, pk, hash, siblings, root, hsig, hpk, hhash, hverify,
          hsiblings, hroot, ?_⟩
        exact (bytesEqual_iff _ _).mp (Except.ok.inj hret)
  · rintro ⟨sig, pk, hash, siblings, root, hsig, hpk, hhash, hverify,
      hsiblings, hroot, hfold⟩
    refine ⟨sig, hsig, pk, hpk, hash, hhash, true, hverify, ?_⟩
    simp only [Bool.not_true, Bool.false_eq_true, if_false,
      bind_eq_ok, mapM_hexToBytesWith_eq_ok_iff,
      hexToBytesWith_eq_ok_iff, reconstructRoot_client]
    refine ⟨siblings, hsiblings, root, hroot, ?_⟩
    exact congrArg Except.ok ((bytesEqual_iff _ _).mpr hfold)

/-- **The two verifiers accept the same bundles.** -/
theorem accepts_iff (v : Verifier) (p : Provenance N) :
    Accepts blake3 verify v p ↔ Checked blake3 verify p := by
  cases v with
  | verifyProvenance => exact verifyProvenance_ok_iff blake3 verify p
  | verifyProofLocally => exact verifyProofLocally_ok_iff blake3 verify p

/-! ## What a bundle displays -/

/-- The payload, the address and the epoch of a bundle, at the places where
the audit panel and the callers read them. -/
structure Displayed (N : Type) where
  payload : Value N
  h3Cell : JsString
  cellH3Cell : JsString
  epochId : Int
  cellEpochId : Int

def Provenance.displayed (p : Provenance N) : Displayed N where
  payload := p.cellState.payload
  h3Cell := p.h3Cell
  cellH3Cell := p.cellState.h3Cell
  epochId := p.epochId
  cellEpochId := p.cellState.epochId

/-- The bundle with `d` in these places. -/
def Provenance.retell (p : Provenance N) (d : Displayed N) : Provenance N :=
  { p with
    h3Cell := d.h3Cell
    epochId := d.epochId
    cellState := { p.cellState with
      h3Cell := d.cellH3Cell
      epochId := d.cellEpochId
      payload := d.payload } }

/-- The lines `doVerify` shows under the button. -/
structure VerifyPanel where
  className : JsString
  result : JsString
  sub : JsString
  deriving DecidableEq

/-- `doVerify` of `demo/app.js`. -/
def doVerify (p : Provenance N) : VerifyPanel :=
  let v := verifyProvenance blake3 verify p
  let shown (b : Bool) := js (if b then "true" else "false")
  let margin := js "\n            "
  if v.ok then
    { className := js "verify-result ok"
      result := js "<span class=\"check\">✓</span> provenance verified offline"
      sub := margin ++ js "Ed25519 signature valid over blake3(payload)<br>"
        ++ margin ++ ofText (decimal p.merkleProof.length)
        ++ js "-hash path reconstructs root "
        ++ slice (v.reconstructedHex.getD []) 0 16 ++ js "…<br>"
        ++ margin
        ++ js "no server trust required — this runs only in your browser"
        ++ js "\n        " }
  else
    { className := js "verify-result bad"
      result := js "<span class=\"xmark\">✕</span> verification failed"
      sub := js "sig=" ++ shown v.sigOk ++ js " · root=" ++ shown v.rootOk
        ++ match v.error with
          | none => []
          | some e => if e.isEmpty then [] else js "<br>" ++ e }

theorem checked_retell (p : Provenance N) (d : Displayed N) :
    Checked blake3 verify (p.retell d) ↔ Checked blake3 verify p := Iff.rfl

theorem doVerify_retell (p : Provenance N) (d : Displayed N) :
    doVerify blake3 verify (p.retell d) = doVerify blake3 verify p := rfl

variable (serde : SerdeText N)

/-- Only the payload changes, to one with another canonical text. -/
def PayloadChanged (d d' : Displayed N) : Prop :=
  canonicalJson serde d'.payload ≠ canonicalJson serde d.payload ∧
    d' = { d with payload := d'.payload }

/-- Only the address changes. -/
def AddressChanged (d d' : Displayed N) : Prop :=
  (d'.h3Cell, d'.cellH3Cell) ≠ (d.h3Cell, d.cellH3Cell) ∧
    d' = { d with h3Cell := d'.h3Cell, cellH3Cell := d'.cellH3Cell }

/-- Only the epoch changes. -/
def EpochChanged (d d' : Displayed N) : Prop :=
  (d'.epochId, d'.cellEpochId) ≠ (d.epochId, d.cellEpochId) ∧
    d' = { d with epochId := d'.epochId, cellEpochId := d'.cellEpochId }

/-- The verifier rejects every change of one kind. -/
def Rejects (v : Verifier) (changed : Displayed N → Displayed N → Prop)
    (p : Provenance N) : Prop :=
  ∀ d, changed p.displayed d → ¬ Accepts blake3 verify v (p.retell d)

theorem not_rejects {v : Verifier} {p : Provenance N}
    {changed : Displayed N → Displayed N → Prop} {d : Displayed N}
    (haccepts : Accepts blake3 verify v p) (hchanged : changed p.displayed d) :
    ¬ Rejects blake3 verify v changed p := by
  intro hrejects
  apply hrejects d hchanged
  rw [accepts_iff, checked_retell]
  exact (accepts_iff blake3 verify v p).mp haccepts

/-- No canonical text is that of every payload. -/
theorem exists_payload_ne (text : Text) :
    ∃ v : Value N, canonicalJson serde v ≠ text := by
  by_cases hnull : canonicalJson serde Value.null = text
  · refine ⟨Value.string [], ?_⟩
    rcases serde.string_head [] with ⟨cs, hcs⟩
    have hstring : canonicalJson serde (Value.string []) = '"' :: cs := hcs
    rw [hstring, ← hnull]
    exact fun h => absurd (List.cons.inj h).1 (by decide)
  · exact ⟨Value.null, hnull⟩

/-- **No accepted bundle is tamper-evident.**  Either verifier accepts it with
every other payload, address and epoch, and shows the same lines; it rejects
neither every change of the payload, nor of the address, nor of the epoch. -/
theorem never_tamperEvident {v : Verifier} {p : Provenance N}
    (haccepts : Accepts blake3 verify v p) :
    (∀ d, Accepts blake3 verify v (p.retell d) ∧
        doVerify blake3 verify (p.retell d) = doVerify blake3 verify p) ∧
      ¬ Rejects blake3 verify v (PayloadChanged serde) p ∧
      ¬ Rejects blake3 verify v AddressChanged p ∧
      ¬ Rejects blake3 verify v EpochChanged p := by
  refine ⟨?_, ?_, ?_, ?_⟩
  · intro d
    refine ⟨?_, doVerify_retell blake3 verify p d⟩
    rw [accepts_iff, checked_retell]
    exact (accepts_iff blake3 verify v p).mp haccepts
  · obtain ⟨payload, hne⟩ :=
      exists_payload_ne serde (canonicalJson serde p.cellState.payload)
    exact not_rejects blake3 verify
      (d := { p.displayed with payload := payload }) haccepts ⟨hne, rfl⟩
  · refine not_rejects blake3 verify
      (d := { p.displayed with h3Cell := unit '8' :: p.h3Cell }) haccepts
      ⟨?_, rfl⟩
    intro h
    exact absurd (congrArg List.length (Prod.mk.inj h).1) (Nat.succ_ne_self _)
  · refine not_rejects blake3 verify
      (d := { p.displayed with epochId := p.epochId + 1 }) haccepts ⟨?_, rfl⟩
    intro h
    exact absurd (Prod.mk.inj h).1 (by simp [Provenance.displayed])

end Verify

/-! ## One bundle, another payload -/

/-- A signature that is the key followed by the message. -/
def plainVerify : Ed25519Verify :=
  fun sig message pk => .ok (sig == pk ++ message)

/-- The hash of a text is the text. -/
def plainHash (bytes : List UInt8) : List UInt8 := bytes

/-- A cell with the payload `null`, whose leaf is that of the epoch's first
cell of two. -/
def honestBundle : Provenance Int where
  tenantId := []
  h3Cell := js "891e8052a0bffff"
  epochId := 2
  cellState := {
    tenantId := []
    h3Cell := js "891e8052a0bffff"
    epochId := 2
    identityPk := js "0a"
    payload := Value.null
    -- the bytes of the text `null`
    contentHash := js "6e756c6c"
    signature := js "0x0a6e756c6c"
    writtenAt := [] }
  merkleProof := [js "ff"]
  leafIndex := 0
  epoch := {
    tenantId := []
    epochId := 2
    sealedAt := []
    merkleRoot := js "6e756c6cff"
    parentRoot := none
    cellCount := 2 }

private theorem honestBundle_accepted (v : Verifier) :
    Accepts plainHash plainVerify v honestBundle := by
  have hdemo : (verifyProvenance plainHash plainVerify honestBundle).ok =
      true := by
    decide +kernel
  rw [accepts_iff]
  exact (verifyProvenance_ok_iff _ _ _).mp hdemo

theorem never_tamperEvident_honestBundle :
    ¬ Rejects plainHash plainVerify .verifyProvenance
        (PayloadChanged intText) honestBundle ∧
      ¬ Rejects plainHash plainVerify .verifyProofLocally
        (PayloadChanged intText) honestBundle :=
  ⟨(never_tamperEvident plainHash plainVerify intText
      (honestBundle_accepted .verifyProvenance)).2.1,
    (never_tamperEvident plainHash plainVerify intText
      (honestBundle_accepted .verifyProofLocally)).2.1⟩

/-- The bundle is accepted with its payload replaced, under a hash without
collisions. -/
theorem not_tamperEvident :
    Function.Injective plainHash ∧
      ¬ ∀ (v : Verifier) (p : Provenance Int),
        Accepts plainHash plainVerify v p →
        Rejects plainHash plainVerify v (PayloadChanged intText) p ∧
          Rejects plainHash plainVerify v AddressChanged p ∧
          Rejects plainHash plainVerify v EpochChanged p := by
  refine ⟨fun _ _ h => h, ?_⟩
  intro hclaim
  have hrejects := (hclaim .verifyProvenance honestBundle
    (honestBundle_accepted _)).1
  apply hrejects { honestBundle.displayed with
    payload := Value.string "decommissioned".toList }
  · refine ⟨?_, rfl⟩
    decide +kernel
  · rw [accepts_iff, checked_retell]
    exact (accepts_iff _ _ .verifyProvenance _).mp (honestBundle_accepted _)

end RenderEngine.Ports.OfflineVerify
