import RenderEngine.Ports.CanonicalJson
import RenderEngine.Ports.PostgresClient
import RenderEngine.Ports.SealedEpochs

/-!
# `verify_attestation` (`render-core/src/tools.rs`)

Four checks: the claim hashes to `claim_hash`, the signature is over
`claim_hash`, the cell exists under the caller's tenant, the attestation has
not expired.  The signed hash is that of the claim alone, so the first two
checks look at the claim and the key, the last two at everything else.

## Main results

* `verified_iff`: the verdict is the conjunction of the four checks.
* `verified_iff_of_sameClaim`: among attestations with one signed claim, what
  is verified depends on the cell and on the expiry only.
-/

namespace RenderEngine.Ports.VerifyAttestation

open RenderEngine.Ports.CoreTypes
open RenderEngine.Ports.Serde
open RenderEngine.Ports.CanonicalJson
open RenderEngine.Ports.Schema
open RenderEngine.Ports.PostgresClient
open RenderEngine.Ports.SeedWriter
open RenderEngine.Ports.SealedEpochs
open RenderEngine.Verified.KeyedRows
open RenderEngine.Verified.StepRun

/-- The hash and the signature scheme; `K` is a decoded public key. -/
structure Crypto (K : Type) where
  blake3 : List UInt8 → HexBytes32
  /-- `VerifyingKey::from_bytes` -/
  keyFromBytes : HexBytes32 → Option K
  /-- `verify(..).is_ok()` -/
  verify : K → List UInt8 → HexBytes64 → Bool

structure VerifyAttestationOutput where
  signatureValid : Bool
  claimHashValid : Bool
  cellExists : Bool
  notExpired : Bool
  verified : Bool
  deriving DecidableEq

section Verify

variable {K N : Type} (crypto : Crypto K) (serde : SerdeText N)

/-- `verify_ed25519`. -/
def verifyEd25519 (pubkey : HexBytes32) (message : List UInt8)
    (sig : HexBytes64) : Bool :=
  match crypto.keyFromBytes pubkey with
  | none => false
  | some vk => crypto.verify vk message sig

/-- `verify_attestation` at the time `now`. -/
def verifyAttestation (db : Database N) (tenant : TenantId) (now : Timestamp)
    (a : Attestation N) : Outcome VerifyAttestationOutput := do
  let canonical := canonicalJson serde a.claim
  let computed := crypto.blake3 (asBytes canonical)
  let claimHashValid := decide (computed.bytes = a.claimHash.bytes)
  let signatureValid :=
    verifyEd25519 crypto a.attesterPk a.claimHash.bytes a.signature
  let cell ← getCellState db tenant a.h3Cell (some a.epochId)
  let cellExists := cell.isSome
  let notExpired := match a.expiresAt with
    | none => true
    | some t => decide (t > now)
  let verified := claimHashValid && signatureValid && cellExists && notExpired
  return {
    signatureValid := signatureValid
    claimHashValid := claimHashValid
    cellExists := cellExists
    notExpired := notExpired
    verified := verified }

/-- The call returns and reports the attestation verified. -/
def Verified (db : Database N) (tenant : TenantId) (now : Timestamp)
    (a : Attestation N) : Prop :=
  ∃ out, verifyAttestation crypto serde db tenant now a = .ok out ∧
    out.verified = true

/-- The claim is the one that was hashed and signed. -/
def ClaimSigned (a : Attestation N) : Prop :=
  crypto.blake3 (asBytes (canonicalJson serde a.claim)) = a.claimHash ∧
    verifyEd25519 crypto a.attesterPk a.claimHash.bytes a.signature = true

/-- A cell is stored under the caller's tenant, at the attestation's cell and
epoch. -/
def CellStored (db : Database N) (tenant : TenantId) (a : Attestation N) :
    Prop :=
  (tenant, a.h3Cell.asI64, a.epochId.val) ∈
    db.cellStates.map CellStateRow.key

def NotExpired (now : Timestamp) (a : Attestation N) : Prop :=
  ∀ t, a.expiresAt = some t → now < t

theorem selectCell_isSome_iff (db : Database N) (tenant : TenantId)
    (h3 : H3Cell) (epoch : EpochId) :
    (selectCell db tenant h3 epoch).isSome = true ↔
      (tenant, h3.asI64, epoch.val) ∈ db.cellStates.map CellStateRow.key := by
  rw [← not_iff_not, ← findKey_eq_none_iff, Bool.not_eq_true,
    Option.isSome_eq_false_iff, Option.isNone_iff_eq_none]
  rfl

/-- **The verdict is the conjunction of the four checks.** -/
theorem verified_iff (db : Database N) (tenant : TenantId) (now : Timestamp)
    (a : Attestation N) :
    Verified crypto serde db tenant now a ↔
      ClaimSigned crypto serde a ∧ CellStored db tenant a ∧
        NotExpired now a := by
  have hcell := selectCell_isSome_iff db tenant a.h3Cell a.epochId
  have hexpiry : (match a.expiresAt with
      | none => true
      | some t => decide (t > now)) = true ↔ NotExpired now a := by
    cases hexp : a.expiresAt <;> simp [NotExpired, hexp]
  rw [Verified, verifyAttestation, getCellState_eq, selectPoint, CellStored,
    ← hcell, ← hexpiry, ClaimSigned, ← HexBytes.bytes_injective.eq_iff]
  simp only [Outcome.ok_bind, Option.isSome_map, pure, Except.pure,
    Except.ok.injEq, exists_eq_left', Bool.and_eq_true, decide_eq_true_eq,
    and_assoc]

/-- The signed part of an attestation is that of another. -/
structure SameClaim (a a' : Attestation N) : Prop where
  attesterPk : a'.attesterPk = a.attesterPk
  claim : a'.claim = a.claim
  claimHash : a'.claimHash = a.claimHash
  signature : a'.signature = a.signature

/-- The part of an attestation that says what the claim is about. -/
def SameTarget (a a' : Attestation N) : Prop :=
  a'.tenantId = a.tenantId ∧ a'.h3Cell = a.h3Cell ∧ a'.epochId = a.epochId ∧
    a'.expiresAt = a.expiresAt

/-- **What a signed claim carries to another target.**  Once an attestation is
verified, every attestation with its key, claim, hash and signature is
verified exactly when a cell is stored at the other's address under the
caller's tenant and the other's expiry has not passed. -/
theorem verified_iff_of_sameClaim {db : Database N} {tenant : TenantId}
    {now : Timestamp} {a a' : Attestation N}
    (hverified : Verified crypto serde db tenant now a)
    (hsame : SameClaim a a') :
    Verified crypto serde db tenant now a' ↔
      CellStored db tenant a' ∧ NotExpired now a' := by
  have hsigned := ((verified_iff crypto serde db tenant now a).mp hverified).1
  rw [verified_iff, ClaimSigned, hsame.attesterPk, hsame.claim,
    hsame.claimHash, hsame.signature]
  exact ⟨fun h => h.2, fun h => ⟨hsigned, h⟩⟩

end Verify

/-! ## One claim, two cells -/

/-- A signature that names its key and the checksum of its message. -/
def checksumSign (pubkey : HexBytes32) (message : List UInt8) : HexBytes64 :=
  ⟨pubkey.bytes ++ (checksum message).bytes, by
    simp [pubkey.length_eq, (checksum message).length_eq]⟩

def checksumCrypto : Crypto HexBytes32 where
  blake3 := checksum
  keyFromBytes := some
  verify := fun pubkey message sig => sig = checksumSign pubkey message

/-- One cell in each of two epochs. -/
def twoEpochs : List (EpochCall Int) :=
  [ ⟨ciTenant, 0, epochSealedAt 0, none, [bareSubstation "a" 5], 0⟩
  , ⟨ciTenant, 1, epochSealedAt 1, none, [bareSubstation "b" 6], 0⟩ ]

/-- An attestation about the cell of epoch 0. -/
def attested : Attestation Int :=
  let claim : Value Int := Value.string "inspected".toList
  let claimHash := checksum (asBytes (canonicalJson intText claim))
  { attestationId := 1
    tenantId := ciTenant
    h3Cell := ⟨5⟩
    epochId := ⟨0⟩
    attesterPk := HexBytes.zero 32
    claim := claim
    claimHash := claimHash
    signature := checksumSign (HexBytes.zero 32) claimHash.bytes
    issuedAt := 0
    expiresAt := some 100 }

/-- The same signed claim about the cell of epoch 1, under another tenant and
without an expiry. -/
def transplanted : Attestation Int :=
  { attested with
    tenantId := ⟨2⟩
    h3Cell := ⟨6⟩
    epochId := ⟨1⟩
    expiresAt := none }

private theorem twoEpochs_stored :
    ∃ db : Database Int, CellStored db ciTenant attested ∧
      CellStored db ciTenant transplanted := by
  have hrun : (run (commit checksumLibraries checksumPair)
      (Database.migrated Int [ciTenant]) twoEpochs).map
      (fun db => db.cellStates.map CellStateRow.key) =
        some [(ciTenant, 5, 0), (ciTenant, 6, 1)] := by
    decide +kernel
  rcases Option.map_eq_some_iff.mp hrun with ⟨db, -, hkeys⟩
  refine ⟨db, ?_, ?_⟩ <;> rw [CellStored, hkeys] <;> decide +kernel

private theorem attested_verified {db : Database Int}
    (hcell : CellStored db ciTenant attested) :
    Verified checksumCrypto intText db ciTenant 50 attested := by
  rw [verified_iff]
  refine ⟨⟨rfl, ?_⟩, hcell, ?_⟩
  · decide +kernel
  · intro t ht
    cases ht
    decide

theorem verified_iff_of_sameClaim_transplanted :
    ∃ db : Database Int,
      (Verified checksumCrypto intText db ciTenant 50 transplanted ↔
        CellStored db ciTenant transplanted ∧ NotExpired 50 transplanted) := by
  rcases twoEpochs_stored with ⟨db, hcell, -⟩
  exact ⟨db, verified_iff_of_sameClaim checksumCrypto intText
    (attested_verified hcell)
    { attesterPk := rfl, claim := rfl, claimHash := rfl, signature := rfl }⟩

/-- The claim signed for one cell is verified for another cell, epoch, tenant
and expiry. -/
theorem not_bound_to_target :
    ¬ ∀ (db : Database Int) (tenant : TenantId) (now : Timestamp)
      (a a' : Attestation Int),
      Verified checksumCrypto intText db tenant now a → SameClaim a a' →
      ¬ SameTarget a a' →
      ¬ Verified checksumCrypto intText db tenant now a' := by
  intro hclaim
  rcases twoEpochs_stored with ⟨db, hcell, hcell'⟩
  have hverified := attested_verified hcell
  apply hclaim db ciTenant 50 attested transplanted hverified
  · exact { attesterPk := rfl, claim := rfl, claimHash := rfl, signature := rfl }
  · intro htarget
    exact absurd htarget.1 (by decide)
  · rw [verified_iff]
    have hsigned := ((verified_iff checksumCrypto intText db ciTenant 50
      attested).mp hverified).1
    refine ⟨hsigned, hcell', ?_⟩
    intro t ht
    cases ht

end RenderEngine.Ports.VerifyAttestation
