import RenderEngine.Ports.LabPipeline
import RenderEngine.Ports.TypedClient

/-!
# Attestations that are sent back (`client.ts`, `render-core/src/tools.rs`)

A bundle of `get_provenance` lists the attestations of its cell, and
`verify_attestation` takes one of them as its argument.  A caller of the typed
client holds it as an object of the browser in between, and the claim that the
server then hashes is the claim with its numbers as the browser wrote them.

## Main results

* `attestationFromValue_relayed`: everything but the claim comes back as it
  was.
* `attestation_relayed`: what the verdict on it says, and when the claim still
  has its hash.
-/

namespace RenderEngine.Ports.AttestationRelay

open RenderEngine.Ports.CoreTypes
open RenderEngine.Ports.CanonicalJson
open RenderEngine.Ports.JavaScript
open RenderEngine.Ports.JavaScriptJson
open RenderEngine.Ports.NumberText
open RenderEngine.Ports.PostgresClient
open RenderEngine.Ports.RegistryBuild
open RenderEngine.Ports.RequestText
open RenderEngine.Ports.RpcClient
open RenderEngine.Ports.Schema
open RenderEngine.Ports.SeedWriter (asBytes checksum checksumPair ciTenant)
open RenderEngine.Ports.Serde
open RenderEngine.Ports.SerdeNumber
open RenderEngine.Ports.ToolInputs
open RenderEngine.Ports.TypedClient
open RenderEngine.Ports.VerifyAttestation
open RenderEngine.Ports.WireText
open RenderEngine.Ports.WireTypes
open RenderEngine.Verified
open RenderEngine.Verified.Fallible
open RenderEngine.Verified.JsonGrammar
open RenderEngine.Verified.SortedMap

/-! ## Values with other numbers -/

section Numbers

variable {N : Type} (f : N → N)

/-- The members keep their keys. -/
theorem keysSorted_mapMembers {M : Type} (g : N → M)
    (ms : List (Text × Json N Text)) (h : KeysSorted ms) :
    KeysSorted (mapMembers g id ms) := by
  rw [mapMembers_eq]
  exact List.pairwise_map.mpr h

/-- A value with `f` of its numbers. -/
def withNumbers (v : Value N) : Value N :=
  ⟨v.tree.map f id, v.tree.everyObject_map (keysSorted_mapMembers f) v.sorted⟩

@[simp] theorem withNumbers_number (n : N) :
    withNumbers f (Value.number n) = Value.number (f n) := rfl

@[simp] theorem withNumbers_string (s : Text) :
    withNumbers f (Value.string s) = Value.string s := rfl

/-- The members of an object, each with `f` of its numbers. -/
theorem asObject_withNumbers {v : Value N} {ns : List (Text × Value N)}
    (h : v.asObject = some ns) :
    (withNumbers f v).asObject =
      some (ns.map fun m => (m.1, withNumbers f m.2)) := by
  obtain ⟨tree, hsorted⟩ := v
  cases tree with
  | obj ms =>
      cases h
      have htrees : ∀ ys : List (Text × Value N),
          (withNumbers f ⟨.obj ms, hsorted⟩).asObject = some ys →
          ys.map (fun m => (m.1, m.2.tree)) = mapMembers f id ms := by
        intro ys hys
        cases hys
        rw [List.map_map]
        exact List.attach_map_subtype_val _
      obtain ⟨ys, hys⟩ :
          ∃ ys, (withNumbers f ⟨.obj ms, hsorted⟩).asObject = some ys :=
        ⟨_, rfl⟩
      have hinjective : Function.Injective
          fun m : Text × Value N => (m.1, m.2.tree) := by
        rintro ⟨k, v⟩ ⟨k', v'⟩ heq
        obtain ⟨hk, htree⟩ := Prod.mk.inj heq
        exact Prod.ext hk (Value.tree_injective htree)
      rw [hys]
      refine congrArg some (hinjective.list_map ?_)
      rw [htrees ys hys, mapMembers_eq, List.map_map]
      conv_lhs => rw [← List.attach_map_subtype_val ms]
      rw [List.map_map, List.map_map]
      rfl
  | _ => cases h

/-! ### Null members -/

mutual

theorem deleteNulls_map : ∀ v : Json N Text,
    deleteNulls (v.map f id) = (deleteNulls v).map f id
  | .null => rfl
  | .bool _ => rfl
  | .num _ => rfl
  | .str _ => rfl
  | .arr xs => congrArg Json.arr (deleteNullsItems_map xs)
  | .obj ms => congrArg Json.obj (deleteNullsMembers_map ms)

theorem deleteNullsItems_map : ∀ xs : List (Json N Text),
    deleteNullsItems (mapItems f id xs) = mapItems f id (deleteNullsItems xs)
  | [] => rfl
  | x :: xs => by
      rw [mapItems, deleteNullsItems, deleteNulls_map x,
        deleteNullsItems_map xs]
      rfl

theorem deleteNullsMembers_map : ∀ ms : List (Text × Json N Text),
    deleteNullsMembers (mapMembers f id ms) =
      mapMembers f id (deleteNullsMembers ms)
  | [] => rfl
  | (k, v) :: ms => by
      have hnull : isNull (v.map f id) = isNull v := by cases v <;> rfl
      rw [mapMembers, deleteNullsMembers, deleteNullsMembers, hnull,
        deleteNulls_map v, deleteNullsMembers_map ms]
      split <;> rfl

end

mutual

/-- A null member has no numbers. -/
theorem numbers_deleteNulls : ∀ v : Json N Text,
    (deleteNulls v).numbers = v.numbers
  | .null => rfl
  | .bool _ => rfl
  | .num _ => rfl
  | .str _ => rfl
  | .arr xs => itemNumbers_deleteNulls xs
  | .obj ms => memberNumbers_deleteNulls ms

theorem itemNumbers_deleteNulls : ∀ xs : List (Json N Text),
    itemNumbers (deleteNullsItems xs) = itemNumbers xs
  | [] => rfl
  | x :: xs => by
      rw [deleteNullsItems, itemNumbers, itemNumbers, numbers_deleteNulls x,
        itemNumbers_deleteNulls xs]

theorem memberNumbers_deleteNulls : ∀ ms : List (Text × Json N Text),
    memberNumbers (deleteNullsMembers ms) = memberNumbers ms
  | [] => rfl
  | (k, v) :: ms => by
      rw [deleteNullsMembers, memberNumbers]
      split
      · next hnull =>
          have hnumbers : v.numbers = [] := by
            cases v with
            | null => rfl
            | _ => cases hnull
          rw [hnumbers, memberNumbers_deleteNulls ms]
          rfl
      · rw [memberNumbers, numbers_deleteNulls v,
          memberNumbers_deleteNulls ms]

end

/-- **When a value keeps its canonical text**: when `f` leaves each of its
numbers alone. -/
theorem canonicalJson_withNumbers_iff (sj : SerdeText N) (v : Value N) :
    canonicalJson sj (withNumbers f v) = canonicalJson sj v ↔
      ∀ n ∈ v.tree.numbers, f n = n := by
  have htree : (withoutNulls (withNumbers f v)).tree =
      (withoutNulls v).tree.map f id := deleteNulls_map f v.tree
  rw [canonicalJson_eq_iff sj, ← Value.tree_injective.eq_iff, htree,
    Json.map_id_eq_iff]
  exact Iff.of_eq (congrArg (fun ns : List N => ∀ n ∈ ns, f n = n)
    (numbers_deleteNulls v.tree))

end Numbers

/-! ## A value of the server, sent back -/

section Resent

variable {F N : Type} (number : N → JsNumber F) (value : FiniteNumber F → N)
variable (hfinite : ∀ n, (number n).isFinite = true)

/-- What `JSON.stringify` writes of a value that `JSON.parse` has read. -/
def resent (v : Value N) : Json (FiniteNumber F) Text :=
  v.tree.map (fun n => ⟨number n, hfinite n⟩) id

/-- A number that went through the browser. -/
def relay (n : N) : N := value ⟨number n, hfinite n⟩

/-- The object in the browser is the one that is sent. -/
theorem ofJson_resent (v : Value N) :
    ofJson (browserTree (resent number hfinite v)) = browserValue number v := by
  rw [browserTree, resent, Json.map_map]
  rfl

/-- **The server reads what it has written, but for its numbers.** -/
theorem serverValue_resent (v : Value N) :
    serverValue value (resent number hfinite v) =
      withNumbers (relay number value hfinite) v := by
  apply Value.tree_injective
  show ((v.tree.map (fun n => ⟨number n, hfinite n⟩) id).map value id).rebuild
    collect = v.tree.map (relay number value hfinite) id
  rw [Json.map_map]
  exact Json.rebuild_of_everyObject _ _ (v.tree.everyObject_map
    (fun ms hms => collect_of_sorted (keysSorted_mapMembers _ ms hms))
    v.sorted)

end Resent

/-! ## An attestation, sent back -/

section Relayed

variable {G N : Type} {codecs : Codecs G N} (f : N → N)

/-- The attestation with `f` of the numbers of its claim. -/
def relayed (a : Attestation N) : Attestation N :=
  { a with claim := withNumbers f a.claim }

/-- What the decoder of an attestation rests on. -/
structure Readable (codecs : Codecs G N) (f : N → N) (a : Attestation N) :
    Prop where
  parseUuid : ∀ u : BitVec 128,
    codecs.parseUuid (TenantId.toText ⟨u⟩) = .ok u
  /-- the epoch comes back as it was -/
  fromI64 : f (codecs.fromI64 a.epochId.val) = codecs.fromI64 a.epochId.val
  asI64 : codecs.asI64 (codecs.fromI64 a.epochId.val) = some a.epochId.val
  issuedAt : Dated codecs a.issuedAt
  expiresAt : ∀ t, a.expiresAt = some t → Dated codecs t

variable {f}

theorem withNumbers_option (t : Option Timestamp) :
    withNumbers f (optionToValue (dateTimeToValue codecs) t) =
      optionToValue (dateTimeToValue codecs) t := by
  cases t <;> rfl

/-- **Everything but the claim comes back as it was.** -/
theorem attestationFromValue_relayed {a : Attestation N}
    (h : Readable codecs f a) :
    attestationFromValue codecs
        (withNumbers f (attestationToValue codecs a)) =
      .ok (relayed f a) := by
  have huuid : ∀ u : BitVec 128, uuidFromValue codecs
      (withNumbers f (uuidToValue u)) = .ok u := by
    intro u
    have hstring : (withNumbers f (uuidToValue u)).asStr =
        some (TenantId.toText ⟨u⟩) := rfl
    rw [uuidFromValue]
    simp only [hstring, h.parseUuid]
  have htenant : tenantIdFromValue codecs
      (withNumbers f (tenantIdToValue a.tenantId)) = .ok a.tenantId := by
    have hid := huuid a.tenantId.uuid
    rw [uuidToValue] at hid
    rw [tenantIdFromValue, hid]
    rfl
  have hepoch : epochIdFromValue codecs
      (withNumbers f (epochIdToValue codecs a.epochId)) = .ok a.epochId := by
    rw [epochIdToValue, withNumbers_number, h.fromI64]
    exact epochIdFromValue_toValue h.asI64
  have hexpires : optionFromValue (dateTimeFromValue codecs) (withNumbers f
      (optionToValue (dateTimeToValue codecs) a.expiresAt)) =
        .ok a.expiresAt := by
    rw [withNumbers_option]
    exact optionDateTime_toValue h.expiresAt
  obtain ⟨ns, hns, hlookup⟩ := exists_members
    [ ("attestation_id".toList, uuidToValue (N := N) a.attestationId)
    , ("tenant_id".toList, tenantIdToValue a.tenantId)
    , ("h3_cell".toList, h3CellToValue a.h3Cell)
    , ("epoch_id".toList, epochIdToValue codecs a.epochId)
    , ("attester_pk".toList, hexBytesToValue a.attesterPk)
    , ("claim".toList, a.claim)
    , ("claim_hash".toList, hexBytesToValue a.claimHash)
    , ("signature".toList, hexBytesToValue a.signature)
    , ("issued_at".toList, dateTimeToValue codecs a.issuedAt)
    , ("expires_at".toList,
        optionToValue (dateTimeToValue codecs) a.expiresAt) ]
  have hmember : ∀ k v, ns.lookup k = some v →
      (ns.map fun m => (m.1, withNumbers f m.2)).lookup k =
        some (withNumbers f v) := by
    intro k v hv
    rw [lookup_map_snd, hv]
    rfl
  rw [attestationFromValue, attestationToValue,
    structFromValue_of_object (asObject_withNumbers f hns),
    attestationFromObject,
    field_of_lookup (hmember _ _ (hlookup _)) (huuid a.attestationId),
    field_of_lookup (hmember _ _ (hlookup _))
      (hexBytesFromValue_toValue a.attesterPk),
    field_of_lookup (hmember _ _ (hlookup _))
      (rfl : Except.ok (withNumbers f a.claim) = .ok _),
    field_of_lookup (hmember _ _ (hlookup _))
      (hexBytesFromValue_toValue a.claimHash),
    field_of_lookup (hmember _ _ (hlookup _)) hepoch,
    field_of_lookup (hmember _ _ (hlookup _)) hexpires,
    field_of_lookup (hmember _ _ (hlookup _))
      (h3CellFromValue_toValue a.h3Cell),
    field_of_lookup (hmember _ _ (hlookup _))
      (dateTimeFromValue_toValue h.issuedAt),
    field_of_lookup (hmember _ _ (hlookup _))
      (hexBytesFromValue_toValue a.signature),
    field_of_lookup (hmember _ _ (hlookup _)) htenant]
  rfl

end Relayed

/-! ## The verdict -/

section Verdict

variable {F G N Cell Point K Lab : Type}

/-- The verdict of the server on an attestation whose claim came back with `f`
of its numbers. -/
structure Judged (server : Server G N Cell Point K Lab) (tenant : TenantId)
    (w : World G N Lab) (f : N → N) (a : Attestation N) (v : JsValue F)
    (valid verified : Bool) : Prop where
  valid_member : v.member (js "claim_hash_valid") = .bool valid
  verified_member : v.member (js "verified") = .bool verified
  valid_iff : valid = true ↔ server.crypto.blake3 (asBytes (canonicalJson
    server.serde (withNumbers f a.claim))) = a.claimHash
  verified_iff : verified = true ↔ valid = true ∧
    verifyEd25519 server.crypto a.attesterPk a.claimHash.bytes a.signature =
      true ∧
    CellStored w.db tenant a ∧ NotExpired w.now a

/-- The two texts of the claim have two hashes, if they are two. -/
def HashSeparates (server : Server G N Cell Point K Lab) (f : N → N)
    (a : Attestation N) : Prop :=
  server.crypto.blake3 (asBytes (canonicalJson server.serde
      (withNumbers f a.claim))) =
    server.crypto.blake3 (asBytes (canonicalJson server.serde a.claim)) →
  canonicalJson server.serde (withNumbers f a.claim) =
    canonicalJson server.serde a.claim

/-- **When the claim still has its hash**: when every number in it came back
as it was. -/
theorem Judged.valid_iff_numbers {server : Server G N Cell Point K Lab}
    {tenant : TenantId} {w : World G N Lab} {f : N → N} {a : Attestation N}
    {v : JsValue F} {valid verified : Bool}
    (h : Judged server tenant w f a v valid verified)
    (hhash : server.crypto.blake3 (asBytes (canonicalJson server.serde
      a.claim)) = a.claimHash)
    (hseparates : HashSeparates server f a) :
    valid = true ↔ ∀ n ∈ a.claim.tree.numbers, f n = n := by
  rw [h.valid_iff, ← canonicalJson_withNumbers_iff f server.serde, ← hhash]
  refine ⟨hseparates, fun htext => ?_⟩
  rw [htext]

theorem judged_answer (server : Server G N Cell Point K Lab)
    (number : N → JsNumber F) (tenant : TenantId) (w : World G N Lab)
    (f : N → N) (a : Attestation N) :
    ∃ u valid verified,
      (ToolInput.verifyAttestation (relayed f a) : ToolInput G N).answer server
        tenant w = .ok u ∧
      Judged server tenant w f a (browserValue number u) valid verified := by
  have hcell := getCellState_eq w.db tenant a.h3Cell (some a.epochId)
  obtain ⟨out, hout⟩ : ∃ out, verifyAttestation server.crypto server.serde w.db
      tenant w.now (relayed f a) = .ok out := by
    rw [verifyAttestation]
    show ∃ out, (getCellState w.db tenant a.h3Cell (some a.epochId) >>= _) =
      Except.ok out
    rw [hcell]
    exact ⟨_, rfl⟩
  have hvalid : out.claimHashValid = true ↔
      server.crypto.blake3 (asBytes (canonicalJson server.serde
        (withNumbers f a.claim))) = a.claimHash := by
    rw [verifyAttestation] at hout
    obtain ⟨cell, -, heq⟩ := bind_eq_ok.mp hout
    cases heq
    rw [← HexBytes.bytes_injective.eq_iff]
    exact decide_eq_true_iff
  have hverified := verified_iff server.crypto server.serde w.db tenant w.now
    (relayed f a)
  rw [Verified, hout] at hverified
  refine ⟨verifyAttestationOutputToValue out, out.claimHashValid,
    out.verified, ?_, ?_⟩
  · rw [ToolInput.answer, hout]
    rfl
  · refine
      { valid_member := member_object number _ "claim_hash_valid"
        verified_member := member_object number _ "verified"
        valid_iff := hvalid
        verified_iff := ?_ }
    have hreturned : (∃ o, Except.ok out = (Except.ok o : Outcome _) ∧
        o.verified = true) ↔ out.verified = true := by simp
    rw [hvalid, ← and_assoc]
    exact hreturned.symm.trans hverified

end Verdict

/-! ## There and back -/

section Relay

variable {F G N Cell Point K Lab JwkSet Jwk DecodingKey : Type}

/-- The attestations of a bundle are the stored ones of its cell, the oldest
first. -/
theorem attestations_of_bundle {pair : HexBytes32 → HexBytes32 → HexBytes32}
    {db : Database N} {tenant : TenantId} {h3 : H3Cell} {epoch : EpochId}
    {p : Provenance N} (h : getProvenance pair db tenant h3 epoch = .ok p) :
    p.attestations =
      (selectAttestations db tenant h3 epoch).map attestationOf := by
  obtain ⟨cell, row, i, hcell, hepoch, hleaf⟩ := getProvenanceFrom_found pair h
  rw [getProvenance, getProvenanceFrom_ok pair hcell hepoch hleaf] at h
  cases h
  rfl

theorem mem_selectAttestations {db : Database N} {tenant : TenantId}
    {h3 : H3Cell} {epoch : EpochId} {r : AttestationRow N} :
    r ∈ selectAttestations db tenant h3 epoch ↔
      r ∈ db.attestations ∧ r.cellKey = (tenant, h3.asI64, epoch.val) := by
  rw [selectAttestations, KeyedRows.scan, List.mem_insertionSort, List.mem_filter,
    decide_eq_true_eq]

theorem listed_members (codecs : Codecs G N) (number : N → JsNumber F)
    (hfinite : ∀ n, (number n).isFinite = true) (p : Provenance N) :
    (browserValue number (provenanceToValue codecs p)).member
        (js "attestations") =
      .array (p.attestations.map fun a => ofJson (browserTree
        (resent number hfinite (attestationToValue codecs a)))) := by
  have hmember : (browserValue number (provenanceToValue codecs p)).member
      (js "attestations") = browserValue number
        (vecToValue (attestationToValue codecs) p.attestations) :=
    member_object number _ "attestations"
  rw [hmember, vecToValue, browserValue_array, List.map_map]
  exact congrArg JsValue.array (List.map_congr_left fun a _ =>
    (ofJson_resent number hfinite _).symm)

section Calls

variable (server : Server G N Cell Point K Lab) (cfg : ServerConfig.Config)
variable (auth : Auth.Libraries JwkSet Jwk DecodingKey N) {en : Engine F}
variable {number : N → JsNumber F} {value : FiniteNumber F → N}
variable (hunderstand :
  Understand en server.serde server.codecs.fromI64 number value)

include hunderstand

/-- An admitted call whose tool returns. -/
theorem call_settled (rejection : JsonRejection → Text)
    {provider : Auth.Provider JwkSet} {now : Nat}
    {s : McpHandler.Shared (World G N Lab) JwkSet} {headers : Auth.HeaderMap}
    {ctx : Auth.AuthContext}
    (hadmits : Admits (HttpServer.appState server cfg auth) provider now s
      headers ctx)
    {id : FiniteNumber F} {call : Call F} (hfits : call.Fits en id)
    {input : ToolInput G N}
    (hmeaning : call.meaning server.codecs value = some input) {v : Value N}
    (hanswer : input.answer server ctx.tenant s.world = .ok v) :
    Client.call en (post (HttpServer.appState server cfg auth) rejection
      provider now s headers (call.body en id)).1 =
        .ok (browserValue number v) := by
  obtain ⟨hsettles, -⟩ := settles_of_admitted server cfg auth hunderstand
    rejection provider now s headers hfits ctx hadmits
  rw [Settles, hmeaning] at hsettles
  obtain ⟨hresult, -⟩ := hsettles
  rw [hresult, hanswer]
  rfl

omit hunderstand in
/-- What the decoder rests on, for the rows of a cell. -/
def RowsDated (codecs : Codecs G N) (rows : List (AttestationRow N)) : Prop :=
  ∀ r ∈ rows, Dated codecs r.issuedAt ∧
    ∀ t, r.expiresAt = some t → Dated codecs t

/-- An attestation of a bundle can be read back. -/
theorem readable_of_listed
    (hint : ∀ i : SafeInteger,
      server.codecs.asI64 (server.codecs.fromI64 i.val) = some i.val)
    (huuid : ∀ u : BitVec 128,
      server.codecs.parseUuid (TenantId.toText ⟨u⟩) = .ok u)
    (hfinite : ∀ n, (number n).isFinite = true) {db : Database N}
    {tenant : TenantId} {h3 : H3Cell} {epoch : SafeInteger}
    (hdated : RowsDated server.codecs
      (selectAttestations db tenant h3 ⟨epoch.val⟩))
    {a : Attestation N}
    (ha : a ∈ (selectAttestations db tenant h3 ⟨epoch.val⟩).map
      attestationOf) :
    Readable server.codecs (relay number value hfinite) a := by
  obtain ⟨r, hr, rfl⟩ := List.mem_map.mp ha
  have hkey := (mem_selectAttestations.mp hr).2
  simp only [AttestationRow.cellKey, Prod.mk.injEq] at hkey
  have hepoch : (attestationOf r).epochId.val = epoch.val := hkey.2.2
  refine
    { parseUuid := huuid
      fromI64 := ?_
      asI64 := ?_
      issuedAt := (hdated r hr).1
      expiresAt := (hdated r hr).2 }
  · rw [hepoch]
    -- the browser holds the epoch as the integer that it is
    have hinteger := hunderstand.number_fromI64 epoch
    have hsame : (⟨number (server.codecs.fromI64 epoch.val),
        hfinite _⟩ : FiniteNumber F) = ⟨.int epoch, rfl⟩ :=
      Subtype.ext hinteger
    rw [relay, hsame]
    exact AuditPipeline.value_int hunderstand epoch
  · rw [hepoch]
    exact hint epoch

end Calls

/-- **An attestation that is sent back.**  An admitted request for the bundle
of a cell gets the stored attestations of that cell; each of them, sent back
with any later request that is admitted, is decoded as it was but for its
claim, and gets a verdict: its claim is valid exactly if the relayed claim
hashes to the hash, and it is verified exactly if moreover the key signed the
hash, the cell is stored under the caller's tenant and the expiry has not
passed.  Both requests are ones that the extractor takes. -/
theorem attestation_relayed (server : Server G N Cell Point K Lab)
    (cfg : ServerConfig.Config)
    (auth : Auth.Libraries JwkSet Jwk DecodingKey N) {en : Engine F}
    {number : N → JsNumber F} {value : FiniteNumber F → N}
    (hunderstand :
      Understand en server.serde server.codecs.fromI64 number value)
    (hint : ∀ i : SafeInteger,
      server.codecs.asI64 (server.codecs.fromI64 i.val) = some i.val)
    (huuid : ∀ u : BitVec 128,
      server.codecs.parseUuid (TenantId.toText ⟨u⟩) = .ok u)
    (hfinite : ∀ n, (number n).isFinite = true)
    (rejection : JsonRejection → Text)
    {provider : Auth.Provider JwkSet} {now : Nat}
    {s : McpHandler.Shared (World G N Lab) JwkSet} {headers : Auth.HeaderMap}
    {ctx : Auth.AuthContext}
    (hadmits : Admits (HttpServer.appState server cfg auth) provider now s
      headers ctx)
    {h3 : H3Cell} {epoch : SafeInteger} {p : Provenance N}
    (hp : getProvenance server.pair s.world.db ctx.tenant h3 ⟨epoch.val⟩ =
      .ok p)
    (hdated : RowsDated server.codecs
      (selectAttestations s.world.db ctx.tenant h3 ⟨epoch.val⟩))
    {id : FiniteNumber F}
    (hfits : (Call.getProvenance (H3Text.serialize h3)
      (literal epoch)).Fits en id) :
    let f := relay number value hfinite
    let sent : Attestation N → Json (FiniteNumber F) Text := fun a =>
      resent number hfinite (attestationToValue server.codecs a)
    let stored := (selectAttestations s.world.db ctx.tenant h3
      ⟨epoch.val⟩).map attestationOf
    (∃ bundle,
      Client.call en (post (HttpServer.appState server cfg auth) rejection
        provider now s headers ((Call.getProvenance (H3Text.serialize h3)
          (literal epoch)).body en id)).1 = .ok bundle ∧
      bundle.member (js "attestations") =
        .array (stored.map fun a => ofJson (browserTree (sent a)))) ∧
    ∀ a ∈ stored,
      attestationFromValue server.codecs (serverValue value (sent a)) =
        .ok (relayed f a) ∧
      ∀ (provider' : Auth.Provider JwkSet) (now' : Nat)
        (s' : McpHandler.Shared (World G N Lab) JwkSet)
        (headers' : Auth.HeaderMap) (ctx' : Auth.AuthContext),
      Admits (HttpServer.appState server cfg auth) provider' now' s'
        headers' ctx' →
      ∀ id' : FiniteNumber F,
      (Call.verifyAttestation (sent a)).Fits en id' →
      ∃ v valid verified,
        Client.call en (post (HttpServer.appState server cfg auth) rejection
          provider' now' s' headers'
            ((Call.verifyAttestation (sent a)).body en id')).1 = .ok v ∧
        Judged server ctx'.tenant s'.world f a v valid verified ∧
        (server.crypto.blake3 (asBytes (canonicalJson server.serde
            a.claim)) = a.claimHash →
          HashSeparates server f a →
          (valid = true ↔ ∀ n ∈ a.claim.tree.numbers, f n = n)) := by
  have hmeaning : (Call.getProvenance (H3Text.serialize h3) (literal epoch) :
      Call F).meaning server.codecs value =
        some (.getProvenance ⟨h3, ⟨epoch.val⟩⟩) := by
    have hepoch : TypedClient.epochOf server.codecs value (literal epoch) =
        some ⟨epoch.val⟩ := by
      rw [TypedClient.epochOf, show value (literal epoch) = _ from
        AuditPipeline.value_int hunderstand epoch, hint]
      rfl
    rw [Call.meaning, cellOf, H3Text.fromHex_serialize, hepoch]
    rfl
  have hanswer : (ToolInput.getProvenance ⟨h3, ⟨epoch.val⟩⟩ :
      ToolInput G N).answer server ctx.tenant s.world =
        .ok (provenanceToValue server.codecs p) := by
    rw [ToolInput.answer, RenderTools.getProvenance, hp]
    rfl
  intro f sent stored
  have hstored : p.attestations = stored := attestations_of_bundle hp
  have hbundle := call_settled server cfg auth hunderstand rejection hadmits
    hfits hmeaning hanswer
  refine ⟨⟨_, hbundle, ?_⟩, fun a ha => ?_⟩
  · rw [listed_members server.codecs number hfinite p, hstored]
  have hdecoded : attestationFromValue server.codecs
      (serverValue value (sent a)) = .ok (relayed f a) := by
    rw [show serverValue value (sent a) = _ from
      serverValue_resent number value hfinite _]
    exact attestationFromValue_relayed (readable_of_listed server hunderstand
      hint huuid hfinite hdated ha)
  refine ⟨hdecoded, ?_⟩
  intro provider' now' s' headers' ctx' hadmits' id' hfits'
  have hmeaning' : (Call.verifyAttestation (sent a)).meaning server.codecs
      value = some (.verifyAttestation (relayed f a)) := by
    rw [Call.meaning, hdecoded]
    rfl
  obtain ⟨u, valid, verified, hu, hjudged⟩ := judged_answer server number
    ctx'.tenant s'.world f a
  have hverdict := call_settled server cfg auth hunderstand rejection hadmits'
    hfits' hmeaning' hu
  exact ⟨_, valid, verified, hverdict, hjudged, hjudged.valid_iff_numbers⟩

end Relay

/-! ## A score of 1.0 -/

theorem numberCodecs_asI64 (i : SafeInteger) :
    LabPipeline.numberCodecs.asI64 (LabPipeline.numberCodecs.fromI64 i.val) =
      some i.val := by
  show (Number.ofI64 (Int64.ofInt i.val)).asI64.map Int64.toInt = _
  rw [Number.asI64_ofI64, Option.map_some, toInt_ofInt_safe]

def inspectedEpoch : EpochRow where
  tenantId := ciTenant
  epochId := 0
  sealedAt := 0
  merkleRoot := HexBytes.zero 32
  parentRoot := none
  cellCount := 1

def inspectedCell : CellStateRow Number where
  tenantId := ciTenant
  h3Cell := 5
  epochId := 0
  identityPk := HexBytes.zero 32
  payload := Value.null
  contentHash := HexBytes.zero 32
  signature := HexBytes.zero 64
  writtenAt := 0

/-- The cell has the score 1.0, which `serde_json` prints with its point. -/
def scored : AttestationRow Number :=
  let claim : Value Number :=
    Value.number (.float (.ofNat 1 (by decide)))
  let claimHash := checksum (asBytes (canonicalJson numberSerde claim))
  { attestationId := 1
    tenantId := ciTenant
    h3Cell := 5
    epochId := 0
    attesterPk := HexBytes.zero 32
    claim := claim
    claimHash := claimHash
    signature := checksumSign (HexBytes.zero 32) claimHash.bytes
    issuedAt := 0
    expiresAt := none }

def inspected : Database Number where
  tenants := [ciTenant]
  epochs := [inspectedEpoch]
  cellStates := [inspectedCell]
  attestations := [scored]
  epochs_pkey := List.nodup_singleton _
  epochs_tenant_fkey :=
    List.forall_mem_singleton.mpr (List.mem_singleton.mpr rfl)
  cellStates_pkey := List.nodup_singleton _
  cellStates_epoch_fkey :=
    List.forall_mem_singleton.mpr (List.mem_singleton.mpr rfl)
  attestations_pkey := List.nodup_singleton _
  attestations_cell_fkey :=
    List.forall_mem_singleton.mpr (List.mem_singleton.mpr rfl)

def inspectedShared : McpHandler.Shared (World Int Number Unit) Unit :=
  ⟨none, some (.new 100 0), HttpServer.worldOf inspected⟩

theorem inspected_provenance :
    ∃ p, getProvenance checksumPair inspected ciTenant ⟨5⟩ ⟨0⟩ = .ok p := by
  have hcell : selectCell inspected ciTenant ⟨5⟩ ⟨0⟩ = some inspectedCell :=
    rfl
  have hepoch : inspected.findEpoch ciTenant (EpochId.mk 0).val =
      some inspectedEpoch := rfl
  have hleaf : (inspected.epochCells ciTenant (EpochId.mk 0).val).findIdx?
      (fun r => r.h3Cell == (H3Cell.mk 5).asI64) = some 0 := rfl
  exact ⟨_, getProvenanceFrom_ok checksumPair hcell hepoch hleaf⟩

/-- The score comes back as the integer 1. -/
theorem relay_score :
    relay toJs toNumber toJs_isFinite (.float (.ofNat 1 (by decide))) =
      .posInt 1 := by
  decide +kernel

theorem relayed_score_hash :
    checksum (asBytes (canonicalJson numberSerde (Value.number (.posInt 1)))) ≠
      scored.claimHash := by
  decide +kernel

theorem verifyEd25519_checksumSign (pubkey : HexBytes32)
    (message : List UInt8) :
    verifyEd25519 checksumCrypto pubkey message
      (checksumSign pubkey message) = true :=
  decide_eq_true rfl

/-- The score, as the browser sends it back. -/
def resentScore : Call Wide :=
  .verifyAttestation (resent toJs toJs_isFinite
    (attestationToValue LabPipeline.numberCodecs (attestationOf scored)))

/-- The score is signed, and its claim no longer has its hash once it went
through the browser. -/
theorem attestation_relayed_scored :
    ClaimSigned checksumCrypto numberSerde (attestationOf scored) ∧
    ∃ v, Client.call numberEngine (post (HttpServer.appState
          (HttpServer.smallServer LabPipeline.numberCodecs numberSerde)
          HttpServer.seededConfig LabPipeline.refusing) axumRejection
        McpHandler.offlineProvider 0 inspectedShared
        McpHandler.mainKeyHeaders
        (resentScore.body numberEngine (literal ⟨2, rfl⟩))).1 = .ok v ∧
      v.member (js "claim_hash_valid") = .bool false := by
  have hadmits : Admits (HttpServer.appState
      (HttpServer.smallServer LabPipeline.numberCodecs numberSerde)
      HttpServer.seededConfig LabPipeline.refusing)
      McpHandler.offlineProvider 0 inspectedShared McpHandler.mainKeyHeaders
      (Auth.defaultContext HttpServer.seededConfig .apiKey) := ⟨rfl, rfl⟩
  obtain ⟨p, hp⟩ := inspected_provenance
  have hzero : getProvenance checksumPair inspected ciTenant ⟨5⟩
      ⟨(⟨0, rfl⟩ : SafeInteger).val⟩ = .ok p := hp
  have hfits : (Call.getProvenance (H3Text.serialize ⟨5⟩)
      (literal ⟨0, rfl⟩)).Fits numberEngine (literal ⟨1, rfl⟩) := by
    unfold Call.Fits RpcClient.Fits
    decide +kernel
  have hfits' : resentScore.Fits numberEngine (literal ⟨2, rfl⟩) := by
    unfold Call.Fits RpcClient.Fits
    decide +kernel
  obtain ⟨-, hsent⟩ := attestation_relayed
    (HttpServer.smallServer LabPipeline.numberCodecs numberSerde)
    HttpServer.seededConfig LabPipeline.refusing understand_numbers
    numberCodecs_asI64
    (fun u => congrArg Except.ok (readHyphenated_toText u)) toJs_isFinite
    axumRejection hadmits hzero
    (fun r _ => ⟨dated_wholeCodecs _, fun t _ => dated_wholeCodecs t⟩) hfits
  obtain ⟨-, hjudge⟩ := hsent (attestationOf scored)
    (List.mem_singleton.mpr rfl)
  obtain ⟨v, valid, verified, hv, hjudged, -⟩ :=
    hjudge _ _ _ _ _ hadmits (literal ⟨2, rfl⟩) hfits'
  have hinvalid : valid = false := by
    rw [Bool.eq_false_iff, ne_eq, hjudged.valid_iff]
    have hclaim : withNumbers (relay toJs toNumber toJs_isFinite)
        (attestationOf scored).claim = Value.number (.posInt 1) :=
      congrArg Value.number relay_score
    rw [hclaim]
    exact relayed_score_hash
  refine ⟨⟨rfl, ?_⟩, v, hv, hinvalid ▸ hjudged.valid_member⟩
  exact verifyEd25519_checksumSign _ _

end RenderEngine.Ports.AttestationRelay
