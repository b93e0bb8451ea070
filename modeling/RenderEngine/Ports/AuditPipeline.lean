import RenderEngine.Ports.HexDecode
import RenderEngine.Ports.HttpServer
import RenderEngine.Ports.ProofVerifiers
import RenderEngine.Ports.RpcClient
import RenderEngine.Ports.SealedEpochs

/-!
# From the seeder to the offline verifier

A cell is signed and hashed by the seeder, stored, read with its proof by
`get_provenance`, sent as JSON inside JSON, and checked in the browser without
the server.  The parts are modelled elsewhere; here they are put in a row.

`Signed` is what the seeder leaves in the table beside `Sealed`: every cell is
under the hash of its payload and a signature over that hash.

## Main results

* `signed_run`: a run of calls leaves every cell signed.
* `isBundle_provenance`: what the browser reads of a bundle.
* `checked_bundle`: a bundle of signed cells with an accepted proof is checked.
* `audit_endToEnd`: every cell that was stored is verified in the browser.
-/

namespace RenderEngine.Ports.AuditPipeline

open RenderEngine.Ports.CoreTypes
open RenderEngine.Ports.Serde
open RenderEngine.Ports.Schema
open RenderEngine.Ports.JavaScript
open RenderEngine.Ports.LabAcceptance (plainEngine)
open RenderEngine.Ports.MerkleProof
open RenderEngine.Ports.OfflineVerify (Ed25519Verify Verifier Accepts Checked
  Decodes accepts_iff bytesToHex cleanHex digitBytes)
open RenderEngine.Ports.ProofVerifiers
open RenderEngine.Ports.PostgresClient
open RenderEngine.Ports.RegistryBuild
open RenderEngine.Ports.RequestText
open RenderEngine.Ports.RpcClient
open RenderEngine.Ports.SealedEpochs
open RenderEngine.Ports.SeedWriter
open RenderEngine.Ports.ToolInputs
open RenderEngine.Ports.WireText
open RenderEngine.Ports.WireTypes
open RenderEngine.Verified.JsonGrammar
open RenderEngine.Verified.KeyedRows
open RenderEngine.Verified.Numerals
open RenderEngine.Verified.StepRun

/-! ## What the seeder leaves -/

section Signed

variable {F N : Type} (lib : SeedWriter.Libraries F N) (verify : Ed25519Verify)

/-- The verifier of the browser accepts what the seeder's keys sign. -/
def SignaturesVerify : Prop := ∀ key message,
  verify (lib.sign key message).bytes message (lib.verifyingKey key).bytes =
    .ok true

/-- The cell stands under the hash of its payload, and its identity signed
that hash. -/
structure CellSigned (r : CellStateRow N) : Prop where
  hash : r.contentHash = contentHashOf lib r.payload
  signature : verify r.signature.bytes r.contentHash.bytes r.identityPk.bytes =
    .ok true

def Signed (db : Database N) : Prop :=
  ∀ r ∈ db.cellStates, CellSigned lib verify r

variable {lib verify}

theorem cellSigned_of_mem (hsign : SignaturesVerify lib verify)
    {call : EpochCall F} {r : CellStateRow N} (hr : r ∈ call.cells lib) :
    CellSigned lib verify r := by
  obtain ⟨row, hrow, rfl⟩ := List.mem_map.mp hr
  obtain ⟨sub, -, rfl⟩ := List.mem_map.mp hrow
  exact { hash := rfl, signature := hsign sub.signingKey _ }

/-- One call leaves every cell signed. -/
theorem signed_step {pair : HexBytes32 → HexBytes32 → HexBytes32}
    (hsign : SignaturesVerify lib verify) {db db' : Database N}
    {call : EpochCall F} (hcommit : commit lib pair db call = some db')
    (hs : Signed lib verify db) : Signed lib verify db' := by
  obtain ⟨root, hwrite⟩ := (commit_eq_some_iff lib pair).mp hcommit
  have hcells := (writeEpoch_cases lib pair hwrite).2.2.1
  intro r hr
  rw [hcells] at hr
  rcases mem_of_mem_insertAll CellStateRow.key hr with hold | hnew
  · exact hs r hold
  · exact cellSigned_of_mem hsign hnew

/-- **A run of calls leaves every cell signed**, whatever its calls. -/
theorem signed_run {pair : HexBytes32 → HexBytes32 → HexBytes32}
    (hsign : SignaturesVerify lib verify) {db db' : Database N}
    {calls : List (EpochCall F)}
    (hrun : run (commit lib pair) db calls = some db')
    (hs : Signed lib verify db) : Signed lib verify db' :=
  run_keeps (commit lib pair)
    (fun _ _ _ h hstep => signed_step hsign hstep h) hrun hs

/-- A run of sealing calls leaves every epoch sealed. -/
theorem sealed_run {pair : HexBytes32 → HexBytes32 → HexBytes32}
    {db db' : Database N} {calls : List (EpochCall F)}
    (hrun : run (commit lib pair) db calls = some db')
    (hmeet : StepsMeet (commit lib pair) Sealing db calls)
    (hs : Sealed pair db) : Sealed pair db' := by
  have hiff := throughout_iff_stepsMeet (commit lib pair)
    (P := Sealed pair) (C := Sealing) (fun db call db' hP hstep => by
      obtain ⟨root, hwrite⟩ := (commit_eq_some_iff lib pair).mp hstep
      exact sealed_step_iff hP hwrite) hs calls
  exact hiff.mpr hmeet calls List.prefix_rfl db' hrun

end Signed

/-! ## What the browser reads of a bundle -/

section Bundles

variable {F N : Type}

/-- The value shows the bundle at the places where the verifiers and the audit
panel read it. -/
structure IsBundle (number : N → JsNumber F) (v : JsValue F)
    (p : OfflineVerify.Provenance N) : Prop where
  tenantId : v.member (js "tenant_id") = .string p.tenantId
  h3Cell : v.member (js "h3_cell") = .string p.h3Cell
  signature : (v.member (js "cell_state")).member (js "signature") =
    .string p.cellState.signature
  identityPk : (v.member (js "cell_state")).member (js "identity_pk") =
    .string p.cellState.identityPk
  contentHash : (v.member (js "cell_state")).member (js "content_hash") =
    .string p.cellState.contentHash
  payload : (v.member (js "cell_state")).member (js "payload") =
    browserValue number p.cellState.payload
  merkleProof : v.member (js "merkle_proof") =
    .array (p.merkleProof.map .string)
  leafIndex : ∃ h, v.member (js "leaf_index") =
    .number (.int ⟨p.leafIndex, h⟩)
  merkleRoot : (v.member (js "epoch")).member (js "merkle_root") =
    .string p.epoch.merkleRoot

/-- A bundle of the server, as its texts show it. -/
def shown (codecs : Codecs F N) (p : Provenance N) : OfflineVerify.Provenance N where
  tenantId := jsText p.tenantId.toText
  h3Cell := jsText (H3Text.serialize p.h3Cell)
  epochId := p.epochId.val
  cellState := {
    tenantId := jsText p.cellState.tenantId.toText
    h3Cell := jsText (H3Text.serialize p.cellState.h3Cell)
    epochId := p.cellState.epochId.val
    identityPk := jsText (hexEncode p.cellState.identityPk.bytes)
    payload := p.cellState.payload
    contentHash := jsText (hexEncode p.cellState.contentHash.bytes)
    signature := jsText (hexEncode p.cellState.signature.bytes)
    writtenAt := jsText (codecs.formatDateTime p.cellState.writtenAt) }
  merkleProof := p.merkleProof.map fun b => jsText (hexEncode b.bytes)
  leafIndex := p.leafIndex
  epoch := {
    tenantId := jsText p.epoch.tenantId.toText
    epochId := p.epoch.epochId.val
    sealedAt := jsText (codecs.formatDateTime p.epoch.sealedAt)
    merkleRoot := jsText (hexEncode p.epoch.merkleRoot.bytes)
    parentRoot := p.epoch.parentRoot.map fun b => jsText (hexEncode b.bytes)
    cellCount := p.epoch.cellCount.toNat }

/-! ### Bytes as texts -/

private theorem byteHex_bytes : ∀ n < 256,
    (byteHex (UInt8.ofNat n)).length = 2 ∧
      toUint8 (parseIntHex (byteHex (UInt8.ofNat n))) = UInt8.ofNat n := by
  decide +kernel

/-- Two digits are the first byte. -/
private theorem digitBytes_append {pair : JsString} (hpair : pair.length = 2)
    (rest : JsString) : digitBytes (pair ++ rest) =
      toUint8 (parseIntHex pair) :: digitBytes rest := by
  obtain ⟨a, b, rfl⟩ := List.length_eq_two.mp hpair
  have hhalf : ([a, b] ++ rest).length / 2 = rest.length / 2 + 1 := by
    simp only [List.length_append, List.length_cons, List.length_nil]
    omega
  have hslice : ∀ i, slice ([a, b] ++ rest) ((i + 1) * 2) ((i + 1) * 2 + 2) =
      slice rest (i * 2) (i * 2 + 2) := by
    intro i
    have hdrop : ([a, b] ++ rest).drop ((i + 1) * 2) = rest.drop (i * 2) := by
      rw [show (i + 1) * 2 = i * 2 + 1 + 1 by omega]
      rfl
    rw [slice, slice, hdrop, Nat.add_sub_cancel_left, Nat.add_sub_cancel_left]
  rw [digitBytes, hhalf, List.range_succ_eq_map, List.map_cons, List.map_map]
  exact congrArg _ (List.map_congr_left fun i _ =>
    congrArg (fun s => toUint8 (parseIntHex s)) (hslice i))

theorem digitBytes_bytesToHex (bytes : List UInt8) :
    digitBytes (bytesToHex bytes) = bytes := by
  induction bytes with
  | nil => rfl
  | cons b bytes ih =>
      have hb := byteHex_bytes b.toNat b.toNat_lt
      rw [UInt8.ofNat_toNat] at hb
      rw [bytesToHex, List.flatMap_cons, digitBytes_append hb.1, hb.2]
      exact congrArg _ ih

/-- The server's digits of a byte blob. -/
theorem jsText_hexEncode (bytes : List UInt8) :
    jsText (hexEncode bytes) = bytesToHex bytes := by
  have hbyte : ∀ n < 256, jsText (hexPadded 2 n) = ofText (hexPadded 2 n) := by
    decide +kernel
  induction bytes with
  | nil => rfl
  | cons b bytes ih =>
      rw [hexEncode, List.flatMap_cons, jsText_append, hbyte _ b.toNat_lt,
        bytesToHex, List.flatMap_cons]
      exact congrArg _ ih

/-- **The verifiers read the bytes that the server wrote.** -/
theorem decodes_hexEncode (bytes : List UInt8) :
    Decodes (jsText (hexEncode bytes)) bytes := by
  rw [jsText_hexEncode]
  have hspec := HexDecode.bytesToHex_spec bytes
  have hmark : (bytesToHex bytes).take 2 ≠ js "0x" :=
    HexDecode.take_two_ne_of_digits hspec.2 (c := 'x') (by decide) (by decide)
  have hclean : cleanHex (bytesToHex bytes) = bytesToHex bytes := if_neg hmark
  constructor
  · rw [hclean, hspec.1]
    omega
  · rw [hclean]
    exact digitBytes_bytesToHex bytes

/-! ### The bundle -/

/-- **What the browser reads of a bundle.** -/
theorem isBundle_provenance {number : N → JsNumber F} {G : Type}
    {codecs : Codecs G N}
    (hinteger : ∀ i : SafeInteger, number (codecs.fromI64 i.val) = .int i)
    (p : Provenance N) (hsafe : isSafe p.leafIndex = true) :
    IsBundle number (browserValue number (provenanceToValue codecs p))
      (shown codecs p) := by
  have hcell : (browserValue number (provenanceToValue codecs p)).member
      (js "cell_state") =
        browserValue number (cellStateToValue codecs p.cellState) :=
    member_object number _ "cell_state"
  have hepoch : (browserValue number (provenanceToValue codecs p)).member
      (js "epoch") = browserValue number (epochToValue codecs p.epoch) :=
    member_object number _ "epoch"
  have hproof : (browserValue number (provenanceToValue codecs p)).member
      (js "merkle_proof") = browserValue number
        (vecToValue hexBytesToValue p.merkleProof) :=
    member_object number _ "merkle_proof"
  have hindex : (browserValue number (provenanceToValue codecs p)).member
      (js "leaf_index") = .number (number (codecs.fromI64 p.leafIndex)) :=
    member_object number _ "leaf_index"
  refine
    { tenantId := member_object number _ "tenant_id"
      h3Cell := member_object number _ "h3_cell"
      signature := ?_
      identityPk := ?_
      contentHash := ?_
      payload := ?_
      merkleProof := ?_
      leafIndex := ⟨hsafe, ?_⟩
      merkleRoot := ?_ }
  · rw [hcell]
    exact member_object number _ "signature"
  · rw [hcell]
    exact member_object number _ "identity_pk"
  · rw [hcell]
    exact member_object number _ "content_hash"
  · rw [hcell]
    exact member_object number _ "payload"
  · rw [hproof, vecToValue, browserValue_array, List.map_map, shown,
      List.map_map]
    rfl
  · rw [hindex, hinteger ⟨p.leafIndex, hsafe⟩]
    rfl
  · rw [hepoch]
    exact member_object number _ "merkle_root"

/-- **A bundle of signed cells with an accepted proof is checked.** -/
theorem checked_bundle {G : Type} {lib : SeedWriter.Libraries F N}
    {verify : Ed25519Verify} {codecs : Codecs G N} {p : Provenance N}
    (hsigned : verify p.cellState.signature.bytes p.cellState.contentHash.bytes
      p.cellState.identityPk.bytes = .ok true)
    (haudits : Audits (hashPair lib.blake3) p) :
    Checked (hashBytes lib.blake3) verify (shown codecs p) := by
  refine ⟨_, _, _, p.merkleProof.map HexBytes.bytes, _, decodes_hexEncode _,
    decodes_hexEncode _, decodes_hexEncode _, hsigned, ?_,
    decodes_hexEncode p.epoch.merkleRoot.bytes, ?_⟩
  · show List.Forall₂ Decodes (p.merkleProof.map _) (p.merkleProof.map _)
    rw [List.forall₂_map_left_iff, List.forall₂_map_right_iff, List.forall₂_same]
    exact fun b _ => decodes_hexEncode b.bytes
  · have haccepted := haudits.accepted
    rw [verifyProof, decide_eq_true_iff] at haccepted
    show OfflineVerify.Demo.reconstructRoot (hashBytes lib.blake3)
      p.cellState.contentHash.bytes (p.merkleProof.map HexBytes.bytes)
        p.leafIndex = _
    rw [reconstructRoot_demo lib.blake3 _ _ _ p.epoch.cellCount.toNat,
      haccepted]

end Bundles

/-! ## The call -/

section Call

variable {F G N Cell Point K Lab : Type}

/-- A bundle that `get_provenance` returns is about a stored cell, whose leaf
is one of the epoch's. -/
theorem getProvenance_cases {pair : HexBytes32 → HexBytes32 → HexBytes32}
    {db : Database N} {tenant : TenantId} {h3 : H3Cell} {epoch : EpochId}
    {p : Provenance N} (h : getProvenance pair db tenant h3 epoch = .ok p) :
    ∃ cell ∈ db.cellStates, cell.key = (tenant, h3.asI64, epoch.val) ∧
      p.cellState = cellStateOf cell ∧
      p.leafIndex < (db.epochCells tenant epoch.val).length := by
  obtain ⟨cell, row, i, hcell, hepoch, hleaf⟩ :=
    getProvenanceFrom_found pair h
  obtain ⟨hmem, hkey⟩ :=
    (findKey_eq_some_iff db.cellStates_pkey _ cell).mp hcell
  rw [getProvenance, getProvenanceFrom_ok pair hcell hepoch hleaf] at h
  cases h
  exact ⟨cell, hmem, hkey, rfl, (List.findIdx?_eq_some_iff_getElem.mp hleaf).1⟩

/-- The arguments that the demo page sends. -/
def provenanceArgs (h3 : H3Cell) (epoch : SafeInteger) :
    Json (FiniteNumber F) Text :=
  .obj
    [ ("h3_cell".toList, .str (H3Text.serialize h3))
    , ("epoch_id".toList, .num ⟨.int epoch, rfl⟩) ]

theorem depth_provenanceArgs (h3 : H3Cell) (epoch : SafeInteger) :
    (provenanceArgs h3 epoch : Json (FiniteNumber F) Text).depth = 1 := by
  simp [provenanceArgs, Json.depth, membersDepth]

/-- The server reads an integer of the browser as that integer. -/
theorem value_int {en : Engine F} {sj : SerdeText N} {fromI64 : Int → N}
    {number : N → JsNumber F} {value : FiniteNumber F → N}
    (h : Understand en sj fromI64 number value) (i : SafeInteger) :
    value ⟨.int i, rfl⟩ = fromI64 i.val := by
  have hread := h.request.readNumber ⟨.int i, rfl⟩
  have htext : numberChars en.toNumerals ⟨.int i, rfl⟩ =
      sj.number (fromI64 i.val) := by
    rw [h.integer]
    exact JavaScriptJson.map_toChar_ofText fun c hc =>
      JavaScriptJson.numberChar_ascii (intText.number_chars i.val c hc)
  rw [htext, h.readsInteger i] at hread
  exact (Option.some.inj hread).symm

/-- The tool reads the arguments. -/
theorem getProvenanceInput_args {en : Engine F} {sj : SerdeText N}
    {codecs : Codecs G N} {number : N → JsNumber F}
    {value : FiniteNumber F → N}
    (h : Understand en sj codecs.fromI64 number value)
    (hint : ∀ i : SafeInteger, codecs.asI64 (codecs.fromI64 i.val) = some i.val)
    (h3 : H3Cell) (epoch : SafeInteger) :
    getProvenanceInputFromValue codecs
        (serverValue value (provenanceArgs h3 epoch)) =
      .ok ⟨h3, ⟨epoch.val⟩⟩ := by
  have hargs : serverValue value (provenanceArgs h3 epoch) = Value.object
      [ ("h3_cell".toList, h3CellToValue h3)
      , ("epoch_id".toList, epochIdToValue codecs ⟨epoch.val⟩) ] := by
    rw [provenanceArgs, serverValue_obj, List.map_cons, List.map_cons,
      List.map_nil, serverValue_num, value_int h]
    rfl
  obtain ⟨ns, hns, hlookup⟩ := exists_members
    [ ("h3_cell".toList, h3CellToValue (N := N) h3)
    , ("epoch_id".toList, epochIdToValue codecs ⟨epoch.val⟩) ]
  rw [hargs, getProvenanceInputFromValue, structFromValue, hns]
  dsimp only
  rw [field_of_lookup (hlookup _)
      (epochIdFromValue_toValue (hint epoch)),
    field_of_lookup (hlookup _) (h3CellFromValue_toValue h3)]
  rfl

/-- The call of the tool in the registry. -/
theorem registry_getProvenance (server : Server G N Cell Point K Lab)
    {args : Value N} {input : RenderTools.GetProvenanceInput}
    (hargs : getProvenanceInputFromValue server.codecs args = .ok input)
    {tenant : TenantId} {w : World G N Lab} {p : Provenance N}
    (hp : getProvenance server.pair w.db tenant input.h3Cell input.epochId =
      .ok p) :
    (build server).call "get_provenance".toList args tenant w =
      (.ok (provenanceToValue server.codecs p), w) := by
  have hentry : (build server).call "get_provenance".toList args tenant w =
      (getProvenanceEntry server).run args tenant w := rfl
  rw [hentry]
  exact coreEntry_ok server _ _ hargs hp

/-! ## All of it -/

/-- Every cell of sealed epochs, signed, has a bundle whose showing either
verifier accepts. -/
theorem provenance_checked {lib : SeedWriter.Libraries G N}
    {verify : Ed25519Verify} (codecs : Codecs G N) {db : Database N}
    (hsealed : Sealed (hashPair lib.blake3) db)
    (hsigned : Signed lib verify db) {tenant : TenantId} {h3 : H3Cell}
    {epoch : EpochId}
    (hstored : (tenant, h3.asI64, epoch.val) ∈
      db.cellStates.map CellStateRow.key) :
    ∃ p, getProvenance (hashPair lib.blake3) db tenant h3 epoch = .ok p ∧
      Checked (hashBytes lib.blake3) verify (shown codecs p) := by
  -- the cell's epoch has a row, by the foreign key
  obtain ⟨row, hrow, hrowkey⟩ : ∃ row ∈ db.epochs,
      row.tenantId = tenant ∧ row.epochId = epoch.val := by
    obtain ⟨cell, hcell, hkey⟩ := List.mem_map.mp hstored
    obtain ⟨row, hrow, hrowkey⟩ :=
      List.mem_map.mp (db.cellStates_epoch_fkey cell hcell)
    simp only [CellStateRow.key, Prod.mk.injEq] at hkey
    simp only [EpochRow.key, CellStateRow.epochKey, Prod.mk.injEq] at hrowkey
    exact ⟨row, hrow, hrowkey.1.trans hkey.1, hrowkey.2.trans hkey.2.2⟩
  obtain ⟨cell, hcell, hkey⟩ := List.mem_map.mp hstored
  have hprovable := getProvenance_of_sealed _ hrow (hsealed row hrow) h3 cell
    hcell
  rw [hrowkey.1, hrowkey.2] at hprovable
  obtain ⟨p, hp, hbundle, haudits⟩ := hprovable hkey
  refine ⟨p, hp, checked_bundle ?_ haudits⟩
  rw [hbundle.cellState]
  exact (hsigned cell hcell).signature

variable {JwkSet Jwk DecodingKey : Type}

/-- **Every stored cell is verified in the browser.**  After any run of sealing
calls of the seeder, an admitted request of the demo page for a stored cell
gets its bundle, which shows the stored payload and which both offline
verifiers accept. -/
theorem audit_endToEnd (server : Server G N Cell Point K Lab)
    (cfg : ServerConfig.Config)
    (auth : Auth.Libraries JwkSet Jwk DecodingKey N) {en : Engine F}
    {number : N → JsNumber F} {value : FiniteNumber F → N}
    {lib : SeedWriter.Libraries G N} {verify : Ed25519Verify}
    (hunderstand :
      Understand en server.serde server.codecs.fromI64 number value)
    (hint : ∀ i : SafeInteger,
      server.codecs.asI64 (server.codecs.fromI64 i.val) = some i.val)
    (hpair : server.pair = hashPair lib.blake3)
    (hsign : SignaturesVerify lib verify)
    {tenants : List TenantId} {calls : List (EpochCall G)}
    {provider : Auth.Provider JwkSet} {now : Nat}
    {s : McpHandler.Shared (World G N Lab) JwkSet} {headers : Auth.HeaderMap}
    {ctx : Auth.AuthContext}
    (hrun : run (commit lib (hashPair lib.blake3))
      (Database.migrated N tenants) calls = some s.world.db)
    (hmeet : StepsMeet (commit lib (hashPair lib.blake3)) Sealing
      (Database.migrated N tenants) calls)
    (hadmits : Admits (HttpServer.appState server cfg auth) provider now s
      headers ctx)
    {h3 : H3Cell} {epoch : SafeInteger}
    (hstored : (ctx.tenant, h3.asI64, epoch.val) ∈
      s.world.db.cellStates.map CellStateRow.key)
    (hcount : (s.world.db.epochCells ctx.tenant epoch.val).length < 2 ^ 53)
    (id : FiniteNumber F) :
    ∃ raw bundle ms p, ∃ cell ∈ s.world.db.cellStates,
      receive server.serde (toolsCallBody en id.val
        (jsText "get_provenance".toList)
        (browserTree (provenanceArgs h3 epoch))) = some raw ∧
      let resp := arrived server.serde (McpHandler.mcpHandler
        (HttpServer.appState server cfg auth) provider now s headers raw).1
      Demo.mcpCall en resp = .ok (bundle, ms) ∧
        Client.call en resp = .ok bundle ∧
        IsBundle number bundle p ∧
        cell.key = (ctx.tenant, h3.asI64, epoch.val) ∧
        p.cellState.payload = cell.payload ∧
        ∀ v : Verifier, Accepts (hashBytes lib.blake3) verify v p := by
  have hempty : Sealed (hashPair lib.blake3) (Database.migrated N tenants) :=
    fun row hrow => absurd hrow List.not_mem_nil
  have hblank : Signed lib verify (Database.migrated N tenants) :=
    fun r hr => absurd hr List.not_mem_nil
  have hkeyed : (ctx.tenant, h3.asI64, (EpochId.mk epoch.val).val) ∈
      s.world.db.cellStates.map CellStateRow.key := hstored
  obtain ⟨p, hp, hchecked⟩ := provenance_checked server.codecs
    (sealed_run hrun hmeet hempty) (signed_run hsign hrun hblank) hkeyed
  obtain ⟨cell, hcell, hkey, hstate, hindex⟩ := getProvenance_cases hp
  have hsafe : isSafe p.leafIndex = true := by
    rw [isSafe, decide_eq_true_eq, Int.natAbs_natCast]
    exact Nat.lt_trans hindex hcount
  have hargs := getProvenanceInput_args hunderstand hint h3 epoch
  have hcall : (build server).call "get_provenance".toList
      (serverValue value (provenanceArgs h3 epoch)) ctx.tenant s.world =
        (.ok (provenanceToValue server.codecs p), s.world) := by
    apply registry_getProvenance server hargs
    rw [hpair]
    exact hp
  have hauth : Auth.authenticate auth cfg provider s.jwks headers =
      (.ok ctx, (Auth.authenticate auth cfg provider s.jwks headers).2) :=
    Prod.ext hadmits.1 rfl
  have hserved := mcpHandler_toolsCall value
    (HttpServer.appState server cfg auth) hauth hadmits.2 id
    "get_provenance".toList (provenanceArgs h3 epoch)
  have happ : (HttpServer.appState server cfg auth).tools = build server := rfl
  rw [happ, hcall] at hserved
  have hwire : Understand en (HttpServer.serverWire server).serde
      (HttpServer.serverWire server).fromI64 number value := hunderstand
  obtain ⟨hdemo, -, hclient⟩ := delivered_replied hwire
    (Value.number (value id)) "get_provenance".toList
    (f64ToValue server.codecs s.world.elapsedMs)
    (.ok (provenanceToValue server.codecs p))
  refine ⟨serverValue value (toolsCallTree id "get_provenance".toList
      (provenanceArgs h3 epoch)),
    browserValue number (provenanceToValue server.codecs p),
    coalesce (browserValue number (f64ToValue server.codecs s.world.elapsedMs))
      (.number (.int ⟨0, rfl⟩)),
    shown server.codecs p, cell, hcell,
    receive_toolsCallBody hunderstand.request id _ (by
      rw [depth_provenanceArgs]
      decide), ?_⟩
  rw [hserved]
  refine ⟨hdemo, hclient, isBundle_provenance hunderstand.number_fromI64 p
    hsafe, hkey, ?_, fun v => (accepts_iff _ _ v _).mpr hchecked⟩
  show p.cellState.payload = cell.payload
  rw [hstate]
  rfl

end Call

/-! ## One cell -/

/-- Whole numbers for `f64`, on a wire of safe integers. -/
def safeCodecs : Codecs Int SafeInteger where
  fromI64 := toSafe
  fromF64 := fun x => some (toSafe x)
  asI64 := fun n => some n.val
  asU64 := fun n => if 0 ≤ n.val then some n.val.toNat else none
  asF64 := Subtype.val
  formatDateTime := intText.number
  parseDateTime := wholeCodecs.parseDateTime
  parseUuid := wholeCodecs.parseUuid

def safeLibraries : SeedWriter.Libraries Int SafeInteger where
  serde := safeText
  fromF64 := fun x => some (toSafe x)
  fromI64 := toSafe
  blake3 := checksum
  verifyingKey := id
  sign := VerifyAttestation.checksumSign
  cellValue := checksumLibraries.cellValue
  toRfc3339 := checksumLibraries.toRfc3339

/-- A signature that names its key and the checksum of its message. -/
def checksumVerify : Ed25519Verify :=
  fun sig message pk => .ok (sig == pk ++ (checksum message).bytes)

theorem signaturesVerify_checksum :
    SignaturesVerify safeLibraries checksumVerify := by
  intro key message
  exact congrArg Except.ok (beq_self_eq_true _)

/-- The third of three cells, verified in the browser. -/
theorem audit_endToEnd_threeCells :
    ∃ db, run (commit safeLibraries (hashPair checksum))
        (Database.migrated SafeInteger [ciTenant]) [threeCellsCall 0 none] =
          some db ∧
      ∃ raw bundle ms p, ∃ cell ∈ db.cellStates,
        receive safeText (toolsCallBody plainEngine (.int ⟨1, rfl⟩)
          (jsText "get_provenance".toList)
          (browserTree (provenanceArgs ⟨7⟩ ⟨0, rfl⟩))) = some raw ∧
        Demo.mcpCall plainEngine (arrived safeText (McpHandler.mcpHandler
          (HttpServer.appState (HttpServer.smallServer safeCodecs safeText)
            HttpServer.seededConfig tokenless)
          McpHandler.offlineProvider 0
          ⟨none, some (.new 100 0), HttpServer.worldOf db⟩
          McpHandler.mainKeyHeaders raw).1) = .ok (bundle, ms) ∧
        IsBundle JsNumber.int bundle p ∧
        p.cellState.payload = cell.payload ∧
        ∀ v : Verifier, Accepts (hashBytes checksum) checksumVerify v p := by
  have hmap : (run (commit safeLibraries (hashPair checksum))
      (Database.migrated SafeInteger [ciTenant]) [threeCellsCall 0 none]).map
      (fun db => (db.cellStates.map CellStateRow.key,
        (db.epochCells ciTenant 0).length)) =
        some ([(ciTenant, -9223372036854775808, 0), (ciTenant, 5, 0),
          (ciTenant, 7, 0)], 3) := by
    decide +kernel
  obtain ⟨db, hrun, hcells⟩ := Option.map_eq_some_iff.mp hmap
  rw [Prod.mk.injEq] at hcells
  have hmeet : StepsMeet (commit safeLibraries (hashPair checksum)) Sealing
      (Database.migrated SafeInteger [ciTenant]) [threeCellsCall 0 none] := by
    intro pre i hpre t t' ht _
    obtain ⟨rfl, hi⟩ : pre = [] ∧ [i] = [threeCellsCall 0 none] := by
      have hlength := hpre.length_le
      have hnil : pre = [] := List.eq_nil_of_length_eq_zero (by
        simp only [List.length_append, List.length_cons, List.length_nil]
          at hlength
        omega)
      subst hnil
      exact ⟨rfl, hpre.eq_of_length rfl⟩
    cases hi
    cases ht
    show (threeCells.map SeedWriter.Substation.h3).Nodup
    decide
  let server := HttpServer.smallServer safeCodecs safeText
  let s : McpHandler.Shared (World Int SafeInteger Unit) Unit :=
    ⟨none, some (.new 100 0), HttpServer.worldOf db⟩
  have hadmits : Admits (HttpServer.appState server HttpServer.seededConfig tokenless)
      McpHandler.offlineProvider 0 s McpHandler.mainKeyHeaders
      (Auth.defaultContext HttpServer.seededConfig .apiKey) := ⟨rfl, rfl⟩
  have hrun' : run (commit safeLibraries (hashPair safeLibraries.blake3))
      (Database.migrated SafeInteger [ciTenant]) [threeCellsCall 0 none] =
        some s.world.db := hrun
  have hstored : (ciTenant, H3Cell.asI64 ⟨7⟩, (0 : Int)) ∈
      db.cellStates.map CellStateRow.key := by
    rw [hcells.1]
    decide
  have hcount : (db.epochCells ciTenant 0).length < 2 ^ 53 := by
    rw [hcells.2]
    decide
  have hint : ∀ i : SafeInteger,
      safeCodecs.asI64 (safeCodecs.fromI64 i.val) = some i.val := by
    intro i
    show some (toSafe i.val).val = some i.val
    rw [toSafe, dif_pos i.property]
  have hend := audit_endToEnd server HttpServer.seededConfig tokenless understand_safe
    hint rfl signaturesVerify_checksum hrun' hmeet hadmits
    (show (_, H3Cell.asI64 ⟨7⟩, (⟨0, rfl⟩ : SafeInteger).val) ∈ _ from hstored)
    hcount ⟨.int ⟨1, rfl⟩, rfl⟩
  obtain ⟨raw, bundle, ms, p, cell, hcell, hraw, hdemo, -, hbundle, -,
    hpayload, haccepts⟩ := hend
  exact ⟨db, hrun, raw, bundle, ms, p, cell, hcell, hraw, hdemo, hbundle,
    hpayload, haccepts⟩

end RenderEngine.Ports.AuditPipeline
