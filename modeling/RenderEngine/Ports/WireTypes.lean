import RenderEngine.Ports.H3Text
import RenderEngine.Ports.RenderTools
import RenderEngine.Ports.SerdeValue

/-!
# What the tools' results are written as (`render-core/src/types.rs`, `tools.rs`)

The `Serialize` instances of the domain types.  Cells and byte blobs write
themselves, as hexadecimal texts; the others are derived, an `Option` that is
`None` being `null`.

`Codecs` holds what other crates write and read: the numbers of `serde_json`,
the times of `chrono`, the UUIDs of `uuid`.
-/

namespace RenderEngine.Ports.WireTypes

open RenderEngine.Ports.CoreTypes
open RenderEngine.Ports.Serde
open RenderEngine.Ports.PostgresClient
open RenderEngine.Ports.RenderTools
open RenderEngine.Ports.VerifyAttestation
open RenderEngine.Ports.ViewportCells

/-- How other crates write numbers, times and UUIDs, and read them. -/
structure Codecs (F N : Type) where
  /-- `Number::from` of an integer of 64 bits -/
  fromI64 : Int → N
  /-- `Number::from_f64`; a NaN or an infinity is no number -/
  fromF64 : F → Option N
  asI64 : N → Option Int
  asU64 : N → Option Nat
  /-- a number of any kind, as an `f64` -/
  asF64 : N → F
  /-- RFC 3339, as `chrono` writes it -/
  formatDateTime : Timestamp → Text
  /-- the time, or the text of the error -/
  parseDateTime : Text → Except Text Timestamp
  /-- `Uuid::parse_str`, or the text of the error -/
  parseUuid : Text → Except Text (BitVec 128)

section Serialize

variable {F N : Type} (codecs : Codecs F N)

/-! ## Leaves -/

/-- `hex::encode`. -/
def hexEncode (bytes : List UInt8) : Text :=
  bytes.flatMap fun b => hexPadded 2 b.toNat

def hexBytesToValue {n : Nat} (b : HexBytes n) : Value N :=
  Value.string (hexEncode b.bytes)

def h3CellToValue (h : H3Cell) : Value N := Value.string (H3Text.serialize h)

def tenantIdToValue (t : TenantId) : Value N := Value.string t.toText

def uuidToValue (u : BitVec 128) : Value N := tenantIdToValue ⟨u⟩

def epochIdToValue (e : EpochId) : Value N :=
  Value.number (codecs.fromI64 e.val)

def dateTimeToValue (t : Timestamp) : Value N :=
  Value.string (codecs.formatDateTime t)

/-- An unsigned integer or an `i64`. -/
def intToValue (i : Int) : Value N := Value.number (codecs.fromI64 i)

def f64ToValue (x : F) : Value N :=
  match codecs.fromF64 x with
  | some n => Value.number n
  | none => Value.null

def optionToValue {α : Type} (toValue : α → Value N) : Option α → Value N
  | some a => toValue a
  | none => Value.null

def vecToValue {α : Type} (toValue : α → Value N) (xs : List α) : Value N :=
  Value.array (xs.map toValue)

/-! ## Structs -/

def cellStateToValue (c : CellState N) : Value N :=
  Value.object
    [ ("tenant_id".toList, tenantIdToValue c.tenantId)
    , ("h3_cell".toList, h3CellToValue c.h3Cell)
    , ("epoch_id".toList, epochIdToValue codecs c.epochId)
    , ("identity_pk".toList, hexBytesToValue c.identityPk)
    , ("payload".toList, c.payload)
    , ("content_hash".toList, hexBytesToValue c.contentHash)
    , ("signature".toList, hexBytesToValue c.signature)
    , ("written_at".toList, dateTimeToValue codecs c.writtenAt) ]

def epochToValue (e : Epoch) : Value N :=
  Value.object
    [ ("tenant_id".toList, tenantIdToValue e.tenantId)
    , ("epoch_id".toList, epochIdToValue codecs e.epochId)
    , ("sealed_at".toList, dateTimeToValue codecs e.sealedAt)
    , ("merkle_root".toList, hexBytesToValue e.merkleRoot)
    , ("parent_root".toList, optionToValue hexBytesToValue e.parentRoot)
    , ("cell_count".toList, intToValue codecs e.cellCount) ]

def attestationToValue (a : Attestation N) : Value N :=
  Value.object
    [ ("attestation_id".toList, uuidToValue a.attestationId)
    , ("tenant_id".toList, tenantIdToValue a.tenantId)
    , ("h3_cell".toList, h3CellToValue a.h3Cell)
    , ("epoch_id".toList, epochIdToValue codecs a.epochId)
    , ("attester_pk".toList, hexBytesToValue a.attesterPk)
    , ("claim".toList, a.claim)
    , ("claim_hash".toList, hexBytesToValue a.claimHash)
    , ("signature".toList, hexBytesToValue a.signature)
    , ("issued_at".toList, dateTimeToValue codecs a.issuedAt)
    , ("expires_at".toList,
        optionToValue (dateTimeToValue codecs) a.expiresAt) ]

def provenanceToValue (p : Provenance N) : Value N :=
  Value.object
    [ ("tenant_id".toList, tenantIdToValue p.tenantId)
    , ("h3_cell".toList, h3CellToValue p.h3Cell)
    , ("epoch_id".toList, epochIdToValue codecs p.epochId)
    , ("cell_state".toList, cellStateToValue codecs p.cellState)
    , ("attestations".toList,
        vecToValue (attestationToValue codecs) p.attestations)
    , ("merkle_proof".toList, vecToValue hexBytesToValue p.merkleProof)
    , ("leaf_index".toList, intToValue codecs p.leafIndex)
    , ("epoch".toList, epochToValue codecs p.epoch) ]

def latLngToValue (p : LatLng F) : Value N :=
  Value.object
    [ ("lat".toList, f64ToValue codecs p.lat)
    , ("lng".toList, f64ToValue codecs p.lng) ]

/-- The variant's name stands among its fields, as the `mode`. -/
def viewportToValue : Viewport F → Value N
  | .parentCell parent targetResolution => Value.object
      [ ("mode".toList, Value.string "parent_cell".toList)
      , ("parent".toList, h3CellToValue parent)
      , ("target_resolution".toList,
          intToValue codecs targetResolution.toNat) ]
  | .boundingBox southWest northEast resolution => Value.object
      [ ("mode".toList, Value.string "bounding_box".toList)
      , ("south_west".toList, latLngToValue codecs southWest)
      , ("north_east".toList, latLngToValue codecs northEast)
      , ("resolution".toList, intToValue codecs resolution.toNat) ]

/-! ## Results of tools -/

def renderedViewportToValue (r : RenderedViewport F N) : Value N :=
  Value.object
    [ ("tenant_id".toList, tenantIdToValue r.tenantId)
    , ("viewport".toList, viewportToValue codecs r.viewport)
    , ("epoch_id".toList, epochIdToValue codecs r.epochId)
    , ("cell_count".toList, intToValue codecs r.cellCount)
    , ("cells".toList, vecToValue (cellStateToValue codecs) r.cells)
    , ("render_ms".toList, f64ToValue codecs r.renderMs) ]

def getCellStateOutputToValue (out : GetCellStateOutput N) : Value N :=
  Value.object
    [("cell_state".toList,
      optionToValue (cellStateToValue codecs) out.cellState)]

def queryCellsInRegionOutputToValue (out : QueryCellsInRegionOutput N) :
    Value N :=
  Value.object
    [ ("cells".toList, vecToValue (cellStateToValue codecs) out.cells)
    , ("count".toList, intToValue codecs out.count) ]

def verifyAttestationOutputToValue (out : VerifyAttestationOutput) : Value N :=
  Value.object
    [ ("signature_valid".toList, Value.bool out.signatureValid)
    , ("claim_hash_valid".toList, Value.bool out.claimHashValid)
    , ("cell_exists".toList, Value.bool out.cellExists)
    , ("not_expired".toList, Value.bool out.notExpired)
    , ("verified".toList, Value.bool out.verified) ]

end Serialize

end RenderEngine.Ports.WireTypes
