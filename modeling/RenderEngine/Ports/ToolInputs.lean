import RenderEngine.Ports.WireTypes

/-!
# What the tools' arguments are read as (`render-core/src/tools.rs`)

The `Deserialize` instances of the inputs.  Cells and byte blobs read
themselves; the others are derived: a struct is read from the members of an
object, in the order of the keys, or from the elements of an array, in the
order of its fields, and what an object lacks is found last.

## Main results

* `hexDecode_hexEncode`: bytes are read back from their digits.
* `attestationFromValue_toValue`: an attestation is read back from what a
  bundle lists it as.
-/

namespace RenderEngine.Ports.ToolInputs

open RenderEngine.Ports.CoreTypes
open RenderEngine.Ports.RustStd
open RenderEngine.Ports.Serde
open RenderEngine.Ports.PostgresClient
open RenderEngine.Ports.RenderTools
open RenderEngine.Ports.ViewportCells
open RenderEngine.Ports.WireTypes
open RenderEngine.Verified.Numerals

/-! ## Texts of errors -/

/-- `{:?}` of an `Option<i64>`. -/
def optionDebug : Option Int → Text
  | some i => "Some(".toList ++ intDecimal i ++ [')']
  | none => "None".toList

/-- `Display for CoreError`. -/
def coreErrorText : CoreError → Text
  | .invalidH3Cell message => "invalid H3 cell: ".toList ++ message
  | .invalidH3Resolution r =>
      "invalid H3 resolution: ".toList ++ decimal r.toNat
        ++ " (must be 0-15)".toList
  | .viewportTooLarge requested max =>
      "viewport exceeds max cells: requested ".toList ++ decimal requested
        ++ ", max ".toList ++ decimal max
  | .epochNotFound tenant epoch =>
      "epoch not found: tenant=".toList ++ tenant ++ ", epoch=".toList
        ++ intDecimal epoch
  | .cellNotFound tenant h3 epoch =>
      "cell state not found: tenant=".toList ++ tenant ++ ", h3=0x".toList
        ++ hexLower h3.toNat ++ ", epoch=".toList ++ optionDebug epoch
  | .database message => "database error: ".toList ++ message
  | .other message => "unexpected: ".toList ++ message

/-- The text of a fault; the calls that read values never panic. -/
def faultText : Fault → Text
  | .core e => coreErrorText e
  | .panic => []

/-- Why a value is no input. -/
inductive InputError (N : Type) where
  | decode (e : DecodeError N)
  | invalidValue (found : Value N) (expected : Text)
  | unknownVariant (variant : Text) (expected : List Text)
  | custom (message : Text)

abbrev Input (N α : Type) := Except (InputError N) α

@[simp] theorem Input.ok_bind {N α β : Type} (a : α) (f : α → Input N β) :
    (Except.ok a >>= f) = f a := rfl

section Inputs

variable {F N : Type} (codecs : Codecs F N)

/-! ## Leaves -/

def invalidType {α : Type} (v : Value N) (expected : String) : Input N α :=
  .error (.decode (.invalidType v expected.toList))

def stringFromValue (v : Value N) : Input N Text :=
  match v.asStr with
  | some s => .ok s
  | none => invalidType v "a string"

/-- The value of a byte that is a hexadecimal digit. -/
def hexDigitByte (b : UInt8) : Option Nat := hexDigit (Char.ofNat b.toNat)

/-- `FromHexError::InvalidHexCharacter`, the byte as a character. -/
def invalidHexCharacter (b : UInt8) (index : Nat) : Text :=
  "Invalid character ".toList ++ '\'' :: Char.ofNat b.toNat :: '\'' ::
    " at position ".toList ++ decimal index

/-- The pairs of digits from the position `i` on. -/
def hexPairs : Nat → List UInt8 → Except Text (List UInt8)
  | i, a :: b :: rest =>
      match hexDigitByte a, hexDigitByte b with
      | none, _ => .error (invalidHexCharacter a i)
      | _, none => .error (invalidHexCharacter b (i + 1))
      | some x, some y =>
          (hexPairs (i + 2) rest).map (UInt8.ofNat (x * 16 + y) :: ·)
  | _, _ => .ok []

/-- `hex::decode`, over the bytes of the text. -/
def hexDecode (s : Text) : Except Text (List UInt8) :=
  let bytes := s.flatMap String.utf8EncodeChar
  if bytes.length % 2 ≠ 0 then .error "Odd number of digits".toList
  else hexPairs 0 bytes

/-- `Deserialize for HexBytes32` and `HexBytes64`. -/
def hexBytesFromValue (n : Nat) (v : Value N) : Input N (HexBytes n) := do
  let s ← stringFromValue v
  let bytes ← match hexDecode s with
    | .ok bytes => pure bytes
    | .error message => throw (.custom message)
  match HexBytes.fromSlice n bytes with
  | .ok b => return b
  | .error e => throw (.custom (faultText e))

/-- `Deserialize for H3Cell`. -/
def h3CellFromValue (v : Value N) : Input N H3Cell := do
  let s ← stringFromValue v
  match H3Text.fromHex s with
  | .ok cell => return cell
  | .error e => throw (.custom (coreErrorText e))

def uuidFromValue (v : Value N) : Input N (BitVec 128) :=
  match v.asStr with
  | none => invalidType v "a UUID string"
  | some s =>
      match codecs.parseUuid s with
      | .ok u => .ok u
      | .error message => .error (.custom message)

def dateTimeFromValue (v : Value N) : Input N Timestamp :=
  match v.asStr with
  | none => invalidType v "an RFC 3339 formatted date and time string"
  | some s =>
      match codecs.parseDateTime s with
      | .ok t => .ok t
      | .error message => .error (.custom message)

/-- A number that is an integer, but not one of the type. -/
def outOfRange {α : Type} (v : Value N) (n : N) (expected : String) :
    Input N α :=
  if (codecs.asI64 n).isSome || (codecs.asU64 n).isSome
  then .error (.invalidValue v expected.toList)
  else invalidType v expected

/-- An `i64`. -/
def i64FromValue (v : Value N) : Input N Int :=
  match v.tree with
  | .num n =>
      match codecs.asI64 n with
      | some i => .ok i
      | none => outOfRange codecs v n "i64"
  | _ => invalidType v "i64"

/-- An unsigned integer below a bound. -/
def unsignedFromValue (bound : Nat) (name : String) (v : Value N) :
    Input N Nat :=
  match v.tree with
  | .num n =>
      match codecs.asU64 n with
      | some m => if m < bound then .ok m else outOfRange codecs v n name
      | none => outOfRange codecs v n name
  | _ => invalidType v name

def usizeFromValue (v : Value N) : Input N Nat :=
  unsignedFromValue codecs (2 ^ 64) "usize" v

def u8FromValue (v : Value N) : Input N UInt8 :=
  (unsignedFromValue codecs (2 ^ 8) "u8" v).map UInt8.ofNat

def f64FromValue (v : Value N) : Input N F :=
  match v.tree with
  | .num n => .ok (codecs.asF64 n)
  | _ => invalidType v "f64"

def epochIdFromValue (v : Value N) : Input N EpochId :=
  (i64FromValue codecs v).map EpochId.mk

def tenantIdFromValue (v : Value N) : Input N TenantId :=
  (uuidFromValue codecs v).map TenantId.mk

/-- An `Option`: `null` is `None`. -/
def optionFromValue {α : Type} (fromValue : Value N → Input N α)
    (v : Value N) : Input N (Option α) :=
  match v.tree with
  | .null => .ok none
  | _ => (fromValue v).map some

/-! ## Structs -/

/-- A member of an object, where there is one. -/
def field {α : Type} (ms : List (Text × Value N)) (name : String)
    (fromValue : Value N → Input N α) : Input N (Option α) :=
  match ms.lookup name.toList with
  | some v => (fromValue v).map some
  | none => .ok none

/-- A field without a default. -/
def required {α : Type} (name : String) (x : Option α) : Input N α :=
  okOr (.decode (.missingField name.toList)) x

/-- An element that an array must have. -/
def elementAt {α : Type} (xs : List (Value N)) (i : Nat) (expected : String)
    (fromValue : Value N → Input N α) : Input N α :=
  match xs[i]? with
  | some v => fromValue v
  | none => .error (.decode (.invalidLength i expected.toList))

/-- An element whose field has a default. -/
def elementOr {α : Type} (xs : List (Value N)) (i : Nat) (default : α)
    (fromValue : Value N → Input N α) : Input N α :=
  match xs[i]? with
  | some v => fromValue v
  | none => .ok default

/-- What an array that is too long is told. -/
def fewerElements : String := "fewer elements in array"

/-- No more elements than fields. -/
def atMost (xs : List (Value N)) (fields : Nat) (expected : String) :
    Input N Unit :=
  if fields < xs.length then
    .error (.decode (.invalidLength xs.length expected.toList))
  else .ok ()

/-- A derived `Deserialize` of a struct. -/
def structFromValue {α : Type} (name : String)
    (fromObject : List (Text × Value N) → Input N α)
    (fromArray : List (Value N) → Input N α) (v : Value N) : Input N α :=
  match v.asObject, v.asArray with
  | some ms, _ => fromObject ms
  | _, some xs => fromArray xs
  | _, _ => invalidType v ("struct " ++ name)

def latLngFromValue : Value N → Input N (LatLng F) :=
  structFromValue "LatLng"
    (fun ms => do
      let lat ← field ms "lat" (f64FromValue codecs)
      let lng ← field ms "lng" (f64FromValue codecs)
      let lat ← required "lat" lat
      let lng ← required "lng" lng
      return { lat := lat, lng := lng })
    (fun xs => do
      let expected := "struct LatLng with 2 elements"
      let lat ← elementAt xs 0 expected (f64FromValue codecs)
      let lng ← elementAt xs 1 expected (f64FromValue codecs)
      atMost xs 2 fewerElements
      return { lat := lat, lng := lng })

/-! ## Viewports -/

/-- The fields of a variant, from what stands beside the tag. -/
def parentCellFromObject (ms : List (Text × Value N)) :
    Input N (Viewport F) := do
  let parent ← field ms "parent" h3CellFromValue
  let targetResolution ← field ms "target_resolution" (u8FromValue codecs)
  let parent ← required "parent" parent
  let targetResolution ← required "target_resolution" targetResolution
  return .parentCell parent targetResolution

def parentCellFromArray (xs : List (Value N)) : Input N (Viewport F) := do
  let expected := "struct variant Viewport::ParentCell with 2 elements"
  let parent ← elementAt xs 0 expected h3CellFromValue
  let targetResolution ← elementAt xs 1 expected (u8FromValue codecs)
  atMost xs 2 "2 elements in sequence"
  return .parentCell parent targetResolution

def boundingBoxFromObject (ms : List (Text × Value N)) :
    Input N (Viewport F) := do
  let northEast ← field ms "north_east" (latLngFromValue codecs)
  let resolution ← field ms "resolution" (u8FromValue codecs)
  let southWest ← field ms "south_west" (latLngFromValue codecs)
  let southWest ← required "south_west" southWest
  let northEast ← required "north_east" northEast
  let resolution ← required "resolution" resolution
  return .boundingBox southWest northEast resolution

def boundingBoxFromArray (xs : List (Value N)) : Input N (Viewport F) := do
  let expected := "struct variant Viewport::BoundingBox with 3 elements"
  let southWest ← elementAt xs 0 expected (latLngFromValue codecs)
  let northEast ← elementAt xs 1 expected (latLngFromValue codecs)
  let resolution ← elementAt xs 2 expected (u8FromValue codecs)
  atMost xs 3 "3 elements in sequence"
  return .boundingBox southWest northEast resolution

/-- The variant that a tag names, and how its fields are read. -/
def viewportVariant (tag : Value N) :
    Input N ((List (Text × Value N) → Input N (Viewport F)) ×
      (List (Value N) → Input N (Viewport F))) := do
  let mode ← match tag.asStr with
    | some mode => pure mode
    | none => invalidType tag "variant identifier"
  if mode = "parent_cell".toList then
    return (parentCellFromObject codecs, parentCellFromArray codecs)
  else if mode = "bounding_box".toList then
    return (boundingBoxFromObject codecs, boundingBoxFromArray codecs)
  else
    throw (.unknownVariant mode
      ["parent_cell".toList, "bounding_box".toList])

/-- An internally tagged enum: the tag is the member `mode` of an object or
the first element of an array. -/
def viewportFromValue (v : Value N) : Input N (Viewport F) :=
  match v.asObject, v.asArray with
  | some ms, _ => do
      let tag ← required "mode" (ms.lookup "mode".toList)
      let variant ← viewportVariant codecs tag
      variant.1 (ms.filter fun m => m.1 ≠ "mode".toList)
  | _, some [] => .error (.decode (.missingField "mode".toList))
  | _, some (tag :: rest) => do
      let variant ← viewportVariant codecs tag
      variant.2 rest
  | _, _ => invalidType v "internally tagged enum Viewport"

/-! ## Inputs -/

/-- `default_max_cells`. -/
def defaultMaxCells : Nat := 4096

/-- The three fields that two of the inputs share, the last of them under its
own name. -/
def regionFromObject (limitName : String) (ms : List (Text × Value N)) :
    Input N (Viewport F × Option EpochId × Nat) := do
  let epochId ← field ms "epoch_id" (optionFromValue (epochIdFromValue codecs))
  let limit ← field ms limitName (usizeFromValue codecs)
  let viewport ← field ms "viewport" (viewportFromValue codecs)
  let viewport ← required "viewport" viewport
  return (viewport, epochId.getD none, limit.getD defaultMaxCells)

def regionFromArray (expected : String) (xs : List (Value N)) :
    Input N (Viewport F × Option EpochId × Nat) := do
  let viewport ← elementAt xs 0 expected (viewportFromValue codecs)
  let epochId ← elementOr xs 1 none (optionFromValue (epochIdFromValue codecs))
  let limit ← elementOr xs 2 defaultMaxCells (usizeFromValue codecs)
  atMost xs 3 fewerElements
  return (viewport, epochId, limit)

def renderViewportInputFromValue (v : Value N) :
    Input N (RenderViewportInput F) := do
  let (viewport, epochId, maxCells) ← structFromValue "RenderViewportInput"
    (regionFromObject codecs "max_cells")
    (regionFromArray codecs "struct RenderViewportInput with 3 elements") v
  return { viewport := viewport, epochId := epochId, maxCells := maxCells }

def queryCellsInRegionInputFromValue (v : Value N) :
    Input N (QueryCellsInRegionInput F) := do
  let (viewport, epochId, limit) ← structFromValue "QueryCellsInRegionInput"
    (regionFromObject codecs "limit")
    (regionFromArray codecs "struct QueryCellsInRegionInput with 3 elements") v
  return { viewport := viewport, epochId := epochId, limit := limit }

def getCellStateInputFromValue : Value N → Input N GetCellStateInput :=
  structFromValue "GetCellStateInput"
    (fun ms => do
      let epochId ← field ms "epoch_id"
        (optionFromValue (epochIdFromValue codecs))
      let h3Cell ← field ms "h3_cell" h3CellFromValue
      let h3Cell ← required "h3_cell" h3Cell
      return { h3Cell := h3Cell, epochId := epochId.getD none })
    (fun xs => do
      let expected := "struct GetCellStateInput with 2 elements"
      let h3Cell ← elementAt xs 0 expected h3CellFromValue
      let epochId ← elementOr xs 1 none
        (optionFromValue (epochIdFromValue codecs))
      atMost xs 2 fewerElements
      return { h3Cell := h3Cell, epochId := epochId })

def getProvenanceInputFromValue : Value N → Input N GetProvenanceInput :=
  structFromValue "GetProvenanceInput"
    (fun ms => do
      let epochId ← field ms "epoch_id" (epochIdFromValue codecs)
      let h3Cell ← field ms "h3_cell" h3CellFromValue
      let h3Cell ← required "h3_cell" h3Cell
      let epochId ← required "epoch_id" epochId
      return { h3Cell := h3Cell, epochId := epochId })
    (fun xs => do
      let expected := "struct GetProvenanceInput with 2 elements"
      let h3Cell ← elementAt xs 0 expected h3CellFromValue
      let epochId ← elementAt xs 1 expected (epochIdFromValue codecs)
      atMost xs 2 fewerElements
      return { h3Cell := h3Cell, epochId := epochId })

def attestationFromObject (ms : List (Text × Value N)) :
    Input N (Attestation N) := do
  let attestationId ← field ms "attestation_id" (uuidFromValue codecs)
  let attesterPk ← field ms "attester_pk" (hexBytesFromValue 32)
  let claim ← field ms "claim" .ok
  let claimHash ← field ms "claim_hash" (hexBytesFromValue 32)
  let epochId ← field ms "epoch_id" (epochIdFromValue codecs)
  let expiresAt ← field ms "expires_at"
    (optionFromValue (dateTimeFromValue codecs))
  let h3Cell ← field ms "h3_cell" h3CellFromValue
  let issuedAt ← field ms "issued_at" (dateTimeFromValue codecs)
  let signature ← field ms "signature" (hexBytesFromValue 64)
  let tenantId ← field ms "tenant_id" (tenantIdFromValue codecs)
  let attestationId ← required "attestation_id" attestationId
  let tenantId ← required "tenant_id" tenantId
  let h3Cell ← required "h3_cell" h3Cell
  let epochId ← required "epoch_id" epochId
  let attesterPk ← required "attester_pk" attesterPk
  let claim ← required "claim" claim
  let claimHash ← required "claim_hash" claimHash
  let signature ← required "signature" signature
  let issuedAt ← required "issued_at" issuedAt
  return {
    attestationId := attestationId
    tenantId := tenantId
    h3Cell := h3Cell
    epochId := epochId
    attesterPk := attesterPk
    claim := claim
    claimHash := claimHash
    signature := signature
    issuedAt := issuedAt
    expiresAt := expiresAt.getD none }

def attestationFromArray (xs : List (Value N)) :
    Input N (Attestation N) := do
  let expected := "struct Attestation with 10 elements"
  let attestationId ← elementAt xs 0 expected (uuidFromValue codecs)
  let tenantId ← elementAt xs 1 expected (tenantIdFromValue codecs)
  let h3Cell ← elementAt xs 2 expected h3CellFromValue
  let epochId ← elementAt xs 3 expected (epochIdFromValue codecs)
  let attesterPk ← elementAt xs 4 expected (hexBytesFromValue 32)
  let claim ← elementAt xs 5 expected .ok
  let claimHash ← elementAt xs 6 expected (hexBytesFromValue 32)
  let signature ← elementAt xs 7 expected (hexBytesFromValue 64)
  let issuedAt ← elementAt xs 8 expected (dateTimeFromValue codecs)
  let expiresAt ← elementAt xs 9 expected
    (optionFromValue (dateTimeFromValue codecs))
  atMost xs 10 fewerElements
  return {
    attestationId := attestationId
    tenantId := tenantId
    h3Cell := h3Cell
    epochId := epochId
    attesterPk := attesterPk
    claim := claim
    claimHash := claimHash
    signature := signature
    issuedAt := issuedAt
    expiresAt := expiresAt }

def attestationFromValue : Value N → Input N (Attestation N) :=
  structFromValue "Attestation" (attestationFromObject codecs)
    (attestationFromArray codecs)

/-- `VerifyAttestationInput`, as its one field. -/
def verifyAttestationInputFromValue : Value N → Input N (Attestation N) :=
  structFromValue "VerifyAttestationInput"
    (fun ms => do
      let attestation ← field ms "attestation" (attestationFromValue codecs)
      required "attestation" attestation)
    (fun xs => do
      let attestation ← elementAt xs 0
        "struct VerifyAttestationInput with 1 element"
        (attestationFromValue codecs)
      atMost xs 1 fewerElements
      return attestation)

/-! ## Reading back what was written -/

private theorem hexPadded_two : ∀ n < 256,
    hexPadded 2 n = [Nat.digitChar (n / 16), Nat.digitChar (n % 16)] := by
  decide +kernel

private theorem utf8_digitChar : ∀ d < 16,
    String.utf8EncodeChar (Nat.digitChar d) =
        [UInt8.ofNat (Nat.digitChar d).toNat] ∧
      hexDigitByte (UInt8.ofNat (Nat.digitChar d).toNat) = some d := by
  decide +kernel

/-- The two digits of a byte are read as that byte. -/
private theorem hexPairs_byte (b : UInt8) (i : Nat) (rest : List UInt8) :
    hexPairs i ((hexPadded 2 b.toNat).flatMap String.utf8EncodeChar ++ rest) =
      (hexPairs (i + 2) rest).map (b :: ·) := by
  have hb := b.toNat_lt
  have hhigh := utf8_digitChar (b.toNat / 16) (by omega)
  have hlow := utf8_digitChar (b.toNat % 16) (by omega)
  have hval : b.toNat / 16 * 16 + b.toNat % 16 = b.toNat := by omega
  rw [hexPadded_two b.toNat hb, List.flatMap_cons, List.flatMap_singleton,
    hhigh.1, hlow.1, List.singleton_append, List.cons_append,
    List.singleton_append, hexPairs, hhigh.2, hlow.2]
  simp only [hval, UInt8.ofNat_toNat]

/-- **Bytes are read back from their digits.** -/
theorem hexDecode_hexEncode (bytes : List UInt8) :
    hexDecode (hexEncode bytes) = .ok bytes := by
  have hlength : ∀ b : UInt8,
      ((hexPadded 2 b.toNat).flatMap String.utf8EncodeChar).length = 2 := by
    intro b
    have hb := b.toNat_lt
    rw [hexPadded_two b.toNat hb, List.flatMap_cons, List.flatMap_singleton,
      (utf8_digitChar (b.toNat / 16) (by omega)).1,
      (utf8_digitChar (b.toNat % 16) (by omega)).1]
    rfl
  have heven : ((hexEncode bytes).flatMap String.utf8EncodeChar).length % 2 =
      0 := by
    induction bytes with
    | nil => rfl
    | cons b bytes ih =>
        rw [hexEncode, List.flatMap_cons, List.flatMap_append,
          List.length_append, hlength]
        exact (Nat.add_mod_left 2 _).trans ih
  have hpairs : ∀ i, hexPairs i
      ((hexEncode bytes).flatMap String.utf8EncodeChar) = .ok bytes := by
    clear heven
    induction bytes with
    | nil => exact fun _ => rfl
    | cons b bytes ih =>
        intro i
        have htail := ih (i + 2)
        rw [hexEncode] at htail
        rw [hexEncode, List.flatMap_cons, List.flatMap_append, hexPairs_byte,
          htail]
        rfl
  rw [hexDecode, if_neg (not_not_intro heven)]
  exact hpairs 0

@[simp] theorem hexBytesFromValue_toValue {n : Nat} (b : HexBytes n) :
    hexBytesFromValue (N := N) n (hexBytesToValue b) = .ok b := by
  have hstring : stringFromValue (hexBytesToValue (N := N) b) =
      .ok (hexEncode b.bytes) := rfl
  rw [hexBytesFromValue, hstring, Input.ok_bind, hexDecode_hexEncode]
  simp only [pure_bind, HexBytes.fromSlice_bytes]
  rfl

@[simp] theorem h3CellFromValue_toValue (h : H3Cell) :
    h3CellFromValue (N := N) (h3CellToValue h) = .ok h := by
  have hstring : stringFromValue (h3CellToValue (N := N) h) =
      .ok (H3Text.serialize h) := rfl
  rw [h3CellFromValue, hstring, Input.ok_bind, H3Text.fromHex_serialize]
  rfl

/-- What the other crates write they read back: every integer of 64 bits and
every UUID. -/
structure Lawful : Prop where
  asI64 : ∀ i : Int, -2 ^ 63 ≤ i → i < 2 ^ 63 →
    codecs.asI64 (codecs.fromI64 i) = some i
  asU64 : ∀ n : Nat, n < 2 ^ 64 → codecs.asU64 (codecs.fromI64 n) = some n
  parseUuid : ∀ u : BitVec 128,
    codecs.parseUuid (TenantId.toText ⟨u⟩) = .ok u

/-- The time is read back from its text: one that RFC 3339 can write. -/
def Dated (t : Timestamp) : Prop :=
  codecs.parseDateTime (codecs.formatDateTime t) = .ok t

/-- An epoch that is an `i64`. -/
def EpochInRange (e : EpochId) : Prop := -2 ^ 63 ≤ e.val ∧ e.val < 2 ^ 63

variable {codecs}

theorem epochIdFromValue_toValue {e : EpochId}
    (he : codecs.asI64 (codecs.fromI64 e.val) = some e.val) :
    epochIdFromValue codecs (epochIdToValue codecs e) = .ok e := by
  have htree : (epochIdToValue codecs e).tree =
      .num (codecs.fromI64 e.val) := rfl
  rw [epochIdFromValue, i64FromValue]
  simp only [htree, he]
  rfl

theorem uuidFromValue_toValue (hl : Lawful codecs) (u : BitVec 128) :
    uuidFromValue codecs (uuidToValue u) = .ok u := by
  have hstring : (uuidToValue (N := N) u).asStr =
      some (TenantId.toText ⟨u⟩) := rfl
  rw [uuidFromValue]
  simp only [hstring, hl.parseUuid]

theorem tenantIdFromValue_toValue (hl : Lawful codecs) (t : TenantId) :
    tenantIdFromValue codecs (tenantIdToValue t) = .ok t := by
  have h := uuidFromValue_toValue hl t.uuid
  rw [uuidToValue] at h
  rw [tenantIdFromValue, h]
  rfl

theorem dateTimeFromValue_toValue {t : Timestamp} (ht : Dated codecs t) :
    dateTimeFromValue codecs (dateTimeToValue codecs t) = .ok t := by
  have hstring : (dateTimeToValue codecs t).asStr =
      some (codecs.formatDateTime t) := rfl
  have hparse : codecs.parseDateTime (codecs.formatDateTime t) = .ok t := ht
  rw [dateTimeFromValue]
  simp only [hstring, hparse]

/-- An optional time. -/
theorem optionDateTime_toValue {t : Option Timestamp}
    (ht : ∀ u, t = some u → Dated codecs u) :
    optionFromValue (dateTimeFromValue codecs)
        (optionToValue (dateTimeToValue codecs) t) = .ok t := by
  cases t with
  | none => rfl
  | some u =>
      have htree : (optionToValue (dateTimeToValue codecs) (some u)).tree =
          .str (codecs.formatDateTime u) := rfl
      rw [optionFromValue]
      simp only [htree]
      rw [optionToValue, dateTimeFromValue_toValue (ht u rfl)]
      rfl

/-- The members of an object, by their keys. -/
theorem exists_members (ms : List (Text × Value N)) :
    ∃ ns, (Value.object ms).asObject = some ns ∧
      ∀ k, ns.lookup k = ms.reverse.lookup k := by
  refine ⟨_, rfl, ?_⟩
  intro k
  exact Value.get_object ms k

theorem field_of_lookup {α : Type} {ms : List (Text × Value N)}
    {name : String} {fromValue : Value N → Input N α} {v : Value N} {a : α}
    (hv : ms.lookup name.toList = some v) (ha : fromValue v = .ok a) :
    field ms name fromValue = .ok (some a) := by
  rw [field, hv]
  simp only [ha]
  rfl

/-- The fields of an attestation that have a range are in it. -/
structure InRange (codecs : Codecs F N) (a : Attestation N) : Prop where
  epochId : EpochInRange a.epochId
  issuedAt : Dated codecs a.issuedAt
  expiresAt : ∀ t, a.expiresAt = some t → Dated codecs t

/-- **An attestation is read back from what a bundle lists it as.** -/
theorem attestationFromValue_toValue (hl : Lawful codecs) {a : Attestation N}
    (ha : InRange codecs a) :
    attestationFromValue codecs (attestationToValue codecs a) = .ok a := by
  obtain ⟨ns, hns, hlookup⟩ := exists_members
    [ ("attestation_id".toList, uuidToValue (N := N) a.attestationId)
    , ("tenant_id".toList, tenantIdToValue a.tenantId)
    , ("h3_cell".toList, h3CellToValue a.h3Cell)
    , ("epoch_id".toList, epochIdToValue codecs a.epochId)
    , ("attester_pk".toList, hexBytesToValue a.attesterPk)
    , ("claim".toList, a.claim)
    , ("claim_hash".toList, hexBytesToValue a.claimHash)
    , ("signature".toList, hexBytesToValue a.signature)
    , ("issued_at".toList, dateTimeToValue codecs a.issuedAt)
    , ("expires_at".toList,
        optionToValue (dateTimeToValue codecs) a.expiresAt) ]
  have hobject : attestationFromValue codecs (attestationToValue codecs a) =
      attestationFromObject codecs ns := by
    rw [attestationFromValue, attestationToValue, structFromValue, hns]
  rw [hobject, attestationFromObject,
    field_of_lookup (hlookup _) (uuidFromValue_toValue hl a.attestationId),
    field_of_lookup (hlookup _) (hexBytesFromValue_toValue a.attesterPk),
    field_of_lookup (hlookup _) (rfl : Except.ok a.claim = .ok a.claim),
    field_of_lookup (hlookup _) (hexBytesFromValue_toValue a.claimHash),
    field_of_lookup (hlookup _) (epochIdFromValue_toValue
      (hl.asI64 a.epochId.val ha.epochId.1 ha.epochId.2)),
    field_of_lookup (hlookup _) (optionDateTime_toValue ha.expiresAt),
    field_of_lookup (hlookup _) (h3CellFromValue_toValue a.h3Cell),
    field_of_lookup (hlookup _) (dateTimeFromValue_toValue ha.issuedAt),
    field_of_lookup (hlookup _) (hexBytesFromValue_toValue a.signature),
    field_of_lookup (hlookup _) (tenantIdFromValue_toValue hl a.tenantId)]
  rfl

end Inputs

/-! ## A small instance

Integers for `f64`, decimal texts for times, and the hyphenated form of UUIDs.
-/

/-- The number of the digits between the hyphens. -/
def readHyphenated (s : Text) : BitVec 128 :=
  BitVec.ofNat 128 (value 16 hexDigit (s.filter (· ≠ '-')))

theorem hexPadded_spec (width n : Nat) :
    AllDigits 16 hexDigit (hexPadded width n) ∧
      value 16 hexDigit (hexPadded width n) = n := by
  have hn : AllDigits 16 hexDigit (hexLower n) ∧
      value 16 hexDigit (hexLower n) = n :=
    value_toDigits (by decide) (fun _ => H3Text.hexDigit_digitChar) n
  have hzeros : ∀ k, AllDigits 16 hexDigit (List.replicate k '0') ∧
      value 16 hexDigit (List.replicate k '0') = 0 := by
    intro k
    induction k with
    | zero => exact ⟨allDigits_nil, rfl⟩
    | succ k ih =>
        exact ⟨allDigits_cons.mpr ⟨⟨0, by decide, by decide⟩, ih.1⟩, ih.2⟩
  obtain ⟨hdigits, hvalue⟩ := hzeros (width - (hexLower n).length)
  exact ⟨allDigits_append.mpr ⟨hdigits, hn.1⟩, by
    rw [hexPadded, value_append, hvalue, hn.2, Nat.zero_mul, Nat.zero_add]⟩

theorem readHyphenated_toText (u : BitVec 128) :
    readHyphenated (TenantId.toText ⟨u⟩) = u := by
  obtain ⟨hdigits, hvalue⟩ := hexPadded_spec 32 u.toNat
  have hkept : ∀ xs : Text, (∀ c ∈ xs, c ∈ hexPadded 32 u.toNat) →
      xs.filter (· ≠ '-') = xs := by
    intro xs hxs
    refine List.filter_eq_self.mpr fun c hc => decide_eq_true ?_
    rintro rfl
    exact hdigits.not_mem (by decide : hexDigit '-' = none) (hxs _ hc)
  have htext : (TenantId.toText ⟨u⟩).filter (· ≠ '-') =
      hexPadded 32 u.toNat := by
    have hhyphen : ∀ xs : Text, ('-' :: xs).filter (· ≠ '-') =
        xs.filter (· ≠ '-') := fun xs => List.filter_cons_of_neg (by decide)
    have hdrop : ∀ k, ∀ c ∈ (hexPadded 32 u.toNat).drop k,
        c ∈ hexPadded 32 u.toNat := fun k c hc => List.mem_of_mem_drop hc
    simp only [TenantId.toText, List.filter_append, hhyphen]
    rw [hkept _ fun c hc => List.mem_of_mem_take hc,
      hkept _ fun c hc => hdrop 8 c (List.mem_of_mem_take hc),
      hkept _ fun c hc => hdrop 12 c (List.mem_of_mem_take hc),
      hkept _ fun c hc => hdrop 16 c (List.mem_of_mem_take hc),
      hkept _ fun c hc => hdrop 20 c hc]
    have hsplit : ∀ i j, ((hexPadded 32 u.toNat).drop i).take j ++
        (hexPadded 32 u.toNat).drop (i + j) = (hexPadded 32 u.toNat).drop i := by
      intro i j
      rw [← List.drop_drop, List.take_append_drop]
    rw [List.append_assoc, List.append_assoc, List.append_assoc, hsplit 16 4,
      hsplit 12 4, hsplit 8 4, List.take_append_drop]
  rw [readHyphenated, htext, hvalue, BitVec.ofNat_toNat, BitVec.setWidth_eq]

/-- Whole numbers throughout. -/
def wholeCodecs : Codecs Int Int where
  fromI64 := id
  fromF64 := some
  asI64 := some
  asU64 := fun n => if 0 ≤ n then some n.toNat else none
  asF64 := id
  formatDateTime := intText.number
  parseDateTime := fun s =>
    match intText.readNumber s with
    | some t => .ok t
    | none => .error "input contains invalid characters".toList
  parseUuid := fun s => .ok (readHyphenated s)

theorem lawful_wholeCodecs : Lawful wholeCodecs where
  asI64 := fun _ _ _ => rfl
  asU64 := by
    intro n _
    show (if 0 ≤ (n : Int) then some (n : Int).toNat else none) = some n
    rw [if_pos (Int.natCast_nonneg n), Int.toNat_natCast]
  parseUuid := fun u => congrArg Except.ok (readHyphenated_toText u)

theorem dated_wholeCodecs (t : Timestamp) : Dated wholeCodecs t := by
  show (match intText.readNumber (intText.number t) with
    | some t => Except.ok t
    | none => _) = _
  rw [show intText.readNumber (intText.number t) = some t from
    readInt_intDecimal t]

theorem attestationFromValue_toValue_attested :
    attestationFromValue wholeCodecs
        (attestationToValue wholeCodecs VerifyAttestation.attested) =
      .ok VerifyAttestation.attested :=
  attestationFromValue_toValue lawful_wholeCodecs
    { epochId := by constructor <;> decide
      issuedAt := dated_wholeCodecs _
      expiresAt := fun t _ => dated_wholeCodecs t }

end RenderEngine.Ports.ToolInputs
