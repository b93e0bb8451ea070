import RenderEngine.Ports.CanonicalJson
import RenderEngine.Ports.MerkleProof
import RenderEngine.Ports.Schema

/-!
# The seeder (`seed-data/src/main.rs`)

`write_epoch` and the loop of `main` over the epochs of one tenant.  What a
call writes is computed first (`EpochCall.cells`, `EpochCall.hashes`); the
transaction then decides how much of it goes in.

Floating-point values stay abstract: `cell_value` and the conversion of an
`f64` to a JSON number are fields of `Libraries`, beside the hash and the
signature.

## Main results

* `writeEpoch_cases`: all that a committed call can have done.
* `writeEpoch_ok`: for a registered tenant the call commits.
-/

namespace RenderEngine.Ports.SeedWriter

open RenderEngine.Ports.CoreTypes
open RenderEngine.Ports.Serde
open RenderEngine.Ports.CanonicalJson
open RenderEngine.Ports.Schema
open RenderEngine.Ports.MerkleProof
open RenderEngine.Verified.KeyedRows

/-! ## Configuration -/

/-- `EPOCH_COUNT`. -/
def epochCount : Nat := 10

/-- `H3_RESOLUTION`. -/
def h3Resolution : Int := 11

/-- `BATCH_SIZE`. -/
def batchSize : Nat := 100

/-! ## Substations -/

structure SubstationProps where
  osmId : Text
  operator : Option Text
  ref : Option Text
  voltage : Option Text
  name : Option Text
  substationType : Option Text

/-- A `Substation`; `F` is `f64`. -/
structure Substation (F : Type) where
  osmId : Text
  h3 : H3Cell
  lat : F
  lon : F
  props : SubstationProps
  signingKey : HexBytes32
  baseLoadPu : F

/-- What the seeder calls and this model leaves open. -/
structure Libraries (F N : Type) where
  serde : SerdeText N
  /-- `Number::from_f64`; a NaN or an infinity is no number -/
  fromF64 : F → Option N
  fromI64 : Int → N
  blake3 : List UInt8 → HexBytes32
  verifyingKey : HexBytes32 → HexBytes32
  sign : HexBytes32 → List UInt8 → HexBytes64
  cellValue : Substation F → Int → F
  toRfc3339 : Timestamp → Text

/-- `as_bytes` of a `str`. -/
def asBytes (s : Text) : List UInt8 := s.flatMap String.utf8EncodeChar

/-- `epoch_sealed_at`: 2026-04-01 06:00 UTC and 12 hours for each epoch. -/
def epochSealedAt (epochId : Int) : Timestamp :=
  1775023200000000 + 12 * epochId * 3600000000

section Writer

variable {F N : Type} (lib : Libraries F N)

/-- `json!` of an `f64`. -/
def jsonF64 (x : F) : Value N :=
  match lib.fromF64 x with
  | some n => Value.number n
  | none => Value.null

/-- A tag that is inserted when it is there. -/
def optionalTag (key : String) (tag : Option Text) : List (Text × Value N) :=
  match tag with
  | some s => [(key.toList, Value.string s)]
  | none => []

/-- The payload of one cell at one epoch. -/
def payload (sub : Substation F) (epochId : Int) (sealedAt : Timestamp) :
    Value N :=
  Value.object
    ([ ("asset_class".toList, Value.string "substation".toList)
     , ("measurement".toList, Value.string "grid_load_pu".toList)
     , ("value".toList, jsonF64 lib (lib.cellValue sub epochId))
     , ("unit".toList, Value.string "per_unit".toList)
     , ("quality".toList, Value.string "simulated_on_real_topology".toList)
     , ("epoch".toList, Value.number (lib.fromI64 epochId))
     , ("h3_resolution".toList, Value.number (lib.fromI64 h3Resolution))
     , ("timestamp".toList, Value.string (lib.toRfc3339 sealedAt))
     , ("osm_id".toList, Value.string sub.osmId)
     , ("location".toList, Value.object
         [ ("lat".toList, jsonF64 lib sub.lat)
         , ("lon".toList, jsonF64 lib sub.lon) ]) ]
     ++ optionalTag "operator" sub.props.operator
     ++ optionalTag "ref" sub.props.ref
     ++ optionalTag "voltage" sub.props.voltage
     ++ optionalTag "name" sub.props.name
     ++ optionalTag "substation_type" sub.props.substationType)

/-- `blake3(canonical_json(payload))`. -/
def contentHashOf (v : Value N) : HexBytes32 :=
  lib.blake3 (asBytes (canonicalJson lib.serde v))

/-- `Row` of `write_epoch`. -/
structure SeedRow (F N : Type) where
  sub : Substation F
  payload : Value N
  identityPk : HexBytes32
  contentHash : HexBytes32
  signature : HexBytes64

def seedRow (epochId : Int) (sealedAt : Timestamp) (sub : Substation F) :
    SeedRow F N :=
  let payload := payload lib sub epochId sealedAt
  let contentHash := contentHashOf lib payload
  { sub := sub
    payload := payload
    identityPk := lib.verifyingKey sub.signingKey
    contentHash := contentHash
    signature := lib.sign sub.signingKey contentHash.bytes }

/-- The arguments of one `write_epoch` call and the time of its transaction. -/
structure EpochCall (F : Type) where
  tenant : TenantId
  epochId : Int
  sealedAt : Timestamp
  parentRoot : Option HexBytes32
  substations : List (Substation F)
  now : Timestamp

namespace EpochCall

variable (call : EpochCall F)

/-- `sort_by_key(|s| s.h3 as i64)`. -/
def ordered : List (Substation F) :=
  call.substations.insertionSort (fun a b => a.h3.asI64 ≤ b.h3.asI64)

def rows : List (SeedRow F N) :=
  call.ordered.map (seedRow lib call.epochId call.sealedAt)

/-- The leaves of the root the call computes. -/
def hashes : List HexBytes32 := (call.rows lib).map SeedRow.contentHash

/-- The bound values of one cell insert. -/
def cellOf (row : SeedRow F N) : CellStateRow N where
  tenantId := call.tenant
  h3Cell := row.sub.h3.asI64
  epochId := call.epochId
  identityPk := row.identityPk
  payload := row.payload
  contentHash := row.contentHash
  signature := row.signature
  writtenAt := call.now

/-- The cells the call inserts, in order. -/
def cells : List (CellStateRow N) := (call.rows lib).map call.cellOf

/-- The bound values of the epoch insert. -/
def epochRow (root : HexBytes32) : EpochRow where
  tenantId := call.tenant
  epochId := call.epochId
  sealedAt := call.sealedAt
  merkleRoot := root
  parentRoot := call.parentRoot
  cellCount := (call.rows lib).length

end EpochCall

/-- `chunks(n)`, with a bound on their number. -/
def chunksFrom {α : Type} (n : Nat) : Nat → List α → List (List α)
  | 0, _ => []
  | fuel + 1, xs =>
      if xs.isEmpty then [] else xs.take n :: chunksFrom n fuel (xs.drop n)

/-- `rows.chunks(n)`. -/
def chunks {α : Type} (n : Nat) (xs : List α) : List (List α) :=
  chunksFrom n xs.length xs

variable (pair : HexBytes32 → HexBytes32 → HexBytes32)

/-- The `EXISTS` query of `write_epoch` and the insert it guards. -/
def openEpoch (db : Database N) (row : EpochRow) : Outcome (Database N) :=
  match db.findEpoch row.tenantId row.epochId with
  | some _ => .ok db
  | none => db.insertEpoch row

/-- `write_epoch`: the committed database and the root it returns. -/
def writeEpoch (db : Database N) (call : EpochCall F) :
    Outcome (Database N × HexBytes32) := do
  let rows := call.rows lib
  let root ← merkleRoot pair (HexBytes.zero 32) (call.hashes lib)
  let db ← openEpoch db (call.epochRow lib root)
  let db ← (chunks batchSize rows).foldlM
    (fun db chunk => db.insertCells (chunk.map call.cellOf)) db
  return (db, root)

/-! ## What a call writes -/

theorem flatten_chunksFrom {α : Type} {n : Nat} (hn : 0 < n) (fuel : Nat)
    (xs : List α) (hfuel : xs.length ≤ fuel) :
    (chunksFrom n fuel xs).flatten = xs := by
  induction fuel generalizing xs with
  | zero =>
      rw [List.length_eq_zero_iff.mp (Nat.le_zero.mp hfuel)]
      rfl
  | succ fuel ih =>
      unfold chunksFrom
      cases xs with
      | nil => rfl
      | cons x xs =>
          have hdrop : ((x :: xs).drop n).length ≤ fuel := by
            rw [List.length_drop]
            simp only [List.length_cons] at hfuel ⊢
            omega
          rw [if_neg (by simp), List.flatten_cons, ih _ hdrop,
            List.take_append_drop]

theorem flatten_chunks {α : Type} {n : Nat} (hn : 0 < n) (xs : List α) :
    (chunks n xs).flatten = xs :=
  flatten_chunksFrom hn xs.length xs (Nat.le_refl _)

/-- Afterwards the epoch row is there: the one found, or the new one. -/
theorem openEpoch_cases {db db' : Database N} {row : EpochRow}
    (h : openEpoch db row = .ok db') :
    row.key ∈ db'.epochs.map EpochRow.key ∧ db'.tenants = db.tenants ∧
    db'.cellStates = db.cellStates ∧
    ((∃ r, db.findEpoch row.tenantId row.epochId = some r) ∧
        db'.epochs = db.epochs ∨
      db.findEpoch row.tenantId row.epochId = none ∧
        db'.epochs = db.epochs ++ [row]) := by
  unfold openEpoch at h
  cases hfind : db.findEpoch row.tenantId row.epochId with
  | some r =>
      rw [hfind] at h
      cases h
      have hr := (findEpoch_eq_some_iff db _ _ r).mp hfind
      exact ⟨List.mem_map.mpr ⟨r, hr⟩, rfl, rfl, Or.inl ⟨⟨r, rfl⟩, rfl⟩⟩
  | none =>
      rw [hfind] at h
      have hins := insertEpoch_of_ok h
      refine ⟨?_, hins.1, hins.2.2, Or.inr ⟨rfl, hins.2.1⟩⟩
      rw [hins.2.1]
      exact List.mem_map_of_mem (by simp)

theorem openEpoch_ok (db : Database N) (row : EpochRow)
    (htenant : row.tenantId ∈ db.tenants) :
    ∃ db', openEpoch db row = .ok db' := by
  unfold openEpoch
  cases hfind : db.findEpoch row.tenantId row.epochId with
  | some r => exact ⟨db, rfl⟩
  | none =>
      have hfresh := (findEpoch_eq_none_iff db _ _).mp hfind
      rcases insertEpoch_ok db row hfresh htenant with ⟨db', hok, -⟩
      exact ⟨db', hok⟩

/-- Inserting cells chunk by chunk inserts them all. -/
theorem insertChunks_ok (call : EpochCall F) (blocks : List (List (SeedRow F N)))
    (db : Database N)
    (hepoch : (call.tenant, call.epochId) ∈ db.epochs.map EpochRow.key) :
    ∃ db', blocks.foldlM
        (fun db chunk => db.insertCells (chunk.map call.cellOf)) db = .ok db' ∧
      db'.tenants = db.tenants ∧ db'.epochs = db.epochs ∧
      db'.cellStates = insertAll CellStateRow.key db.cellStates
        (blocks.flatten.map call.cellOf) := by
  induction blocks generalizing db with
  | nil => exact ⟨db, rfl, rfl, rfl, rfl⟩
  | cons block blocks ih =>
      have hfkey : ∀ r ∈ block.map call.cellOf,
          r.epochKey ∈ db.epochs.map EpochRow.key := by
        intro r hr
        rcases List.mem_map.mp hr with ⟨row, -, rfl⟩
        exact hepoch
      rcases insertCells_ok db (block.map call.cellOf) hfkey with
        ⟨db₁, hok, htenants, hepochs, hcells⟩
      rcases ih db₁ (hepochs ▸ hepoch) with
        ⟨db₂, hok₂, htenants₂, hepochs₂, hcells₂⟩
      refine ⟨db₂, ?_, htenants₂.trans htenants, hepochs₂.trans hepochs, ?_⟩
      · rw [List.foldlM_cons, hok]
        exact hok₂
      · rw [hcells₂, hcells, List.flatten_cons, List.map_append,
          insertAll_append]

@[simp] theorem rows_length (call : EpochCall F) :
    (call.rows lib).length = call.substations.length := by
  rw [EpochCall.rows, List.length_map, EpochCall.ordered,
    List.length_insertionSort]

@[simp] theorem hashes_length (call : EpochCall F) :
    (call.hashes lib).length = call.substations.length := by
  rw [EpochCall.hashes, List.length_map, rows_length]

/-- The stored hashes of the cells are the leaves of the computed root. -/
theorem cells_hashes (call : EpochCall F) :
    (call.cells lib).map CellStateRow.contentHash = call.hashes lib := by
  rw [EpochCall.cells, List.map_map]
  rfl

theorem cells_epochKey (call : EpochCall F) {r : CellStateRow N}
    (hr : r ∈ call.cells lib) : r.epochKey = (call.tenant, call.epochId) := by
  rcases List.mem_map.mp hr with ⟨row, -, rfl⟩
  rfl

/-- **All that a committed `write_epoch` can have done.**  It returns the root
of its own list.  The cells go in where their key is free; the epoch row goes
in where the epoch was missing and is left alone where it was not. -/
theorem writeEpoch_cases {db db' : Database N} {call : EpochCall F}
    {root : HexBytes32} (h : writeEpoch lib pair db call = .ok (db', root)) :
    merkleRoot pair (HexBytes.zero 32) (call.hashes lib) = .ok root ∧
    db'.tenants = db.tenants ∧
    db'.cellStates =
      insertAll CellStateRow.key db.cellStates (call.cells lib) ∧
    ((∃ r, db.findEpoch call.tenant call.epochId = some r) ∧
        db'.epochs = db.epochs ∨
      db.findEpoch call.tenant call.epochId = none ∧
        db'.epochs = db.epochs ++ [call.epochRow lib root]) := by
  rcases merkleRoot_total pair (HexBytes.zero 32) (call.hashes lib) with
    ⟨root', hroot⟩
  simp only [writeEpoch, hroot, Outcome.ok_bind] at h
  cases hopen : openEpoch db (call.epochRow lib root') with
  | error e => simp [hopen] at h
  | ok db₀ =>
      have hcases := openEpoch_cases hopen
      rcases insertChunks_ok call (chunks batchSize (call.rows lib)) db₀
        hcases.1 with ⟨db₁, hok, htenants, hepochs, hcells⟩
      simp only [hopen, hok, Outcome.ok_bind] at h
      cases h
      rw [flatten_chunks (by decide), hcases.2.2.1] at hcells
      rw [hepochs]
      exact ⟨hroot, htenants.trans hcases.2.1, hcells, hcases.2.2.2⟩

/-- For a registered tenant the call commits. -/
theorem writeEpoch_ok (db : Database N) (call : EpochCall F)
    (htenant : call.tenant ∈ db.tenants) :
    ∃ db' root, writeEpoch lib pair db call = .ok (db', root) := by
  rcases merkleRoot_total pair (HexBytes.zero 32) (call.hashes lib) with
    ⟨root, hroot⟩
  rcases openEpoch_ok db (call.epochRow lib root) htenant with ⟨db₀, hopen⟩
  rcases insertChunks_ok call (chunks batchSize (call.rows lib)) db₀
    (openEpoch_cases hopen).1 with ⟨db₁, hok, -, -, -⟩
  refine ⟨db₁, root, ?_⟩
  simp only [writeEpoch, hroot, hopen, hok, Outcome.ok_bind]
  rfl

/-! ## `main` -/

/-- One invocation of the seeder: its substations and how many epochs it
commits before it stops (`EPOCH_COUNT` when nothing interrupts it). -/
structure SeederRun (F : Type) where
  substations : List (Substation F)
  committed : Nat
  now : Timestamp

/-- The call `main` makes for one epoch. -/
def SeederRun.call (r : SeederRun F) (tenant : TenantId) (epochId : Int)
    (parentRoot : Option HexBytes32) : EpochCall F where
  tenant := tenant
  epochId := epochId
  sealedAt := epochSealedAt epochId
  parentRoot := parentRoot
  substations := r.substations
  now := r.now

/-- The loop of `main` over `n` epochs from `epochId` on, carrying the root
that the last call returned. -/
def seedLoop (tenant : TenantId) (r : SeederRun F) :
    Nat → Int → Option HexBytes32 → Database N → Outcome (Database N)
  | 0, _, _, db => .ok db
  | n + 1, epochId, parentRoot, db => do
      let (db, root) ← writeEpoch lib pair db (r.call tenant epochId parentRoot)
      seedLoop tenant r n (epochId + 1) (some root) db

/-- `verify_tenant_exists`. -/
def verifyTenantExists (db : Database N) (tenant : TenantId) : Outcome Unit :=
  if tenant ∈ db.tenants then .ok ()
  else .error (.core (.other ("seed tenant ".toList ++ tenant.toText
    ++ " not found — apply migration 0001 first".toList)))

/-- `main` from the database connection on, up to where it stops. -/
def seed (tenant : TenantId) (db : Database N) (r : SeederRun F) :
    Outcome (Database N) := do
  verifyTenantExists db tenant
  seedLoop lib pair tenant r r.committed 0 none db

end Writer

/-! ## A small instance

Integers for `f64`, decimal texts, and a polynomial checksum for the hash.
-/

/-- 32 bytes of a number, lowest first. -/
def bytesOfNat (n : Nat) : HexBytes32 :=
  ⟨(List.range 32).map fun i => UInt8.ofNat (n / 256 ^ i % 256), by simp⟩

def checksum (bytes : List UInt8) : HexBytes32 :=
  bytesOfNat (bytes.foldl (fun acc b => acc * 257 + b.toNat + 1) 0)

/-- `blake3(left || right)` with the checksum for `blake3`. -/
def checksumPair (left right : HexBytes32) : HexBytes32 :=
  checksum (left.bytes ++ right.bytes)

def checksumLibraries : Libraries Int Int where
  serde := intText
  fromF64 := some
  fromI64 := id
  blake3 := checksum
  verifyingKey := id
  sign := fun _ _ => HexBytes.zero 64
  cellValue := fun sub epochId => sub.baseLoadPu + epochId % 2
  toRfc3339 := intDecimal

/-- A substation with nothing but its identifier and its cell. -/
def bareSubstation (osmId : String) (h3 : BitVec 64) : Substation Int where
  osmId := osmId.toList
  h3 := ⟨h3⟩
  lat := 0
  lon := 0
  props := ⟨osmId.toList, none, none, none, none, none⟩
  signingKey := HexBytes.zero 32
  baseLoadPu := 1

/-- The tenant of migration 0001. -/
def ciTenant : TenantId := ⟨1⟩

end RenderEngine.Ports.SeedWriter
