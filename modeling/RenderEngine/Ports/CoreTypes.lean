import Mathlib.Data.Nat.Digits.Defs

/-!
# Identifiers, byte blobs and errors of `render-core`

The newtypes of `types.rs` and the error enum of `error.rs`, with the texts
their `Display` instances print.  A Rust `String` is a list of characters.

A Rust call that may fail or panic is an `Outcome`: `Fault.core` is the `Err`
the source returns, `Fault.panic` an index out of range, so that "returns
`Ok`" and "never indexes out of range" are one statement.
-/

namespace RenderEngine.Ports.CoreTypes

/-- A Rust `String`, as its characters. -/
abbrev Text := List Char

/-- Microseconds since the Unix epoch: a `DateTime<Utc>` or a `TIMESTAMPTZ`. -/
abbrev Timestamp := Int

/-! ## Printed numbers -/

/-- `{}` of an unsigned integer. -/
def decimal (n : Nat) : Text := Nat.toDigits 10 n

/-- `{:x}` of an unsigned integer. -/
def hexLower (n : Nat) : Text := Nat.toDigits 16 n

/-- `{:0width$x}` of an unsigned integer. -/
def hexPadded (width n : Nat) : Text :=
  List.replicate (width - (hexLower n).length) '0' ++ hexLower n

/-! ## Identifiers -/

/-- `TenantId`: a UUID. -/
structure TenantId where
  uuid : BitVec 128
  deriving DecidableEq

/-- The hyphenated form a UUID prints as. -/
def TenantId.toText (t : TenantId) : Text :=
  let digits := hexPadded 32 t.uuid.toNat
  (digits.take 8) ++ '-' :: (digits.drop 8).take 4
    ++ '-' :: (digits.drop 12).take 4 ++ '-' :: (digits.drop 16).take 4
    ++ '-' :: digits.drop 20

/-- `EpochId`: an `i64`, monotonic per tenant from 0. -/
structure EpochId where
  val : Int
  deriving DecidableEq

/-- `H3Cell`: a `u64` cell index. -/
structure H3Cell where
  bits : BitVec 64
  deriving DecidableEq

/-- `as_i64`: the two's complement reading Postgres stores as `BIGINT`. -/
def H3Cell.asI64 (h : H3Cell) : Int := h.bits.toInt

/-- `from_i64`. -/
def H3Cell.fromI64 (i : Int) : H3Cell := ⟨BitVec.ofInt 64 i⟩

@[simp] theorem H3Cell.fromI64_asI64 (h : H3Cell) : fromI64 h.asI64 = h := by
  simp [fromI64, asI64, BitVec.ofInt_toInt]

theorem H3Cell.asI64_injective : Function.Injective H3Cell.asI64 := by
  intro a b h
  rw [← a.fromI64_asI64, h, b.fromI64_asI64]

/-! ## Errors -/

/-- The variants of `CoreError` the modelled calls return. -/
inductive CoreError where
  | invalidH3Cell (message : Text)
  | invalidH3Resolution (resolution : UInt8)
  | viewportTooLarge (requested max : Nat)
  | epochNotFound (tenant : Text) (epoch : Int)
  | cellNotFound (tenant : Text) (h3 : BitVec 64) (epoch : Option Int)
  | database (message : Text)
  | other (message : Text)
  deriving DecidableEq

/-- How a Rust call ends when it does not return `Ok`. -/
inductive Fault where
  | core (e : CoreError)
  | panic
  deriving DecidableEq

abbrev Outcome (α : Type) := Except Fault α

@[simp] theorem Outcome.ok_bind {α β : Type} (a : α) (f : α → Outcome β) :
    (Except.ok a >>= f) = f a := rfl

@[simp] theorem Outcome.error_bind {α β : Type} (e : Fault)
    (f : α → Outcome β) : (Except.error e >>= f) = .error e := rfl

/-- A traversal whose calls all return `Ok` is a `map`. -/
theorem Outcome.mapM_ok {α β : Type} (f : α → Outcome β) (g : α → β)
    (xs : List α) (h : ∀ x ∈ xs, f x = .ok (g x)) :
    xs.mapM f = .ok (xs.map g) := by
  induction xs with
  | nil => rfl
  | cons x xs ih =>
      rw [List.mapM_cons, h x (by simp), ih (fun y hy => h y (by simp [hy]))]
      rfl

/-! ## Byte blobs -/

/-- `[u8; n]`, printed as hex by `HexBytes32` and `HexBytes64`. -/
structure HexBytes (n : Nat) where
  bytes : List UInt8
  length_eq : bytes.length = n
  deriving DecidableEq

abbrev HexBytes32 := HexBytes 32
abbrev HexBytes64 := HexBytes 64

/-- `from_slice`: a slice of any other length is an error. -/
def HexBytes.fromSlice (n : Nat) (s : List UInt8) : Outcome (HexBytes n) :=
  if h : s.length = n then .ok ⟨s, h⟩
  else .error (.core (.other ("expected ".toList ++ decimal n
    ++ " bytes, got ".toList ++ decimal s.length)))

@[simp] theorem HexBytes.fromSlice_bytes {n : Nat} (b : HexBytes n) :
    fromSlice n b.bytes = .ok b := by
  simp [fromSlice, b.length_eq]

theorem HexBytes.bytes_injective {n : Nat} :
    Function.Injective (HexBytes.bytes (n := n)) := by
  rintro ⟨a, ha⟩ ⟨b, hb⟩ h
  simpa using h

/-- `[0u8; n]`. -/
def HexBytes.zero (n : Nat) : HexBytes n :=
  ⟨List.replicate n 0, List.length_replicate⟩

end RenderEngine.Ports.CoreTypes
