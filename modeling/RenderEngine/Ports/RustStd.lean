import RenderEngine.Ports.Serde

/-!
# Parts of Rust's standard library

Results, text, integers and time, as the server calls them.
-/

namespace RenderEngine.Ports.RustStd

open RenderEngine.Ports.CoreTypes
open RenderEngine.Ports.Serde (readNat)

/-! ## Results -/

section Results

variable {ε α : Type}

/-- `ok_or_else`. -/
def okOr (e : ε) : Option α → Except ε α
  | some a => .ok a
  | none => .error e

theorem okOr_eq_ok {e : ε} {x : Option α} {a : α} :
    okOr e x = .ok a ↔ x = some a := by
  cases x with
  | none => simp [okOr]
  | some b => simp [okOr]

end Results

/-! ## Text -/

/-- `len`: bytes of the UTF-8 form. -/
def byteLength (s : Text) : Nat := (s.map Char.utf8Size).sum

/-- `to_ascii_lowercase`. -/
def asciiLowercase (s : Text) : Text := s.map Char.toLower

/-- `eq_ignore_ascii_case`. -/
def eqIgnoreAsciiCase (a b : Text) : Bool :=
  asciiLowercase a == asciiLowercase b

/-- `char::is_whitespace`. -/
def isWhitespace (c : Char) : Bool :=
  (9 ≤ c.toNat ∧ c.toNat ≤ 13) ∨ (0x2000 ≤ c.toNat ∧ c.toNat ≤ 0x200A) ∨
    c.toNat ∈ [0x20, 0x85, 0xA0, 0x1680, 0x2028, 0x2029, 0x202F, 0x205F, 0x3000]

/-- `trim`. -/
def trimWhitespace (s : Text) : Text :=
  ((s.dropWhile isWhitespace).reverse.dropWhile isWhitespace).reverse

/-! ## Integers -/

/-- The digits after an optional sign `+`. -/
def stripPlus : Text → Text
  | '+' :: rest => rest
  | s => s

/-- `parse` into an unsigned type with this greatest value: no digits, another
character or an overflow is an error. -/
def parseUnsigned (max : Nat) (s : Text) : Option Nat :=
  (readNat (stripPlus s)).filter (· ≤ max)

/-! ## Time

An `Instant` of the monotonic clock and a `Duration` are both a number of
nanoseconds.
-/

/-- `Duration::from_secs`. -/
def fromSecs (n : Nat) : Nat := n * 1000000000

/-- `as_secs`: whole seconds. -/
def asSecs (d : Nat) : Nat := d / 1000000000

/-- `duration_since`: zero when `earlier` is the later one. -/
def durationSince (now earlier : Nat) : Nat := now - earlier

end RenderEngine.Ports.RustStd
