import RenderEngine.Ports.Serde
import RenderEngine.Verified.Fallible

/-!
# JavaScript strings, numbers, values and errors

What the browser sources compute with.  A string is its UTF-16 code units; a
number is a safe integer, another finite double, or an infinity (no text of
the sources yields `NaN` as a value; a `NaN` date is `none`, and `-0` is `0`).
How the other finite doubles are written and read is the business of an
engine's `Numerals`; an `Engine` also words its own errors.

A value read out of a parsed text is a `Ref`: the value with the path that
leads to it.  Objects of parsed texts are compared by identity, and the path
is that identity.
-/

namespace RenderEngine.Ports.JavaScript

open RenderEngine.Ports.CoreTypes
open RenderEngine.Ports.Serde
open RenderEngine.Verified.Fallible
open RenderEngine.Verified.JsonSpelling

/-! ## Strings -/

instance neZero_codeUnits : NeZero (65536 : Nat) := ⟨by decide⟩

abbrev CodeUnit := Fin 65536

abbrev JsString := List CodeUnit

/-- The code unit of a character below U+10000. -/
def unit (c : Char) : CodeUnit := Fin.ofNat 65536 c.toNat

/-- The character of a code unit that is no surrogate. -/
def CodeUnit.toChar (u : CodeUnit) : Char := Char.ofNat u.val

/-- One code unit, or a surrogate pair. -/
def utf16 (c : Char) : JsString :=
  if c.toNat < 0x10000 then [unit c]
  else
    [ Fin.ofNat 65536 (0xD800 + (c.toNat - 0x10000) / 0x400)
    , Fin.ofNat 65536 (0xDC00 + (c.toNat - 0x10000) % 0x400) ]

/-- A string literal of the source. -/
def js (s : String) : JsString := s.toList.flatMap utf16

/-- A text of ASCII characters. -/
def ofText (t : Text) : JsString := t.map unit

theorem toChar_unit (c : Char) (h : c.toNat < 128) :
    CodeUnit.toChar (unit c) = c := by
  have hval : (unit c).val = c.toNat :=
    Nat.mod_eq_of_lt (by omega : c.toNat < 65536)
  rw [CodeUnit.toChar, hval, Char.ofNat_toNat]

/-- `s.slice(i, j)` for `0 <= i <= j`. -/
def slice (s : JsString) (i j : Nat) : JsString := (s.drop i).take (j - i)

def isLead (u : CodeUnit) : Bool := decide (0xD800 ≤ u.val ∧ u.val < 0xDC00)

def isTrail (u : CodeUnit) : Bool := decide (0xDC00 ≤ u.val ∧ u.val < 0xE000)

/-- The code points of a string; a surrogate without its partner counts as
U+FFFD. -/
def codePoints : JsString → List Nat
  | [] => []
  | [u] => [if isLead u || isTrail u then 0xFFFD else u.val]
  | u :: v :: rest =>
      if isLead u && isTrail v then
        (0x10000 + (u.val - 0xD800) * 0x400 + (v.val - 0xDC00))
          :: codePoints rest
      else (if isLead u || isTrail u then 0xFFFD else u.val)
        :: codePoints (v :: rest)

/-- The UTF-8 form of a code point. -/
def utf8 (n : Nat) : List UInt8 :=
  if n < 0x80 then [UInt8.ofNat n]
  else if n < 0x800 then
    [UInt8.ofNat (0xC0 + n / 0x40), UInt8.ofNat (0x80 + n % 0x40)]
  else if n < 0x10000 then
    [ UInt8.ofNat (0xE0 + n / 0x1000), UInt8.ofNat (0x80 + n / 0x40 % 0x40)
    , UInt8.ofNat (0x80 + n % 0x40) ]
  else
    [ UInt8.ofNat (0xF0 + n / 0x40000), UInt8.ofNat (0x80 + n / 0x1000 % 0x40)
    , UInt8.ofNat (0x80 + n / 0x40 % 0x40), UInt8.ofNat (0x80 + n % 0x40) ]

/-- `new TextEncoder().encode(s)`. -/
def textEncode (s : JsString) : List UInt8 := (codePoints s).flatMap utf8

/-! ## Numbers -/

/-- `Number.isSafeInteger`. -/
def isSafe (i : Int) : Bool := decide (i.natAbs < 2 ^ 53)

abbrev SafeInteger := { i : Int // isSafe i = true }

/-- A number; `F` are the finite doubles that are no safe integers. -/
inductive JsNumber (F : Type) where
  | int (i : SafeInteger)
  | other (x : F)
  | infinity (negative : Bool)
  deriving DecidableEq

def JsNumber.isFinite {F : Type} : JsNumber F → Bool
  | .infinity _ => false
  | _ => true

/-- The number 1. -/
def JsNumber.one {F : Type} : JsNumber F := .int ⟨1, rfl⟩

@[simp] theorem JsNumber.isFinite_one {F : Type} :
    (one : JsNumber F).isFinite = true := rfl

/-! ## Errors -/

/-- A thrown `Error`. -/
structure JsError where
  message : JsString
  deriving DecidableEq

/-- A call that may throw, or a promise that may reject. -/
abbrev Throws (α : Type) := Except JsError α

@[simp] theorem Throws.ok_bind {α β : Type} (a : α) (f : α → Throws β) :
    (Except.ok a >>= f) = f a := rfl

@[simp] theorem Throws.error_bind {α β : Type} (e : JsError)
    (f : α → Throws β) : (Except.error e >>= f) = .error e := rfl

/-- The text of a number too large for a double. -/
def overflowText (negative : Bool) : JsString :=
  js (if negative then "-1e999" else "1e999")

/-- How an engine writes the finite doubles that are no safe integers, and
what it reads from a number in a JSON text that is not the decimal form of a
safe integer. -/
structure Numerals (F : Type) where
  /-- `Number.prototype.toString` -/
  numberText : F → JsString
  readNumber : JsString → Option (JsNumber F)
  number_head : ∀ x, ∃ u us, numberText x = u :: us ∧
    isNumberStart (CodeUnit.toChar u) = true
  number_chars : ∀ x, ∀ u ∈ numberText x,
    isNumberChar (CodeUnit.toChar u) = true
  numberText_ne : ∀ x (i : SafeInteger), numberText x ≠ ofText (intDecimal i.val)
  readNumber_numberText : ∀ x, readNumber (numberText x) = some (.other x)
  readNumber_overflow : ∀ negative,
    readNumber (overflowText negative) = some (.infinity negative)

/-- An engine words its own errors. -/
structure Engine (F : Type) extends Numerals F where
  /-- `JSON.parse` of a text that is not JSON -/
  syntaxError : JsString → JsError
  /-- `atob` of a text that is not base64 -/
  invalidCharacter : JsString → JsError
  /-- A property of `undefined` or `null` -/
  nullAccess : JsString → JsError
  /-- A call of a property that is no function -/
  notFunction : JsString → JsError
  /-- An object without a primitive form -/
  notPrimitive : JsError

/-! ## Values -/

inductive JsValue (F : Type) where
  | undefined
  | null
  | bool (b : Bool)
  | number (n : JsNumber F)
  | string (s : JsString)
  | array (items : List (JsValue F))
  | object (members : List (JsString × JsValue F))

namespace JsValue

variable {F : Type}

/-- Whether a condition on the value holds. -/
def truthy : JsValue F → Bool
  | undefined => false
  | null => false
  | bool b => b
  | number n => match n with
    | .int i => decide (i.val ≠ 0)
    | _ => true
  | string s => !s.isEmpty
  | array _ => true
  | object _ => true

/-- `a || b` -/
def orElse (a b : JsValue F) : JsValue F := if a.truthy then a else b

/-- `a && b` -/
def andThen (a b : JsValue F) : JsValue F := if a.truthy then b else a

def isUndefined : JsValue F → Bool
  | undefined => true
  | _ => false

/-- `undefined` or `null`, the values without properties. -/
def nullish : JsValue F → Bool
  | undefined => true
  | null => true
  | _ => false

/-- The own property `k`.  No property the sources read by name is one of a
primitive, of an array or of a prototype. -/
def member (v : JsValue F) (k : JsString) : JsValue F :=
  match v with
  | object ms => ((ms.find? fun m => m.1 = k).map Prod.snd).getD undefined
  | _ => undefined

/-- Only an object has members. -/
theorem exists_object_of_member {v : JsValue F} {k : JsString}
    (h : v.member k ≠ undefined) : ∃ ms, v = object ms := by
  cases v with
  | object ms => exact ⟨ms, rfl⟩
  | _ => exact absurd rfl h

/-- Only a value with properties has a property that counts as true. -/
theorem truthy_of_member {v : JsValue F} {k : JsString}
    (h : (v.member k).truthy = true) : v.truthy = true := by
  obtain ⟨ms, rfl⟩ : ∃ ms, v = object ms := by
    apply exists_object_of_member (k := k)
    intro hundefined
    rw [hundefined] at h
    exact Bool.false_ne_true h
  rfl

variable (en : Engine F)

/-- `v.k` -/
def get (v : JsValue F) (k : JsString) : Throws (JsValue F) :=
  match v with
  | undefined => .error (en.nullAccess k)
  | null => .error (en.nullAccess k)
  | v => .ok (v.member k)

/-- Reading a property throws exactly on a nullish value. -/
theorem get_eq_ok_iff {v w : JsValue F} {k : JsString} :
    v.get en k = .ok w ↔ v.nullish = false ∧ v.member k = w := by
  cases v <;> simp [get, nullish]

/-- `Number::toString`. -/
def numberToString : JsNumber F → JsString
  | .int i => ofText (intDecimal i.val)
  | .other x => en.numberText x
  | .infinity negative => js (if negative then "-Infinity" else "Infinity")

mutual

/-- `String(v)`, or `v` in a template.  An object of a parsed text has no
callable property, so one with an own `toString` has no primitive form. -/
def toText : JsValue F → Throws JsString
  | undefined => .ok (js "undefined")
  | null => .ok (js "null")
  | bool b => .ok (js (if b then "true" else "false"))
  | number n => .ok (numberToString en n)
  | string s => .ok s
  | array items => do
      let parts ← itemTexts items
      return (js ",").intercalate parts
  | object ms =>
      if ms.any fun m => m.1 = js "toString" then .error en.notPrimitive
      else .ok (js "[object Object]")

/-- The texts `join` puts together. -/
def itemTexts : List (JsValue F) → Throws (List JsString)
  | [] => .ok []
  | x :: xs => do
      let s ← match x with
        | undefined => .ok []
        | null => .ok []
        | x => toText x
      let rest ← itemTexts xs
      return s :: rest

end

end JsValue

/-! ## References -/

/-- A value and the path that leads to it. -/
structure Ref (F : Type) where
  path : List JsString
  value : JsValue F

namespace Ref

variable {F : Type}

/-- The property `k` of the value at hand. -/
def member (r : Ref F) (k : JsString) : Ref F := ⟨k :: r.path, r.value.member k⟩

@[simp] theorem member_value (r : Ref F) (k : JsString) :
    (r.member k).value = r.value.member k := rfl

/-- `r.k` -/
def get (en : Engine F) (r : Ref F) (k : JsString) : Throws (Ref F) := do
  let v ← r.value.get en k
  return ⟨k :: r.path, v⟩

/-- `a === b` -/
def strictEq [DecidableEq F] (a b : Ref F) : Bool :=
  match a.value, b.value with
  | .undefined, .undefined => true
  | .null, .null => true
  | .bool x, .bool y => x == y
  | .number x, .number y => decide (x = y)
  | .string x, .string y => decide (x = y)
  | .array _, .array _ => decide (a.path = b.path)
  | .object _, .object _ => decide (a.path = b.path)
  | _, _ => false

theorem get_eq_ok_iff (en : Engine F) {r v : Ref F} {k : JsString} :
    r.get en k = .ok v ↔ r.value.nullish = false ∧ r.member k = v := by
  simp only [get, bind_eq_ok, JsValue.get_eq_ok_iff]
  constructor
  · rintro ⟨w, ⟨hr, rfl⟩, hret⟩
    exact ⟨hr, Except.ok.inj hret⟩
  · rintro ⟨hr, rfl⟩
    exact ⟨_, ⟨hr, rfl⟩, rfl⟩

/-- Where one side is a string, `===` is equality of values. -/
theorem strictEq_iff_of_string [DecidableEq F] {a b : Ref F} {s : JsString}
    (h : a.value = .string s ∨ b.value = .string s) :
    a.strictEq b = true ↔ a.value = b.value := by
  rw [strictEq]
  rcases h with h | h
  · rw [h]
    cases b.value <;> simp
  · rw [h]
    cases a.value <;> simp

theorem strictEq_number_iff [DecidableEq F] (a : Ref F) (path : List JsString)
    (n : JsNumber F) :
    a.strictEq ⟨path, .number n⟩ = true ↔ a.value = .number n := by
  rw [strictEq]
  cases a.value <;> simp

end Ref

/-! ## Hexadecimal texts -/

/-- The characters `parseInt` skips at the start of its text. -/
def isWhiteSpace (u : CodeUnit) : Bool :=
  decide (9 ≤ u.val ∧ u.val ≤ 13) || u == 0x20 || u == 0xA0 || u == 0x1680
    || decide (0x2000 ≤ u.val ∧ u.val ≤ 0x200A) || u == 0x2028 || u == 0x2029
    || u == 0x202F || u == 0x205F || u == 0x3000 || u == 0xFEFF

/-- The value of a hexadecimal digit. -/
def hexValue (u : CodeUnit) : Option Nat := hexDigit u.toChar

/-- The number written by the hexadecimal digits at the start of a text, or
`none` if there is no digit. -/
def hexPrefix (s : JsString) : Option Nat :=
  let digits := (s.takeWhile fun u => (hexValue u).isSome).filterMap hexValue
  if digits.isEmpty then none
  else some (digits.foldl (fun n d => n * 16 + d) 0)

/-- `parseInt(s, 16)`; `none` is `NaN`. -/
def parseIntHex (s : JsString) : Option Int :=
  let s := s.dropWhile isWhiteSpace
  let negative := s.head? == some (unit '-')
  let s := if negative || s.head? == some (unit '+') then s.drop 1 else s
  let s :=
    if s.take 2 = js "0x" ∨ s.take 2 = js "0X" then s.drop 2 else s
  (hexPrefix s).map fun n => if negative then -(n : Int) else (n : Int)

/-- The conversion of a number stored in a `Uint8Array`. -/
def toUint8 : Option Int → UInt8
  | none => 0
  | some i => UInt8.ofNat (i % 256).toNat

/-- `b.toString(16).padStart(2, "0")` -/
def byteHex (b : UInt8) : JsString := ofText (hexPadded 2 b.toNat)

/-! ## Base64 -/

/-- The value of a character of the base64 alphabet. -/
def base64Value (u : CodeUnit) : Option Nat :=
  let n := u.val
  if 65 ≤ n ∧ n ≤ 90 then some (n - 65)
  else if 97 ≤ n ∧ n ≤ 122 then some (n - 71)
  else if 48 ≤ n ∧ n ≤ 57 then some (n + 4)
  else if n = 43 then some 62
  else if n = 47 then some 63
  else none

/-- The bytes of a run of sextets; the bits of an unfinished byte are
dropped. -/
def sextetBytes : List Nat → List Nat
  | a :: b :: c :: d :: rest =>
      (a * 4 + b / 16) :: (b % 16 * 16 + c / 4) :: (c % 4 * 64 + d)
        :: sextetBytes rest
  | [a, b, c] => [a * 4 + b / 16, b % 16 * 16 + c / 4]
  | [a, b] => [a * 4 + b / 16]
  | _ => []

def isAsciiSpace (u : CodeUnit) : Bool :=
  u == 9 || u == 10 || u == 12 || u == 13 || u == 32

/-- A text without the `=` it ends with, two at most. -/
def withoutPadding (s : JsString) : JsString :=
  if s.getLast? = some (unit '=') then
    let s := s.dropLast
    if s.getLast? = some (unit '=') then s.dropLast else s
  else s

/-- The character of a sextet. -/
def base64Char (n : Nat) : CodeUnit :=
  if n < 26 then Fin.ofNat 65536 (n + 65)
  else if n < 52 then Fin.ofNat 65536 (n + 71)
  else if n < 62 then Fin.ofNat 65536 (n - 4)
  else if n = 62 then unit '+'
  else unit '/'

/-- The base64 text of a run of bytes. -/
def base64Text : List Nat → JsString
  | a :: b :: c :: rest =>
      base64Char (a / 4) :: base64Char (a % 4 * 16 + b / 16)
        :: base64Char (b % 16 * 4 + c / 64) :: base64Char (c % 64)
        :: base64Text rest
  | [a, b] =>
      [ base64Char (a / 4), base64Char (a % 4 * 16 + b / 16)
      , base64Char (b % 16 * 4), unit '=' ]
  | [a] => [base64Char (a / 4), base64Char (a % 4 * 16), unit '=', unit '=']
  | [] => []

/-- `btoa` of a string with code units below 256. -/
def btoa (bin : JsString) : JsString := base64Text (bin.map Fin.val)

/-- `atob`: one code unit for each byte. -/
def atob {F : Type} (en : Engine F) (text : JsString) : Throws JsString :=
  let s := text.filter fun u => !isAsciiSpace u
  let s := if s.length % 4 = 0 then withoutPadding s else s
  if s.length % 4 = 1 then .error (en.invalidCharacter text)
  else match s.mapM base64Value with
    | none => .error (en.invalidCharacter text)
    | some sextets =>
        .ok ((sextetBytes sextets).map (Fin.ofNat 65536))

end RenderEngine.Ports.JavaScript
