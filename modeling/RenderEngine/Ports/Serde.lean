import RenderEngine.Ports.CoreTypes
import RenderEngine.Verified.JsonTranslate
import RenderEngine.Verified.SortedMap
import Mathlib.Data.List.Lex
import Mathlib.Tactic.IntervalCases

/-!
# `serde_json` values and texts

A `serde_json::Value` is a JSON tree whose objects are B-tree maps: strictly
sorted member lists.  The order of `String` keys is that of their bytes,
which for UTF-8 is the order of their characters.

How numbers and strings are written is `serde_json`'s business.
`SerdeText` holds the two printers and the two readers, with what the code
relies on; the rest of the text (brackets, separators, literals) is that of
the grammar's spelling.  Without `float_roundtrip` the reader of floats may
miss the number that was written by a bit, so nothing is asked of it here.

## Main results

* `lexicon`: these texts are a lexicon of the JSON grammar.
* `fromStr`: the parser; what it accepts is a `Value`.
* `fromStr_render_eq_some_iff`: it reads back the values that are not nested too
  deeply for it.
* `intText`: a printer and reader with these laws, over the integers.
-/

namespace RenderEngine.Ports.Serde

open RenderEngine.Ports.CoreTypes
open RenderEngine.Verified.JsonGrammar
open RenderEngine.Verified.JsonSpelling
open RenderEngine.Verified.SortedMap

/-! ## Values -/

/-- `serde_json::Value` over the number type `N`. -/
structure Value (N : Type) where
  tree : Json N Text
  sorted : tree.EveryObject KeysSorted

theorem Value.tree_injective {N : Type} :
    Function.Injective (Value.tree (N := N)) := by
  rintro ⟨v, hv⟩ ⟨w, hw⟩ h
  cases h
  rfl

/-! ## The texts of tokens -/

/-- Printing and reading of numbers and strings. -/
structure SerdeText (N : Type) where
  /-- `Number::to_string` -/
  number : N → Text
  readNumber : Text → Option N
  /-- `serde_json::to_string` of a string -/
  string : Text → Text
  readString : Text → Option (Text × Text)
  number_head : ∀ n, ∃ c cs, number n = c :: cs ∧ isNumberStart c = true
  number_chars : ∀ n, ∀ c ∈ number n, isNumberChar c = true
  number_injective : Function.Injective number
  string_head : ∀ s, ∃ cs, string s = '"' :: cs
  readString_string : ∀ s rest, readString (string s ++ rest) = some (s, rest)

variable {N : Type} (sj : SerdeText N)

/-- The spelling over characters themselves. -/
def spelling : Spelling Char N Text where
  ofChar := id
  toChar := id
  toChar_ofChar := fun _ _ => rfl
  number := sj.number
  readNumber := sj.readNumber
  string := sj.string
  readString := sj.readString
  number_head := sj.number_head
  number_chars := sj.number_chars
  number_injective := sj.number_injective
  string_head := sj.string_head
  readString_string := sj.readString_string

def lexicon : Lexicon Char N Text := (spelling sj).lexicon

/-- The texts of the tokens, as `serde_json` writes them. -/
def tokenText : Token N Text → Text
  | .lbrace => ['{']
  | .rbrace => ['}']
  | .lbrack => ['[']
  | .rbrack => [']']
  | .comma => [',']
  | .colon => [':']
  | .null => "null".toList
  | .bool b => if b then "true".toList else "false".toList
  | .num n => sj.number n
  | .str s => sj.string s

theorem lexicon_text (t : Token N Text) :
    (lexicon sj).text t = tokenText sj t := by
  cases t with
  | null => exact List.map_id _
  | bool b => exact List.map_id _
  | _ => rfl

/-! ## The parser -/

theorem collect_everyMember (ms : List (Text × Json N Text))
    (h : everyMember KeysSorted ms) :
    KeysSorted (collect ms) ∧ everyMember KeysSorted (collect ms) := by
  refine ⟨collect_sorted ms, (everyMember_iff _).mpr fun m hm => ?_⟩
  exact (everyMember_iff ms).mp h m (mem_of_mem_collect hm)

/-- The parser's `remaining_depth` at the start of a text; a container that
uses the last of it is an error. -/
def recursionLimit : Nat := 128

/-- `serde_json::from_str`.  Members go into a `BTreeMap`; a member that a later
one replaces has been read as well, so the limit is on the tree as it stands in
the text. -/
def fromStr (cs : Text) : Option (Value N) :=
  match (lexicon sj).parse id cs with
  | none => none
  | some t =>
      if t.depth < recursionLimit then
        some ⟨t.rebuild collect,
          Json.rebuild_everyObject collect collect_everyMember t⟩
      else none

/-- A text that was parsed is the text of a value unless it nests too deeply. -/
theorem fromStr_of_parse {cs : Text} {t : Json N Text}
    (h : (lexicon sj).parse id cs = some t) :
    fromStr sj cs =
      if t.depth < recursionLimit then
        some ⟨t.rebuild collect,
          Json.rebuild_everyObject collect collect_everyMember t⟩
      else none := by
  rw [fromStr, h]

/-- The number is read back from its text. -/
def ReadsBack (n : N) : Prop := sj.readNumber (sj.number n) = some n

/-- **The parser inverts the printed text of a value whose numbers it reads
back**, if the value nests less deeply than the limit, and refuses any
other. -/
theorem fromStr_render {v : Value N}
    (hback : ∀ n, .num n ∈ tokens v.tree → ReadsBack sj n) :
    fromStr sj ((lexicon sj).render v.tree) =
      if v.tree.depth < recursionLimit then some v else none := by
  have hparse := (lexicon sj).parse_render id v.tree hback
    (v.tree.everyObject_mono (fun _ _ => rfl) (everyObject_true v.tree))
  have hbuilt : v.tree.rebuild collect = v.tree :=
    Json.rebuild_of_everyObject collect _
      (v.tree.everyObject_mono (fun ms => collect_of_sorted) v.sorted)
  rw [fromStr_of_parse sj hparse]
  split_ifs with hdepth
  · exact congrArg some (Value.tree_injective hbuilt)
  · rfl

theorem fromStr_render_eq_some_iff {v : Value N}
    (hback : ∀ n, .num n ∈ tokens v.tree → ReadsBack sj n) :
    fromStr sj ((lexicon sj).render v.tree) = some v ↔
      v.tree.depth < recursionLimit := by
  rw [fromStr_render sj hback]
  split_ifs with hdepth
  · exact iff_of_true rfl hdepth
  · exact iff_of_false (by simp) hdepth

/-! ## Building values -/

def Value.null : Value N := ⟨.null, trivial⟩

def Value.string (s : Text) : Value N := ⟨.str s, trivial⟩

def Value.number (n : N) : Value N := ⟨.num n, trivial⟩

/-- Members inserted into a fresh `Map` one after another: the object of
`json!` and of `map.insert`. -/
def Value.object (ms : List (Text × Value N)) : Value N where
  tree := .obj (collect (ms.map fun m => (m.1, m.2.tree)))
  sorted := by
    apply collect_everyMember
    rw [everyMember_iff]
    intro m hm
    rcases List.mem_map.mp hm with ⟨m', -, rfl⟩
    exact m'.2.sorted

/-! ## Strings and integers -/

/-- How a character is written inside a string. -/
def escape (c : Char) : Text :=
  if c = '"' then ['\\', '"']
  else if c = '\\' then ['\\', '\\']
  else if c = '\n' then ['\\', 'n']
  else if c = '\r' then ['\\', 'r']
  else if c = '\t' then ['\\', 't']
  else if c.toNat = 8 then ['\\', 'b']
  else if c.toNat = 12 then ['\\', 'f']
  else if c.toNat < 32 then '\\' :: 'u' :: hexPadded 4 c.toNat
  else [c]

/-- The value of a hexadecimal digit. -/
def hexDigit (c : Char) : Option Nat :=
  if c.isDigit then some (c.toNat - 48)
  else if 'a' ≤ c ∧ c ≤ 'f' then some (c.toNat - 87)
  else if 'A' ≤ c ∧ c ≤ 'F' then some (c.toNat - 55)
  else none

/-- The character after a backslash. -/
def unescape (c : Char) : Option Char :=
  if c = '"' ∨ c = '\\' ∨ c = '/' then some c
  else if c = 'n' then some '\n'
  else if c = 'r' then some '\r'
  else if c = 't' then some '\t'
  else if c = 'b' then some (Char.ofNat 8)
  else if c = 'f' then some (Char.ofNat 12)
  else none

/-- Read one character of a string.  Only the escapes that `escape` writes
and their relatives are read: no surrogate pairs. -/
def readChar : Text → Option (Char × Text)
  | [] => none
  | c :: rest =>
      if c = '\\' then
        match rest with
        | 'u' :: a :: b :: c :: d :: rest => do
            let a ← hexDigit a
            let b ← hexDigit b
            let c ← hexDigit c
            let d ← hexDigit d
            return (Char.ofNat (((a * 16 + b) * 16 + c) * 16 + d), rest)
        | e :: rest => (unescape e).map fun c => (c, rest)
        | [] => none
      else if c.toNat < 32 then none
      else some (c, rest)

/-- Read characters up to the closing quote. -/
def readChars : Nat → Text → Option (Text × Text)
  | 0, _ => none
  | _ + 1, [] => none
  | fuel + 1, c :: cs =>
      if c = '"' then some ([], cs)
      else do
        let (c, rest) ← readChar (c :: cs)
        let (s, rest) ← readChars fuel rest
        return (c :: s, rest)

def quote (s : Text) : Text := '"' :: (s.flatMap escape ++ ['"'])

def readQuoted : Text → Option (Text × Text)
  | [] => none
  | c :: cs => if c = '"' then readChars (cs.length + 1) cs else none

private theorem readChar_control (n : Nat) (hn : n < 32) (rest : Text) :
    readChar ('\\' :: 'u' :: (hexPadded 4 n ++ rest)) =
      some (Char.ofNat n, rest) := by
  interval_cases n <;> rfl

/-- Reading inverts the escape of every character. -/
theorem readChar_escape (c : Char) (rest : Text) :
    readChar (escape c ++ rest) = some (c, rest) := by
  have hofNat : ∀ n, c.toNat = n → Char.ofNat n = c := by
    rintro n rfl
    exact Char.ofNat_toNat c
  unfold escape
  split_ifs with h1 h2 h3 h4 h5 h6 h7 h8
  · rw [h1]; rfl
  · rw [h2]; rfl
  · rw [h3]; rfl
  · rw [h4]; rfl
  · rw [h5]; rfl
  · rw [← hofNat 8 h6]; rfl
  · rw [← hofNat 12 h7]; rfl
  · have h := readChar_control c.toNat h8 rest
    rwa [Char.ofNat_toNat] at h
  · simp [readChar, h2, h8]

private theorem escape_head (c : Char) :
    ∃ e cs, escape c = e :: cs ∧ e ≠ '"' := by
  unfold escape
  split_ifs with h1 <;> first
    | exact ⟨_, _, rfl, by decide⟩
    | exact ⟨_, _, rfl, h1⟩

theorem readChars_escaped (s : Text) (fuel : Nat) (rest : Text)
    (hfuel : s.length < fuel) :
    readChars fuel (s.flatMap escape ++ '"' :: rest) = some (s, rest) := by
  induction s generalizing fuel with
  | nil =>
      cases fuel with
      | zero => exact absurd hfuel (Nat.not_lt_zero _)
      | succ fuel => simp [readChars]
  | cons c s ih =>
      cases fuel with
      | zero => exact absurd hfuel (Nat.not_lt_zero _)
      | succ fuel =>
          have hread := readChar_escape c (s.flatMap escape ++ '"' :: rest)
          rcases escape_head c with ⟨e, cs, he, hne⟩
          rw [List.flatMap_cons, List.append_assoc]
          rw [he, List.cons_append] at hread ⊢
          rw [readChars, if_neg hne, hread]
          simp only [Option.bind_eq_bind, Option.bind_some]
          rw [ih fuel (by simpa using hfuel)]
          rfl

private theorem length_le_escaped (s : Text) :
    s.length ≤ (s.flatMap escape).length := by
  induction s with
  | nil => exact Nat.le_refl 0
  | cons c s ih =>
      rcases escape_head c with ⟨e, cs, he, -⟩
      simp only [List.flatMap_cons, he, List.length_append, List.length_cons]
      omega

theorem readQuoted_quote (s rest : Text) :
    readQuoted (quote s ++ rest) = some (s, rest) := by
  have hlen := length_le_escaped s
  have htext : quote s ++ rest = '"' :: (s.flatMap escape ++ '"' :: rest) := by
    simp [quote]
  rw [htext, readQuoted, if_pos rfl]
  apply readChars_escaped
  simp only [List.length_append]
  omega

/-- `{}` of a signed integer. -/
def intDecimal (i : Int) : Text :=
  if i < 0 then '-' :: decimal i.natAbs else decimal i.natAbs

def readNat (cs : Text) : Option Nat :=
  if !cs.isEmpty && cs.all Char.isDigit then some (Nat.ofDigitChars 10 cs 0)
  else none

def readInt : Text → Option Int
  | [] => none
  | c :: cs =>
      if c = '-' then (readNat cs).map fun n : Nat => -(n : Int)
      else (readNat (c :: cs)).map fun n : Nat => (n : Int)

private theorem decimal_digits (n : Nat) :
    ∀ c ∈ decimal n, c.isDigit = true := fun _ hc =>
  Nat.isDigit_of_mem_toDigits (by decide) (by decide) hc

private theorem decimal_head (n : Nat) :
    ∃ c cs, decimal n = c :: cs ∧ c.isDigit = true := by
  have hne : decimal n ≠ [] := Nat.toDigits_ne_nil
  rcases List.exists_cons_of_ne_nil hne with ⟨c, cs, h⟩
  exact ⟨c, cs, h, decimal_digits n c (h ▸ List.mem_cons_self)⟩

private theorem readNat_decimal (n : Nat) : readNat (decimal n) = some n := by
  rcases decimal_head n with ⟨c, cs, h, -⟩
  have hall : (decimal n).all Char.isDigit = true :=
    List.all_eq_true.mpr (decimal_digits n)
  rw [readNat, if_pos (by rw [hall, h]; rfl)]
  exact congrArg some Nat.ofDigitChars_ten_toDigits

theorem readInt_intDecimal (i : Int) : readInt (intDecimal i) = some i := by
  unfold intDecimal
  split_ifs with hneg
  · have hval : -(i.natAbs : Int) = i := by omega
    rw [readInt, if_pos rfl, readNat_decimal, Option.map_some, hval]
  · have hread := readNat_decimal i.natAbs
    rcases decimal_head i.natAbs with ⟨c, cs, h, hc⟩
    have hne : c ≠ '-' := by
      rintro rfl
      exact absurd hc (by decide)
    rw [h] at hread ⊢
    have hval : (i.natAbs : Int) = i := by omega
    rw [readInt, if_neg hne, hread, Option.map_some, hval]

theorem intDecimal_injective : Function.Injective intDecimal := by
  intro i j h
  have hi := readInt_intDecimal i
  rw [h, readInt_intDecimal] at hi
  exact (Option.some.inj hi).symm

/-- Integers in decimal, strings between quotes. -/
def intText : SerdeText Int where
  number := intDecimal
  readNumber := readInt
  string := quote
  readString := readQuoted
  number_head := by
    intro i
    rcases decimal_head i.natAbs with ⟨c, cs, h, hc⟩
    unfold intDecimal
    split_ifs
    · exact ⟨'-', _, rfl, rfl⟩
    · exact ⟨c, cs, h, by simp [isNumberStart, hc]⟩
  number_chars := by
    intro i c hc
    unfold intDecimal at hc
    split_ifs at hc
    · rcases List.mem_cons.mp hc with rfl | hc
      · rfl
      · simp [isNumberChar, decimal_digits _ c hc]
    · simp [isNumberChar, decimal_digits _ c hc]
  number_injective := intDecimal_injective
  string_head := fun s => ⟨_, rfl⟩
  readString_string := readQuoted_quote

end RenderEngine.Ports.Serde
