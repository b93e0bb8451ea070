import RenderEngine.Verified.JsonGrammar
import Mathlib.Data.Char
import Mathlib.Tactic.SplitIfs

/-!
# How JSON tokens are spelt

Brackets, separators and literals are ASCII in every JSON text; numbers and
strings are spelt as their printer likes.  A `Spelling` embeds the ASCII
characters in an alphabet `C` and holds the two printers and the two readers,
with what a tokenizer relies on: the reader of strings inverts their printer, a
number is made of the characters numbers are made of, a string opens with a
quote.  No two numbers have one text; but their reader need not invert the
printer, since not every reader of decimals rounds as their printer did.

## Main results

* `lexicon`: a spelling is a lexicon of the JSON grammar, so that reading a
  printed tree gives it back if its numbers are read back.
* `render_injective`: trees with one text are the same, however the numbers are
  read.
-/

namespace RenderEngine.Verified.JsonSpelling

open RenderEngine.Verified.JsonGrammar

/-- A character that starts a number. -/
def isNumberStart (c : Char) : Bool := c == '-' || c.isDigit

/-- A character of a number. -/
def isNumberChar (c : Char) : Bool :=
  c.isDigit || c == '-' || c == '+' || c == '.' || c == 'e' || c == 'E'

/-- JSON white space. -/
def isSpace (c : Char) : Bool :=
  c == ' ' || c == '\n' || c == '\t' || c == '\r'

structure Spelling (C N S : Type) where
  ofChar : Char → C
  toChar : C → Char
  toChar_ofChar : ∀ c, c.toNat < 128 → toChar (ofChar c) = c
  number : N → List C
  readNumber : List C → Option N
  string : S → List C
  readString : List C → Option (S × List C)
  number_head : ∀ n, ∃ c cs, number n = c :: cs ∧
    isNumberStart (toChar c) = true
  number_chars : ∀ n, ∀ c ∈ number n, isNumberChar (toChar c) = true
  number_injective : Function.Injective number
  string_head : ∀ s, ∃ cs, string s = ofChar '"' :: cs
  readString_string : ∀ s rest, readString (string s ++ rest) = some (s, rest)

/-- The token a punctuation character is. -/
def punctuation {N S : Type} (c : Char) : Option (Token N S) :=
  if c = '{' then some .lbrace
  else if c = '}' then some .rbrace
  else if c = '[' then some .lbrack
  else if c = ']' then some .rbrack
  else if c = ',' then some .comma
  else if c = ':' then some .colon
  else none

/-- The characters that may follow a number inside a value. -/
def closesNumber (c : Char) : Prop := c = ',' ∨ c = ']' ∨ c = '}'

private theorem punctuation_numberStart {N S : Type} {c : Char}
    (h : isNumberStart c = true) : punctuation (N := N) (S := S) c = none := by
  unfold punctuation
  split_ifs <;> first | rfl | (subst c; exact absurd h (by decide))

private theorem numberStart_ne_quote {c : Char}
    (h : isNumberStart c = true) : c ≠ '"' := by
  rintro rfl
  exact absurd h (by decide)

private theorem isNumberChar_of_closes {c : Char} (h : closesNumber c) :
    isNumberChar c = false := by
  rcases h with rfl | rfl | rfl <;> decide

private theorem isSpace_numberStart {c : Char} (h : isNumberStart c = true) :
    isSpace c = false := by
  by_contra hs
  simp only [isSpace, isNumberStart, Bool.or_eq_true, beq_iff_eq,
    Bool.not_eq_false] at hs h
  rcases hs with ((rfl | rfl) | rfl) | rfl <;> simp at h

namespace Spelling

variable {C N S : Type} (sp : Spelling C N S)

def tokenText : Token N S → List C
  | .lbrace => [sp.ofChar '{']
  | .rbrace => [sp.ofChar '}']
  | .lbrack => [sp.ofChar '[']
  | .rbrack => [sp.ofChar ']']
  | .comma => [sp.ofChar ',']
  | .colon => [sp.ofChar ':']
  | .null => "null".toList.map sp.ofChar
  | .bool b => (if b then "true".toList else "false".toList).map sp.ofChar
  | .num n => sp.number n
  | .str s => sp.string s

/-- A literal word at the start of the text. -/
def readWord (word : List Char) (t : Token N S) (cs : List C) :
    Option (Token N S × List C) :=
  if (cs.take word.length).map sp.toChar = word then
    some (t, cs.drop word.length)
  else none

/-- Read one token: numbers by their longest run of number characters. -/
def readToken : List C → Option (Token N S × List C)
  | [] => none
  | c :: rest =>
      match punctuation (sp.toChar c) with
      | some t => some (t, rest)
      | none =>
          if sp.toChar c = '"' then
            (sp.readString (c :: rest)).map fun r => (.str r.1, r.2)
          else if isNumberStart (sp.toChar c) then
            (sp.readNumber
              ((c :: rest).takeWhile (isNumberChar ∘ sp.toChar))).map
                fun n => (.num n, (c :: rest).dropWhile
                  (isNumberChar ∘ sp.toChar))
          else
            sp.readWord "null".toList .null (c :: rest)
              <|> sp.readWord "true".toList (.bool true) (c :: rest)
              <|> sp.readWord "false".toList (.bool false) (c :: rest)

/-- The longest run of number characters ends with the number. -/
private theorem span_number {text rest : List C}
    (hall : ∀ c ∈ text, (isNumberChar ∘ sp.toChar) c = true)
    (h : ∀ c cs, rest = c :: cs → closesNumber (sp.toChar c)) :
    (text ++ rest).takeWhile (isNumberChar ∘ sp.toChar) = text ∧
      (text ++ rest).dropWhile (isNumberChar ∘ sp.toChar) = rest := by
  rw [List.takeWhile_append_of_pos hall, List.dropWhile_append_of_pos hall]
  cases rest with
  | nil => simp
  | cons c cs =>
      have hc := isNumberChar_of_closes (h c cs rfl)
      simp [hc]

/-- A run of number characters is read by the number reader, whoever wrote
it. -/
theorem readToken_numberText {text : List C} {n : N}
    (hhead : ∃ c cs, text = c :: cs ∧ isNumberStart (sp.toChar c) = true)
    (hchars : ∀ c ∈ text, isNumberChar (sp.toChar c) = true)
    (hread : sp.readNumber text = some n) {rest : List C}
    (h : ∀ c cs, rest = c :: cs → closesNumber (sp.toChar c)) :
    sp.readToken (text ++ rest) = some (.num n, rest) := by
  have hspan := sp.span_number hchars h
  rcases hhead with ⟨c, cs, rfl, hc⟩
  rw [List.cons_append] at hspan ⊢
  simp only [readToken, punctuation_numberStart hc,
    if_neg (numberStart_ne_quote hc), hc, if_true, hspan.1, hspan.2, hread]
  rfl

theorem readToken_number {n : N} (hback : sp.readNumber (sp.number n) = some n)
    {rest : List C}
    (h : ∀ c cs, rest = c :: cs → closesNumber (sp.toChar c)) :
    sp.readToken (sp.number n ++ rest) = some (.num n, rest) :=
  sp.readToken_numberText (sp.number_head n) (sp.number_chars n) hback h

/-- A text that opens with a quote is read by the string reader. -/
theorem readToken_stringText {text : List C} {s : S}
    (hhead : ∃ cs, text = sp.ofChar '"' :: cs)
    (hread : ∀ rest, sp.readString (text ++ rest) = some (s, rest))
    (rest : List C) : sp.readToken (text ++ rest) = some (.str s, rest) := by
  have htext := hread rest
  have hquote : sp.toChar (sp.ofChar '"') = '"' :=
    sp.toChar_ofChar _ (by decide)
  have hp : punctuation (N := N) (S := S) '"' = none := by simp [punctuation]
  rcases hhead with ⟨cs, rfl⟩
  rw [List.cons_append] at htext ⊢
  simp only [readToken, hquote, hp, if_true, htext]
  rfl

theorem readToken_string (s : S) (rest : List C) :
    sp.readToken (sp.string s ++ rest) = some (.str s, rest) :=
  sp.readToken_stringText (sp.string_head s) (sp.readString_string s) rest

/-- The texts of the tokens, as a lexicon of the grammar. -/
def lexicon : Lexicon C N S where
  text := sp.tokenText
  skip := List.dropWhile (isSpace ∘ sp.toChar)
  read := sp.readToken
  closes := fun c => closesNumber (sp.toChar c)
  readsNumber := fun n => sp.readNumber (sp.number n) = some n
  text_ne_nil := by
    intro t
    cases t with
    | num n =>
        rcases sp.number_head n with ⟨c, cs, hn, -⟩
        simp [tokenText, hn]
    | str s =>
        rcases sp.string_head s with ⟨cs, hs⟩
        simp [tokenText, hs]
    | bool b => cases b <;> simp [tokenText]
    | _ => simp [tokenText]
  skip_nil := rfl
  skip_text := by
    intro t rest
    cases t with
    | num n =>
        rcases sp.number_head n with ⟨c, cs, hn, hc⟩
        simp [tokenText, hn, isSpace_numberStart hc]
    | str s =>
        rcases sp.string_head s with ⟨cs, hs⟩
        simp [tokenText, hs, isSpace, sp.toChar_ofChar]
    | bool b => cases b <;> simp [tokenText, isSpace, sp.toChar_ofChar]
    | _ => simp [tokenText, isSpace, sp.toChar_ofChar]
  closes_text := by
    intro t ht
    cases t <;> simp [Token.Closing] at ht <;>
      simp [tokenText, closesNumber, sp.toChar_ofChar]
  read_text := by
    intro t rest hback h
    cases t with
    | num n =>
        exact sp.readToken_number (hback n rfl) fun c cs hr => h n c cs rfl hr
    | str s => exact sp.readToken_string s rest
    | bool b =>
        cases b <;>
          simp [tokenText, readToken, punctuation, isNumberStart, readWord,
            sp.toChar_ofChar]
    | _ =>
        simp [tokenText, readToken, punctuation, isNumberStart, readWord,
          sp.toChar_ofChar]

/-- The same texts with the reader of numbers that inverts their printer. -/
noncomputable def exact : Spelling C N S :=
  { sp with readNumber := Function.partialInv sp.number }

/-- **Trees with one text are the same.** -/
theorem render_injective : Function.Injective sp.lexicon.render :=
  sp.exact.lexicon.render_injective fun n =>
    Function.partialInv_left sp.number_injective n

/-- A number is no white space. -/
theorem skip_numberStart {c : C} (h : isNumberStart (sp.toChar c) = true)
    (cs : List C) : sp.lexicon.skip (c :: cs) = c :: cs := by
  simp [lexicon, isSpace_numberStart h]

theorem skip_quote (cs : List C) :
    sp.lexicon.skip (sp.ofChar '"' :: cs) = sp.ofChar '"' :: cs := by
  simp [lexicon, isSpace, sp.toChar_ofChar]

end Spelling

end RenderEngine.Verified.JsonSpelling
