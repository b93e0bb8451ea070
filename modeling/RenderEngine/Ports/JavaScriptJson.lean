import RenderEngine.Ports.JavaScript

/-!
# `JSON.parse` and `JSON.stringify`

The JSON texts of the browser, over UTF-16 code units.  A string is written
with the escapes `JSON.stringify` uses (a surrogate without its partner is
escaped, a pair is copied), and read with every escape JSON has.

## Main results

* `readString_stringify`: reading inverts the text of every string.
* `jsonParse_jsonText`: parsing inverts the text of every tree without
  repeated keys.
-/

namespace RenderEngine.Ports.JavaScriptJson

open RenderEngine.Ports.CoreTypes
open RenderEngine.Ports.Serde
open RenderEngine.Ports.JavaScript
open RenderEngine.Verified.JsonGrammar
open RenderEngine.Verified.JsonSpelling

/-! ## Strings -/

/-- Four hexadecimal digits. -/
def fourHex (n : Nat) : JsString :=
  ofText [Nat.digitChar (n / 4096), Nat.digitChar (n / 256 % 16),
    Nat.digitChar (n / 16 % 16), Nat.digitChar (n % 16)]

/-- How a code unit is written that is not half of a surrogate pair. -/
def escapeUnit (u : CodeUnit) : JsString :=
  if u = 0x22 then js "\\\""
  else if u = 0x5C then js "\\\\"
  else if u = 8 then js "\\b"
  else if u = 9 then js "\\t"
  else if u = 10 then js "\\n"
  else if u = 12 then js "\\f"
  else if u = 13 then js "\\r"
  else if u.val < 32 ∨ isLead u ∨ isTrail u then js "\\u" ++ fourHex u.val
  else [u]

/-- The texts of the code units of a string. -/
def escapedUnits : JsString → List JsString
  | [] => []
  | [u] => [escapeUnit u]
  | u :: v :: rest =>
      if isLead u && isTrail v then [u] :: [v] :: escapedUnits rest
      else escapeUnit u :: escapedUnits (v :: rest)

/-- `JSON.stringify` of a string. -/
def stringify (s : JsString) : JsString :=
  unit '"' :: ((escapedUnits s).flatten ++ [unit '"'])

/-- The code unit named by the character after a backslash. -/
def unescapeUnit (u : CodeUnit) : Option CodeUnit :=
  if u = 0x22 ∨ u = 0x5C ∨ u = 0x2F then some u
  else if u = unit 'b' then some 8
  else if u = unit 'f' then some 12
  else if u = unit 'n' then some 10
  else if u = unit 'r' then some 13
  else if u = unit 't' then some 9
  else none

/-- The code unit of the four digits after `\u`. -/
def readFourHex : JsString → Option (CodeUnit × JsString)
  | a :: b :: c :: d :: rest => do
      let a ← hexValue a
      let b ← hexValue b
      let c ← hexValue c
      let d ← hexValue d
      return (Fin.ofNat 65536 (((a * 16 + b) * 16 + c) * 16 + d), rest)
  | _ => none

/-- The code unit written after a backslash. -/
def readEscape : JsString → Option (CodeUnit × JsString)
  | [] => none
  | e :: rest =>
      if e = unit 'u' then readFourHex rest
      else (unescapeUnit e).map fun v => (v, rest)

/-- Read one code unit of a string. -/
def readUnit : JsString → Option (CodeUnit × JsString)
  | [] => none
  | u :: rest =>
      if u = 0x5C then readEscape rest
      else if u.val < 32 then none
      else some (u, rest)

/-- Read code units up to the closing quote. -/
def readUnits : Nat → JsString → Option (JsString × JsString)
  | 0, _ => none
  | _ + 1, [] => none
  | fuel + 1, u :: us =>
      if u = unit '"' then some ([], us)
      else do
        let (v, rest) ← readUnit (u :: us)
        let (s, rest) ← readUnits fuel rest
        return (v :: s, rest)

def readString : JsString → Option (JsString × JsString)
  | [] => none
  | u :: us => if u = unit '"' then readUnits (us.length + 1) us else none

private theorem hexValue_digitChar : ∀ d < 16,
    hexValue (unit (Nat.digitChar d)) = some d := by
  decide

/-- What is written for a code unit is read back as that unit, and does not
look like the closing quote. -/
structure Spells (u : CodeUnit) (text : JsString) : Prop where
  head : ∃ e es, text = e :: es ∧ e ≠ unit '"'
  read : ∀ rest, readUnit (text ++ rest) = some (u, rest)

private theorem spells_fourHex (u : CodeUnit) :
    Spells u (js "\\u" ++ fourHex u.val) := by
  refine { head := ⟨unit '\\', unit 'u' :: fourHex u.val, rfl, by decide⟩,
           read := ?_ }
  intro rest
  have hlt := u.isLt
  have h1 := hexValue_digitChar (u.val / 4096) (by omega)
  have h2 := hexValue_digitChar (u.val / 256 % 16) (by omega)
  have h3 := hexValue_digitChar (u.val / 16 % 16) (by omega)
  have h4 := hexValue_digitChar (u.val % 16) (by omega)
  have hval : ((u.val / 4096 * 16 + u.val / 256 % 16) * 16
      + u.val / 16 % 16) * 16 + u.val % 16 = u.val := by omega
  have hread : readUnit (js "\\u" ++ fourHex u.val ++ rest) =
      readFourHex (fourHex u.val ++ rest) := rfl
  rw [hread, fourHex, ofText]
  simp only [List.map_cons, List.map_nil, List.cons_append, List.nil_append,
    readFourHex, h1, h2, h3, h4, Option.bind_eq_bind, Option.bind_some, hval,
    Fin.ofNat_val_eq_self]
  rfl

private theorem spells_self {u : CodeUnit} (hquote : u ≠ 0x22)
    (hslash : u ≠ 0x5C) (hcontrol : ¬ u.val < 32) : Spells u [u] where
  head := ⟨u, [], rfl, hquote⟩
  read := fun rest => by
    rw [List.singleton_append, readUnit, if_neg hslash, if_neg hcontrol]

theorem spells_escapeUnit (u : CodeUnit) : Spells u (escapeUnit u) := by
  unfold escapeUnit
  split_ifs with h1 h2 h3 h4 h5 h6 h7 h8
  all_goals first
    | exact spells_fourHex u
    | exact spells_self h1 h2 (fun h => h8 (Or.inl h))
    | (subst u
       exact { head := ⟨_, _, rfl, by decide⟩, read := fun rest => rfl })

private theorem spells_surrogate {u : CodeUnit}
    (h : isLead u = true ∨ isTrail u = true) : Spells u [u] := by
  have hge : 0xD800 ≤ u.val := by
    rcases h with h | h <;> simp only [isLead, isTrail, decide_eq_true_eq] at h
      <;> omega
  refine spells_self ?_ ?_ (by omega)
  · rintro rfl
    exact absurd hge (by decide)
  · rintro rfl
    exact absurd hge (by decide)

theorem spells_escapedUnits : ∀ s : JsString,
    List.Forall₂ Spells s (escapedUnits s)
  | [] => .nil
  | [u] => .cons (spells_escapeUnit u) .nil
  | u :: v :: rest => by
      rw [escapedUnits]
      split_ifs with hpair
      · rw [Bool.and_eq_true] at hpair
        exact .cons (spells_surrogate (Or.inl hpair.1))
          (.cons (spells_surrogate (Or.inr hpair.2))
            (spells_escapedUnits rest))
      · exact .cons (spells_escapeUnit u) (spells_escapedUnits (v :: rest))

theorem readUnits_spelt {s : JsString} {texts : List JsString}
    (h : List.Forall₂ Spells s texts) (fuel : Nat) (rest : JsString)
    (hfuel : s.length < fuel) :
    readUnits fuel (texts.flatten ++ unit '"' :: rest) = some (s, rest) := by
  induction h generalizing fuel with
  | nil =>
      cases fuel with
      | zero => exact absurd hfuel (Nat.not_lt_zero _)
      | succ fuel => simp [readUnits]
  | @cons u text s texts hu _ ih =>
      cases fuel with
      | zero => exact absurd hfuel (Nat.not_lt_zero _)
      | succ fuel =>
          have hread := hu.read (texts.flatten ++ unit '"' :: rest)
          rcases hu.head with ⟨e, es, he, hne⟩
          rw [List.flatten_cons, List.append_assoc]
          rw [he, List.cons_append] at hread ⊢
          rw [readUnits, if_neg hne, hread]
          simp only [Option.bind_eq_bind, Option.bind_some]
          rw [ih fuel (by simpa using hfuel)]
          rfl

private theorem length_le_spelt {s : JsString} {texts : List JsString}
    (h : List.Forall₂ Spells s texts) : s.length ≤ texts.flatten.length := by
  induction h with
  | nil => exact Nat.le_refl 0
  | cons hu _ ih =>
      rcases hu.head with ⟨e, es, he, -⟩
      simp only [he, List.flatten_cons, List.length_append, List.length_cons]
      omega

/-- **Reading inverts the text of every string.** -/
theorem readString_stringify (s rest : JsString) :
    readString (stringify s ++ rest) = some (s, rest) := by
  have hspelt := spells_escapedUnits s
  have hlen := length_le_spelt hspelt
  have htext : stringify s ++ rest =
      unit '"' :: ((escapedUnits s).flatten ++ unit '"' :: rest) := by
    simp [stringify]
  rw [htext, readString, if_pos rfl]
  apply readUnits_spelt hspelt
  simp only [List.length_append]
  omega

/-! ## Numbers -/

section Parse

variable {F : Type} (num : Numerals F)

/-- A text of each number that a JSON text can hold. -/
def numberText : JsNumber F → JsString
  | .int i => ofText (intDecimal i.val)
  | .other x => num.numberText x
  | .infinity negative => overflowText negative

/-- The number a JSON text holds: the decimal form of a safe integer, or what
the engine reads. -/
def readNumber (us : JsString) : Option (JsNumber F) :=
  match readInt (us.map CodeUnit.toChar) with
  | none => num.readNumber us
  | some i =>
      if h : isSafe i = true ∧ ofText (intDecimal i) = us then
        some (.int ⟨i, h.1⟩)
      else num.readNumber us

theorem map_toChar_ofText {t : Text} (h : ∀ c ∈ t, c.toNat < 128) :
    (ofText t).map CodeUnit.toChar = t := by
  rw [ofText, List.map_map]
  exact (List.map_congr_left fun c hc => toChar_unit c (h c hc)).trans
    (List.map_id _)

/-- Numbers are written in ASCII. -/
theorem numberChar_ascii {c : Char} (h : isNumberChar c = true) :
    c.toNat < 128 := by
  simp only [isNumberChar, Bool.or_eq_true, beq_iff_eq] at h
  rcases h with ((((h | rfl) | rfl) | rfl) | rfl) | rfl
  · have hle : c.toNat ≤ '9'.toNat := (Char.isDigit_iff_toNat.mp h).2
    exact Nat.lt_of_le_of_lt hle (by decide)
  all_goals decide

private theorem intDecimal_ascii (i : Int) :
    ∀ c ∈ intDecimal i, c.toNat < 128 := fun c hc =>
  numberChar_ascii (intText.number_chars i c hc)

theorem readNumber_numberText (n : JsNumber F) :
    readNumber num (numberText num n) = some n := by
  cases n with
  | int i =>
      have hread : readInt ((ofText (intDecimal i.val)).map CodeUnit.toChar) =
          some i.val := by
        rw [map_toChar_ofText (intDecimal_ascii i.val)]
        exact readInt_intDecimal i.val
      simp only [numberText, readNumber, hread]
      exact dif_pos ⟨i.property, rfl⟩
  | other x =>
      have htext : numberText num (.other x) = num.numberText x := rfl
      rw [htext, readNumber]
      split
      · exact num.readNumber_numberText x
      · next i _ =>
          split_ifs with hdecimal
          · exact absurd hdecimal.2.symm
              (num.numberText_ne x ⟨i, hdecimal.1⟩)
          · exact num.readNumber_numberText x
  | infinity negative =>
      have hread : readInt ((overflowText negative).map CodeUnit.toChar) =
          none := by
        cases negative <;> decide
      simp only [numberText, readNumber, hread]
      exact num.readNumber_overflow negative

/-- The spelling of JSON in the browser. -/
def spelling : Spelling CodeUnit (JsNumber F) JsString where
  ofChar := unit
  toChar := CodeUnit.toChar
  toChar_ofChar := toChar_unit
  number := numberText num
  readNumber := readNumber num
  string := stringify
  readString := readString
  number_head := by
    intro n
    cases n with
    | int i =>
        rcases intText.number_head i.val with ⟨c, cs, hn, hc⟩
        have htext : intDecimal i.val = c :: cs := hn
        have hascii : c.toNat < 128 :=
          intDecimal_ascii i.val c (by rw [htext]; exact List.mem_cons_self)
        refine ⟨unit c, ofText cs, ?_, ?_⟩
        · rw [numberText, htext]
          rfl
        · rwa [toChar_unit c hascii]
    | other x => exact num.number_head x
    | infinity negative =>
        cases negative <;> exact ⟨_, _, rfl, by decide⟩
  number_chars := by
    intro n u hu
    cases n with
    | int i =>
        rcases List.mem_map.mp hu with ⟨c, hc, rfl⟩
        rw [toChar_unit c (intDecimal_ascii i.val c hc)]
        exact intText.number_chars i.val c hc
    | other x => exact num.number_chars x u hu
    | infinity negative =>
        have hall : (overflowText negative).all
            (fun u => isNumberChar (CodeUnit.toChar u)) = true := by
          cases negative <;> decide
        exact List.all_eq_true.mp hall u hu
  number_injective := by
    intro m n h
    have hm := readNumber_numberText num m
    rw [h, readNumber_numberText] at hm
    exact (Option.some.inj hm).symm
  string_head := fun s => ⟨_, rfl⟩
  readString_string := readString_stringify

/-! ## Trees -/

/-- Define a member: a repeated key keeps its place and takes the value. -/
def defineMember {V : Type} (ms : List (JsString × V)) (m : JsString × V) :
    List (JsString × V) :=
  if ms.any fun m' => m'.1 = m.1 then
    ms.map fun m' => if m'.1 = m.1 then m else m'
  else ms ++ [m]

/-- The members of a parsed object.  (Keys that are array indices come first
in a JavaScript object; nothing here observes the order.) -/
def ownMembers {V : Type} (ms : List (JsString × V)) : List (JsString × V) :=
  ms.foldl defineMember []

theorem ownMembers_of_nodup {V : Type} {ms : List (JsString × V)}
    (h : (ms.map Prod.fst).Nodup) : ownMembers ms = ms := by
  have hstep : ∀ (acc rest : List (JsString × V)),
      ((acc ++ rest).map Prod.fst).Nodup →
      rest.foldl defineMember acc = acc ++ rest := by
    intro acc rest hnodup
    induction rest generalizing acc with
    | nil => exact (List.append_nil acc).symm
    | cons m rest ih =>
        have hfresh : (acc.any fun m' => m'.1 = m.1) = false := by
          rw [List.any_eq_false]
          intro m' hm'
          rw [List.map_append, List.nodup_append] at hnodup
          have hne := hnodup.2.2 m'.1 (List.mem_map_of_mem hm') m.1
            (by simp)
          simpa using hne
        rw [List.foldl_cons, defineMember, hfresh, if_neg (by simp), ih]
        · simp
        · simpa using hnodup
  exact hstep [] ms h

mutual

/-- The value of a JSON tree. -/
def ofJson : Json (JsNumber F) JsString → JsValue F
  | .null => .null
  | .bool b => .bool b
  | .num n => .number n
  | .str s => .string s
  | .arr items => .array (ofItems items)
  | .obj members => .object (ofMembers members)

def ofItems : List (Json (JsNumber F) JsString) → List (JsValue F)
  | [] => []
  | x :: xs => ofJson x :: ofItems xs

def ofMembers : List (JsString × Json (JsNumber F) JsString) →
    List (JsString × JsValue F)
  | [] => []
  | (k, v) :: ms => (k, ofJson v) :: ofMembers ms

end

/-- `JSON.parse` of a string. -/
def jsonParse (en : Engine F) (text : JsString) : Throws (JsValue F) :=
  match (spelling en.toNumerals).lexicon.parse ownMembers text with
  | none => .error (en.syntaxError text)
  | some v => .ok (ofJson v)

theorem jsonParse_ne_undefined {en : Engine F} {text : JsString}
    {v : JsValue F} (h : jsonParse en text = .ok v) : v ≠ .undefined := by
  unfold jsonParse at h
  split at h
  · cases h
  · next tree _ =>
      cases h
      cases tree <;> simp [ofJson]

/-- No object repeats a key. -/
def KeysDistinct (v : Json (JsNumber F) JsString) : Prop :=
  v.EveryObject fun ms => (ms.map Prod.fst).Nodup

/-- A text of a tree. -/
def jsonText (v : Json (JsNumber F) JsString) : JsString :=
  (spelling num).lexicon.render v

/-- **Parsing inverts the text of every tree without repeated keys.** -/
theorem jsonParse_jsonText (en : Engine F) {v : Json (JsNumber F) JsString}
    (h : KeysDistinct v) :
    jsonParse en (jsonText en.toNumerals v) = .ok (ofJson v) := by
  have hparse := (spelling en.toNumerals).lexicon.parse_render ownMembers v
    (fun n _ => readNumber_numberText en.toNumerals n)
    (v.everyObject_mono (fun ms => ownMembers_of_nodup) h)
  rw [jsonParse, jsonText, hparse]

end Parse

end RenderEngine.Ports.JavaScriptJson
