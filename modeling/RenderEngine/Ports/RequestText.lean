import RenderEngine.Ports.RustStd
import RenderEngine.Ports.WireText

/-!
# What the server reads in the browser's texts

`JSON.stringify` writes the requests and `serde_json` reads them, with the
members of each object sorted as they are read.  A body travels as UTF-8.

The `Json` extractor of `axum` stands before the handler: a body that is too
long, or that its parser refuses, is turned away there.

## Main results

* `jsonText_eq`: a text of the browser is a text of characters.
* `receive_jsonText`: the server reads every value that the browser writes as
  its `serverValue`, if it does not nest too deeply.
* `extract_jsonText`: which bodies reach the handler.
-/

namespace RenderEngine.Ports.RequestText

open RenderEngine.Ports.CoreTypes
open RenderEngine.Ports.RustStd
open RenderEngine.Ports.Serde
open RenderEngine.Ports.JavaScript
open RenderEngine.Ports.JavaScriptJson
open RenderEngine.Ports.LabAcceptance (plainEngine)
open RenderEngine.Ports.TextEncoding
open RenderEngine.Ports.WireText
open RenderEngine.Verified.JsonGrammar
open RenderEngine.Verified.JsonSpelling
open RenderEngine.Verified.SortedMap

/-! ## Texts as characters -/

/-- The numbers that `JSON.stringify` writes as numbers. -/
abbrev FiniteNumber (F : Type) := { x : JsNumber F // x.isFinite = true }

theorem isFinite_int {F : Type} (i : SafeInteger) :
    (JsNumber.int i : JsNumber F).isFinite = true := rfl

/-- A safe integer, among the numbers that are sent. -/
def literal {F : Type} (i : SafeInteger) : FiniteNumber F :=
  ⟨.int i, isFinite_int i⟩

section Texts

variable {F : Type} (num : Numerals F)

/-- The text of a number, in characters. -/
def numberChars (x : FiniteNumber F) : Text :=
  (numberText num x.val).map CodeUnit.toChar

/-- A code unit that looks like a character of a number is that character. -/
theorem unit_toChar {u : CodeUnit} (h : isNumberChar u.toChar = true) :
    unit u.toChar = u := by
  have hvalid : u.val.isValidChar := by
    by_contra hinvalid
    have hzero : u.toChar = Char.ofNat 0 := by
      rw [CodeUnit.toChar, Char.ofNat, dif_neg hinvalid]
      rfl
    rw [hzero] at h
    exact absurd h (by decide)
  have hval : u.toChar.toNat = u.val := by
    rw [CodeUnit.toChar, Char.ofNat, dif_pos hvalid]
    rfl
  apply Fin.ext
  show u.toChar.toNat % 65536 = u.val
  rw [hval, Nat.mod_eq_of_lt u.isLt]

theorem numberText_chars (x : JsNumber F) :
    ∀ u ∈ numberText num x, isNumberChar (CodeUnit.toChar u) = true :=
  (JavaScriptJson.spelling num).number_chars x

theorem ofText_numberChars (x : FiniteNumber F) :
    ofText (numberChars num x) = numberText num x.val := by
  rw [ofText, numberChars, List.map_map]
  exact (List.map_congr_left fun u hu =>
    unit_toChar (numberText_chars num x.val u hu)).trans (List.map_id _)

theorem isNumberChar_numberChars (x : FiniteNumber F) :
    ∀ c ∈ numberChars num x, isNumberChar c = true := by
  intro c hc
  obtain ⟨u, hu, rfl⟩ := List.mem_map.mp hc
  exact numberText_chars num x.val u hu

theorem numberChars_head (x : FiniteNumber F) :
    ∃ c cs, numberChars num x = c :: cs ∧ isNumberStart c = true := by
  obtain ⟨u, us, htext, hu⟩ := (JavaScriptJson.spelling num).number_head x.val
  have hnumber : numberText num x.val = u :: us := htext
  exact ⟨u.toChar, us.map CodeUnit.toChar, by rw [numberChars, hnumber]; rfl,
    hu⟩

theorem jsText_numberChars (x : FiniteNumber F) :
    jsText (numberChars num x) = numberText num x.val := by
  rw [jsText_ascii fun c hc =>
    numberChar_ascii (isNumberChar_numberChars num x c hc),
    ofText_numberChars]

/-- What the browser writes, in characters. -/
def charText : SerdeText (FiniteNumber F) where
  number := numberChars num
  readNumber := fun t => (JavaScriptJson.readNumber num (ofText t)).bind fun x =>
    if h : x.isFinite = true then some ⟨x, h⟩ else none
  string := quote
  readString := readQuoted
  number_head := numberChars_head num
  number_chars := isNumberChar_numberChars num
  number_injective := by
    intro x y h
    have htext := congrArg ofText h
    rw [ofText_numberChars, ofText_numberChars] at htext
    exact Subtype.ext ((JavaScriptJson.spelling num).number_injective htext)
  string_head := quote_head
  readString_string := readQuoted_quote

/-- A tree of the browser, from its numbers and texts. -/
def browserTree (t : Json (FiniteNumber F) Text) : Json (JsNumber F) JsString :=
  t.map Subtype.val jsText

/-- The text of a token. -/
private theorem tokenText_eq (t : Token (FiniteNumber F) Text) :
    (JavaScriptJson.spelling num).lexicon.text (t.map Subtype.val jsText) =
      jsText ((lexicon (charText num)).text t) := by
  cases t with
  | num x => exact (jsText_numberChars num x).symm
  | str s => exact stringify_jsText s
  | bool b => cases b <;> rfl
  | _ => rfl

/-- **A text of the browser is a text of characters.** -/
theorem jsonText_eq (t : Json (FiniteNumber F) Text) :
    jsonText num (browserTree t) =
      jsText ((lexicon (charText num)).render t) := by
  rw [jsonText, browserTree, Lexicon.render, tokens_map, Lexicon.textOf,
    List.flatMap_map, Lexicon.render, Lexicon.textOf, jsText,
    List.flatMap_assoc]
  exact List.flatMap_congr fun token _ => tokenText_eq num token

end Texts

/-! ## What the server reads -/

section Values

variable {F N : Type}

/-- What `serde_json` makes of the numbers that the browser writes; strings
have one text in both. -/
structure ReadsBrowser (en : Engine F) (sj : SerdeText N)
    (value : FiniteNumber F → N) : Prop where
  string : sj.string = quote
  readNumber : ∀ x,
    sj.readNumber (numberChars en.toNumerals x) = some (value x)

variable {en : Engine F} {sj : SerdeText N} {value : FiniteNumber F → N}

/-- The reader of the server over the writer of the browser. -/
def ReadsBrowser.translation (h : ReadsBrowser en sj value) :
    Translation (Serde.spelling (charText en.toNumerals)) (Serde.spelling sj) where
  letter := fun c => [c]
  number := value
  string := id
  letter_ofChar := fun _ _ => rfl
  number_head := by
    intro x
    rw [List.flatMap_singleton']
    exact numberChars_head en.toNumerals x
  number_chars := by
    intro x
    rw [List.flatMap_singleton']
    exact isNumberChar_numberChars en.toNumerals x
  readNumber := by
    intro x
    rw [List.flatMap_singleton']
    exact h.readNumber x
  readString := by
    intro s rest
    rw [List.flatMap_singleton']
    show sj.readString (quote s ++ rest) = _
    rw [← h.string]
    exact sj.readString_string s rest

/-- A value of the browser, as the server reads it. -/
def serverValue (value : FiniteNumber F → N) (t : Json (FiniteNumber F) Text) :
    Value N where
  tree := (t.map value id).rebuild collect
  sorted := Json.rebuild_everyObject collect collect_everyMember _

/-- A body, sent as UTF-8. -/
def bodyText (body : JsString) : Text := (codePoints body).map Char.ofNat

/-- What `serde_json` reads of a body. -/
def receive (sj : SerdeText N) (body : JsString) : Option (Value N) :=
  fromStr sj (bodyText body)

/-- A text arrives as it is. -/
theorem bodyText_jsText (text : Text) : bodyText (jsText text) = text := by
  have hchars : text.map (Char.ofNat ∘ Char.toNat) = text :=
    (List.map_congr_left fun c _ => Char.ofNat_toNat c).trans (List.map_id _)
  rw [bodyText, codePoints_jsText, List.map_map, hchars]

theorem rebuild_id (t : Json N Text) : t.rebuild id = t :=
  Json.rebuild_of_everyObject id t
    (t.everyObject_mono (fun _ _ => rfl) (everyObject_true t))

/-- **The server reads every value that the browser writes**, unless it nests
too deeply. -/
theorem receive_jsonText (h : ReadsBrowser en sj value)
    (t : Json (FiniteNumber F) Text) :
    receive sj (jsonText en.toNumerals (browserTree t)) =
      if t.depth < recursionLimit then some (serverValue value t)
      else none := by
  have hparse := h.translation.parse_translate id t
  have htext : ((Serde.spelling (charText en.toNumerals)).lexicon.render
      t).flatMap h.translation.letter =
        (lexicon (charText en.toNumerals)).render t :=
    List.flatMap_singleton' _
  rw [htext, rebuild_id] at hparse
  rw [jsonText_eq, receive, bodyText_jsText, fromStr_of_parse sj hparse,
    Json.depth_map]
  rfl

/-! ## The extractor -/

/-- `DefaultBodyLimit`, in bytes. -/
def bodyLimit : Nat := 2097152

/-- Why the extractor turns a body away. -/
inductive JsonRejection where
  | lengthLimit
  | syntaxError

def JsonRejection.status : JsonRejection → UInt16
  | .lengthLimit => 413
  | .syntaxError => 400

/-- `Json<Value>` of a body that says it is JSON, as every client's does. -/
def extract (sj : SerdeText N) (body : JsString) :
    Except JsonRejection (Value N) :=
  if bodyLimit < byteLength (bodyText body) then .error .lengthLimit
  else okOr .syntaxError (receive sj body)

/-- The bytes of a value of the browser. -/
def bodyBytes (en : Engine F) (t : Json (FiniteNumber F) Text) : Nat :=
  byteLength ((lexicon (charText en.toNumerals)).render t)

/-- **Which bodies reach the handler.** -/
theorem extract_jsonText (h : ReadsBrowser en sj value)
    (t : Json (FiniteNumber F) Text) :
    extract sj (jsonText en.toNumerals (browserTree t)) =
      if bodyLimit < bodyBytes en t then .error .lengthLimit
      else if t.depth < recursionLimit then .ok (serverValue value t)
      else .error .syntaxError := by
  rw [extract, receive_jsonText h, jsonText_eq, bodyText_jsText, bodyBytes]
  split_ifs <;> rfl

/-! ## Members -/

/-- The object the server reads has the members the browser wrote. -/
theorem serverValue_obj (ms : List (Text × Json (FiniteNumber F) Text)) :
    serverValue value (.obj ms) =
      Value.object (ms.map fun m => (m.1, serverValue value m.2)) := by
  apply Value.tree_injective
  show Json.obj (collect (rebuildMembers collect (mapMembers value id ms))) =
    Json.obj (collect ((ms.map fun m =>
      (m.1, serverValue value m.2)).map fun m => (m.1, m.2.tree)))
  rw [mapMembers_eq, rebuildMembers_eq, List.map_map, List.map_map]
  rfl

@[simp] theorem serverValue_str (s : Text) :
    serverValue value (.str s) = Value.string s := rfl

@[simp] theorem serverValue_num (x : FiniteNumber F) :
    serverValue value (.num x) = Value.number (value x) := rfl

end Values

/-! ## A wire over the safe integers -/

/-- The number that the server reads. -/
def safeValue : FiniteNumber Empty → SafeInteger
  | ⟨.int i, _⟩ => i
  | ⟨.other x, _⟩ => x.elim
  | ⟨.infinity _, h⟩ => nomatch h

theorem readsBrowser_safe : ReadsBrowser plainEngine safeText safeValue where
  string := rfl
  readNumber := by
    rintro ⟨x, hx⟩
    cases x with
    | int i =>
        have htext : numberChars plainEngine.toNumerals ⟨.int i, hx⟩ =
            safeText.number i :=
          map_toChar_ofText fun c hc =>
            numberChar_ascii (intText.number_chars i.val c hc)
        rw [htext]
        exact readsBack_safeText i
    | other x => exact x.elim
    | infinity negative => cases hx

end RenderEngine.Ports.RequestText
