import RenderEngine.Ports.LabAcceptance
import RenderEngine.Ports.SerdeValue
import RenderEngine.Ports.TextEncoding
import RenderEngine.Verified.JsonTranslate

/-!
# What the browser reads in the server's texts

`serde_json` writes the replies and `JSON.parse` reads them.  Both escape the
same characters of a string, so a string crosses as it is.  The numbers do not
cross as they are: `0.0` is read as the number 0, and an integer past 2^53 as
the double next to it.  `ReadsSerde` says what each number is read as.

## Main results

* `stringify_jsText`: a string has one text in both languages.
* `jsonParse_render`: the browser reads every value the server writes as its
  `browserValue`.
-/

namespace RenderEngine.Ports.WireText

open RenderEngine.Ports.CoreTypes
open RenderEngine.Ports.Serde
open RenderEngine.Ports.JavaScript
open RenderEngine.Ports.JavaScriptJson
open RenderEngine.Ports.LabAcceptance (plainEngine)
open RenderEngine.Ports.TextEncoding
open RenderEngine.Verified.JsonGrammar
open RenderEngine.Verified.JsonSpelling
open RenderEngine.Verified.SortedMap

/-! ## Strings -/

/-- A Rust `String` in the browser. -/
def jsText (t : Text) : JsString := t.flatMap utf16

@[simp] theorem jsText_append (s t : Text) :
    jsText (s ++ t) = jsText s ++ jsText t := List.flatMap_append

theorem utf16_ascii {c : Char} (h : c.toNat < 128) : utf16 c = [unit c] :=
  if_pos (by omega)

theorem jsText_ascii {t : Text} (h : ∀ c ∈ t, c.toNat < 128) :
    jsText t = ofText t := by
  induction t with
  | nil => rfl
  | cons c t ih =>
      rw [jsText, List.flatMap_cons, utf16_ascii (h c List.mem_cons_self)]
      exact congrArg _ (ih fun d hd => h d (List.mem_cons_of_mem _ hd))

/-- A character is no surrogate. -/
private theorem char_cases (c : Char) :
    c.toNat < 0xD800 ∨ 0xDFFF < c.toNat ∧ c.toNat < 0x110000 := by
  rcases c.valid with h | h
  · exact .inl h
  · exact .inr h

private theorem plain_unit {c : Char} (h : c.toNat < 0x10000) :
    Plain (unit c) ∧ (unit c).val = c.toNat := by
  have hval : (unit c).val = c.toNat := Nat.mod_eq_of_lt h
  have hchar := char_cases c
  simp only [Plain, isLead, isTrail, hval, decide_eq_false_iff_not]
  exact ⟨by omega, trivial⟩

private theorem val_ofNat {n : Nat} (h : n < 65536) :
    (Fin.ofNat 65536 n).val = n := Nat.mod_eq_of_lt h

/-- The surrogates of a character past U+FFFF. -/
private theorem utf16_pair {c : Char} (h : ¬ c.toNat < 0x10000) :
    ∃ u v, utf16 c = [u, v] ∧ isLead u = true ∧ isTrail v = true ∧
      0x10000 + (u.val - 0xD800) * 0x400 + (v.val - 0xDC00) = c.toNat := by
  have hchar := char_cases c
  refine ⟨_, _, if_neg h, ?_⟩
  simp only [isLead, isTrail, decide_eq_true_eq]
  rw [val_ofNat (by omega), val_ofNat (by omega)]
  omega

/-- The code points of a text are those of its characters. -/
theorem codePoints_jsText (t : Text) :
    codePoints (jsText t) = t.map Char.toNat := by
  induction t with
  | nil => rfl
  | cons c t ih =>
      rw [jsText, List.flatMap_cons, List.map_cons]
      by_cases h : c.toNat < 0x10000
      · rw [utf16, if_pos h, List.singleton_append,
          codePoints_unit (plain_unit h).1, (plain_unit h).2]
        exact congrArg _ ih
      · rcases utf16_pair h with ⟨u, v, huv, hu, hv, hval⟩
        rw [huv, List.cons_append, List.singleton_append,
          codePoints_pair hu hv, hval]
        exact congrArg _ ih

/-- Different texts are different strings. -/
theorem jsText_injective : Function.Injective jsText := by
  intro s t h
  have hpoints := congrArg codePoints h
  rw [codePoints_jsText, codePoints_jsText] at hpoints
  exact List.map_injective_iff.mpr (fun _ _ => Char.toNat_inj.mp) hpoints

/-! ## One text for a string -/

/-- On ASCII the escapes are compared one by one. -/
private theorem escapeUnit_ascii : ∀ n < 128,
    escapeUnit (unit (Char.ofNat n)) = jsText (escape (Char.ofNat n)) := by
  decide +kernel

/-- Past ASCII nothing is escaped. -/
private theorem escape_of_not_ascii {c : Char} (h : ¬ c.toNat < 128) :
    escape c = [c] := by
  have hne : ∀ d : Char, d.toNat < 128 → c ≠ d := by
    rintro d hd rfl
    exact h hd
  rw [escape, if_neg (hne _ (by decide)), if_neg (hne _ (by decide)),
    if_neg (hne _ (by decide)), if_neg (hne _ (by decide)),
    if_neg (hne _ (by decide)), if_neg (by omega), if_neg (by omega),
    if_neg (by omega)]

private theorem escapeUnit_unit {c : Char} (h : c.toNat < 0x10000) :
    escapeUnit (unit c) = jsText (escape c) := by
  by_cases hascii : c.toNat < 128
  · have heq := escapeUnit_ascii c.toNat hascii
    rwa [Char.ofNat_toNat] at heq
  · have hplain := plain_unit h
    have hne : ∀ u : CodeUnit, u.val < 128 → unit c ≠ u := by
      rintro u hu rfl
      rw [hplain.2] at hu
      exact hascii hu
    have hcontrol : ¬ ((unit c).val < 32 ∨ isLead (unit c) = true
        ∨ isTrail (unit c) = true) := by
      rw [hplain.1.1, hplain.1.2, hplain.2]
      simp only [Bool.false_eq_true, or_false]
      omega
    rw [escape_of_not_ascii hascii, escapeUnit, if_neg (hne _ (by decide)),
      if_neg (hne _ (by decide)), if_neg (hne _ (by decide)),
      if_neg (hne _ (by decide)), if_neg (hne _ (by decide)),
      if_neg (hne _ (by decide)), if_neg (hne _ (by decide)),
      if_neg hcontrol, jsText, List.flatMap_singleton, utf16, if_pos h]

/-- A unit that leads no pair is escaped by itself. -/
private theorem escapedUnits_plain {u : CodeUnit} (hu : Plain u)
    (rest : JsString) :
    escapedUnits (u :: rest) = escapeUnit u :: escapedUnits rest := by
  cases rest with
  | nil => rfl
  | cons v rest => rw [escapedUnits, hu.1, Bool.false_and, if_neg (by simp)]

/-- One character is written as `serde_json` writes it. -/
private theorem escapedUnits_utf16 (c : Char) (rest : JsString) :
    (escapedUnits (utf16 c ++ rest)).flatten =
      jsText (escape c) ++ (escapedUnits rest).flatten := by
  by_cases h : c.toNat < 0x10000
  · rw [utf16, if_pos h, List.singleton_append,
      escapedUnits_plain (plain_unit h).1, List.flatten_cons,
      escapeUnit_unit h]
  · rcases utf16_pair h with ⟨u, v, huv, hu, hv, -⟩
    rw [escape_of_not_ascii (by omega), jsText, List.flatMap_singleton, huv,
      List.cons_append, List.singleton_append, escapedUnits, hu, hv,
      Bool.and_self, if_pos rfl]
    rfl

/-- **`JSON.stringify` and `serde_json` write a string alike.** -/
theorem stringify_jsText (s : Text) : stringify (jsText s) = jsText (quote s) := by
  have hunits : (escapedUnits (jsText s)).flatten = jsText (s.flatMap escape) := by
    induction s with
    | nil => rfl
    | cons c s ih =>
        rw [jsText, List.flatMap_cons, escapedUnits_utf16, List.flatMap_cons,
          jsText_append]
        exact congrArg _ ih
  rw [stringify, hunits, quote]
  show _ = utf16 '"' ++ jsText (s.flatMap escape ++ ['"'])
  rw [jsText_append]
  rfl

/-! ## Values -/

section Values

variable {F N : Type}

/-- What `JSON.parse` makes of the texts that `serde_json` writes: `number` of
a number, and of a string the string itself. -/
structure ReadsSerde (en : Engine F) (sj : SerdeText N)
    (number : N → JsNumber F) : Prop where
  /-- the escapes of `serde_json` -/
  string : sj.string = quote
  readNumber : ∀ n, JavaScriptJson.readNumber en.toNumerals
    (jsText (sj.number n)) = some (number n)

variable {en : Engine F} {sj : SerdeText N} {number : N → JsNumber F}

/-- A number is written in ASCII. -/
theorem jsText_number (sj : SerdeText N) (n : N) :
    jsText (sj.number n) = ofText (sj.number n) :=
  jsText_ascii fun c hc => numberChar_ascii (sj.number_chars n c hc)

/-- The reader of the browser over the writer of the server. -/
def ReadsSerde.translation (h : ReadsSerde en sj number) :
    Translation (Serde.spelling sj) (JavaScriptJson.spelling en.toNumerals) where
  letter := utf16
  number := number
  string := jsText
  letter_ofChar := fun _ hc => utf16_ascii hc
  number_head := by
    intro n
    rcases sj.number_head n with ⟨c, cs, hn, hc⟩
    have hascii : c.toNat < 128 :=
      numberChar_ascii (sj.number_chars n c (by simp [hn]))
    refine ⟨unit c, ofText cs, ?_, ?_⟩
    · show jsText (sj.number n) = _
      rw [jsText_number, hn]
      rfl
    · show isNumberStart (CodeUnit.toChar (unit c)) = true
      rwa [toChar_unit c hascii]
  number_chars := by
    intro n u hu
    have htext : u ∈ jsText (sj.number n) := hu
    rw [jsText_number] at htext
    rcases List.mem_map.mp htext with ⟨c, hc, rfl⟩
    have hchar := sj.number_chars n c hc
    show isNumberChar (CodeUnit.toChar (unit c)) = true
    rwa [toChar_unit c (numberChar_ascii hchar)]
  readNumber := h.readNumber
  readString := by
    intro s rest
    have htext : (sj.string s).flatMap utf16 = stringify (jsText s) := by
      rw [h.string, stringify_jsText]
      rfl
    show readString ((sj.string s).flatMap utf16 ++ rest) = _
    rw [htext]
    exact readString_stringify _ rest

/-- A value of the server, as the browser reads it. -/
def browserValue (number : N → JsNumber F) (v : Value N) : JsValue F :=
  ofJson (v.tree.map number jsText)

/-- **The browser reads every value that the server writes.** -/
theorem jsonParse_render (h : ReadsSerde en sj number) (v : Value N) :
    jsonParse en (jsText ((lexicon sj).render v.tree)) =
      .ok (browserValue number v) := by
  have hkeys : ∀ ms : List (Text × Json N Text), KeysSorted ms →
      ownMembers (mapMembers number jsText ms) =
        mapMembers number jsText ms := by
    intro ms hms
    apply ownMembers_of_nodup
    rw [mapMembers_eq, List.map_map]
    have hdistinct : (ms.map Prod.fst).Nodup :=
      List.pairwise_map.mpr (hms.imp ne_of_lt)
    have hinjective := (List.nodup_map_iff jsText_injective).mpr hdistinct
    rwa [List.map_map] at hinjective
  have hparse : (JavaScriptJson.spelling en.toNumerals).lexicon.parse ownMembers
      (jsText ((lexicon sj).render v.tree)) = some (v.tree.map number jsText) :=
    (h.translation.parse_translate ownMembers v.tree).trans (congrArg some
      (Json.rebuild_of_everyObject _ _ (v.tree.everyObject_map hkeys v.sorted)))
  rw [jsonParse, hparse]
  rfl

/-! ## Reading a value in the browser -/

section Reading

variable (number : N → JsNumber F)

@[simp] theorem browserValue_null :
    browserValue number Value.null = .null := rfl

@[simp] theorem browserValue_bool (b : Bool) :
    browserValue number (Value.bool b) = .bool b := rfl

@[simp] theorem browserValue_number (n : N) :
    browserValue number (Value.number n) = .number (number n) := rfl

@[simp] theorem browserValue_string (s : Text) :
    browserValue number (Value.string s) = .string (jsText s) := rfl

theorem ofItems_eq (xs : List (Json (JsNumber F) JsString)) :
    ofItems xs = xs.map ofJson := by
  induction xs with
  | nil => rfl
  | cons x xs ih => rw [ofItems, ih, List.map_cons]

theorem ofMembers_eq (ms : List (JsString × Json (JsNumber F) JsString)) :
    ofMembers ms = ms.map fun m => (m.1, ofJson m.2) := by
  induction ms with
  | nil => rfl
  | cons m ms ih => rw [ofMembers, ih, List.map_cons]

@[simp] theorem browserValue_array (xs : List (Value N)) :
    browserValue number (Value.array xs) =
      .array (xs.map (browserValue number)) := by
  show JsValue.array (ofItems (mapItems number jsText (xs.map Value.tree))) = _
  rw [mapItems_eq, ofItems_eq, List.map_map, List.map_map]
  rfl

/-- The first member under a key. -/
private theorem find?_eq_lookup {V : Type} (ms : List (Text × V)) (k : Text) :
    (ms.find? fun m => jsText m.1 = jsText k).map Prod.snd = ms.lookup k := by
  induction ms with
  | nil => rfl
  | cons m ms ih =>
      rw [List.find?_cons, List.lookup_cons]
      by_cases h : k = m.1
      · simp [h]
      · have hne : ¬ jsText m.1 = jsText k :=
          fun heq => h (jsText_injective heq).symm
        rw [beq_eq_false_iff_ne.mpr h, decide_eq_false hne]
        exact ih

/-- **A property in the browser is the member of the server's value.** -/
theorem member_browserValue (v : Value N) (k : Text) :
    (browserValue number v).member (jsText k) =
      ((v.get k).map (browserValue number)).getD .undefined := by
  rcases v with ⟨tree, hsorted⟩
  cases tree with
  | obj ms =>
      have hmembers : browserValue number ⟨.obj ms, hsorted⟩ =
          .object (ms.map fun m => (jsText m.1,
            ofJson (m.2.map number jsText))) := by
        show JsValue.object (ofMembers (mapMembers number jsText ms)) = _
        rw [mapMembers_eq, ofMembers_eq, List.map_map]
        rfl
      have hget : ((⟨.obj ms, hsorted⟩ : Value N).get k).map Value.tree =
          ms.lookup k := by
        show ((ms.attach.map _).lookup k).map Value.tree = _
        rw [← lookup_map_snd Value.tree, List.map_map]
        exact congrArg (List.lookup k) ms.attach_map_subtype_val
      rw [hmembers, JsValue.member, List.find?_map, Option.map_map]
      have hfind := find?_eq_lookup ms k
      rw [← hget] at hfind
      cases hlookup : (⟨.obj ms, hsorted⟩ : Value N).get k with
      | none =>
          rw [hlookup, Option.map_none, Option.map_eq_none_iff] at hfind
          simp only [Function.comp_def, hfind, Option.map_none]
      | some w =>
          rw [hlookup, Option.map_some, Option.map_eq_some_iff] at hfind
          rcases hfind with ⟨m, hm, htree⟩
          simp only [Function.comp_def, hm, Option.map_some, htree]
          rfl
  | _ => rfl

end Reading

end Values

/-! ## A wire over the safe integers -/

theorem quote_head (s : Text) : ∃ cs, quote s = '"' :: cs := ⟨_, rfl⟩

/-- The safe integers, in decimal. -/
def safeText : SerdeText SafeInteger where
  number := fun i => intDecimal i.val
  readNumber := fun t => (readInt t).bind fun i =>
    if h : isSafe i = true then some ⟨i, h⟩ else none
  string := quote
  readString := readQuoted
  number_head := fun i => intText.number_head i.val
  number_chars := fun i => intText.number_chars i.val
  number_injective := fun _ _ h => Subtype.ext (intDecimal_injective h)
  string_head := quote_head
  readString_string := readQuoted_quote

theorem readsBack_safeText (i : SafeInteger) : ReadsBack safeText i := by
  show (readInt (intDecimal i.val)).bind _ = some i
  rw [readInt_intDecimal, Option.bind_some, dif_pos i.property]

theorem readsSerde_safe : ReadsSerde plainEngine safeText .int where
  string := rfl
  readNumber := fun i => by
    rw [jsText_number]
    exact readNumber_numberText plainEngine.toNumerals (.int i)

end RenderEngine.Ports.WireText
