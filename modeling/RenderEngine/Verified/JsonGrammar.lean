import Mathlib.Data.List.Basic

/-!
# JSON trees, their tokens and their texts

Printing a tree is two steps: the tree becomes a token list, and each token
becomes a text over some alphabet.  Reading goes back the same way.  The two
steps are inverted separately, so the grammar argument (where commas and
brackets may stand) never looks at characters, and the lexical argument
(where one token's text ends) never looks at trees.

The number type, the string type and the alphabet are parameters.  A
`Lexicon` holds the texts of the tokens together with the reader's laws.  The
one token whose text does not end by itself is a number: its reader is only
asked to succeed where the text stops or a comma or closing bracket follows,
and `numsClosed_tokens` shows that a tree never puts anything else there.  Nor
need it give every number back: `readsNumber` says which ones it does.

## Main results

* `parseTokens_tokens`: the token parser inverts `tokens`.
* `lexAll_textOf`: the lexer inverts the texts of a token list.
* `parse_render`: reading the text of a tree gives the tree back, if its
  numbers are read back.
* `render_injective`: trees with one text are the same.
* `parse_everyObject`: whatever text is read, every object of the tree is
  built by the reader's map type.
-/

namespace RenderEngine.Verified.JsonGrammar

/-- A JSON tree.  Members stand in the order of the underlying map. -/
inductive Json (N S : Type) where
  | null
  | bool (b : Bool)
  | num (n : N)
  | str (s : S)
  | arr (items : List (Json N S))
  | obj (members : List (S × Json N S))

inductive Token (N S : Type) where
  | lbrace
  | rbrace
  | lbrack
  | rbrack
  | comma
  | colon
  | null
  | bool (b : Bool)
  | num (n : N)
  | str (s : S)
  deriving DecidableEq

variable {N S : Type}

/-! ## Predicates on every object of a tree -/

mutual

/-- Every object of the tree has a member list satisfying `P`. -/
def Json.EveryObject (P : List (S × Json N S) → Prop) : Json N S → Prop
  | .arr items => everyItem P items
  | .obj members => P members ∧ everyMember P members
  | _ => True

def everyItem (P : List (S × Json N S) → Prop) : List (Json N S) → Prop
  | [] => True
  | x :: xs => x.EveryObject P ∧ everyItem P xs

def everyMember (P : List (S × Json N S) → Prop) :
    List (S × Json N S) → Prop
  | [] => True
  | (_, v) :: ms => v.EveryObject P ∧ everyMember P ms

end

mutual

theorem Json.everyObject_mono {P Q : List (S × Json N S) → Prop}
    (hPQ : ∀ ms, P ms → Q ms) :
    ∀ v : Json N S, v.EveryObject P → v.EveryObject Q
  | .null, _ => trivial
  | .bool _, _ => trivial
  | .num _, _ => trivial
  | .str _, _ => trivial
  | .arr xs, h => everyItem_mono hPQ xs h
  | .obj ms, h => ⟨hPQ ms h.1, everyMember_mono hPQ ms h.2⟩

theorem everyItem_mono {P Q : List (S × Json N S) → Prop}
    (hPQ : ∀ ms, P ms → Q ms) :
    ∀ xs : List (Json N S), everyItem P xs → everyItem Q xs
  | [], _ => trivial
  | x :: xs, h => ⟨x.everyObject_mono hPQ h.1, everyItem_mono hPQ xs h.2⟩

theorem everyMember_mono {P Q : List (S × Json N S) → Prop}
    (hPQ : ∀ ms, P ms → Q ms) :
    ∀ ms : List (S × Json N S), everyMember P ms → everyMember Q ms
  | [], _ => trivial
  | (_, v) :: ms, h => ⟨v.everyObject_mono hPQ h.1, everyMember_mono hPQ ms h.2⟩

end

mutual

theorem everyObject_true : ∀ v : Json N S, v.EveryObject (fun _ => True)
  | .null => trivial
  | .bool _ => trivial
  | .num _ => trivial
  | .str _ => trivial
  | .arr xs => everyItem_true xs
  | .obj ms => ⟨trivial, everyMember_true ms⟩

theorem everyItem_true : ∀ xs : List (Json N S), everyItem (fun _ => True) xs
  | [] => trivial
  | x :: xs => ⟨everyObject_true x, everyItem_true xs⟩

theorem everyMember_true : ∀ ms : List (S × Json N S),
    everyMember (fun _ => True) ms
  | [] => trivial
  | (_, v) :: ms => ⟨everyObject_true v, everyMember_true ms⟩

end

theorem everyItem_iff {P : List (S × Json N S) → Prop}
    (xs : List (Json N S)) :
    everyItem P xs ↔ ∀ x ∈ xs, x.EveryObject P := by
  induction xs with
  | nil => simp [everyItem]
  | cons x xs ih => simp [everyItem, ih]

theorem everyMember_iff {P : List (S × Json N S) → Prop}
    (ms : List (S × Json N S)) :
    everyMember P ms ↔ ∀ m ∈ ms, m.2.EveryObject P := by
  induction ms with
  | nil => simp [everyMember]
  | cons m ms ih => simp [everyMember, ih]

/-! ## Trees as tokens -/

mutual

def tokens : Json N S → List (Token N S)
  | .null => [.null]
  | .bool b => [.bool b]
  | .num n => [.num n]
  | .str s => [.str s]
  | .arr [] => [.lbrack, .rbrack]
  | .arr (x :: xs) => .lbrack :: (tokens x ++ itemTail xs)
  | .obj [] => [.lbrace, .rbrace]
  | .obj ((k, v) :: ms) =>
      .lbrace :: .str k :: .colon :: (tokens v ++ memberTail ms)

/-- The items after the first, and the closing bracket. -/
def itemTail : List (Json N S) → List (Token N S)
  | [] => [.rbrack]
  | x :: xs => .comma :: (tokens x ++ itemTail xs)

/-- The members after the first, and the closing brace. -/
def memberTail : List (S × Json N S) → List (Token N S)
  | [] => [.rbrace]
  | (k, v) :: ms =>
      .comma :: .str k :: .colon :: (tokens v ++ memberTail ms)

end

/-! ## The token parser

`build` is what the reader does with the members it met: a map type sorts
them or drops duplicates.
-/

section Parser

variable (build : List (S × Json N S) → List (S × Json N S))

mutual

def parseValue : Nat → List (Token N S) →
    Option (Json N S × List (Token N S))
  | 0, _ => none
  | _ + 1, .null :: rest => some (.null, rest)
  | _ + 1, .bool b :: rest => some (.bool b, rest)
  | _ + 1, .num n :: rest => some (.num n, rest)
  | _ + 1, .str s :: rest => some (.str s, rest)
  | _ + 1, .lbrack :: .rbrack :: rest => some (.arr [], rest)
  | fuel + 1, .lbrack :: rest => do
      let (x, rest) ← parseValue fuel rest
      let (xs, rest) ← parseItemTail fuel rest
      return (.arr (x :: xs), rest)
  | _ + 1, .lbrace :: .rbrace :: rest => some (.obj (build []), rest)
  | fuel + 1, .lbrace :: .str k :: .colon :: rest => do
      let (v, rest) ← parseValue fuel rest
      let (ms, rest) ← parseMemberTail fuel rest
      return (.obj (build ((k, v) :: ms)), rest)
  | _ + 1, _ => none

def parseItemTail : Nat → List (Token N S) →
    Option (List (Json N S) × List (Token N S))
  | 0, _ => none
  | _ + 1, .rbrack :: rest => some ([], rest)
  | fuel + 1, .comma :: rest => do
      let (x, rest) ← parseValue fuel rest
      let (xs, rest) ← parseItemTail fuel rest
      return (x :: xs, rest)
  | _ + 1, _ => none

def parseMemberTail : Nat → List (Token N S) →
    Option (List (S × Json N S) × List (Token N S))
  | 0, _ => none
  | _ + 1, .rbrace :: rest => some ([], rest)
  | fuel + 1, .comma :: .str k :: .colon :: rest => do
      let (v, rest) ← parseValue fuel rest
      let (ms, rest) ← parseMemberTail fuel rest
      return ((k, v) :: ms, rest)
  | _ + 1, _ => none

end

/-- A whole token list as one value. -/
def parseTokens (ts : List (Token N S)) : Option (Json N S) :=
  match parseValue build ts.length ts with
  | some (v, []) => some v
  | _ => none

/-- A value never starts with a closing bracket, so a non-empty array is not
taken for an empty one. -/
private theorem parseValue_lbrack {x : Json N S} {xs : List (Json N S)}
    {fuel : Nat} {ts rest rest' : List (Token N S)}
    (hx : parseValue build fuel ts = some (x, rest))
    (hxs : parseItemTail build fuel rest = some (xs, rest')) :
    parseValue build (fuel + 1) (.lbrack :: ts) =
      some (.arr (x :: xs), rest') := by
  cases ts with
  | nil => cases fuel <;> simp [parseValue] at hx
  | cons t ts =>
      cases t with
      | rbrack => cases fuel <;> simp [parseValue] at hx
      | _ => simp [parseValue, hx, hxs]

mutual

/-- The token parser inverts `tokens` and leaves what follows. -/
theorem parseValue_tokens : ∀ (v : Json N S) (fuel : Nat)
    (rest : List (Token N S)), v.EveryObject (fun ms => build ms = ms) →
    (tokens v).length ≤ fuel →
    parseValue build fuel (tokens v ++ rest) = some (v, rest)
  | .null, fuel + 1, rest, _, _ => by simp [tokens, parseValue]
  | .bool b, fuel + 1, rest, _, _ => by simp [tokens, parseValue]
  | .num n, fuel + 1, rest, _, _ => by simp [tokens, parseValue]
  | .str s, fuel + 1, rest, _, _ => by simp [tokens, parseValue]
  | .arr [], fuel + 1, rest, _, _ => by simp [tokens, parseValue]
  | .arr (x :: xs), fuel + 1, rest, hb, hf => by
      simp only [Json.EveryObject, everyItem] at hb
      simp only [tokens, List.length_cons, List.length_append] at hf
      have hx := parseValue_tokens x fuel (itemTail xs ++ rest) hb.1 (by omega)
      have hxs := parseItemTail_itemTail xs fuel rest hb.2 (by omega)
      rw [tokens, List.cons_append, List.append_assoc]
      exact parseValue_lbrack build hx hxs
  | .obj [], fuel + 1, rest, hb, _ => by
      simp only [Json.EveryObject] at hb
      simp [tokens, parseValue, hb.1]
  | .obj ((k, v) :: ms), fuel + 1, rest, hb, hf => by
      simp only [Json.EveryObject, everyMember] at hb
      simp only [tokens, List.length_cons, List.length_append] at hf
      have hv := parseValue_tokens v fuel (memberTail ms ++ rest) hb.2.1
        (by omega)
      have hms := parseMemberTail_memberTail ms fuel rest hb.2.2 (by omega)
      simp [tokens, parseValue, hv, hms, hb.1]
  | .null, 0, _, _, hf => by simp [tokens] at hf
  | .bool _, 0, _, _, hf => by simp [tokens] at hf
  | .num _, 0, _, _, hf => by simp [tokens] at hf
  | .str _, 0, _, _, hf => by simp [tokens] at hf
  | .arr [], 0, _, _, hf => by simp [tokens] at hf
  | .arr (_ :: _), 0, _, _, hf => by simp [tokens] at hf
  | .obj [], 0, _, _, hf => by simp [tokens] at hf
  | .obj ((_, _) :: _), 0, _, _, hf => by simp [tokens] at hf

theorem parseItemTail_itemTail : ∀ (xs : List (Json N S)) (fuel : Nat)
    (rest : List (Token N S)), everyItem (fun ms => build ms = ms) xs →
    (itemTail xs).length ≤ fuel →
    parseItemTail build fuel (itemTail xs ++ rest) = some (xs, rest)
  | [], fuel + 1, rest, _, _ => by simp [itemTail, parseItemTail]
  | x :: xs, fuel + 1, rest, hb, hf => by
      simp only [everyItem] at hb
      simp only [itemTail, List.length_cons, List.length_append] at hf
      have hx := parseValue_tokens x fuel (itemTail xs ++ rest) hb.1 (by omega)
      have hxs := parseItemTail_itemTail xs fuel rest hb.2 (by omega)
      simp [itemTail, parseItemTail, hx, hxs]
  | [], 0, _, _, hf => by simp [itemTail] at hf
  | _ :: _, 0, _, _, hf => by simp [itemTail] at hf

theorem parseMemberTail_memberTail : ∀ (ms : List (S × Json N S)) (fuel : Nat)
    (rest : List (Token N S)), everyMember (fun ms => build ms = ms) ms →
    (memberTail ms).length ≤ fuel →
    parseMemberTail build fuel (memberTail ms ++ rest) = some (ms, rest)
  | [], fuel + 1, rest, _, _ => by simp [memberTail, parseMemberTail]
  | (k, v) :: ms, fuel + 1, rest, hb, hf => by
      simp only [everyMember] at hb
      simp only [memberTail, List.length_cons, List.length_append] at hf
      have hv := parseValue_tokens v fuel (memberTail ms ++ rest) hb.1
        (by omega)
      have hms := parseMemberTail_memberTail ms fuel rest hb.2 (by omega)
      simp [memberTail, parseMemberTail, hv, hms]
  | [], 0, _, _, hf => by simp [memberTail] at hf
  | (_, _) :: _, 0, _, _, hf => by simp [memberTail] at hf

end

theorem parseTokens_tokens (v : Json N S)
    (hb : v.EveryObject (fun ms => build ms = ms)) :
    parseTokens build (tokens v) = some v := by
  have h := parseValue_tokens build v (tokens v).length [] hb (Nat.le_refl _)
  rw [List.append_nil] at h
  simp [parseTokens, h]

/-- What `build` guarantees of one object holds of every object read. -/
theorem parseValue_everyObject {P : List (S × Json N S) → Prop}
    (hbuild : ∀ ms, everyMember P ms → P (build ms) ∧ everyMember P (build ms))
    (fuel : Nat) :
    (∀ ts v rest, parseValue build fuel ts = some (v, rest) →
      v.EveryObject P) ∧
    (∀ ts xs rest, parseItemTail build fuel ts = some (xs, rest) →
      everyItem P xs) ∧
    (∀ ts ms rest, parseMemberTail build fuel ts = some (ms, rest) →
      everyMember P ms) := by
  induction fuel with
  | zero => simp [parseValue, parseItemTail, parseMemberTail]
  | succ fuel ih =>
      have ihValue := ih.1
      have ihItems := ih.2.1
      have ihMembers := ih.2.2
      refine ⟨?value, ?items, ?members⟩
      case value =>
        intro ts v rest h
        unfold parseValue at h
        split at h <;> simp only [Option.bind_eq_bind, Option.bind_eq_some_iff,
          Option.some.injEq, Prod.mk.injEq, Prod.exists, Option.pure_def,
          reduceCtorEq] at h
        any_goals (rcases h with ⟨rfl, -⟩; trivial)
        · next hfuel =>
            cases hfuel
            rcases h with ⟨x, r, hx, xs, r', hxs, rfl, -⟩
            exact ⟨ihValue _ _ _ hx, ihItems _ _ _ hxs⟩
        · rcases h with ⟨rfl, -⟩
          exact hbuild [] trivial
        · next hfuel =>
            cases hfuel
            rcases h with ⟨x, r, hx, ms, r', hms, rfl, -⟩
            exact hbuild _ ⟨ihValue _ _ _ hx, ihMembers _ _ _ hms⟩
      case items =>
        intro ts xs rest h
        unfold parseItemTail at h
        split at h <;> simp only [Option.bind_eq_bind, Option.bind_eq_some_iff,
          Option.some.injEq, Prod.mk.injEq, Prod.exists, Option.pure_def,
          reduceCtorEq] at h
        · rcases h with ⟨rfl, -⟩
          trivial
        · next hfuel =>
            cases hfuel
            rcases h with ⟨x, r, hx, xs, r', hxs, rfl, -⟩
            exact ⟨ihValue _ _ _ hx, ihItems _ _ _ hxs⟩
      case members =>
        intro ts ms rest h
        unfold parseMemberTail at h
        split at h <;> simp only [Option.bind_eq_bind, Option.bind_eq_some_iff,
          Option.some.injEq, Prod.mk.injEq, Prod.exists, Option.pure_def,
          reduceCtorEq] at h
        · rcases h with ⟨rfl, -⟩
          trivial
        · next hfuel =>
            cases hfuel
            rcases h with ⟨x, r, hx, ms, r', hms, rfl, -⟩
            exact ⟨ihValue _ _ _ hx, ihMembers _ _ _ hms⟩

end Parser

/-! ## Where numbers stand -/

/-- The tokens that may follow a number. -/
def Token.Closing : Token N S → Prop
  | .comma | .rbrack | .rbrace => True
  | _ => False

/-- What follows a token, if anything does, starts with a closing token. -/
def Closed : List (Token N S) → Prop
  | [] => True
  | t :: _ => t.Closing

/-- Every number of the list is last or followed by a closing token. -/
def NumsClosed : List (Token N S) → Prop
  | [] => True
  | .num _ :: ts => Closed ts ∧ NumsClosed ts
  | _ :: ts => NumsClosed ts

theorem closed_itemTail (xs : List (Json N S)) (rest : List (Token N S)) :
    Closed (itemTail xs ++ rest) := by
  cases xs <;> simp [itemTail, Closed, Token.Closing]

theorem closed_memberTail (ms : List (S × Json N S))
    (rest : List (Token N S)) : Closed (memberTail ms ++ rest) := by
  cases ms <;> simp [memberTail, Closed, Token.Closing]

mutual

/-- Numbers of a tree stand before a comma, a closing bracket or the end. -/
theorem numsClosed_tokens : ∀ (v : Json N S) (rest : List (Token N S)),
    Closed rest → NumsClosed rest → NumsClosed (tokens v ++ rest)
  | .null, rest, _, hn => by simpa [tokens, NumsClosed] using hn
  | .bool _, rest, _, hn => by simpa [tokens, NumsClosed] using hn
  | .num _, rest, hc, hn => by simpa [tokens, NumsClosed] using ⟨hc, hn⟩
  | .str _, rest, _, hn => by simpa [tokens, NumsClosed] using hn
  | .arr [], rest, _, hn => by simpa [tokens, NumsClosed] using hn
  | .arr (x :: xs), rest, hc, hn => by
      have htail := numsClosed_itemTail xs rest hc hn
      have hx := numsClosed_tokens x _ (closed_itemTail xs rest) htail
      simpa [tokens, NumsClosed] using hx
  | .obj [], rest, _, hn => by simpa [tokens, NumsClosed] using hn
  | .obj ((k, v) :: ms), rest, hc, hn => by
      have htail := numsClosed_memberTail ms rest hc hn
      have hv := numsClosed_tokens v _ (closed_memberTail ms rest) htail
      simpa [tokens, NumsClosed] using hv

theorem numsClosed_itemTail : ∀ (xs : List (Json N S))
    (rest : List (Token N S)), Closed rest → NumsClosed rest →
    NumsClosed (itemTail xs ++ rest)
  | [], rest, _, hn => by simpa [itemTail, NumsClosed] using hn
  | x :: xs, rest, hc, hn => by
      have htail := numsClosed_itemTail xs rest hc hn
      have hx := numsClosed_tokens x _ (closed_itemTail xs rest) htail
      simpa [itemTail, NumsClosed] using hx

theorem numsClosed_memberTail : ∀ (ms : List (S × Json N S))
    (rest : List (Token N S)), Closed rest → NumsClosed rest →
    NumsClosed (memberTail ms ++ rest)
  | [], rest, _, hn => by simpa [memberTail, NumsClosed] using hn
  | (k, v) :: ms, rest, hc, hn => by
      have htail := numsClosed_memberTail ms rest hc hn
      have hv := numsClosed_tokens v _ (closed_memberTail ms rest) htail
      simpa [memberTail, NumsClosed] using hv

end

/-! ## Tokens as texts -/

/-- The texts of tokens over the alphabet `C`, and a reader for them.
`closes` tells the letters that end a number, `readsNumber` the numbers whose
texts are read back. -/
structure Lexicon (C N S : Type) where
  text : Token N S → List C
  skip : List C → List C
  read : List C → Option (Token N S × List C)
  closes : C → Prop
  readsNumber : N → Prop
  text_ne_nil : ∀ t, text t ≠ []
  skip_nil : skip [] = []
  skip_text : ∀ t rest, skip (text t ++ rest) = text t ++ rest
  closes_text : ∀ t : Token N S, t.Closing →
    ∃ c cs, text t = c :: cs ∧ closes c
  read_text : ∀ t rest, (∀ n, t = .num n → readsNumber n) →
    (∀ n c cs, t = .num n → rest = c :: cs → closes c) →
    read (text t ++ rest) = some (t, rest)

namespace Lexicon

variable {C : Type} (lx : Lexicon C N S)

/-- The text of a token list. -/
def textOf (ts : List (Token N S)) : List C := ts.flatMap lx.text

/-- Read tokens until nothing but skipped letters is left. -/
def lexAll : Nat → List C → Option (List (Token N S))
  | 0, _ => none
  | fuel + 1, cs =>
      match lx.skip cs with
      | [] => some []
      | c :: cs =>
          match lx.read (c :: cs) with
          | none => none
          | some (t, rest) => (lexAll fuel rest).map (t :: ·)

theorem length_le_textOf (ts : List (Token N S)) :
    ts.length ≤ (lx.textOf ts).length := by
  induction ts with
  | nil => exact Nat.le_refl 0
  | cons t ts ih =>
      have hpos := List.length_pos_iff.mpr (lx.text_ne_nil t)
      simp only [textOf, List.flatMap_cons, List.length_append,
        List.length_cons] at ih ⊢
      omega

private theorem closes_of_closed {ts : List (Token N S)} (h : Closed ts)
    {c : C} {cs : List C} (hts : lx.textOf ts = c :: cs) : lx.closes c := by
  cases ts with
  | nil => simp [textOf] at hts
  | cons t ts =>
      obtain ⟨c', cs', htext, hcl⟩ := lx.closes_text t h
      rw [textOf, List.flatMap_cons, htext, List.cons_append] at hts
      rw [← (List.cons.inj hts).1]
      exact hcl

/-- **The lexer inverts the texts of a token list** whose numbers are closed
and read back. -/
theorem lexAll_textOf (ts : List (Token N S)) (fuel : Nat)
    (hback : ∀ n, .num n ∈ ts → lx.readsNumber n)
    (hn : NumsClosed ts) (hf : ts.length < fuel) :
    lx.lexAll fuel (lx.textOf ts) = some ts := by
  induction ts generalizing fuel with
  | nil =>
      obtain ⟨fuel, rfl⟩ := Nat.exists_eq_succ_of_ne_zero (by omega : fuel ≠ 0)
      simp [textOf, lexAll, lx.skip_nil]
  | cons t ts ih =>
      obtain ⟨fuel, rfl⟩ := Nat.exists_eq_succ_of_ne_zero (by omega : fuel ≠ 0)
      have htail : NumsClosed ts := by
        cases t <;> simp only [NumsClosed] at hn <;> first | exact hn | exact hn.2
      have hread : lx.read (lx.text t ++ lx.textOf ts) =
          some (t, lx.textOf ts) := by
        apply lx.read_text
        · rintro n rfl
          exact hback n List.mem_cons_self
        · rintro n c cs rfl hts
          simp only [NumsClosed] at hn
          exact lx.closes_of_closed hn.1 hts
      have hcons : lx.textOf (t :: ts) = lx.text t ++ lx.textOf ts := by
        simp [textOf]
      rw [hcons, lexAll, lx.skip_text]
      obtain ⟨c, cs, hc⟩ := List.exists_cons_of_ne_nil (lx.text_ne_nil t)
      rw [hc, List.cons_append] at hread ⊢
      simp only [hread]
      rw [ih fuel (fun n hmem => hback n (List.mem_cons_of_mem t hmem)) htail
        (by simpa using hf)]
      rfl

/-- The text of a tree. -/
def render (v : Json N S) : List C := lx.textOf (tokens v)

private theorem textOf_append (ts us : List (Token N S)) :
    lx.textOf (ts ++ us) = lx.textOf ts ++ lx.textOf us :=
  List.flatMap_append

private theorem textOf_cons (t : Token N S) (ts : List (Token N S)) :
    lx.textOf (t :: ts) = lx.text t ++ lx.textOf ts := List.flatMap_cons

private theorem textOf_itemTail (x : Json N S) (xs : List (Json N S)) :
    lx.render x ++ lx.textOf (itemTail xs) =
      (lx.text .comma).intercalate ((x :: xs).map lx.render) ++
        lx.text .rbrack := by
  induction xs generalizing x with
  | nil => simp [itemTail, textOf]
  | cons y xs ih =>
      have hy := ih y
      rw [itemTail, textOf_cons, textOf_append]
      rw [List.map_cons] at hy ⊢
      rw [List.map_cons, List.intercalate_cons_cons, List.append_assoc,
        List.append_assoc, ← hy, render, render]

/-- The text of one member. -/
def memberText (m : S × Json N S) : List C :=
  lx.text (.str m.1) ++ lx.text .colon ++ lx.render m.2

private theorem textOf_memberTail (m : S × Json N S)
    (ms : List (S × Json N S)) :
    lx.memberText m ++ lx.textOf (memberTail ms) =
      (lx.text .comma).intercalate ((m :: ms).map lx.memberText) ++
        lx.text .rbrace := by
  induction ms generalizing m with
  | nil => simp [memberTail, textOf]
  | cons m' ms ih =>
      have hm := ih m'
      rcases m' with ⟨k, v⟩
      rw [memberTail, textOf_cons, textOf_cons, textOf_cons, textOf_append]
      rw [List.map_cons] at hm ⊢
      rw [List.map_cons, List.intercalate_cons_cons, List.append_assoc,
        List.append_assoc, ← hm, memberText, memberText, render, render]
      simp only [List.append_assoc]

/-- The text of an array. -/
theorem render_arr (xs : List (Json N S)) :
    lx.render (.arr xs) = lx.text .lbrack ++
      (lx.text .comma).intercalate (xs.map lx.render) ++ lx.text .rbrack := by
  cases xs with
  | nil => simp [render, tokens, textOf]
  | cons x xs =>
      rw [List.append_assoc, ← textOf_itemTail, render, tokens, textOf_cons,
        textOf_append, render]

/-- The text of an object. -/
theorem render_obj (ms : List (S × Json N S)) :
    lx.render (.obj ms) = lx.text .lbrace ++
      (lx.text .comma).intercalate (ms.map lx.memberText) ++
        lx.text .rbrace := by
  cases ms with
  | nil => simp [render, tokens, textOf]
  | cons m ms =>
      rcases m with ⟨k, v⟩
      rw [List.append_assoc, ← textOf_memberTail, render, tokens, textOf_cons,
        textOf_cons, textOf_cons, textOf_append, memberText, render]
      simp only [List.append_assoc]

/-- Read a whole text as one tree. -/
def parse (build : List (S × Json N S) → List (S × Json N S))
    (cs : List C) : Option (Json N S) :=
  (lx.lexAll (cs.length + 1) cs).bind (parseTokens build)

/-- **Reading a printed tree gives it back**, for every tree whose numbers are
read back and whose objects `build` leaves alone. -/
theorem parse_render (build : List (S × Json N S) → List (S × Json N S))
    (v : Json N S) (hback : ∀ n, .num n ∈ tokens v → lx.readsNumber n)
    (hb : v.EveryObject (fun ms => build ms = ms)) :
    lx.parse build (lx.render v) = some v := by
  have hnums : NumsClosed (tokens v) := by
    have h := numsClosed_tokens v [] trivial trivial
    rwa [List.append_nil] at h
  have hlen := lx.length_le_textOf (tokens v)
  rw [parse, render, lx.lexAll_textOf (tokens v) _ hback hnums (by omega)]
  exact parseTokens_tokens build v hb

/-- If every number is read back, trees with one text are the same. -/
theorem render_injective (hback : ∀ n, lx.readsNumber n) :
    Function.Injective lx.render := by
  intro v w h
  have htrue : ∀ u : Json N S, u.EveryObject (fun ms => id ms = ms) :=
    fun u => u.everyObject_mono (fun _ _ => rfl) (everyObject_true u)
  have hv := lx.parse_render id v (fun n _ => hback n) (htrue v)
  rw [h, lx.parse_render id w (fun n _ => hback n) (htrue w)] at hv
  exact (Option.some.inj hv).symm

/-- **Every object of a tree that was read is one `build` returned**, so a
property `build` establishes holds throughout. -/
theorem parse_everyObject {P : List (S × Json N S) → Prop}
    {build : List (S × Json N S) → List (S × Json N S)}
    (hbuild : ∀ ms, everyMember P ms → P (build ms) ∧ everyMember P (build ms))
    {cs : List C} {v : Json N S} (h : lx.parse build cs = some v) :
    v.EveryObject P := by
  rw [parse, Option.bind_eq_some_iff] at h
  rcases h with ⟨ts, -, h⟩
  unfold parseTokens at h
  split at h
  · next hv =>
      cases h
      exact (parseValue_everyObject build hbuild _).1 _ _ _ hv
  · cases h

end Lexicon

end RenderEngine.Verified.JsonGrammar
