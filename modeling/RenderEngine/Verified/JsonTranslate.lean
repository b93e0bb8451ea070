import RenderEngine.Verified.JsonSpelling
import Mathlib.Data.List.Forall2

/-!
# Reading JSON that another printer wrote

Two programs that exchange JSON seldom spell it alike: one escapes what the
other copies, and each has its own number texts.  What both agree on is the
grammar.  A text is read as a token here whoever wrote it (`Reads`), so the
reader's laws about its own texts are one instance among others.

A `Translation` connects a writer's spelling with a reader's: how a letter of
the one looks to the other, and what the numbers and strings of the one are
read as.  It lifts to whole trees.

## Main results

* `parseTokens_rebuild`: a reader that builds its objects as it reads builds
  them as if afterwards.
* `lexAll_reads`: a sequence of texts is read as the tokens they are read as.
* `parse_translate`: the reader takes what the writer prints of a tree for the
  tree with its numbers and strings translated.
* `map_id_eq_iff`: when a tree is left alone by a translation of its numbers.
-/

namespace RenderEngine.Verified.JsonGrammar

variable {N S M T : Type}

/-! ## Trees with other leaves -/

mutual

/-- The tree with `f` of its numbers, and `g` of its strings and keys. -/
def Json.map (f : N → M) (g : S → T) : Json N S → Json M T
  | .null => .null
  | .bool b => .bool b
  | .num n => .num (f n)
  | .str s => .str (g s)
  | .arr items => .arr (mapItems f g items)
  | .obj members => .obj (mapMembers f g members)

def mapItems (f : N → M) (g : S → T) : List (Json N S) → List (Json M T)
  | [] => []
  | x :: xs => x.map f g :: mapItems f g xs

def mapMembers (f : N → M) (g : S → T) :
    List (S × Json N S) → List (T × Json M T)
  | [] => []
  | (k, v) :: ms => (g k, v.map f g) :: mapMembers f g ms

end

theorem mapItems_eq (f : N → M) (g : S → T) (xs : List (Json N S)) :
    mapItems f g xs = xs.map (Json.map f g) := by
  induction xs with
  | nil => rfl
  | cons x xs ih => rw [mapItems, ih, List.map_cons]

theorem mapMembers_eq (f : N → M) (g : S → T) (ms : List (S × Json N S)) :
    mapMembers f g ms = ms.map fun m => (g m.1, m.2.map f g) := by
  induction ms with
  | nil => rfl
  | cons m ms ih => rw [mapMembers, ih, List.map_cons]

/-- The token with `f` of its number or `g` of its string. -/
def Token.map (f : N → M) (g : S → T) : Token N S → Token M T
  | .num n => .num (f n)
  | .str s => .str (g s)
  | .lbrace => .lbrace
  | .rbrace => .rbrace
  | .lbrack => .lbrack
  | .rbrack => .rbrack
  | .comma => .comma
  | .colon => .colon
  | .null => .null
  | .bool b => .bool b

mutual

/-- The tokens of the translated tree are the translated tokens. -/
theorem tokens_map (f : N → M) (g : S → T) : ∀ v : Json N S,
    tokens (v.map f g) = (tokens v).map (Token.map f g)
  | .null => rfl
  | .bool _ => rfl
  | .num _ => rfl
  | .str _ => rfl
  | .arr [] => rfl
  | .arr (x :: xs) => by
      have hx := tokens_map f g x
      have hxs := itemTail_map f g xs
      simp only [Json.map, mapItems, tokens, List.map_cons, List.map_append,
        Token.map, hx, hxs]
  | .obj [] => rfl
  | .obj ((k, v) :: ms) => by
      have hv := tokens_map f g v
      have hms := memberTail_map f g ms
      simp only [Json.map, mapMembers, tokens, List.map_cons, List.map_append,
        Token.map, hv, hms]

theorem itemTail_map (f : N → M) (g : S → T) : ∀ xs : List (Json N S),
    itemTail (mapItems f g xs) = (itemTail xs).map (Token.map f g)
  | [] => rfl
  | x :: xs => by
      have hx := tokens_map f g x
      have hxs := itemTail_map f g xs
      simp only [mapItems, itemTail, List.map_cons, List.map_append, Token.map,
        hx, hxs]

theorem memberTail_map (f : N → M) (g : S → T) :
    ∀ ms : List (S × Json N S),
    memberTail (mapMembers f g ms) = (memberTail ms).map (Token.map f g)
  | [] => rfl
  | (k, v) :: ms => by
      have hv := tokens_map f g v
      have hms := memberTail_map f g ms
      simp only [mapMembers, memberTail, List.map_cons, List.map_append,
        Token.map, hv, hms]

end

mutual

/-- What holds of every object's members, in a form that survives the
translation, holds of every object of the translated tree. -/
theorem Json.everyObject_map {P : List (S × Json N S) → Prop}
    {Q : List (T × Json M T) → Prop} {f : N → M} {g : S → T}
    (hPQ : ∀ ms, P ms → Q (mapMembers f g ms)) : ∀ v : Json N S,
    v.EveryObject P → (v.map f g).EveryObject Q
  | .null, _ => trivial
  | .bool _, _ => trivial
  | .num _, _ => trivial
  | .str _, _ => trivial
  | .arr xs, h => everyItem_map hPQ xs h
  | .obj ms, h => ⟨hPQ ms h.1, everyMember_map hPQ ms h.2⟩

theorem everyItem_map {P : List (S × Json N S) → Prop}
    {Q : List (T × Json M T) → Prop} {f : N → M} {g : S → T}
    (hPQ : ∀ ms, P ms → Q (mapMembers f g ms)) : ∀ xs : List (Json N S),
    everyItem P xs → everyItem Q (mapItems f g xs)
  | [], _ => trivial
  | x :: xs, h => ⟨x.everyObject_map hPQ h.1, everyItem_map hPQ xs h.2⟩

theorem everyMember_map {P : List (S × Json N S) → Prop}
    {Q : List (T × Json M T) → Prop} {f : N → M} {g : S → T}
    (hPQ : ∀ ms, P ms → Q (mapMembers f g ms)) :
    ∀ ms : List (S × Json N S),
    everyMember P ms → everyMember Q (mapMembers f g ms)
  | [], _ => trivial
  | (_, v) :: ms, h => ⟨v.everyObject_map hPQ h.1, everyMember_map hPQ ms h.2⟩

end

/-! ## Trees with other numbers -/

mutual

/-- Two translations, one after the other. -/
theorem Json.map_map {L U : Type} (f : N → M) (g : S → T) (f' : M → L)
    (g' : T → U) : ∀ v : Json N S,
    (v.map f g).map f' g' = v.map (f' ∘ f) (g' ∘ g)
  | .null => rfl
  | .bool _ => rfl
  | .num _ => rfl
  | .str _ => rfl
  | .arr xs => congrArg Json.arr (mapItems_mapItems f g f' g' xs)
  | .obj ms => congrArg Json.obj (mapMembers_mapMembers f g f' g' ms)

theorem mapItems_mapItems {L U : Type} (f : N → M) (g : S → T) (f' : M → L)
    (g' : T → U) : ∀ xs : List (Json N S),
    mapItems f' g' (mapItems f g xs) = mapItems (f' ∘ f) (g' ∘ g) xs
  | [] => rfl
  | x :: xs => by
      rw [mapItems, mapItems, mapItems, x.map_map, mapItems_mapItems]

theorem mapMembers_mapMembers {L U : Type} (f : N → M) (g : S → T)
    (f' : M → L) (g' : T → U) : ∀ ms : List (S × Json N S),
    mapMembers f' g' (mapMembers f g ms) = mapMembers (f' ∘ f) (g' ∘ g) ms
  | [] => rfl
  | (_, v) :: ms => by
      rw [mapMembers, mapMembers, mapMembers, v.map_map,
        mapMembers_mapMembers]
      rfl

end

mutual

/-- The numbers of a tree, from left to right. -/
def Json.numbers : Json N S → List N
  | .null => []
  | .bool _ => []
  | .num n => [n]
  | .str _ => []
  | .arr items => itemNumbers items
  | .obj members => memberNumbers members

def itemNumbers : List (Json N S) → List N
  | [] => []
  | x :: xs => x.numbers ++ itemNumbers xs

def memberNumbers : List (S × Json N S) → List N
  | [] => []
  | (_, v) :: ms => v.numbers ++ memberNumbers ms

end

mutual

/-- A tree is the same with `f` of its numbers when `f` leaves each of them
alone. -/
theorem Json.map_id_eq_iff (f : N → N) : ∀ v : Json N S,
    v.map f id = v ↔ ∀ n ∈ v.numbers, f n = n
  | .null => by simp [Json.map, Json.numbers]
  | .bool _ => by simp [Json.map, Json.numbers]
  | .num _ => by simp [Json.map, Json.numbers]
  | .str _ => by simp [Json.map, Json.numbers]
  | .arr xs => by
      rw [Json.map, Json.arr.injEq, mapItems_id_eq_iff f xs, Json.numbers]
  | .obj ms => by
      rw [Json.map, Json.obj.injEq, mapMembers_id_eq_iff f ms, Json.numbers]

theorem mapItems_id_eq_iff (f : N → N) : ∀ xs : List (Json N S),
    mapItems f id xs = xs ↔ ∀ n ∈ itemNumbers xs, f n = n
  | [] => by simp [mapItems, itemNumbers]
  | x :: xs => by
      rw [mapItems, List.cons.injEq, x.map_id_eq_iff f,
        mapItems_id_eq_iff f xs, itemNumbers, List.forall_mem_append]

theorem mapMembers_id_eq_iff (f : N → N) : ∀ ms : List (S × Json N S),
    mapMembers f id ms = ms ↔ ∀ n ∈ memberNumbers ms, f n = n
  | [] => by simp [mapMembers, memberNumbers]
  | (k, v) :: ms => by
      rw [mapMembers, List.cons.injEq, Prod.mk.injEq, v.map_id_eq_iff f,
        mapMembers_id_eq_iff f ms, memberNumbers, List.forall_mem_append]
      exact and_congr_left fun _ => and_iff_right rfl

end

/-! ## Depth -/

mutual

/-- How many containers are nested in the tree. -/
def Json.depth : Json N S → Nat
  | .null | .bool _ | .num _ | .str _ => 0
  | .arr items => itemsDepth items + 1
  | .obj members => membersDepth members + 1

def itemsDepth : List (Json N S) → Nat
  | [] => 0
  | x :: xs => max x.depth (itemsDepth xs)

def membersDepth : List (S × Json N S) → Nat
  | [] => 0
  | (_, v) :: ms => max v.depth (membersDepth ms)

end

mutual

theorem Json.depth_map (f : N → M) (g : S → T) : ∀ v : Json N S,
    (v.map f g).depth = v.depth
  | .null => rfl
  | .bool _ => rfl
  | .num _ => rfl
  | .str _ => rfl
  | .arr xs => congrArg (· + 1) (itemsDepth_map f g xs)
  | .obj ms => congrArg (· + 1) (membersDepth_map f g ms)

theorem itemsDepth_map (f : N → M) (g : S → T) : ∀ xs : List (Json N S),
    itemsDepth (mapItems f g xs) = itemsDepth xs
  | [] => rfl
  | x :: xs => by
      rw [mapItems, itemsDepth, itemsDepth, x.depth_map, itemsDepth_map]

theorem membersDepth_map (f : N → M) (g : S → T) :
    ∀ ms : List (S × Json N S),
    membersDepth (mapMembers f g ms) = membersDepth ms
  | [] => rfl
  | (_, v) :: ms => by
      rw [mapMembers, membersDepth, membersDepth, v.depth_map,
        membersDepth_map]

end

/-! ## Objects built afterwards -/

section Rebuild

variable (build : List (S × Json N S) → List (S × Json N S))

mutual

/-- The tree with `build` of the members of each object, from the inside
out. -/
def Json.rebuild : Json N S → Json N S
  | .null => .null
  | .bool b => .bool b
  | .num n => .num n
  | .str s => .str s
  | .arr items => .arr (rebuildItems items)
  | .obj members => .obj (build (rebuildMembers members))

def rebuildItems : List (Json N S) → List (Json N S)
  | [] => []
  | x :: xs => x.rebuild :: rebuildItems xs

def rebuildMembers : List (S × Json N S) → List (S × Json N S)
  | [] => []
  | (k, v) :: ms => (k, v.rebuild) :: rebuildMembers ms

end

theorem rebuildMembers_eq (ms : List (S × Json N S)) :
    rebuildMembers build ms = ms.map fun m => (m.1, m.2.rebuild build) := by
  induction ms with
  | nil => rfl
  | cons m ms ih => rw [rebuildMembers, ih, List.map_cons]

mutual

/-- A tree whose objects `build` leaves alone stays as it is. -/
theorem Json.rebuild_of_everyObject : ∀ v : Json N S,
    v.EveryObject (fun ms => build ms = ms) → v.rebuild build = v
  | .null, _ => rfl
  | .bool _, _ => rfl
  | .num _, _ => rfl
  | .str _, _ => rfl
  | .arr xs, h => congrArg Json.arr (rebuildItems_of_everyItem xs h)
  | .obj ms, h => by
      rw [Json.rebuild, rebuildMembers_of_everyMember ms h.2, h.1]

theorem rebuildItems_of_everyItem : ∀ xs : List (Json N S),
    everyItem (fun ms => build ms = ms) xs → rebuildItems build xs = xs
  | [], _ => rfl
  | x :: xs, h => by
      rw [rebuildItems, x.rebuild_of_everyObject h.1,
        rebuildItems_of_everyItem xs h.2]

theorem rebuildMembers_of_everyMember : ∀ ms : List (S × Json N S),
    everyMember (fun ms => build ms = ms) ms → rebuildMembers build ms = ms
  | [], _ => rfl
  | (_, v) :: ms, h => by
      rw [rebuildMembers, v.rebuild_of_everyObject h.1,
        rebuildMembers_of_everyMember ms h.2]

end

mutual

/-- What `build` guarantees of one object holds of every object it built. -/
theorem Json.rebuild_everyObject {P : List (S × Json N S) → Prop}
    (hbuild : ∀ ms, everyMember P ms →
      P (build ms) ∧ everyMember P (build ms)) :
    ∀ v : Json N S, (v.rebuild build).EveryObject P
  | .null => trivial
  | .bool _ => trivial
  | .num _ => trivial
  | .str _ => trivial
  | .arr xs => everyItem_rebuild hbuild xs
  | .obj ms => hbuild _ (everyMember_rebuild hbuild ms)

theorem everyItem_rebuild {P : List (S × Json N S) → Prop}
    (hbuild : ∀ ms, everyMember P ms →
      P (build ms) ∧ everyMember P (build ms)) :
    ∀ xs : List (Json N S), everyItem P (rebuildItems build xs)
  | [] => trivial
  | x :: xs => ⟨x.rebuild_everyObject hbuild, everyItem_rebuild hbuild xs⟩

theorem everyMember_rebuild {P : List (S × Json N S) → Prop}
    (hbuild : ∀ ms, everyMember P ms →
      P (build ms) ∧ everyMember P (build ms)) :
    ∀ ms : List (S × Json N S), everyMember P (rebuildMembers build ms)
  | [] => trivial
  | (_, v) :: ms =>
      ⟨v.rebuild_everyObject hbuild, everyMember_rebuild hbuild ms⟩

end

/-- Building objects while reading is building them afterwards. -/
theorem parseValue_rebuild (fuel : Nat) :
    (∀ ts, parseValue build fuel ts = (parseValue id fuel ts).map
      (Prod.map (Json.rebuild build) id)) ∧
    (∀ ts, parseItemTail build fuel ts = (parseItemTail id fuel ts).map
      (Prod.map (rebuildItems build) id)) ∧
    (∀ ts, parseMemberTail build fuel ts = (parseMemberTail id fuel ts).map
      (Prod.map (rebuildMembers build) id)) := by
  induction fuel with
  | zero => simp [parseValue, parseItemTail, parseMemberTail]
  | succ fuel ih =>
      obtain ⟨ihValue, ihItems, ihMembers⟩ := ih
      refine ⟨?value, ?items, ?members⟩
      case value =>
        rintro (_ | ⟨t, ts⟩)
        · rfl
        cases t with
        | lbrack =>
            rcases ts with _ | ⟨t, ts⟩
            · cases fuel <;> rfl
            by_cases ht : t = .rbrack
            · subst ht
              rfl
            have hopen : ∀ b : List (S × Json N S) → List (S × Json N S),
                parseValue b (fuel + 1) (.lbrack :: t :: ts) =
                  (parseValue b fuel (t :: ts)).bind fun v =>
                    (parseItemTail b fuel v.2).bind fun xs =>
                      some (.arr (v.1 :: xs.1), xs.2) := by
              intro b
              cases t <;> first | rfl | exact absurd rfl ht
            rw [hopen, hopen, ihValue]
            cases parseValue id fuel (t :: ts) with
            | none => rfl
            | some r =>
                simp only [Option.map_some, Option.bind_some, Prod.map,
                  id_eq, ihItems]
                cases parseItemTail id fuel r.2 <;> rfl
        | lbrace =>
            rcases ts with _ | ⟨t, _ | ⟨u, ts⟩⟩
            · rfl
            · cases t <;> rfl
            cases t with
            | str k =>
                cases u with
                | colon =>
                    simp only [parseValue, ihValue]
                    cases parseValue id fuel ts with
                    | none => rfl
                    | some r =>
                        simp only [Option.map_some, Option.bind_eq_bind,
                          Option.bind_some, Prod.map, id_eq, ihMembers]
                        cases parseMemberTail id fuel r.2 <;> rfl
                | _ => rfl
            | _ => rfl
        | _ => rfl
      case items =>
        rintro (_ | ⟨t, ts⟩)
        · rfl
        cases t with
        | comma =>
            simp only [parseItemTail, ihValue]
            cases parseValue id fuel ts with
            | none => rfl
            | some r =>
                simp only [Option.map_some, Option.bind_eq_bind,
                  Option.bind_some, Prod.map, id_eq, ihItems]
                cases parseItemTail id fuel r.2 <;> rfl
        | _ => rfl
      case members =>
        rintro (_ | ⟨t, _ | ⟨u, _ | ⟨c, ts⟩⟩⟩)
        · rfl
        · cases t <;> rfl
        · cases t <;> cases u <;> rfl
        by_cases hmember : t = .comma ∧ (∃ k, u = .str k) ∧ c = .colon
        · obtain ⟨rfl, ⟨k, rfl⟩, rfl⟩ := hmember
          simp only [parseMemberTail, ihValue]
          cases parseValue id fuel ts with
          | none => rfl
          | some r =>
              simp only [Option.map_some, Option.bind_eq_bind,
                Option.bind_some, Prod.map, id_eq, ihMembers]
              cases parseMemberTail id fuel r.2 <;> rfl
        · cases t with
          | comma =>
              cases u with
              | str k =>
                  cases c <;> first
                    | rfl
                    | exact absurd ⟨rfl, ⟨k, rfl⟩, rfl⟩ hmember
              | _ => rfl
          | _ => rfl

theorem parseTokens_map (ts : List (Token N S)) :
    parseTokens build ts = (parseTokens id ts).map (Json.rebuild build) := by
  unfold parseTokens
  rw [(parseValue_rebuild build ts.length).1]
  cases parseValue id ts.length ts with
  | none => rfl
  | some r => rcases r with ⟨v, _ | ⟨t, rest⟩⟩ <;> rfl

/-- **The tokens of a tree are read as the tree with its objects built.** -/
theorem parseTokens_rebuild (v : Json N S) :
    parseTokens build (tokens v) = some (v.rebuild build) := by
  have hplain := parseTokens_tokens id v
    (v.everyObject_mono (fun _ _ => rfl) (everyObject_true v))
  rw [parseTokens_map, hplain]
  rfl

end Rebuild

/-! ## Texts of tokens, whoever wrote them -/

namespace Lexicon

variable {C : Type} (lx : Lexicon C N S)

/-- The reader takes the text for the token. -/
structure Reads (t : Token N S) (text : List C) : Prop where
  ne_nil : text ≠ []
  skip : ∀ rest, lx.skip (text ++ rest) = text ++ rest
  closes : t.Closing → ∃ c cs, text = c :: cs ∧ lx.closes c
  read : ∀ rest, (∀ n c cs, t = .num n → rest = c :: cs → lx.closes c) →
    lx.read (text ++ rest) = some (t, rest)

/-- The reader reads its own texts, those of numbers if it gives them back. -/
theorem reads_text (t : Token N S)
    (hback : ∀ n, t = .num n → lx.readsNumber n) :
    lx.Reads t (lx.text t) where
  ne_nil := lx.text_ne_nil t
  skip := lx.skip_text t
  closes := lx.closes_text t
  read := fun rest h => lx.read_text t rest hback h

private theorem closes_of_reads {ts : List (Token N S)}
    {texts : List (List C)} (h : List.Forall₂ lx.Reads ts texts)
    (hclosed : Closed ts) {c : C} {cs : List C}
    (htexts : texts.flatten = c :: cs) : lx.closes c := by
  cases h with
  | nil => cases htexts
  | cons ht _ =>
      obtain ⟨c', cs', htext, hcl⟩ := ht.closes hclosed
      rw [List.flatten_cons, htext, List.cons_append] at htexts
      rw [← (List.cons.inj htexts).1]
      exact hcl

/-- **The texts of closed tokens are read as these tokens**, one after the
other and to the end. -/
theorem lexAll_reads {ts : List (Token N S)} {texts : List (List C)}
    (h : List.Forall₂ lx.Reads ts texts) (fuel : Nat) (hn : NumsClosed ts)
    (hf : ts.length < fuel) : lx.lexAll fuel texts.flatten = some ts := by
  induction h generalizing fuel with
  | nil =>
      obtain ⟨fuel, rfl⟩ := Nat.exists_eq_succ_of_ne_zero (by omega : fuel ≠ 0)
      simp [lexAll, lx.skip_nil]
  | @cons t text ts texts ht hts ih =>
      obtain ⟨fuel, rfl⟩ := Nat.exists_eq_succ_of_ne_zero (by omega : fuel ≠ 0)
      have htail : NumsClosed ts := by
        cases t <;> simp only [NumsClosed] at hn <;> first | exact hn | exact hn.2
      have hread : lx.read (text ++ texts.flatten) =
          some (t, texts.flatten) := by
        apply ht.read
        rintro n c cs rfl hrest
        simp only [NumsClosed] at hn
        exact lx.closes_of_reads hts hn.1 hrest
      rw [List.flatten_cons, lexAll, ht.skip]
      obtain ⟨c, cs, hc⟩ := List.exists_cons_of_ne_nil ht.ne_nil
      rw [hc, List.cons_append] at hread ⊢
      simp only [hread]
      rw [ih fuel htail (by simpa using hf)]
      rfl

private theorem length_le_flatten {ts : List (Token N S)}
    {texts : List (List C)} (h : List.Forall₂ lx.Reads ts texts) :
    ts.length ≤ texts.flatten.length := by
  induction h with
  | nil => exact Nat.le_refl 0
  | cons ht _ ih =>
      have hpos := List.length_pos_iff.mpr ht.ne_nil
      simp only [List.flatten_cons, List.length_append, List.length_cons]
      omega

/-- A whole text is read as the tree whose tokens its parts are read as. -/
theorem parse_reads (build : List (S × Json N S) → List (S × Json N S))
    {v : Json N S} {texts : List (List C)}
    (h : List.Forall₂ lx.Reads (tokens v) texts) :
    lx.parse build texts.flatten = some (v.rebuild build) := by
  have hnums : NumsClosed (tokens v) := by
    have hn := numsClosed_tokens v [] trivial trivial
    rwa [List.append_nil] at hn
  have hlen := lx.length_le_flatten h
  rw [parse, lx.lexAll_reads h _ hnums (by omega)]
  exact parseTokens_rebuild build v

end Lexicon

end RenderEngine.Verified.JsonGrammar

namespace RenderEngine.Verified.JsonSpelling

open RenderEngine.Verified.JsonGrammar

variable {C D N S M T : Type}

namespace Spelling

/-! ## Texts of single tokens -/

/-- Any run of number characters that the number reader takes. -/
theorem reads_number (r : Spelling C M T) {text : List C} {m : M}
    (hhead : ∃ c cs, text = c :: cs ∧ isNumberStart (r.toChar c) = true)
    (hchars : ∀ c ∈ text, isNumberChar (r.toChar c) = true)
    (hread : r.readNumber text = some m) : r.lexicon.Reads (.num m) text where
  ne_nil := by
    rcases hhead with ⟨c, cs, rfl, -⟩
    exact List.cons_ne_nil c cs
  skip := by
    intro rest
    rcases hhead with ⟨c, cs, rfl, hc⟩
    exact r.skip_numberStart hc (cs ++ rest)
  closes := fun h => h.elim
  read := fun rest h => r.readToken_numberText hhead hchars hread
    fun c cs hrest => h m c cs rfl hrest

/-- Any text between quotes that the string reader takes. -/
theorem reads_string (r : Spelling C M T) {text : List C} {s : T}
    (hhead : ∃ cs, text = r.ofChar '"' :: cs)
    (hread : ∀ rest, r.readString (text ++ rest) = some (s, rest)) :
    r.lexicon.Reads (.str s) text where
  ne_nil := by
    rcases hhead with ⟨cs, rfl⟩
    exact List.cons_ne_nil _ cs
  skip := by
    intro rest
    rcases hhead with ⟨cs, rfl⟩
    exact r.skip_quote (cs ++ rest)
  closes := fun h => h.elim
  read := fun rest _ => r.readToken_stringText hhead hread rest

end Spelling

/-! ## Translations -/

/-- What a reader makes of the letters, numbers and strings of a writer. -/
structure Translation (w : Spelling D N S) (r : Spelling C M T) where
  letter : D → List C
  number : N → M
  string : S → T
  letter_ofChar : ∀ c, c.toNat < 128 → letter (w.ofChar c) = [r.ofChar c]
  number_head : ∀ n, ∃ c cs, (w.number n).flatMap letter = c :: cs ∧
    isNumberStart (r.toChar c) = true
  number_chars : ∀ n, ∀ c ∈ (w.number n).flatMap letter,
    isNumberChar (r.toChar c) = true
  readNumber : ∀ n, r.readNumber ((w.number n).flatMap letter) =
    some (number n)
  readString : ∀ s rest, r.readString ((w.string s).flatMap letter ++ rest) =
    some (string s, rest)

namespace Translation

variable {w : Spelling D N S} {r : Spelling C M T} (tr : Translation w r)

private theorem letters_ofChar (cs : List Char)
    (h : ∀ c ∈ cs, c.toNat < 128) :
    (cs.map w.ofChar).flatMap tr.letter = cs.map r.ofChar := by
  induction cs with
  | nil => rfl
  | cons c cs ih =>
      rw [List.map_cons, List.flatMap_cons, tr.letter_ofChar c (h c (by simp)),
        ih fun d hd => h d (by simp [hd])]
      rfl

/-- **The reader takes the writer's text of a token for the translated
token.** -/
theorem reads (t : Token N S) :
    r.lexicon.Reads (t.map tr.number tr.string)
      ((w.lexicon.text t).flatMap tr.letter) := by
  -- brackets, separators and literals are spelt with ASCII characters
  have hfixed : ∀ (u : Token M T) (cs : List Char), (∀ n, u ≠ .num n) →
      w.tokenText t = cs.map w.ofChar → r.tokenText u = cs.map r.ofChar →
      cs.all (fun c => decide (c.toNat < 128)) = true →
      r.lexicon.Reads u ((w.lexicon.text t).flatMap tr.letter) := by
    intro u cs hu hw hr hascii
    have htext : (w.lexicon.text t).flatMap tr.letter = r.lexicon.text u :=
      (congrArg _ hw).trans ((tr.letters_ofChar cs fun c hc =>
        of_decide_eq_true (List.all_eq_true.mp hascii c hc)).trans hr.symm)
    rw [htext]
    exact r.lexicon.reads_text u fun n hn => absurd hn (hu n)
  cases t with
  | lbrace => exact hfixed .lbrace ['{'] (by simp) rfl rfl rfl
  | rbrace => exact hfixed .rbrace ['}'] (by simp) rfl rfl rfl
  | lbrack => exact hfixed .lbrack ['['] (by simp) rfl rfl rfl
  | rbrack => exact hfixed .rbrack [']'] (by simp) rfl rfl rfl
  | comma => exact hfixed .comma [','] (by simp) rfl rfl rfl
  | colon => exact hfixed .colon [':'] (by simp) rfl rfl rfl
  | null => exact hfixed .null "null".toList (by simp) rfl rfl rfl
  | bool b =>
      cases b with
      | false => exact hfixed (.bool false) "false".toList (by simp) rfl rfl rfl
      | true => exact hfixed (.bool true) "true".toList (by simp) rfl rfl rfl
  | num n =>
      exact r.reads_number (tr.number_head n) (tr.number_chars n)
        (tr.readNumber n)
  | str s =>
      refine r.reads_string ?_ (tr.readString s)
      rcases w.string_head s with ⟨cs, hs⟩
      refine ⟨cs.flatMap tr.letter, ?_⟩
      show (w.string s).flatMap tr.letter = _
      rw [hs, List.flatMap_cons, tr.letter_ofChar '"' (by decide)]
      rfl

/-- **What the writer prints of a tree is read as the translated tree**, its
objects built by the reader. -/
theorem parse_translate
    (build : List (T × Json M T) → List (T × Json M T)) (v : Json N S) :
    r.lexicon.parse build ((w.lexicon.render v).flatMap tr.letter) =
      some ((v.map tr.number tr.string).rebuild build) := by
  have htexts : (w.lexicon.render v).flatMap tr.letter =
      ((tokens v).map
        fun t => (w.lexicon.text t).flatMap tr.letter).flatten := by
    rw [Lexicon.render, Lexicon.textOf, List.flatMap_assoc, List.flatMap_def]
  rw [htexts]
  apply Lexicon.parse_reads
  rw [tokens_map, List.forall₂_map_left_iff, List.forall₂_map_right_iff,
    List.forall₂_same]
  exact fun t _ => tr.reads t

end Translation

end RenderEngine.Verified.JsonSpelling
