import RenderEngine.Ports.Serde

/-!
# `canonical_json`

The serialiser of `render-core/src/tools.rs` under every content hash, claim
hash and signature: keys in order, null members left out, nothing between
the tokens.

`walk` is the source's recursion.  `deleteNulls` says what it is for: the
text is that of the tree with its null members deleted
(`walk_eq_render`), so everything about the text follows from the
grammar's round trip.

## Main results

* `canonicalJson_eq_render`: the text is the printed form of `deleteNulls`.
* `canonicalJson_canonical`: equal texts mean equal values up to null
  members, and the text parses back to the value without them unless it nests
  too deeply for the parser.
-/

namespace RenderEngine.Ports.CanonicalJson

open RenderEngine.Ports.CoreTypes
open RenderEngine.Ports.Serde
open RenderEngine.Verified.JsonGrammar
open RenderEngine.Verified.SortedMap

variable {N : Type}

/-! ## The source's recursion -/

/-- `is_null`. -/
def isNull : Json N Text → Bool
  | .null => true
  | _ => false

section Walk

variable (sj : SerdeText N)

/-- The loop over the sorted keys.  A member carries the text of its value,
or nothing where the source skips it; `first` is the source's flag. -/
def writeMembers : Bool → List (Text × Option Text) → Text
  | _, [] => []
  | first, (_, none) :: rest => writeMembers first rest
  | first, (k, some val) :: rest =>
      (if !first then [','] else []) ++ sj.string k ++ ':' :: val
        ++ writeMembers false rest

mutual

def walk : Json N Text → Text
  | .null => "null".toList
  | .bool b => if b then "true".toList else "false".toList
  | .num n => sj.number n
  | .str s => sj.string s
  | .arr a => '[' :: walkItems 0 a ++ [']']
  | .obj m => '{' :: writeMembers sj true (sortByKey (walkMembers m)) ++ ['}']

/-- The loop over an array's items from index `i`. -/
def walkItems : Nat → List (Json N Text) → Text
  | _, [] => []
  | i, x :: xs => (if i > 0 then [','] else []) ++ walk x ++ walkItems (i + 1) xs

/-- The members' values, written; nothing for a null. -/
def walkMembers : List (Text × Json N Text) → List (Text × Option Text)
  | [] => []
  | (k, v) :: ms =>
      (k, if isNull v then none else some (walk v)) :: walkMembers ms

end

/-- `canonical_json`.  The source's `Result` is always `Ok`: the only call
under it that could fail writes a string. -/
def canonicalJson (v : Value N) : Text := walk sj v.tree

end Walk

/-! ## Deleting null members -/

mutual

/-- Delete every null member, at every depth. -/
def deleteNulls : Json N Text → Json N Text
  | .arr xs => .arr (deleteNullsItems xs)
  | .obj ms => .obj (deleteNullsMembers ms)
  | .null => .null
  | .bool b => .bool b
  | .num n => .num n
  | .str s => .str s

def deleteNullsItems : List (Json N Text) → List (Json N Text)
  | [] => []
  | x :: xs => deleteNulls x :: deleteNullsItems xs

def deleteNullsMembers : List (Text × Json N Text) → List (Text × Json N Text)
  | [] => []
  | (k, v) :: ms =>
      if isNull v then deleteNullsMembers ms
      else (k, deleteNulls v) :: deleteNullsMembers ms

end

/-- The keys left are among the keys given, in their order. -/
theorem deleteNullsMembers_keys : ∀ ms : List (Text × Json N Text),
    ((deleteNullsMembers ms).map Prod.fst).Sublist (ms.map Prod.fst)
  | [] => List.Sublist.refl _
  | (k, v) :: ms => by
      have ih := deleteNullsMembers_keys ms
      rw [deleteNullsMembers]
      split
      · exact ih.cons k
      · exact ih.cons_cons k

private theorem keysSorted_iff {V : Type} (ms : List (Text × V)) :
    KeysSorted ms ↔ (ms.map Prod.fst).Pairwise (· < ·) :=
  List.pairwise_map.symm

mutual

theorem deleteNulls_sorted : ∀ v : Json N Text, v.EveryObject KeysSorted →
    (deleteNulls v).EveryObject KeysSorted
  | .null, _ => trivial
  | .bool _, _ => trivial
  | .num _, _ => trivial
  | .str _, _ => trivial
  | .arr xs, h => deleteNullsItems_sorted xs h
  | .obj ms, h =>
      ⟨(keysSorted_iff _).mpr
          (((keysSorted_iff ms).mp h.1).sublist (deleteNullsMembers_keys ms)),
        deleteNullsMembers_sorted ms h.2⟩

theorem deleteNullsItems_sorted : ∀ xs : List (Json N Text),
    everyItem KeysSorted xs → everyItem KeysSorted (deleteNullsItems xs)
  | [], _ => trivial
  | x :: xs, h => ⟨deleteNulls_sorted x h.1, deleteNullsItems_sorted xs h.2⟩

theorem deleteNullsMembers_sorted : ∀ ms : List (Text × Json N Text),
    everyMember KeysSorted ms → everyMember KeysSorted (deleteNullsMembers ms)
  | [], _ => trivial
  | (k, v) :: ms, h => by
      have ih := deleteNullsMembers_sorted ms h.2
      rw [deleteNullsMembers]
      split
      · exact ih
      · exact ⟨deleteNulls_sorted v h.1, ih⟩

end

/-- A value with its null members deleted. -/
def withoutNulls (v : Value N) : Value N :=
  ⟨deleteNulls v.tree, deleteNulls_sorted v.tree v.sorted⟩

mutual

/-- Only nulls are deleted, and a null is no container. -/
theorem depth_deleteNulls : ∀ v : Json N Text,
    (deleteNulls v).depth = v.depth
  | .null => rfl
  | .bool _ => rfl
  | .num _ => rfl
  | .str _ => rfl
  | .arr xs => congrArg (· + 1) (itemsDepth_deleteNulls xs)
  | .obj ms => congrArg (· + 1) (membersDepth_deleteNulls ms)

theorem itemsDepth_deleteNulls : ∀ xs : List (Json N Text),
    itemsDepth (deleteNullsItems xs) = itemsDepth xs
  | [] => rfl
  | x :: xs => by
      rw [deleteNullsItems, itemsDepth, itemsDepth, depth_deleteNulls,
        itemsDepth_deleteNulls]

theorem membersDepth_deleteNulls : ∀ ms : List (Text × Json N Text),
    membersDepth (deleteNullsMembers ms) = membersDepth ms
  | [] => rfl
  | (_, v) :: ms => by
      have ih := membersDepth_deleteNulls ms
      rw [deleteNullsMembers, membersDepth]
      split_ifs with hnull
      · have hv : v.depth = 0 := by
          cases v <;> first | rfl | cases hnull
        rw [ih, hv, Nat.zero_max]
      · rw [membersDepth, depth_deleteNulls v, ih]

end

/-! ## The text is the printed tree without nulls -/

section Text

variable (sj : SerdeText N)

/-- The text of a token list, as the lexicon writes it. -/
abbrev textOf (ts : List (Token N Text)) : Text := (lexicon sj).textOf ts

@[simp] theorem textOf_cons (t : Token N Text) (ts : List (Token N Text)) :
    textOf sj (t :: ts) = tokenText sj t ++ textOf sj ts := by
  rw [← lexicon_text]
  exact List.flatMap_cons

@[simp] theorem textOf_append (ts us : List (Token N Text)) :
    textOf sj (ts ++ us) = textOf sj ts ++ textOf sj us := List.flatMap_append

@[simp] theorem textOf_nil : textOf sj ([] : List (Token N Text)) = [] := rfl

private theorem walkMembers_keys : ∀ ms : List (Text × Json N Text),
    (walkMembers sj ms).map Prod.fst = ms.map Prod.fst
  | [] => rfl
  | (k, _) :: ms => congrArg (k :: ·) (walkMembers_keys ms)

/-- The keys of a map are already in order. -/
private theorem sortByKey_walkMembers {ms : List (Text × Json N Text)}
    (h : KeysSorted ms) : sortByKey (walkMembers sj ms) = walkMembers sj ms := by
  apply sortByKey_of_sorted
  rw [keysSorted_iff, walkMembers_keys]
  exact (keysSorted_iff ms).mp h

mutual

theorem walk_eq_textOf : ∀ v : Json N Text, v.EveryObject KeysSorted →
    walk sj v = textOf sj (tokens (deleteNulls v))
  | .null, _ => rfl
  | .bool b, _ => by simp [walk, deleteNulls, tokens, tokenText]
  | .num n, _ => by simp [walk, deleteNulls, tokens, tokenText]
  | .str s, _ => by simp [walk, deleteNulls, tokens, tokenText]
  | .arr [], _ => by
      simp [walk, walkItems, deleteNulls, deleteNullsItems, tokens, tokenText]
  | .arr (x :: xs), h => by
      have hx := walk_eq_textOf x h.1
      have hxs := walkItems_eq_textOf 0 xs h.2
      simp [walk, walkItems, deleteNulls, deleteNullsItems, tokens, tokenText,
        hx, hxs]
  | .obj ms, h => by
      rw [walk, sortByKey_walkMembers sj h.1]
      exact writeFirst_eq_textOf ms h.2

/-- After the first item every item is preceded by a comma. -/
theorem walkItems_eq_textOf : ∀ (i : Nat) (xs : List (Json N Text)),
    everyItem KeysSorted xs →
    walkItems sj (i + 1) xs ++ [']'] =
      textOf sj (itemTail (deleteNullsItems xs))
  | _, [], _ => by
      simp [walkItems, deleteNullsItems, itemTail, tokenText]
  | i, x :: xs, h => by
      have hx := walk_eq_textOf x h.1
      have hxs := walkItems_eq_textOf (i + 1) xs h.2
      simp [walkItems, deleteNullsItems, itemTail, tokenText, hx, hxs]

/-- Once a member has been written, every kept member is preceded by a
comma. -/
theorem writeMembers_eq_textOf : ∀ ms : List (Text × Json N Text),
    everyMember KeysSorted ms →
    writeMembers sj false (walkMembers sj ms) ++ ['}'] =
      textOf sj (memberTail (deleteNullsMembers ms))
  | [], _ => by
      simp [walkMembers, writeMembers, deleteNullsMembers, memberTail,
        tokenText]
  | (k, v) :: ms, h => by
      have hms := writeMembers_eq_textOf ms h.2
      by_cases hnull : isNull v = true
      · simp [walkMembers, writeMembers, deleteNullsMembers, hnull, hms]
      · have hv := walk_eq_textOf v h.1
        simp [walkMembers, writeMembers, deleteNullsMembers, hnull, memberTail,
          tokenText, hv, hms]

/-- Until then skipped members leave no comma behind. -/
theorem writeFirst_eq_textOf : ∀ ms : List (Text × Json N Text),
    everyMember KeysSorted ms →
    '{' :: writeMembers sj true (walkMembers sj ms) ++ ['}'] =
      textOf sj (tokens (.obj (deleteNullsMembers ms)))
  | [], _ => by
      simp [walkMembers, writeMembers, deleteNullsMembers, tokens, tokenText]
  | (k, v) :: ms, h => by
      by_cases hnull : isNull v = true
      · have hms := writeFirst_eq_textOf ms h.2
        simpa [walkMembers, writeMembers, deleteNullsMembers, hnull] using hms
      · have hv := walk_eq_textOf v h.1
        have hms := writeMembers_eq_textOf ms h.2
        simp [walkMembers, writeMembers, deleteNullsMembers, hnull, tokens,
          tokenText, hv, hms]

end

/-- **The canonical text is the printed form of the value without its null
members.** -/
theorem canonicalJson_eq_render (v : Value N) :
    canonicalJson sj v = (lexicon sj).render (withoutNulls v).tree :=
  walk_eq_textOf sj v.tree v.sorted

/-- Values have one text exactly when they agree without their null members. -/
theorem canonicalJson_eq_iff {v w : Value N} :
    canonicalJson sj v = canonicalJson sj w ↔
      withoutNulls v = withoutNulls w := by
  rw [canonicalJson_eq_render, canonicalJson_eq_render]
  exact (spelling sj).render_injective.eq_iff.trans
    Value.tree_injective.eq_iff

/-- The canonical text parses back to the value without its null members,
unless it nests too deeply. -/
theorem fromStr_canonicalText (hback : ∀ n, ReadsBack sj n) (v : Value N) :
    fromStr sj (canonicalJson sj v) =
      if v.tree.depth < recursionLimit then some (withoutNulls v)
      else none := by
  rw [canonicalJson_eq_render, fromStr_render sj fun n _ => hback n,
    show (withoutNulls v).tree.depth = v.tree.depth from
      depth_deleteNulls v.tree]

end Text

/-! ## Deleting nulls twice -/

private theorem isNull_deleteNulls (v : Json N Text) :
    isNull (deleteNulls v) = isNull v := by
  cases v <;> rfl

mutual

theorem deleteNulls_idem : ∀ v : Json N Text,
    deleteNulls (deleteNulls v) = deleteNulls v
  | .null => rfl
  | .bool _ => rfl
  | .num _ => rfl
  | .str _ => rfl
  | .arr xs => by rw [deleteNulls, deleteNulls, deleteNullsItems_idem xs]
  | .obj ms => by rw [deleteNulls, deleteNulls, deleteNullsMembers_idem ms]

theorem deleteNullsItems_idem : ∀ xs : List (Json N Text),
    deleteNullsItems (deleteNullsItems xs) = deleteNullsItems xs
  | [] => rfl
  | x :: xs => by
      simp only [deleteNullsItems, deleteNulls_idem x, deleteNullsItems_idem xs]

theorem deleteNullsMembers_idem : ∀ ms : List (Text × Json N Text),
    deleteNullsMembers (deleteNullsMembers ms) = deleteNullsMembers ms
  | [] => rfl
  | (k, v) :: ms => by
      have ih := deleteNullsMembers_idem ms
      by_cases hnull : isNull v = true
      · simp [deleteNullsMembers, hnull, ih]
      · simp [deleteNullsMembers, hnull, isNull_deleteNulls, ih,
          deleteNulls_idem v]

end

theorem withoutNulls_idem (v : Value N) :
    withoutNulls (withoutNulls v) = withoutNulls v :=
  Value.tree_injective (deleteNulls_idem v.tree)

/-! ## The canonical form -/

/-- **`canonical_json` is a canonical form** of values up to null members: two
values have one text exactly when they agree without their null members.  If
the parser reads numbers back, it reads the text of a value that nests less
deeply than its limit as the value without them, whose text is the same again;
a deeper one it refuses. -/
theorem canonicalJson_canonical (sj : SerdeText N) (v w : Value N) :
    (canonicalJson sj v = canonicalJson sj w ↔
      withoutNulls v = withoutNulls w) ∧
    ((∀ n, ReadsBack sj n) →
      (v.tree.depth < recursionLimit →
        fromStr sj (canonicalJson sj v) = some (withoutNulls v) ∧
        (fromStr sj (canonicalJson sj v)).map (canonicalJson sj) =
          some (canonicalJson sj v)) ∧
      (recursionLimit ≤ v.tree.depth →
        fromStr sj (canonicalJson sj v) = none)) := by
  refine ⟨canonicalJson_eq_iff sj,
    fun hback => ⟨fun hdepth => ?_, fun hdepth => ?_⟩⟩
  · have hread := fromStr_canonicalText sj hback v
    rw [if_pos hdepth] at hread
    refine ⟨hread, ?_⟩
    rw [hread, Option.map_some, canonicalJson_eq_render,
      canonicalJson_eq_render, withoutNulls_idem]
  · rw [fromStr_canonicalText sj hback v, if_neg (Nat.not_lt.mpr hdepth)]

theorem readsBack_intText (i : Int) : ReadsBack intText i :=
  readInt_intDecimal i

/-- An array in an array, and so on. -/
def nestedArrays : Nat → Json N Text
  | 0 => .arr []
  | n + 1 => .arr [nestedArrays n]

theorem nestedArrays_sorted (n : Nat) :
    (nestedArrays n : Json N Text).EveryObject KeysSorted := by
  induction n with
  | zero => exact trivial
  | succ n ih => exact ⟨ih, trivial⟩

theorem depth_nestedArrays (n : Nat) :
    (nestedArrays n : Json N Text).depth = n + 1 := by
  induction n with
  | zero => rfl
  | succ n ih =>
      rw [nestedArrays, Json.depth, itemsDepth, itemsDepth, ih]
      rfl

/-- A value of `n + 1` nested arrays. -/
def nestedValue (n : Nat) : Value N := ⟨nestedArrays n, nestedArrays_sorted n⟩

/-- The text of 127 nested arrays is read. -/
theorem canonicalJson_canonical_nested :
    fromStr intText (canonicalJson intText (nestedValue 126)) =
      some (withoutNulls (nestedValue 126)) :=
  (((canonicalJson_canonical intText (nestedValue 126) Value.null).2
    readsBack_intText).1 (by
      rw [nestedValue, depth_nestedArrays]
      decide)).1

/-- The text of 128 nested arrays is refused. -/
theorem not_parsed_nested :
    ¬ ∀ v w : Value Int,
      (canonicalJson intText v = canonicalJson intText w ↔
        withoutNulls v = withoutNulls w) ∧
      fromStr intText (canonicalJson intText v) = some (withoutNulls v) ∧
      (fromStr intText (canonicalJson intText v)).map (canonicalJson intText) =
        some (canonicalJson intText v) := by
  intro h
  have hread := (h (nestedValue 127) Value.null).2.1
  have hdeep : ¬ (nestedValue 127 : Value Int).tree.depth < recursionLimit := by
    rw [nestedValue, depth_nestedArrays]
    decide
  rw [fromStr_canonicalText intText readsBack_intText, if_neg hdeep] at hread
  cases hread

/-- The keys of `tools.rs`'s own test. -/
example :
    walk intText (.obj [("a".toList, .num 1), ("b".toList, .num 2),
      ("nested".toList, .obj [("x".toList, .num 1), ("y".toList, .num 2)]),
      ("z".toList, .null)]) =
      "\x7b\"a\":1,\"b\":2,\"nested\":\x7b\"x\":1,\"y\":2\x7d\x7d".toList := by
  decide

end RenderEngine.Ports.CanonicalJson
