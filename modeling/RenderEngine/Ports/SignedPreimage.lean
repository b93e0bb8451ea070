import RenderEngine.Ports.LabVerify
import RenderEngine.Ports.TextEncoding

/-!
# What a signed pre-image binds

The bytes under a signature are the UTF-8 form of `jcs` of a record's signed
fields, or of a certificate without its signature.  `jcs` writes the JSON text
of the value with the members of every object sorted by key, so the bytes of
two values are the same exactly when the values are, up to the order of
members.

A signed field that a record lacks is `undefined`, and `jcs` leaves it out;
no JSON value is written like a missing one.

## Main results

* `jcs_eq`: `jcs` is the JSON text of the key-sorted tree.
* `same_object_iff`: objects are the same when they agree on every key.
* `preimages_bind`: values, records and certificates against their bytes.
-/

namespace RenderEngine.Ports.SignedPreimage

open RenderEngine.Ports.JavaScript
open RenderEngine.Ports.JavaScriptJson
open RenderEngine.Ports.LabVerify
open RenderEngine.Ports.TextEncoding
open RenderEngine.Verified.JsonGrammar
open RenderEngine.Verified.SortedMap

variable {F : Type}

/-! ## JSON values -/

mutual

/-- Nothing in the value is `undefined` or infinite, and no object repeats a
key. -/
def IsJson : JsValue F → Prop
  | .undefined => False
  | .null => True
  | .bool _ => True
  | .number n => n.isFinite = true
  | .string _ => True
  | .array items => IsJsonItems items
  | .object ms => (ms.map Prod.fst).Nodup ∧ IsJsonMembers ms

def IsJsonItems : List (JsValue F) → Prop
  | [] => True
  | x :: xs => IsJson x ∧ IsJsonItems xs

def IsJsonMembers : List (JsString × JsValue F) → Prop
  | [] => True
  | (_, v) :: ms => IsJson v ∧ IsJsonMembers ms

end

/-- A value that JSON can express. -/
abbrev JsonValue (F : Type) := { v : JsValue F // IsJson v }

/-- The members of a JSON object. -/
abbrev JsonObject (F : Type) :=
  { ms : List (JsString × JsValue F) // IsJson (.object ms) }

/-- The object with these members. -/
def JsonObject.value (o : JsonObject F) : JsValue F := .object o.val

theorem isJsonMembers_iff (ms : List (JsString × JsValue F)) :
    IsJsonMembers ms ↔ ∀ m ∈ ms, IsJson m.2 := by
  induction ms with
  | nil => simp [IsJsonMembers]
  | cons m ms ih => simp [IsJsonMembers, ih]

theorem IsJson.ne_undefined {v : JsValue F} (h : IsJson v) :
    v ≠ .undefined := by
  rintro rfl
  exact h

/-! ## The same value up to the order of members -/

mutual

/-- Equality up to the order in which objects list their members. -/
def Same : JsValue F → JsValue F → Prop
  | .undefined, .undefined => True
  | .null, .null => True
  | .bool a, .bool b => a = b
  | .number m, .number n => m = n
  | .string s, .string t => s = t
  | .array xs, .array ys => SameItems xs ys
  | .object ms, .object ns => SameMembers ms ns
  | _, _ => False

def SameItems : List (JsValue F) → List (JsValue F) → Prop
  | [], [] => True
  | x :: xs, y :: ys => Same x y ∧ SameItems xs ys
  | _, _ => False

/-- Each member has its own counterpart, and none is left over. -/
def SameMembers : List (JsString × JsValue F) →
    List (JsString × JsValue F) → Prop
  | [], ns => ns = []
  | (k, v) :: ms, ns =>
      ∃ w rest, ns.Perm ((k, w) :: rest) ∧ Same v w ∧ SameMembers ms rest

end

/-! ## Key-sorted trees -/

mutual

/-- The JSON tree of a value, the members of its objects in key order. -/
def tree : JsValue F → Json (JsNumber F) JsString
  | .undefined => .null
  | .null => .null
  | .bool b => .bool b
  | .number n => .num n
  | .string s => .str s
  | .array items => .arr (treeItems items)
  | .object ms => .obj (sortByKey (treeMembers ms))

def treeItems : List (JsValue F) → List (Json (JsNumber F) JsString)
  | [] => []
  | x :: xs => tree x :: treeItems xs

def treeMembers : List (JsString × JsValue F) →
    List (JsString × Json (JsNumber F) JsString)
  | [] => []
  | (k, v) :: ms => (k, tree v) :: treeMembers ms

end

theorem treeMembers_eq_map (ms : List (JsString × JsValue F)) :
    treeMembers ms = ms.map fun m => (m.1, tree m.2) := by
  induction ms with
  | nil => rfl
  | cons m ms ih => rw [List.map_cons, ← ih, treeMembers]

@[simp] theorem treeMembers_keys (ms : List (JsString × JsValue F)) :
    (treeMembers ms).map Prod.fst = ms.map Prod.fst := by
  rw [treeMembers_eq_map, List.map_map]
  rfl

theorem mem_treeMembers {ms : List (JsString × JsValue F)} {k : JsString}
    {t : Json (JsNumber F) JsString} :
    (k, t) ∈ treeMembers ms ↔ ∃ v, (k, v) ∈ ms ∧ tree v = t := by
  simp [treeMembers_eq_map]

/-! ### `jcs` writes the tree -/

section Writes

variable (b : Browser F)

mutual

/-- **`jcs` writes the key-sorted tree.** -/
theorem jcs_eq : ∀ v : JsValue F, IsJson v →
    jcs b v = .ok (jsonText b.toNumerals (tree v))
  | .null, _ => rfl
  | .bool true, _ => rfl
  | .bool false, _ => rfl
  | .number n, h => by
      simp only [IsJson] at h
      rw [jcs, if_pos h]
      cases n with
      | int i => exact congrArg Except.ok (List.append_nil _).symm
      | other x => exact congrArg Except.ok (List.append_nil _).symm
      | infinity negative => simp [JsNumber.isFinite] at h
  | .string s, _ => congrArg Except.ok (List.append_nil _).symm
  | .array items, h => by
      rw [jcs, jcsItems_eq items h, Throws.ok_bind, tree, jsonText,
        Lexicon.render_arr]
      rfl
  | .object ms, h => by
      have hparts : ((sortByKey (treeMembers ms)).map fun m =>
          (m.1, (.ok (jsonText b.toNumerals m.2) : Throws JsString))).mapM
          (fun m => do
            let value ← m.2
            return stringify m.1 ++ js ":" ++ value) =
          .ok ((sortByKey (treeMembers ms)).map
            (spelling b.toNumerals).lexicon.memberText) := by
        rw [List.mapM_map]
        exact List.mapM_pure
      rw [jcs, jcsMembers_eq ms h.2, sortByKey_map fun t =>
        (.ok (jsonText b.toNumerals t) : Throws JsString), hparts, tree,
        jsonText, Lexicon.render_obj]
      rfl
  | .undefined, h => h.elim

theorem jcsItems_eq : ∀ xs : List (JsValue F), IsJsonItems xs →
    jcsItems b xs = .ok ((treeItems xs).map (jsonText b.toNumerals))
  | [], _ => rfl
  | x :: xs, h => by
      rw [jcsItems, jcs_eq x h.1, Throws.ok_bind, jcsItems_eq xs h.2]
      rfl

theorem jcsMembers_eq : ∀ ms : List (JsString × JsValue F),
    IsJsonMembers ms → jcsMembers b ms =
      (treeMembers ms).map fun m => (m.1, .ok (jsonText b.toNumerals m.2))
  | [], _ => rfl
  | (k, v) :: ms, h => by
      have hdefined : v.isUndefined = false := by
        cases v <;> first | rfl | exact h.1.elim
      rw [jcsMembers, hdefined, if_neg (by simp), jcs_eq v h.1,
        jcsMembers_eq ms h.2]
      rfl

end

end Writes

/-! ### Values with one tree are the same -/

theorem perm_treeMembers {ms ns : List (JsString × JsValue F)}
    (h : ms.Perm ns) : (treeMembers ms).Perm (treeMembers ns) := by
  rw [treeMembers_eq_map, treeMembers_eq_map]
  exact h.map _

mutual

theorem same_of_tree_eq : ∀ v w : JsValue F, IsJson v → IsJson w →
    tree v = tree w → Same v w
  | .undefined, _, h, _, _ => h.elim
  | .null, w, _, hw, h => by
      cases w <;> trivial
  | .bool a, w, _, hw, h => by
      cases w <;> first | exact hw.elim | (cases h; exact rfl) | cases h
  | .number m, w, _, hw, h => by
      cases w <;> first | exact hw.elim | (cases h; exact rfl) | cases h
  | .string s, w, _, hw, h => by
      cases w <;> first | exact hw.elim | (cases h; exact rfl) | cases h
  | .array xs, w, hv, hw, h => by
      cases w with
      | array ys => exact sameItems_of_tree_eq xs ys hv hw (Json.arr.inj h)
      | undefined => exact hw.elim
      | _ => cases h
  | .object ms, w, hv, hw, h => by
      cases w with
      | object ns =>
          have hkeys : ((treeMembers ms).map Prod.fst).Nodup := by
            rw [treeMembers_keys]
            exact hv.1
          exact sameMembers_of_perm ms ns hv.2 hw.2
            ((sortByKey_eq_iff_perm hkeys).mp (Json.obj.inj h))
      | undefined => exact hw.elim
      | _ => cases h

theorem sameItems_of_tree_eq : ∀ xs ys : List (JsValue F), IsJsonItems xs →
    IsJsonItems ys → treeItems xs = treeItems ys → SameItems xs ys
  | [], [], _, _, _ => trivial
  | [], y :: ys, _, _, h => by cases h
  | x :: xs, [], _, _, h => by cases h
  | x :: xs, y :: ys, hx, hy, h => by
      rw [treeItems, treeItems, List.cons.injEq] at h
      exact ⟨same_of_tree_eq x y hx.1 hy.1 h.1,
        sameItems_of_tree_eq xs ys hx.2 hy.2 h.2⟩

theorem sameMembers_of_perm : ∀ ms ns : List (JsString × JsValue F),
    IsJsonMembers ms → IsJsonMembers ns →
    (treeMembers ms).Perm (treeMembers ns) → SameMembers ms ns
  | [], ns, _, _, h => by
      have hnil := List.nil_perm.mp h
      rw [treeMembers_eq_map, List.map_eq_nil_iff] at hnil
      exact hnil
  | (k, v) :: ms, ns, hv, hns, h => by
      have hmem : (k, tree v) ∈ treeMembers ns :=
        h.subset List.mem_cons_self
      rcases mem_treeMembers.mp hmem with ⟨w, hw, htree⟩
      rcases List.append_of_mem hw with ⟨pre, post, rfl⟩
      have hsplit : (pre ++ (k, w) :: post).Perm ((k, w) :: (pre ++ post)) :=
        List.perm_middle
      have hjson := (isJsonMembers_iff _).mp hns
      have hrest : (treeMembers ms).Perm (treeMembers (pre ++ post)) := by
        have hcons := h.trans (perm_treeMembers hsplit)
        rw [treeMembers, treeMembers, htree] at hcons
        exact hcons.cons_inv
      refine ⟨w, pre ++ post, hsplit,
        same_of_tree_eq v w hv.1 (hjson (k, w) (by simp)) htree.symm,
        sameMembers_of_perm ms (pre ++ post) hv.2 ?_ hrest⟩
      rw [isJsonMembers_iff]
      intro m hm
      rcases List.mem_append.mp hm with hm | hm
      · exact hjson m (by simp [hm])
      · exact hjson m (by simp [hm])

end

mutual

theorem tree_eq_of_same : ∀ v w : JsValue F, IsJson v → Same v w →
    tree v = tree w
  | .undefined, _, h, _ => h.elim
  | .null, w, _, h => by cases w <;> first | rfl | exact h.elim
  | .bool a, w, _, h => by
      cases w <;> first | exact congrArg Json.bool h | exact h.elim
  | .number m, w, _, h => by
      cases w <;> first | exact congrArg Json.num h | exact h.elim
  | .string s, w, _, h => by
      cases w <;> first | exact congrArg Json.str h | exact h.elim
  | .array xs, w, hv, h => by
      cases w with
      | array ys => exact congrArg Json.arr (treeItems_eq_of_same xs ys hv h)
      | _ => exact h.elim
  | .object ms, w, hv, h => by
      cases w with
      | object ns =>
          have hkeys : ((treeMembers ms).map Prod.fst).Nodup := by
            rw [treeMembers_keys]
            exact hv.1
          exact congrArg Json.obj ((sortByKey_eq_iff_perm hkeys).mpr
            (perm_of_sameMembers ms ns hv.2 h))
      | _ => exact h.elim

theorem treeItems_eq_of_same : ∀ xs ys : List (JsValue F), IsJsonItems xs →
    SameItems xs ys → treeItems xs = treeItems ys
  | [], [], _, _ => rfl
  | [], _ :: _, _, h => h.elim
  | _ :: _, [], _, h => h.elim
  | x :: xs, y :: ys, hx, h => by
      rw [treeItems, treeItems, tree_eq_of_same x y hx.1 h.1,
        treeItems_eq_of_same xs ys hx.2 h.2]

theorem perm_of_sameMembers : ∀ ms ns : List (JsString × JsValue F),
    IsJsonMembers ms → SameMembers ms ns →
    (treeMembers ms).Perm (treeMembers ns)
  | [], ns, _, h => by
      have hnil : ns = [] := h
      rw [hnil]
  | (k, v) :: ms, ns, hv, h => by
      rcases h with ⟨w, rest, hsplit, hvw, hrest⟩
      have hcons := (perm_of_sameMembers ms rest hv.2 hrest).cons (k, tree v)
      rw [tree_eq_of_same v w hv.1 hvw] at hcons
      rw [treeMembers, tree_eq_of_same v w hv.1 hvw]
      exact hcons.trans (perm_treeMembers hsplit).symm

end

theorem same_iff_tree_eq {v w : JsValue F} (hv : IsJson v) (hw : IsJson w) :
    Same v w ↔ tree v = tree w :=
  ⟨tree_eq_of_same v w hv, same_of_tree_eq v w hv hw⟩

/-! ### Reading a tree back -/

mutual

theorem same_ofJson_tree : ∀ v : JsValue F, IsJson v → Same v (ofJson (tree v))
  | .undefined, h => h.elim
  | .null, _ => trivial
  | .bool _, _ => rfl
  | .number _, _ => rfl
  | .string _, _ => rfl
  | .array xs, h => sameItems_ofItems xs h
  | .object ms, h => by
      refine sameMembers_ofMembers ms _ h.2 ?_
      have hmap : ∀ l : List (JsString × Json (JsNumber F) JsString),
          ofMembers l = l.map fun m => (m.1, ofJson m.2) := by
        intro l
        induction l with
        | nil => rfl
        | cons m l ih => rw [List.map_cons, ← ih, ofMembers]
      rw [hmap, hmap]
      exact (sortByKey_perm (treeMembers ms)).map _

theorem sameItems_ofItems : ∀ xs : List (JsValue F), IsJsonItems xs →
    SameItems xs (ofItems (treeItems xs))
  | [], _ => trivial
  | x :: xs, h => ⟨same_ofJson_tree x h.1, sameItems_ofItems xs h.2⟩

theorem sameMembers_ofMembers : ∀ ms ns : List (JsString × JsValue F),
    IsJsonMembers ms → ns.Perm (ofMembers (treeMembers ms)) →
    SameMembers ms ns
  | [], _, _, h => List.perm_nil.mp h
  | (_, v) :: ms, _, hv, h =>
      ⟨ofJson (tree v), ofMembers (treeMembers ms), h,
        same_ofJson_tree v hv.1,
        sameMembers_ofMembers ms _ hv.2 (List.Perm.refl _)⟩

end

mutual

theorem tree_keysDistinct : ∀ v : JsValue F, IsJson v → KeysDistinct (tree v)
  | .undefined, h => h.elim
  | .null, _ => trivial
  | .bool _, _ => trivial
  | .number _, _ => trivial
  | .string _, _ => trivial
  | .array xs, h => treeItems_keysDistinct xs h
  | .object ms, h => by
      have hperm := sortByKey_perm (treeMembers ms)
      have hmembers := treeMembers_keysDistinct ms h.2
      rw [everyMember_iff] at hmembers
      refine ⟨?_, (everyMember_iff _).mpr fun m hm =>
        hmembers m (hperm.subset hm)⟩
      show ((sortByKey (treeMembers ms)).map Prod.fst).Nodup
      rw [(hperm.map Prod.fst).nodup_iff, treeMembers_keys]
      exact h.1

theorem treeItems_keysDistinct : ∀ xs : List (JsValue F), IsJsonItems xs →
    everyItem (fun ms => (ms.map Prod.fst).Nodup) (treeItems xs)
  | [], _ => trivial
  | x :: xs, h => ⟨tree_keysDistinct x h.1, treeItems_keysDistinct xs h.2⟩

theorem treeMembers_keysDistinct : ∀ ms : List (JsString × JsValue F),
    IsJsonMembers ms →
    everyMember (fun ms => (ms.map Prod.fst).Nodup) (treeMembers ms)
  | [], _ => trivial
  | (_, v) :: ms, h =>
      ⟨tree_keysDistinct v h.1, treeMembers_keysDistinct ms h.2⟩

end

/-! ## Objects key by key -/

section Keys

theorem member_of_mem {ms : List (JsString × JsValue F)}
    (hkeys : (ms.map Prod.fst).Nodup) {k : JsString} {v : JsValue F}
    (h : (k, v) ∈ ms) : (JsValue.object ms).member k = v := by
  have hfind : ms.find? (fun m => m.1 = k) = some (k, v) := by
    cases hfind : ms.find? (fun m => m.1 = k) with
    | none =>
        have hnone := List.find?_eq_none.mp hfind (k, v) h
        simp at hnone
    | some m =>
        have hkey : m.1 = k := by simpa using List.find?_some hfind
        have hmem := List.mem_of_find?_eq_some hfind
        rw [List.inj_on_of_nodup_map hkeys hmem h hkey]
  rw [JsValue.member, hfind]
  rfl

theorem member_of_not_mem {ms : List (JsString × JsValue F)} {k : JsString}
    (h : k ∉ ms.map Prod.fst) :
    (JsValue.object ms).member k = .undefined := by
  have hfind : ms.find? (fun m => m.1 = k) = none := by
    rw [List.find?_eq_none]
    intro m hm hkey
    rw [decide_eq_true_eq] at hkey
    exact h (hkey ▸ List.mem_map_of_mem hm)
  rw [JsValue.member, hfind]
  rfl

/-- What a member of an object is. -/
theorem mem_of_member {ms : List (JsString × JsValue F)} {k : JsString}
    (h : (JsValue.object ms).member k ≠ .undefined) :
    (k, (JsValue.object ms).member k) ∈ ms := by
  cases hfind : ms.find? (fun m => m.1 = k) with
  | none =>
      rw [JsValue.member, hfind] at h
      exact absurd rfl h
  | some m =>
      have hkey : m.1 = k := by simpa using List.find?_some hfind
      have hmem := List.mem_of_find?_eq_some hfind
      rw [JsValue.member, hfind]
      rw [← hkey]
      exact hmem

theorem Same.undefined_iff {v w : JsValue F} (h : Same v w) :
    v = .undefined ↔ w = .undefined := by
  cases v <;> cases w <;> first | exact h.elim | simp

/-- **Objects are the same when they agree on every key**, present or not. -/
theorem same_object_iff {ms ns : List (JsString × JsValue F)}
    (hms : IsJson (.object ms)) (hns : IsJson (.object ns)) :
    Same (.object ms) (.object ns) ↔
      ∀ k, Same ((JsValue.object ms).member k)
        ((JsValue.object ns).member k) := by
  have hjson := (isJsonMembers_iff ms).mp hms.2
  have hjson' := (isJsonMembers_iff ns).mp hns.2
  constructor
  · intro h k
    have hperm := perm_of_sameMembers ms ns hms.2 h
    have hkeys := hperm.map Prod.fst
    rw [treeMembers_keys, treeMembers_keys] at hkeys
    by_cases hk : k ∈ ms.map Prod.fst
    · rcases List.mem_map.mp hk with ⟨⟨k', v⟩, hv, rfl⟩
      have hmem : (k', tree v) ∈ treeMembers ns :=
        hperm.subset (mem_treeMembers.mpr ⟨v, hv, rfl⟩)
      rcases mem_treeMembers.mp hmem with ⟨w, hw, htree⟩
      rw [member_of_mem hms.1 hv, member_of_mem hns.1 hw]
      exact same_of_tree_eq v w (hjson _ hv) (hjson' _ hw) htree.symm
    · have hk' : k ∉ ns.map Prod.fst := fun hin => hk (hkeys.symm.subset hin)
      rw [member_of_not_mem hk, member_of_not_mem hk']
      trivial
  · intro h
    apply sameMembers_of_perm ms ns hms.2 hns.2
    have hnodup : (treeMembers ms).Nodup := by
      apply List.Nodup.of_map Prod.fst
      rw [treeMembers_keys]
      exact hms.1
    have hnodup' : (treeMembers ns).Nodup := by
      apply List.Nodup.of_map Prod.fst
      rw [treeMembers_keys]
      exact hns.1
    rw [List.perm_ext_iff_of_nodup hnodup hnodup']
    rintro ⟨k, t⟩
    have hk := h k
    rw [mem_treeMembers, mem_treeMembers]
    constructor
    · rintro ⟨v, hv, rfl⟩
      rw [member_of_mem hms.1 hv] at hk
      have hdefined := mt hk.undefined_iff.mpr (hjson _ hv).ne_undefined
      exact ⟨_, mem_of_member hdefined,
        (tree_eq_of_same v _ (hjson _ hv) hk).symm⟩
    · rintro ⟨w, hw, rfl⟩
      rw [member_of_mem hns.1 hw] at hk
      have hdefined := mt hk.undefined_iff.mp (hjson' _ hw).ne_undefined
      have hv := mem_of_member hdefined
      exact ⟨_, hv, tree_eq_of_same _ w (hjson _ hv) hk⟩

/-- The members that `jcs` does not leave out. -/
def definedMembers (ms : List (JsString × JsValue F)) :
    List (JsString × JsValue F) := ms.filter fun m => !m.2.isUndefined

theorem member_definedMembers {ms : List (JsString × JsValue F)}
    (hkeys : (ms.map Prod.fst).Nodup) (k : JsString) :
    (JsValue.object (definedMembers ms)).member k =
      (JsValue.object ms).member k := by
  have hkeys' : ((definedMembers ms).map Prod.fst).Nodup :=
    (List.filter_sublist.map _).nodup hkeys
  by_cases hdefined : (JsValue.object ms).member k = .undefined
  · rw [hdefined]
    by_contra hne
    have hmem := mem_of_member hne
    have hms := (List.mem_filter.mp hmem).1
    rw [member_of_mem hkeys hms] at hdefined
    exact hne hdefined
  · apply member_of_mem hkeys'
    refine List.mem_filter.mpr ⟨mem_of_member hdefined, ?_⟩
    show (!((JsValue.object ms).member k).isUndefined) = true
    cases hvalue : (JsValue.object ms).member k with
    | undefined => exact absurd hvalue hdefined
    | _ => rfl

end Keys

/-! ## The bytes under a signature -/

section Bytes

variable (b : Browser F)

/-- The UTF-8 form of a body's canonical text. -/
def messageBytes (body : JsValue F) : Throws (List UInt8) := do
  let canonical ← jcs b body
  return textEncode canonical

/-- They are what a signature check hands to Ed25519. -/
theorem checkSignature_eq (body signature key : JsValue F) :
    checkSignature b body signature key = (do
      let msgBytes ← messageBytes b body
      let sigBytes ← b64uToBytes b signature
      let pkBytes ← b64uToBytes b key
      b.ed25519Verify pkBytes msgBytes sigBytes) := by
  rw [checkSignature, messageBytes]
  cases jcs b body <;> rfl

/-- **Two bodies have the same bytes exactly when they are the same.** -/
theorem messageBytes_eq_iff {v w : JsValue F} (hv : IsJson v)
    (hw : IsJson w) :
    ∃ m n, messageBytes b v = .ok m ∧ messageBytes b w = .ok n ∧
      (m = n ↔ Same v w) := by
  refine ⟨textEncode (jsonText b.toNumerals (tree v)),
    textEncode (jsonText b.toNumerals (tree w)), ?_, ?_, ?_⟩
  · rw [messageBytes, jcs_eq b v hv]
    rfl
  · rw [messageBytes, jcs_eq b w hw]
    rfl
  · rw [same_iff_tree_eq hv hw]
    constructor
    · intro h
      have htext := textEncode_injective
        (jsonText_wellPaired b.toNumerals (tree v))
        (jsonText_wellPaired b.toNumerals (tree w)) h
      exact (spelling b.toNumerals).render_injective htext
    · intro h
      rw [h]

theorem messageBytes_definedMembers (ms : List (JsString × JsValue F)) :
    messageBytes b (.object (definedMembers ms)) =
      messageBytes b (.object ms) := by
  have hmembers : jcsMembers b (definedMembers ms) = jcsMembers b ms := by
    induction ms with
    | nil => rfl
    | cons m ms ih =>
        rcases m with ⟨k, v⟩
        cases hv : v.isUndefined with
        | true =>
            rw [definedMembers, List.filter_cons_of_neg (by simp [hv]),
              jcsMembers, hv, if_pos rfl]
            exact ih
        | false =>
            rw [definedMembers, List.filter_cons_of_pos (by simp [hv]),
              jcsMembers, jcsMembers, hv, if_neg (by simp),
              if_neg (by simp)]
            rw [← ih]
            rfl
  rw [messageBytes, messageBytes, jcs, jcs, hmembers]

/-- Bodies built from the members of objects, some of them missing, have the
same bytes exactly when they agree on every key. -/
theorem messageBytes_object_eq_iff {ms ns : List (JsString × JsValue F)}
    (hms : (ms.map Prod.fst).Nodup)
    (hmjson : ∀ m ∈ ms, m.2 ≠ .undefined → IsJson m.2)
    (hns : (ns.map Prod.fst).Nodup)
    (hnjson : ∀ m ∈ ns, m.2 ≠ .undefined → IsJson m.2) :
    ∃ m n, messageBytes b (.object ms) = .ok m ∧
      messageBytes b (.object ns) = .ok n ∧
      (m = n ↔ ∀ k, Same ((JsValue.object ms).member k)
        ((JsValue.object ns).member k)) := by
  have hdefined : ∀ l : List (JsString × JsValue F), (l.map Prod.fst).Nodup →
      (∀ m ∈ l, m.2 ≠ .undefined → IsJson m.2) →
      IsJson (.object (definedMembers l)) := by
    intro l hl hjson
    refine ⟨(List.filter_sublist.map _).nodup hl,
      (isJsonMembers_iff _).mpr ?_⟩
    intro m hm
    rcases List.mem_filter.mp hm with ⟨hmem, hne⟩
    apply hjson m hmem
    intro hundefined
    rw [hundefined] at hne
    cases hne
  have h := messageBytes_eq_iff b (hdefined ms hms hmjson)
    (hdefined ns hns hnjson)
  rw [messageBytes_definedMembers, messageBytes_definedMembers] at h
  rcases h with ⟨m, n, hm, hn, hiff⟩
  refine ⟨m, n, hm, hn, hiff.trans ?_⟩
  rw [same_object_iff (hdefined ms hms hmjson) (hdefined ns hns hnjson)]
  simp only [member_definedMembers hms, member_definedMembers hns]

/-- Agreement on every key of two objects that keep the members of others
under the covered keys is agreement of those on the covered keys. -/
theorem same_covered_iff {covered : JsString → Prop} [DecidablePred covered]
    {v w v' w' : JsValue F}
    (hv : ∀ k, v'.member k = if covered k then v.member k else .undefined)
    (hw : ∀ k, w'.member k = if covered k then w.member k else .undefined) :
    (∀ k, Same (v'.member k) (w'.member k)) ↔
      ∀ k, covered k → Same (v.member k) (w.member k) := by
  constructor
  · intro hall k hk
    have hsame := hall k
    rwa [hv, hw, if_pos hk, if_pos hk] at hsame
  · intro hall k
    rw [hv, hw]
    by_cases hk : covered k
    · rw [if_pos hk, if_pos hk]
      exact hall k hk
    · rw [if_neg hk, if_neg hk]
      trivial

/-! ### Records -/

theorem member_isJson {o : JsonObject F} {k : JsString}
    (h : o.value.member k ≠ .undefined) : IsJson (o.value.member k) :=
  (isJsonMembers_iff _).mp o.property.2 _ (mem_of_member h)

theorem signableFields_nodup : signableFields.Nodup := by decide +kernel

theorem member_signableContent (record : JsValue F) (k : JsString) :
    (signableContent record).member k =
      if k ∈ signableFields then record.member k else .undefined := by
  have hkeys : ((signableFields.map fun k => (k, record.member k)).map
      Prod.fst) = signableFields := by
    rw [List.map_map]
    exact List.map_id _
  by_cases hk : k ∈ signableFields
  · rw [if_pos hk]
    apply member_of_mem (by rw [hkeys]; exact signableFields_nodup)
    exact List.mem_map.mpr ⟨k, hk, rfl⟩
  · rw [if_neg hk]
    exact member_of_not_mem (by rwa [hkeys])

/-- **The bytes of a record bind its signed fields and no others.** -/
theorem messageBytes_signableContent (r s : JsonObject F) :
    ∃ m n, messageBytes b (signableContent r.value) = .ok m ∧
      messageBytes b (signableContent s.value) = .ok n ∧
      (m = n ↔ ∀ k ∈ signableFields,
        Same (r.value.member k) (s.value.member k)) := by
  have hkeys : ∀ o : JsonObject F,
      ((signableFields.map fun k => (k, o.value.member k)).map
        Prod.fst).Nodup := by
    intro o
    rw [List.map_map]
    exact (List.map_id _).symm ▸ signableFields_nodup
  have hjson : ∀ o : JsonObject F,
      ∀ m ∈ (signableFields.map fun k => (k, o.value.member k)),
        m.2 ≠ .undefined → IsJson m.2 := by
    intro o m hm hne
    rcases List.mem_map.mp hm with ⟨k, -, rfl⟩
    exact member_isJson hne
  have h := messageBytes_object_eq_iff b (hkeys r) (hjson r) (hkeys s)
    (hjson s)
  obtain ⟨m, n, hm, hn, hiff⟩ := h
  exact ⟨m, n, hm, hn, hiff.trans (same_covered_iff
    (member_signableContent r.value) (member_signableContent s.value))⟩

/-! ### Certificates -/

theorem member_certBody (o : JsonObject F) (k : JsString) :
    (certBody o.value).member k =
      if k ≠ js "parent_signature" then o.value.member k else .undefined := by
  have hkeys : ((o.val.filter fun m => m.1 ≠ js "parent_signature").map
      Prod.fst).Nodup := (List.filter_sublist.map _).nodup o.property.1
  by_cases hk : k ≠ js "parent_signature"
  · rw [if_pos hk]
    by_cases hdefined : o.value.member k = .undefined
    · rw [hdefined]
      by_contra hne
      have hmem := (List.mem_filter.mp (mem_of_member hne)).1
      rw [JsonObject.value, member_of_mem o.property.1 hmem] at hdefined
      exact hne hdefined
    · apply member_of_mem hkeys
      refine List.mem_filter.mpr ⟨mem_of_member hdefined, ?_⟩
      rw [decide_eq_true_eq]
      exact hk
  · rw [if_neg hk]
    apply member_of_not_mem
    intro hin
    rcases List.mem_map.mp hin with ⟨m, hm, hkey⟩
    have hne := (List.mem_filter.mp hm).2
    rw [decide_eq_true_eq] at hne
    exact hk (hkey ▸ hne)

/-- **The bytes of a certificate bind every field but its signature.** -/
theorem messageBytes_certBody (c d : JsonObject F) :
    ∃ m n, messageBytes b (certBody c.value) = .ok m ∧
      messageBytes b (certBody d.value) = .ok n ∧
      (m = n ↔ ∀ k, k ≠ js "parent_signature" →
        Same (c.value.member k) (d.value.member k)) := by
  have hkeys : ∀ o : JsonObject F,
      ((o.val.filter fun m => m.1 ≠ js "parent_signature").map
        Prod.fst).Nodup :=
    fun o => (List.filter_sublist.map _).nodup o.property.1
  have hjson : ∀ o : JsonObject F,
      ∀ m ∈ (o.val.filter fun m => m.1 ≠ js "parent_signature"),
        m.2 ≠ .undefined → IsJson m.2 :=
    fun o m hm _ => (isJsonMembers_iff _).mp o.property.2 m
      (List.mem_filter.mp hm).1
  have h := messageBytes_object_eq_iff b (hkeys c) (hjson c) (hkeys d)
    (hjson d)
  obtain ⟨m, n, hm, hn, hiff⟩ := h
  exact ⟨m, n, hm, hn, hiff.trans
    (same_covered_iff (member_certBody c) (member_certBody d))⟩

/-! ### All pre-images -/

theorem jcs_eq_iff (v w : JsonValue F) :
    jcs b v.val = jcs b w.val ↔ Same v.val w.val := by
  rw [jcs_eq b _ v.property, jcs_eq b _ w.property,
    same_iff_tree_eq v.property w.property, Except.ok.injEq]
  exact (spelling b.toNumerals).render_injective.eq_iff

/-- **Canonical texts and signed bytes bind what they are made from.**  Values
have one text exactly when they are the same up to the order of members, and
parsing the text gives the value back; the bytes of records and certificates
are equal exactly when every covered field is the same or missing in both. -/
theorem preimages_bind :
    (∀ v w : JsonValue F, jcs b v.val = jcs b w.val ↔ Same v.val w.val) ∧
    (∀ v : JsonValue F, ∃ text v', jcs b v.val = .ok text ∧
      jsonParse b.toEngine text = .ok v' ∧ Same v.val v') ∧
    (∀ r s : JsonObject F,
      ∃ m n, messageBytes b (signableContent r.value) = .ok m ∧
        messageBytes b (signableContent s.value) = .ok n ∧
        (m = n ↔ ∀ k ∈ signableFields,
          Same (r.value.member k) (s.value.member k))) ∧
    (∀ c d : JsonObject F,
      ∃ m n, messageBytes b (certBody c.value) = .ok m ∧
        messageBytes b (certBody d.value) = .ok n ∧
        (m = n ↔ ∀ k, k ≠ js "parent_signature" →
          Same (c.value.member k) (d.value.member k))) := by
  refine ⟨jcs_eq_iff b, ?_, messageBytes_signableContent b,
    messageBytes_certBody b⟩
  intro v
  exact ⟨_, _, jcs_eq b v.val v.property,
    jsonParse_jsonText b.toEngine (tree_keysDistinct v.val v.property),
    same_ofJson_tree v.val v.property⟩

end Bytes

end RenderEngine.Ports.SignedPreimage
