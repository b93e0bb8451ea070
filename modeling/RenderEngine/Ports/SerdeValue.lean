import RenderEngine.Ports.RustStd

/-!
# Building and reading `serde_json` values

What an accessor takes out of a value is a value again: its objects are sorted
because the whole tree's are.

`from_value` reads a value into a type.  What is common to the types the
server reads stands here: fields that are strings, options, and the errors of
a derived `Deserialize`.
-/

namespace RenderEngine.Ports.Serde

open RenderEngine.Ports.CoreTypes
open RenderEngine.Ports.RustStd
open RenderEngine.Verified.JsonGrammar
open RenderEngine.Verified.SortedMap

variable {N : Type}

/-! ## Building -/

def Value.bool (b : Bool) : Value N := ⟨.bool b, trivial⟩

def Value.array (xs : List (Value N)) : Value N where
  tree := .arr (xs.map Value.tree)
  sorted := by
    show everyItem KeysSorted (xs.map Value.tree)
    rw [everyItem_iff, List.forall_mem_map]
    exact fun v _ => v.sorted

/-! ## Accessors -/

/-- `as_str`. -/
def Value.asStr (v : Value N) : Option Text :=
  match v.tree with
  | .str s => some s
  | _ => none

/-- `as_array`. -/
def Value.asArray : Value N → Option (List (Value N))
  | ⟨.arr xs, h⟩ =>
      some (xs.attach.map fun x => ⟨x.1, (everyItem_iff xs).mp h x.1 x.2⟩)
  | _ => none

/-- `as_object`. -/
def Value.asObject : Value N → Option (List (Text × Value N))
  | ⟨.obj ms, h⟩ =>
      some (ms.attach.map fun m =>
        (m.1.1, ⟨m.1.2, (everyMember_iff ms).mp h.2 m.1 m.2⟩))
  | _ => none

/-- `get` of a key: nothing unless the value is an object. -/
def Value.get (v : Value N) (key : Text) : Option (Value N) :=
  v.asObject.bind (List.lookup key)

theorem Value.asArray_array (xs : List (Value N)) :
    (Value.array xs).asArray = some xs := by
  have htrees : ∀ ys : List (Value N),
      (Value.array xs).asArray = some ys → ys = xs := by
    intro ys hys
    have hmap : ys.map Value.tree = xs.map Value.tree := by
      cases hys
      rw [List.map_map]
      exact List.attach_map_subtype_val _
    exact Value.tree_injective.list_map hmap
  exact congrArg some (htrees _ rfl)

theorem lookup_map_snd {V W : Type} (f : V → W) (ms : List (Text × V))
    (k : Text) :
    (ms.map fun m => (m.1, f m.2)).lookup k = (ms.lookup k).map f := by
  induction ms with
  | nil => rfl
  | cons m ms ih =>
      rw [List.map_cons, List.lookup_cons, List.lookup_cons, ih]
      cases k == m.1 <;> rfl

/-- A member of an object that was put together last wins. -/
theorem Value.get_object (ms : List (Text × Value N)) (k : Text) :
    (Value.object ms).get k = ms.reverse.lookup k := by
  have hmembers : ∀ ns : List (Text × Value N),
      (Value.object ms).asObject = some ns →
      ns.map (fun m => (m.1, m.2.tree)) =
        collect (ms.map fun m => (m.1, m.2.tree)) := by
    intro ns hns
    cases hns
    rw [List.map_map]
    exact List.attach_map_subtype_val _
  obtain ⟨ns, hns⟩ : ∃ ns, (Value.object ms).asObject = some ns := ⟨_, rfl⟩
  have htrees := congrArg (List.lookup k) (hmembers ns hns)
  rw [lookup_collect, ← List.map_reverse, lookup_map_snd, lookup_map_snd]
    at htrees
  rw [Value.get, hns, Option.bind_some]
  exact Option.map_injective Value.tree_injective htrees

/-- An object is no array. -/
theorem Value.object_ne_array (ms : List (Text × Value N))
    (xs : List (Value N)) : Value.object ms ≠ Value.array xs := by
  intro h
  cases congrArg Value.tree h

/-! ## `from_value` -/

/-- Why a value is not one of the type. -/
inductive DecodeError (N : Type) where
  | invalidType (found : Value N) (expected : Text)
  | invalidLength (length : Nat) (expected : Text)
  | missingField (field : Text)

/-- A `String`. -/
def decodeString (v : Value N) : Except (DecodeError N) Text :=
  okOr (.invalidType v "a string".toList) v.asStr

/-- An `Option<Value>`: `null` is `None`. -/
def decodeOption (v : Value N) : Option (Value N) :=
  match v.tree with
  | .null => none
  | _ => some v

theorem decodeOption_of_ne_null {v : Value N} (h : v ≠ Value.null) :
    decodeOption v = some v := by
  unfold decodeOption
  split
  · next htree => exact absurd (Value.tree_injective htree) h
  · rfl

/-- A member of an object, where there is one, that must be a `String`. -/
def stringMember (ms : List (Text × Value N)) (key : Text) :
    Except (DecodeError N) (Option Text) :=
  match ms.lookup key with
  | some v => (decodeString v).map some
  | none => .ok none

/-- The field at a position of an array that must have it. -/
def element (xs : List (Value N)) (i : Nat) (expected : Text) :
    Except (DecodeError N) (Value N) :=
  okOr (.invalidLength i expected) xs[i]?

/-- A derived `Deserialize` takes no more elements than it has fields. -/
def noMoreThan (xs : List (Value N)) (fields : Nat) :
    Except (DecodeError N) Unit :=
  if fields < xs.length
  then .error (.invalidLength xs.length "fewer elements in array".toList)
  else .ok ()

/-- A struct: from the members of an object, or from the elements of an array
in the order of its fields. -/
def decodeStruct {α : Type} (name : Text)
    (fromObject : List (Text × Value N) → Except (DecodeError N) α)
    (fromArray : List (Value N) → Except (DecodeError N) α) (v : Value N) :
    Except (DecodeError N) α :=
  match v.asObject, v.asArray with
  | some ms, _ => fromObject ms
  | _, some xs => fromArray xs
  | _, _ => .error (.invalidType v ("struct ".toList ++ name))

end RenderEngine.Ports.Serde
