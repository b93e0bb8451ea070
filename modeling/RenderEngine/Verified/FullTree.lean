import RenderEngine.Verified.PairTree

/-!
# Full trees

The tree over a layer whose length is no power of two repeats nodes.  Written
out with the leaf that each of its `2 ^ k` positions stands for, it is a full
tree, in which one position can be changed without the others.  A fold up the
path of a tree computes the root of such a changed tree, whatever it starts
from.

## Main results

* `root?_filled`: filling a tree up does not change its root.
* `root?_filled_set`: a fold of any node up the path of position `i` gives the
  root of the filled tree with that node at `i`.
-/

namespace RenderEngine.Verified.FullTree

open RenderEngine.Verified.PairTree

universe u

variable {α : Type u} (pair : α → α → α)

/-! ## Nodes by position -/

/-- The first `n` nodes. -/
def layer (f : Nat → α) (n : Nat) : List α := (List.range n).map f

/-- The nodes of the layer above. -/
def joined (f : Nat → α) (j : Nat) : α := pair (f (2 * j)) (f (2 * j + 1))

/-- The root over `2 ^ k` nodes. -/
def fullRoot : Nat → (Nat → α) → α
  | 0, f => f 0
  | k + 1, f => fullRoot k (joined pair f)

theorem layer_length (f : Nat → α) (n : Nat) : (layer f n).length = n := by
  rw [layer, List.length_map, List.length_range]

theorem level_layer (f : Nat → α) (m : Nat) :
    level pair (layer f (2 * m)) = layer (joined pair f) m := by
  induction m generalizing f with
  | zero => rfl
  | succ m ih =>
      have hsplit : layer f (2 * (m + 1)) =
          f 0 :: f 1 :: layer (fun j => f (j + 2)) (2 * m) := by
        simp only [layer, show 2 * (m + 1) = 2 * m + 1 + 1 by omega,
          List.range_succ_eq_map, List.map_cons, List.map_map]
        rfl
      have htail : layer (joined pair f) (m + 1) = pair (f 0) (f 1) ::
          layer (joined pair fun j => f (j + 2)) m := by
        simp only [layer, List.range_succ_eq_map, List.map_cons, List.map_map]
        rfl
      rw [hsplit, htail, level, ih]

theorem levels_layer (k : Nat) (f : Nat → α) :
    levels pair k (layer f (2 ^ k)) = [fullRoot pair k f] := by
  induction k generalizing f with
  | zero => rfl
  | succ k ih =>
      rw [levels, Nat.pow_succ', level_layer, ih]
      rfl

/-- Changing one node changes its parent. -/
theorem joined_update (f : Nat → α) (i : Nat) (c : α) :
    joined pair (Function.update f i c) =
      Function.update (joined pair f) (i / 2)
        (if i % 2 = 0 then pair c (f (2 * (i / 2) + (1 - i % 2)))
          else pair (f (2 * (i / 2) + (1 - i % 2))) c) := by
  funext j
  by_cases hj : j = i / 2
  · subst hj
    rw [Function.update_self, joined]
    by_cases hi : i % 2 = 0
    · have heven : 2 * (i / 2) = i := by omega
      rw [if_pos hi, hi, heven, Function.update_self,
        Function.update_of_ne (by omega)]
    · have hodd : 2 * (i / 2) + 1 = i := by omega
      have hone : 1 - i % 2 = 0 := by omega
      rw [if_neg hi, hone, hodd, Function.update_self,
        Function.update_of_ne (by omega), Nat.add_zero]
  · rw [Function.update_of_ne hj, joined, joined,
      Function.update_of_ne (by omega), Function.update_of_ne (by omega)]

theorem layer_set (f : Nat → α) (n i : Nat) (c : α) :
    (layer f n).set i c = layer (Function.update f i c) n := by
  apply List.ext_getElem?
  intro j
  by_cases hj : j < n
  · by_cases hi : i = j
    · subst hi
      rw [List.getElem?_set_self (by rwa [layer_length])]
      simp [layer, hj]
    · rw [List.getElem?_set_ne hi]
      simp [layer, hj, Function.update_of_ne (Ne.symm hi)]
  · rw [List.getElem?_eq_none (by rw [List.length_set, layer_length]; omega),
      List.getElem?_eq_none (by rw [layer_length]; omega)]

/-! ## Filling a tree up -/

/-- `f` names the leaf that each position of the tree stands for. -/
def StandsFor (k : Nat) (xs : List α) (f : Nat → α) : Prop :=
  ∀ j, xs[slot xs.length k j]? = some (f j)

theorem standsFor_joined {k : Nat} {xs : List α} {f : Nat → α}
    (hne : xs ≠ []) (hf : StandsFor (k + 1) xs f) :
    StandsFor k (level pair xs) (joined pair f) := by
  intro j
  have hlen := List.length_pos_iff.mpr (level_ne_nil pair hne)
  obtain ⟨a, b, ha, hb, hab⟩ := level_getElem? pair xs _ (slot_lt hlen k j)
  rw [level_length] at ha hb
  have heven := hf (2 * j)
  have hodd := hf (2 * j + 1)
  simp only [slot, show 2 * j / 2 = j by omega,
    show 2 * j % 2 = 0 by omega] at heven
  simp only [slot, show (2 * j + 1) / 2 = j by omega,
    show (2 * j + 1) % 2 = 1 by omega] at hodd
  rw [hab, joined, Option.some.inj (ha.symm.trans heven),
    Option.some.inj (hb.symm.trans hodd)]

/-- The sibling a path starts with. -/
theorem path_succ {k : Nat} {xs : List α} {f : Nat → α}
    (hf : StandsFor (k + 1) xs f) (i : Nat) :
    path pair (k + 1) xs i = f (2 * (i / 2) + (1 - i % 2)) ::
      path pair k (level pair xs) (i / 2) := by
  have hsib := hf (2 * (i / 2) + (1 - i % 2))
  rw [slot, show (2 * (i / 2) + (1 - i % 2)) / 2 = i / 2 by omega,
    show (2 * (i / 2) + (1 - i % 2)) % 2 = 1 - i % 2 by omega] at hsib
  rw [path, padAt, hsib]
  rfl

/-- **A fold up a path is the root of the changed tree.** -/
theorem climb_path_eq {k : Nat} {xs : List α} {f : Nat → α} (hne : xs ≠ [])
    (hf : StandsFor k xs f) (c : α) {i : Nat} (hi : i < 2 ^ k) :
    climb pair c i (path pair k xs i) =
      fullRoot pair k (Function.update f i c) := by
  induction k generalizing xs f c i with
  | zero =>
      have hzero : i = 0 := by
        rw [Nat.pow_zero] at hi
        omega
      subst hzero
      exact (Function.update_self 0 c f).symm
  | succ k ih =>
      have hhalf : i / 2 < 2 ^ k := by
        rw [Nat.pow_succ] at hi
        omega
      rw [path_succ pair hf, climb, ih (level_ne_nil pair hne)
        (standsFor_joined pair hne hf) _ hhalf, fullRoot, joined_update]

/-- The leaves of a list, written out at every position of its tree. -/
def filled (d : α) (xs : List α) : List α :=
  layer (fun j => (xs[slot xs.length (Nat.clog 2 xs.length) j]?).getD d)
    (2 ^ Nat.clog 2 xs.length)

theorem standsFor_getD (d : α) {xs : List α} (hne : xs ≠ []) (k : Nat) :
    StandsFor k xs (fun j => (xs[slot xs.length k j]?).getD d) := by
  intro j
  have hlt := slot_lt (List.length_pos_iff.mpr hne) k j
  simp only [List.getElem?_eq_getElem hlt, Option.getD_some]

/-- The filled tree with a node changed has as root the fold of that node up
the path. -/
theorem root?_filled_set (d : α) {xs : List α} (hne : xs ≠ []) (c : α)
    {i : Nat} (hi : i < xs.length) :
    root? pair ((filled d xs).set i c) =
      some (climb pair c i (path pair (Nat.clog 2 xs.length) xs i)) := by
  have hpow : xs.length ≤ 2 ^ Nat.clog 2 xs.length :=
    Nat.le_pow_clog (by decide) _
  rw [climb_path_eq pair hne (standsFor_getD d hne _) c (by omega), filled,
    layer_set, root?, layer_length, Nat.clog_pow 2 _ (by decide), levels_layer]
  rfl

/-- Filling a tree up does not change its root. -/
theorem root?_filled (d : α) {xs : List α} (hne : xs ≠ []) :
    root? pair (filled d xs) = root? pair xs := by
  obtain ⟨r, hr, htop⟩ := exists_root pair xs hne
  obtain ⟨leaf, hleaf, hclimb, -⟩ := climb_path pair htop hne 0
  have hf := standsFor_getD d hne (Nat.clog 2 xs.length)
  rw [climb_path_eq pair hne hf leaf (Nat.two_pow_pos _),
    Option.some.inj (hleaf.symm.trans (hf 0)), Function.update_eq_self]
    at hclimb
  rw [hr, ← hclimb, root?, filled, layer_length,
    Nat.clog_pow 2 _ (by decide), levels_layer]
  rfl

end RenderEngine.Verified.FullTree
