import Mathlib.Algebra.Ring.Nat
import Mathlib.Data.List.Induction
import Mathlib.Data.Nat.Log
import Mathlib.Logic.Function.Basic

/-!
# Binary hash trees that duplicate the last node of an odd layer

A layer of nodes is joined in pairs by an arbitrary function `pair`; when the
layer is odd its last node is joined with itself.  Repeating this
`Nat.clog 2 n` times brings `n` leaves down to one root.  Nothing here
mentions a hash function: the node type and `pair` are parameters.

The tree behaves like a perfect tree of height `k` whose positions beyond the
last leaf repeat earlier nodes.  `slot n k i` names the leaf that position
`i` stands for, and only the low `k` bits of `i` matter to it, so the
statements below hold of every index and not only of those below `n`.

## Main results

* `climb_path`: folding a leaf up its own sibling path reaches the root.
* `climb_eq_iff`: when `pair` is injective and never produces a leaf, a fold
  reaches the root only along the sibling path of the tree, from the leaf the
  index stands for.
* `climb_binds_fold`: folds of one length from one index that meet are the
  same, unless two pairs they join collide.
* `slot_of_lt`: an index below the leaf count stands for itself.
* `root?_injective`: for an injective `pair` the root and the number of leaves
  fix the leaves.
-/

namespace RenderEngine.Verified.PairTree

universe u

variable {α : Type u} (pair : α → α → α)

/-! ## Layers -/

/-- The layer above: nodes joined in pairs, an odd last node with itself. -/
def level : List α → List α
  | [] => []
  | [a] => [pair a a]
  | a :: b :: rest => pair a b :: level rest

/-- The layer `k` steps above. -/
def levels : Nat → List α → List α
  | 0, xs => xs
  | k + 1, xs => levels k (level pair xs)

/-- The root of a leaf list; an empty list has none. -/
def root? (xs : List α) : Option α :=
  (levels pair (Nat.clog 2 xs.length) xs).head?

@[simp] theorem level_length : ∀ xs : List α,
    (level pair xs).length = (xs.length + 1) / 2
  | [] => by simp [level]
  | [_] => by simp [level]
  | a :: b :: rest => by
      simp only [level, List.length_cons, level_length rest]
      omega

theorem level_ne_nil {xs : List α} (hne : xs ≠ []) : level pair xs ≠ [] := by
  have hpos : 0 < xs.length := List.length_pos_iff.mpr hne
  rw [← List.length_pos_iff, level_length]
  omega

/-- The halving that drives `Nat.clog 2` is the one `level` performs. -/
theorem clog_succ {n : Nat} (hn : 1 < n) :
    Nat.clog 2 n = Nat.clog 2 ((n + 1) / 2) + 1 := by
  exact Nat.clog_of_two_le (by decide) hn

/-- After `Nat.clog 2 n` steps exactly one node is left. -/
theorem levels_clog_length (xs : List α) (hne : xs ≠ []) :
    (levels pair (Nat.clog 2 xs.length) xs).length = 1 := by
  have hpos : 0 < xs.length := List.length_pos_iff.mpr hne
  generalize hk : Nat.clog 2 xs.length = k
  induction k generalizing xs with
  | zero =>
      have hle : xs.length ≤ 1 := by
        by_contra hgt
        have := clog_succ (n := xs.length) (by omega)
        omega
      simp only [levels]
      omega
  | succ k ih =>
      have hgt : 1 < xs.length := by
        by_contra hle
        rw [Nat.clog_of_right_le_one (by omega)] at hk
        omega
      have hlevel := level_ne_nil pair hne
      refine ih (level pair xs) hlevel (List.length_pos_iff.mpr hlevel) ?_
      rw [clog_succ hgt] at hk
      rw [level_length]
      omega

/-- A non-empty list has a root, and it is the whole top layer. -/
theorem exists_root (xs : List α) (hne : xs ≠ []) :
    ∃ r, root? pair xs = some r ∧
      levels pair (Nat.clog 2 xs.length) xs = [r] := by
  obtain ⟨r, hr⟩ := List.length_eq_one_iff.mp (levels_clog_length pair xs hne)
  exact ⟨r, by simp [root?, hr], hr⟩

/-! ## Positions of the padded layer -/

/-- The node at position `j` of a layer padded with copies of its last node. -/
def padAt (xs : List α) (j : Nat) : Option α := xs[min j (xs.length - 1)]?

theorem padAt_of_lt (xs : List α) {j : Nat} (hj : j < xs.length) :
    padAt xs j = xs[j]? := by
  rw [padAt, Nat.min_eq_left (by omega)]

theorem exists_padAt (xs : List α) (hne : xs ≠ []) (j : Nat) :
    ∃ a, padAt xs j = some a := by
  have hpos : 0 < xs.length := List.length_pos_iff.mpr hne
  have hlt : min j (xs.length - 1) < xs.length := by omega
  exact ⟨xs.get ⟨_, hlt⟩, List.getElem?_eq_getElem hlt⟩

private theorem padAt_add_two (a b : α) {rest : List α} (hne : rest ≠ [])
    (j : Nat) : padAt (a :: b :: rest) (j + 2) = padAt rest j := by
  have hpos : 0 < rest.length := List.length_pos_iff.mpr hne
  have hmin : min (j + 2) ((a :: b :: rest).length - 1) =
      min j (rest.length - 1) + 2 := by
    simp only [List.length_cons]
    omega
  rw [padAt, hmin]
  rfl

/-- Node `q` of the layer above joins positions `2 q` and `2 q + 1`. -/
theorem level_getElem? : ∀ (xs : List α) (q : Nat),
    q < (level pair xs).length →
    ∃ a b, padAt xs (2 * q) = some a ∧ padAt xs (2 * q + 1) = some b ∧
      (level pair xs)[q]? = some (pair a b)
  | [], q, hq => by simp at hq
  | [a], q, hq => by
      have hq0 : q = 0 := by simp at hq; omega
      subst hq0
      exact ⟨a, a, rfl, rfl, rfl⟩
  | a :: b :: rest, 0, _ => by
      refine ⟨a, b, ?_, ?_, rfl⟩ <;>
        rw [padAt_of_lt _ (by simp)] <;> rfl
  | a :: b :: rest, q + 1, hq => by
      have hqr : q < (level pair rest).length := by
        simp only [level_length, List.length_cons] at hq ⊢
        omega
      have hne : rest ≠ [] := by
        rintro rfl
        simp at hqr
      obtain ⟨c, d, hc, hd, hcd⟩ := level_getElem? rest q hqr
      refine ⟨c, d, ?_, ?_, ?_⟩
      · rw [show 2 * (q + 1) = 2 * q + 2 by omega, padAt_add_two a b hne, hc]
      · rw [show 2 * (q + 1) + 1 = 2 * q + 1 + 2 by omega,
          padAt_add_two a b hne, hd]
      · simpa [level] using hcd

/-- The leaf that position `i` of the height-`k` tree over `n` leaves stands
for.  Bits of `i` above `k` are not read. -/
def slot : Nat → Nat → Nat → Nat
  | _, 0, _ => 0
  | n, k + 1, i => min (2 * slot ((n + 1) / 2) k (i / 2) + i % 2) (n - 1)

theorem slot_lt {n : Nat} (hn : 0 < n) : ∀ k i, slot n k i < n
  | 0, _ => hn
  | k + 1, i => by
      simp only [slot]
      omega

/-- An index below the leaf count stands for itself. -/
theorem slot_of_lt {n k i : Nat} (hk : n ≤ 2 ^ k) (hi : i < n) :
    slot n k i = i := by
  induction k generalizing n i with
  | zero =>
      rw [Nat.pow_zero] at hk
      simp only [slot]
      omega
  | succ k ih =>
      have hhalf : (n + 1) / 2 ≤ 2 ^ k := by
        rw [Nat.pow_succ] at hk
        omega
      simp only [slot]
      rw [ih hhalf (by omega)]
      omega

/-! ## Folding a leaf up a list of siblings -/

/-- Fold a node up a sibling list; the low bit of the index says on which
side the sibling stands. -/
def climb : α → Nat → List α → α
  | node, _, [] => node
  | node, i, sib :: rest =>
      climb (if i % 2 = 0 then pair node sib else pair sib node) (i / 2) rest

/-- The siblings met on the way up from position `i`. -/
def path : Nat → List α → Nat → List α
  | 0, _, _ => []
  | k + 1, xs, i =>
      (padAt xs (2 * slot ((xs.length + 1) / 2) k (i / 2)
        + (1 - i % 2))).toList ++ path k (level pair xs) (i / 2)

/-- The parent of the leaf at position `i`, its two children, and which of
the two is the leaf: the case split every induction below makes. -/
private theorem parent_split (xs : List α) (hne : xs ≠ []) (k i : Nat) :
    ∃ a b, (level pair xs)[slot (level pair xs).length k (i / 2)]? =
        some (pair a b) ∧
      (i % 2 = 0 → xs[slot xs.length (k + 1) i]? = some a ∧
        path pair (k + 1) xs i = b :: path pair k (level pair xs) (i / 2)) ∧
      (i % 2 = 1 → xs[slot xs.length (k + 1) i]? = some b ∧
        path pair (k + 1) xs i = a :: path pair k (level pair xs) (i / 2)) := by
  have hlen := List.length_pos_iff.mpr (level_ne_nil pair hne)
  obtain ⟨a, b, ha, hb, hab⟩ := level_getElem? pair xs _
    (slot_lt hlen k (i / 2))
  rw [level_length] at ha hb
  refine ⟨a, b, hab, ?_, ?_⟩
  · intro hi
    simp only [slot, path, hi, Nat.add_zero, Nat.sub_zero, hb,
      Option.toList_some, List.singleton_append, and_true]
    exact ha
  · intro hi
    simp only [slot, path, hi, Nat.sub_self, Nat.add_zero, ha,
      Option.toList_some, List.singleton_append, and_true]
    exact hb

/-- **Completeness of sibling paths.**  From every position the path has one
sibling a layer and folding the leaf up it reaches the root. -/
theorem climb_path {k : Nat} {xs : List α} {r : α}
    (hroot : levels pair k xs = [r]) (hne : xs ≠ []) (i : Nat) :
    ∃ leaf, xs[slot xs.length k i]? = some leaf ∧
      climb pair leaf i (path pair k xs i) = r ∧
      (path pair k xs i).length = k := by
  induction k generalizing xs i with
  | zero =>
      simp only [levels] at hroot
      subst hroot
      exact ⟨r, rfl, rfl, rfl⟩
  | succ k ih =>
      obtain ⟨node, hnode, hclimb, hlen⟩ :=
        ih hroot (level_ne_nil pair hne) (i / 2)
      obtain ⟨a, b, hab, heven, hodd⟩ := parent_split pair xs hne k i
      have hjoin : node = pair a b := Option.some.inj (hnode.symm.trans hab)
      subst hjoin
      rcases Nat.mod_two_eq_zero_or_one i with hi | hi
      · obtain ⟨hleaf, hpath⟩ := heven hi
        refine ⟨a, hleaf, ?_, ?_⟩
        · rw [hpath, climb, if_pos hi, hclimb]
        · rw [hpath, List.length_cons, hlen]
      · obtain ⟨hleaf, hpath⟩ := hodd hi
        refine ⟨b, hleaf, ?_, ?_⟩
        · rw [hpath, climb, if_neg (by omega), hclimb]
        · rw [hpath, List.length_cons, hlen]

/-! ## Binding -/

/-- The pairs a fold joins, from the leaf up. -/
def joins : α → Nat → List α → List (α × α)
  | _, _, [] => []
  | node, i, sib :: rest =>
      let joined := if i % 2 = 0 then (node, sib) else (sib, node)
      joined :: joins (pair joined.1 joined.2) (i / 2) rest

/-- Folds of one length from one index that meet are the same, unless two of
the pairs they join collide.  The folds are compared from the top: their first
joins meet, and equal joins have equal children on either side. -/
theorem climb_binds_fold {c c' : α} {i : Nat} {p p' : List α}
    (hlen : p.length = p'.length)
    (hjoins : ∀ x ∈ joins pair c i p, ∀ y ∈ joins pair c' i p',
      pair x.1 x.2 = pair y.1 y.2 → x = y)
    (h : climb pair c i p = climb pair c' i p') : c = c' ∧ p = p' := by
  induction p generalizing c c' i p' with
  | nil =>
      obtain rfl := List.length_eq_zero_iff.mp hlen.symm
      exact ⟨h, rfl⟩
  | cons sib rest ih =>
      obtain ⟨sib', rest', rfl⟩ :=
        List.exists_cons_of_length_eq_add_one hlen.symm
      rcases Nat.mod_two_eq_zero_or_one i with hi | hi
      · simp only [climb, joins, hi, if_true] at h hjoins
        obtain ⟨hnode, hrest⟩ := ih (Nat.succ.inj hlen)
          (fun x hx y hy => hjoins x (List.mem_cons_of_mem _ hx) y
            (List.mem_cons_of_mem _ hy)) h
        have hsame := hjoins _ List.mem_cons_self _ List.mem_cons_self hnode
        rw [Prod.mk.injEq] at hsame
        exact ⟨hsame.1, by rw [hsame.2, hrest]⟩
      · simp only [climb, joins, hi, Nat.one_ne_zero, if_false] at h hjoins
        obtain ⟨hnode, hrest⟩ := ih (Nat.succ.inj hlen)
          (fun x hx y hy => hjoins x (List.mem_cons_of_mem _ hx) y
            (List.mem_cons_of_mem _ hy)) h
        have hsame := hjoins _ List.mem_cons_self _ List.mem_cons_self hnode
        rw [Prod.mk.injEq] at hsame
        exact ⟨hsame.2, by rw [hsame.1, hrest]⟩

section Binding

variable {pair}
variable (hinj : Function.Injective2 pair)
include hinj

/-- A fold of the right length that reaches the root follows the tree's own
path, from the leaf its index stands for. -/
theorem climb_binds {k : Nat} {xs : List α} {r : α}
    (hroot : levels pair k xs = [r]) (hne : xs ≠ []) {c : α} {i : Nat}
    {p : List α} (hlen : p.length = k) (hclimb : climb pair c i p = r) :
    xs[slot xs.length k i]? = some c ∧ p = path pair k xs i := by
  induction k generalizing xs c i p with
  | zero =>
      obtain rfl := List.length_eq_zero_iff.mp hlen
      simp only [levels] at hroot
      subst hroot
      simp only [climb] at hclimb
      subst hclimb
      exact ⟨rfl, rfl⟩
  | succ k ih =>
      obtain ⟨sib, rest, rfl⟩ := List.exists_cons_of_length_eq_add_one hlen
      obtain ⟨hnode, hrest⟩ := ih (i := i / 2) (p := rest) hroot
        (level_ne_nil pair hne) (Nat.succ.inj hlen) hclimb
      obtain ⟨a, b, hab, heven, hodd⟩ := parent_split pair xs hne k i
      have hjoin := Option.some.inj (hnode.symm.trans hab)
      rcases Nat.mod_two_eq_zero_or_one i with hi | hi
      · rw [if_pos hi] at hjoin
        obtain ⟨rfl, rfl⟩ := hinj hjoin
        obtain ⟨hleaf, hpath⟩ := heven hi
        exact ⟨hleaf, by rw [hpath, hrest]⟩
      · rw [if_neg (by omega)] at hjoin
        obtain ⟨rfl, rfl⟩ := hinj hjoin
        obtain ⟨hleaf, hpath⟩ := hodd hi
        exact ⟨hleaf, by rw [hpath, hrest]⟩

/-- Layers of one length that join to the same layer are the same: an odd last
node is read off its pair with itself. -/
theorem level_injective : ∀ {xs ys : List α}, xs.length = ys.length →
    level pair xs = level pair ys → xs = ys
  | [], [], _, _ => rfl
  | [a], [b], _, h => by
      simp only [level, List.cons.injEq, and_true] at h
      rw [(hinj h).1]
  | a :: b :: xs, c :: d :: ys, hlen, h => by
      simp only [level, List.cons.injEq] at h
      obtain ⟨rfl, rfl⟩ := hinj h.1
      have hlen' : xs.length = ys.length := by
        simpa only [List.length_cons, Nat.add_right_cancel_iff] using hlen
      rw [level_injective hlen' h.2]

theorem levels_injective (k : Nat) {xs ys : List α}
    (hlen : xs.length = ys.length) (h : levels pair k xs = levels pair k ys) :
    xs = ys := by
  induction k generalizing xs ys with
  | zero => exact h
  | succ k ih =>
      have hlen' : (level pair xs).length = (level pair ys).length := by
        rw [level_length, level_length, hlen]
      exact level_injective hinj hlen (ih hlen' h)

/-- **The root and the number of leaves fix the leaves.** -/
theorem root?_injective {xs ys : List α} (hlen : xs.length = ys.length)
    (h : root? pair xs = root? pair ys) : xs = ys := by
  by_cases hempty : xs = []
  · rw [hempty] at hlen ⊢
    exact (List.length_eq_zero_iff.mp hlen.symm).symm
  · have hys : ys ≠ [] := by
      rw [← List.length_pos_iff, ← hlen, List.length_pos_iff]
      exact hempty
    obtain ⟨r, hr, hx⟩ := exists_root pair xs hempty
    obtain ⟨r', hr', hy⟩ := exists_root pair ys hys
    obtain rfl : r = r' := Option.some.inj (hr.symm.trans (h.trans hr'))
    rw [← hlen] at hy
    exact levels_injective hinj _ hlen (hx.trans hy.symm)

end Binding

/-- A perfect tree of height `k` over the nodes `leaf` accepts. -/
def Perfect (leaf : α → Prop) : Nat → α → Prop
  | 0, a => leaf a
  | k + 1, a => ∃ b c, a = pair b c ∧ Perfect leaf k b ∧ Perfect leaf k c

theorem perfect_level {leaf : α → Prop} {k : Nat} : ∀ {xs : List α},
    (∀ x ∈ xs, Perfect pair leaf k x) →
    ∀ y ∈ level pair xs, Perfect pair leaf (k + 1) y
  | [], _, y, hy => by simp [level] at hy
  | [a], h, y, hy => by
      simp only [level, List.mem_singleton] at hy
      exact ⟨a, a, hy, h a (by simp), h a (by simp)⟩
  | a :: b :: rest, h, y, hy => by
      simp only [level, List.mem_cons] at hy
      rcases hy with rfl | hy
      · exact ⟨a, b, rfl, h a (by simp), h b (by simp)⟩
      · exact perfect_level (fun x hx => h x (by simp [hx])) y hy

theorem perfect_levels {leaf : α → Prop} (k : Nat) {j : Nat} {xs : List α}
    (h : ∀ x ∈ xs, Perfect pair leaf j x) :
    ∀ y ∈ levels pair k xs, Perfect pair leaf (j + k) y := by
  induction k generalizing j xs with
  | zero => exact h
  | succ k ih =>
      intro y hy
      have := ih (perfect_level pair h) y hy
      rwa [show j + (k + 1) = j + 1 + k by omega]

theorem climb_append_singleton (c : α) (i : Nat) (p : List α) (sib : α) :
    climb pair c i (p ++ [sib]) =
      if i / 2 ^ p.length % 2 = 0 then pair (climb pair c i p) sib
      else pair sib (climb pair c i p) := by
  induction p generalizing c i with
  | nil => simp [climb]
  | cons s rest ih =>
      simp only [List.cons_append, climb, ih, List.length_cons,
        Nat.pow_succ', Nat.div_div_eq_div_mul]

/-- A fold from a leaf to a perfect tree has one sibling a layer: `pair` is
peeled off the root and off the fold together. -/
theorem climb_length {leaf : α → Prop} (hinj : Function.Injective2 pair)
    (hleaf : ∀ a b, ¬ leaf (pair a b)) {c : α} (hc : leaf c) (i : Nat) :
    ∀ (p : List α) (k : Nat), Perfect pair leaf k (climb pair c i p) →
      p.length = k := by
  intro p
  induction p using List.reverseRecOn with
  | nil =>
      intro k hk
      cases k with
      | zero => rfl
      | succ k =>
          obtain ⟨a, b, hab, -, -⟩ := hk
          simp only [climb] at hab
          exact absurd (hab ▸ hc) (hleaf a b)
  | append_singleton p sib ih =>
      intro k hk
      rw [climb_append_singleton] at hk
      cases k with
      | zero =>
          simp only [Perfect] at hk
          split at hk <;> exact absurd hk (hleaf _ _)
      | succ k =>
          obtain ⟨a, b, hab, ha, hb⟩ := hk
          rw [List.length_append, List.length_singleton]
          split at hab
          · obtain ⟨rfl, -⟩ := hinj hab
            rw [ih k ha]
          · obtain ⟨-, rfl⟩ := hinj hab
            rw [ih k hb]

/-- **Soundness of sibling paths.**  A fold from a leaf reaches the root of a
leaf list exactly when it is the tree's own path from the leaf the index
stands for. -/
theorem climb_eq_iff (leaf : α → Prop) (hinj : Function.Injective2 pair)
    (hleaf : ∀ a b, ¬ leaf (pair a b)) {xs : List α} (hne : xs ≠ [])
    (hxs : ∀ x ∈ xs, leaf x) {c : α} (hc : leaf c) (i : Nat) (p : List α)
    {r : α} (hroot : root? pair xs = some r) :
    climb pair c i p = r ↔
      xs[slot xs.length (Nat.clog 2 xs.length) i]? = some c ∧
        p = path pair (Nat.clog 2 xs.length) xs i := by
  obtain ⟨r', hr', htop⟩ := exists_root pair xs hne
  obtain rfl : r' = r := Option.some.inj (hr'.symm.trans hroot)
  constructor
  · intro hclimb
    have hperfect : Perfect pair leaf (0 + Nat.clog 2 xs.length) r' :=
      perfect_levels pair _ hxs r' (by rw [htop]; simp)
    rw [Nat.zero_add, ← hclimb] at hperfect
    have hlen := climb_length pair hinj hleaf hc i p _ hperfect
    exact climb_binds hinj htop hne hlen hclimb
  · rintro ⟨hleafAt, rfl⟩
    obtain ⟨leaf', hleaf', hclimb, -⟩ := climb_path pair htop hne i
    obtain rfl := Option.some.inj (hleaf'.symm.trans hleafAt)
    exact hclimb

/-! ## Symbolic nodes

The free choice of `pair`: joining is a constructor, so it is injective and
never equals a leaf.  It shows that the hypotheses above can be met and gives
concrete inputs something to compute with.
-/

/-- Leaves numbered by `Nat`, closed under joining. -/
inductive Symbolic where
  | leaf (n : Nat)
  | node (l r : Symbolic)
  deriving DecidableEq

theorem Symbolic.node_injective2 : Function.Injective2 Symbolic.node := by
  intro a b c d h
  exact ⟨Symbolic.node.inj h |>.1, Symbolic.node.inj h |>.2⟩

end RenderEngine.Verified.PairTree
