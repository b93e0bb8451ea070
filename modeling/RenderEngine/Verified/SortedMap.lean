import Mathlib.Data.List.Induction
import Mathlib.Data.List.Sort

/-!
# Ordered maps as strictly sorted member lists

A map over linearly ordered keys is its list of members in strictly
increasing key order, which is how a B-tree map iterates.  `collect` builds
one by inserting members in the order they come, a later member replacing an
earlier one with its key.

## Main results

* `collect_sorted`: whatever is collected, the result is strictly sorted.
* `collect_of_sorted`: collecting the members of a map in key order changes
  nothing.
* `sortByKey_of_sorted`: neither does sorting them.
* `sortByKey_eq_iff_perm`: for distinct keys the sorted list is the members up
  to order.
-/

namespace RenderEngine.Verified.SortedMap

variable {K V : Type} [LinearOrder K]

/-- Strictly increasing keys. -/
def KeysSorted (ms : List (K × V)) : Prop :=
  ms.Pairwise (fun a b => a.1 < b.1)

instance (ms : List (K × V)) : Decidable (KeysSorted ms) :=
  inferInstanceAs (Decidable (ms.Pairwise _))

/-- Insert a member, replacing the value of its key. -/
def insertKey (k : K) (v : V) : List (K × V) → List (K × V)
  | [] => [(k, v)]
  | (k', v') :: ms =>
      if k < k' then (k, v) :: (k', v') :: ms
      else if k = k' then (k, v) :: ms
      else (k', v') :: insertKey k v ms

/-- Insert members from left to right into an empty map. -/
def collect (ms : List (K × V)) : List (K × V) :=
  ms.foldl (fun acc m => insertKey m.1 m.2 acc) []

/-- Members in key order, those of equal keys as they came. -/
def sortByKey (ms : List (K × V)) : List (K × V) :=
  ms.insertionSort (fun a b => a.1 ≤ b.1)

theorem mem_insertKey {k : K} {v : V} {m : K × V} {ms : List (K × V)}
    (h : m ∈ insertKey k v ms) : m = (k, v) ∨ m ∈ ms := by
  induction ms with
  | nil => simpa [insertKey] using h
  | cons m' ms ih =>
      rw [insertKey] at h
      split_ifs at h with hlt heq
      · simpa using h
      · rcases List.mem_cons.mp h with hm | hm
        · exact Or.inl hm
        · exact Or.inr (List.mem_cons_of_mem _ hm)
      · rcases List.mem_cons.mp h with hm | hm
        · exact Or.inr (hm ▸ List.mem_cons_self)
        · exact (ih hm).imp id (List.mem_cons_of_mem _)

theorem insertKey_sorted (k : K) (v : V) {ms : List (K × V)}
    (h : KeysSorted ms) : KeysSorted (insertKey k v ms) := by
  induction ms with
  | nil => exact List.pairwise_singleton _ _
  | cons m' ms ih =>
      have hhead : ∀ m ∈ ms, m'.1 < m.1 := (List.pairwise_cons.mp h).1
      have htail : KeysSorted ms := (List.pairwise_cons.mp h).2
      rw [insertKey]
      split_ifs with hlt heq
      · refine List.pairwise_cons.mpr ⟨fun m hm => ?_, h⟩
        rcases List.mem_cons.mp hm with rfl | hm
        · exact hlt
        · exact lt_trans hlt (hhead m hm)
      · exact List.pairwise_cons.mpr
          ⟨fun m hm => heq ▸ hhead m hm, htail⟩
      · refine List.pairwise_cons.mpr ⟨fun m hm => ?_, ih htail⟩
        rcases mem_insertKey hm with rfl | hm
        · exact lt_of_le_of_ne (not_lt.mp hlt) (Ne.symm heq)
        · exact hhead m hm

/-- A key above every other goes to the end. -/
theorem insertKey_above (k : K) (v : V) {ms : List (K × V)}
    (h : ∀ m ∈ ms, m.1 < k) : insertKey k v ms = ms ++ [(k, v)] := by
  induction ms with
  | nil => rfl
  | cons m' ms ih =>
      have hlt : m'.1 < k := h m' List.mem_cons_self
      rw [insertKey, if_neg (not_lt.mpr hlt.le), if_neg hlt.ne',
        ih (fun m hm => h m (List.mem_cons_of_mem _ hm))]
      rfl

private theorem collect_concat (ms : List (K × V)) (m : K × V) :
    collect (ms ++ [m]) = insertKey m.1 m.2 (collect ms) := by
  simp [collect, List.foldl_append]

theorem collect_sorted (ms : List (K × V)) : KeysSorted (collect ms) := by
  induction ms using List.reverseRecOn with
  | nil => exact List.Pairwise.nil
  | append_singleton ms m ih =>
      rw [collect_concat]
      exact insertKey_sorted m.1 m.2 ih

/-- Every collected member was among those given. -/
theorem mem_of_mem_collect {ms : List (K × V)} {m : K × V}
    (h : m ∈ collect ms) : m ∈ ms := by
  induction ms using List.reverseRecOn with
  | nil => exact h
  | append_singleton ms m' ih =>
      rw [collect_concat] at h
      rcases mem_insertKey h with hm | hm
      · exact List.mem_append_right ms (List.mem_singleton.mpr hm)
      · exact List.mem_append_left _ (ih hm)

section Lookup

variable [BEq K] [LawfulBEq K]

omit [LinearOrder K] [LawfulBEq K] in
private theorem lookup_cons_eq (k : K) (m : K × V) (ms : List (K × V)) :
    (m :: ms).lookup k = if k == m.1 then some m.2 else ms.lookup k := by
  rw [List.lookup_cons]
  cases k == m.1 <;> rfl

/-- An inserted member is found under its key, all others are as before. -/
theorem lookup_insertKey (k : K) (v : V) (ms : List (K × V)) (k' : K) :
    (insertKey k v ms).lookup k' =
      if k' == k then some v else ms.lookup k' := by
  induction ms with
  | nil => exact lookup_cons_eq k' (k, v) []
  | cons m ms ih =>
      rw [insertKey]
      by_cases hlt : k < m.1
      · rw [if_pos hlt, lookup_cons_eq]
      · rw [if_neg hlt]
        by_cases heq : k = m.1
        · rw [if_pos heq, lookup_cons_eq, lookup_cons_eq k' m, ← heq]
          by_cases hk : (k' == k) = true
          · rw [if_pos hk, if_pos hk]
          · rw [if_neg hk, if_neg hk, if_neg hk]
        · rw [if_neg heq, lookup_cons_eq, lookup_cons_eq k' m, ih]
          by_cases hm : (k' == m.1) = true
          · have hk : ¬ (k' == k) = true := by
              rw [eq_of_beq hm, beq_iff_eq]
              exact Ne.symm heq
            rw [if_pos hm, if_pos hm, if_neg hk]
          · rw [if_neg hm, if_neg hm]

/-- Of the members with one key the last is found. -/
theorem lookup_collect (ms : List (K × V)) (k : K) :
    (collect ms).lookup k = ms.reverse.lookup k := by
  induction ms using List.reverseRecOn with
  | nil => rfl
  | append_singleton ms m ih =>
      rw [collect_concat, lookup_insertKey, ih, List.reverse_concat,
        lookup_cons_eq]

end Lookup

/-- **Collecting members that are already in key order changes nothing.** -/
theorem collect_of_sorted {ms : List (K × V)} (h : KeysSorted ms) :
    collect ms = ms := by
  induction ms using List.reverseRecOn with
  | nil => rfl
  | append_singleton ms m ih =>
      have hsplit := List.pairwise_append.mp h
      rw [collect_concat, ih hsplit.1]
      exact insertKey_above m.1 m.2
        (fun m' hm' => hsplit.2.2 m' hm' m List.mem_cons_self)

theorem sortByKey_of_sorted {ms : List (K × V)} (h : KeysSorted ms) :
    sortByKey ms = ms :=
  (h.imp (fun hab => le_of_lt hab)).insertionSort_eq

/-! ## Sorting members of distinct keys -/

theorem sortByKey_perm (ms : List (K × V)) : (sortByKey ms).Perm ms :=
  List.perm_insertionSort _ ms

/-- Sorting looks at keys only. -/
theorem sortByKey_map {W : Type} (f : V → W) (ms : List (K × V)) :
    sortByKey (ms.map fun m => (m.1, f m.2)) =
      (sortByKey ms).map fun m => (m.1, f m.2) :=
  (List.map_insertionSort (fun a b : K × V => a.1 ≤ b.1)
    (fun a b : K × W => a.1 ≤ b.1) (fun m => (m.1, f m.2)) ms
    (fun _ _ _ _ => Iff.rfl)).symm

theorem sortByKey_sorted {ms : List (K × V)}
    (h : (ms.map Prod.fst).Nodup) : KeysSorted (sortByKey ms) := by
  have htotal : Std.Total (fun a b : K × V => a.1 ≤ b.1) :=
    ⟨fun a b => le_total a.1 b.1⟩
  have htrans : IsTrans (K × V) (fun a b => a.1 ≤ b.1) :=
    ⟨fun a b c => le_trans⟩
  have hle := List.pairwise_insertionSort (fun a b : K × V => a.1 ≤ b.1) ms
  have hne : (sortByKey ms).Pairwise (fun a b => a.1 ≠ b.1) :=
    List.pairwise_map.mp (((sortByKey_perm ms).map Prod.fst).nodup_iff.mpr h)
  exact (hle.and hne).imp fun hab => lt_of_le_of_ne hab.1 hab.2

/-- **Members of distinct keys sort to the same list exactly when they are the
same up to order.** -/
theorem sortByKey_eq_iff_perm {ms ns : List (K × V)}
    (h : (ms.map Prod.fst).Nodup) :
    sortByKey ms = sortByKey ns ↔ ms.Perm ns := by
  constructor
  · intro heq
    exact (sortByKey_perm ms).symm.trans (heq ▸ sortByKey_perm ns)
  · intro hperm
    have hns : (ns.map Prod.fst).Nodup := (hperm.map _).nodup_iff.mp h
    apply List.Perm.eq_of_pairwise _ (sortByKey_sorted h) (sortByKey_sorted hns)
      ((sortByKey_perm ms).trans (hperm.trans (sortByKey_perm ns).symm))
    intro a b _ _ hab hba
    exact absurd hba (lt_asymm hab)

end RenderEngine.Verified.SortedMap
