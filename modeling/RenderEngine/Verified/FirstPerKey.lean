import Mathlib.Data.List.Destutter
import Mathlib.Data.List.Sort

/-!
# The first element of each key

A stable sort by a key followed by the removal of neighbours with one key keeps
of every key the element that came first.  The sort alone only brings elements
of one key together; that it leaves their order alone is what the choice
among them rests on.

## Main results

* `filter_sortByKey`: the elements of a key stay in their order.
* `firstPerKey_strict`: the keys of the result are strictly increasing.
* `filter_firstPerKey`: of each key the result has the first element.
* `firstPerKey_unique`: no other list has these two properties.
-/

namespace RenderEngine.Verified.FirstPerKey

universe u v

variable {α : Type u} {K : Type v} [LinearOrder K] (key : α → K)

/-- The stable sort by a key. -/
def sortByKey (l : List α) : List α :=
  l.insertionSort fun a b => key a ≤ key b

/-- Of neighbours with one key the first. -/
def dedupByKey (l : List α) : List α :=
  l.destutter fun a b => key a ≠ key b

def firstPerKey (l : List α) : List α := dedupByKey key (sortByKey key l)

/-! ## Sorting -/

theorem sortByKey_sorted (l : List α) :
    (sortByKey key l).Pairwise fun a b => key a ≤ key b := by
  have htotal : Std.Total fun a b : α => key a ≤ key b :=
    ⟨fun a b => le_total (key a) (key b)⟩
  have htrans : IsTrans α fun a b => key a ≤ key b :=
    ⟨fun _ _ _ => le_trans⟩
  exact List.pairwise_insertionSort _ l

/-- **The elements of a key keep their order.** -/
theorem filter_sortByKey (l : List α) (k : K) :
    (sortByKey key l).filter (fun a => key a = k) =
      l.filter fun a => key a = k := by
  have htie : (l.filter fun a => key a = k).Pairwise
      fun a b => key a ≤ key b := by
    rw [List.pairwise_filter]
    refine List.pairwise_of_forall fun a b ha hb => ?_
    rw [of_decide_eq_true ha, of_decide_eq_true hb]
  have hsub := (List.sublist_insertionSort htie List.filter_sublist).filter
    fun a => decide (key a = k)
  simp only [List.filter_filter, Bool.and_self] at hsub
  have hlen := ((List.perm_insertionSort (fun a b => key a ≤ key b) l).filter
    fun a => decide (key a = k)).length_eq
  exact (hsub.eq_of_length hlen.symm).symm

/-! ## Removing neighbours -/

theorem dedupByKey_strict {l : List α}
    (h : l.Pairwise fun a b => key a ≤ key b) :
    (dedupByKey key l).Pairwise fun a b => key a < key b := by
  have htrans : Trans (fun a b : α => key a < key b) (fun a b => key a < key b)
      (fun a b => key a < key b) := ⟨lt_trans⟩
  have hle := (h.sublist
    (List.destutter_sublist (fun a b => key a ≠ key b) l)).isChain
  have hne := List.isChain_destutter (fun a b => key a ≠ key b) l
  have hlt : (dedupByKey key l).IsChain fun a b => key a < key b := by
    rw [List.isChain_iff_getElem] at hle hne ⊢
    exact fun i hi => lt_of_le_of_ne (hle i hi) (hne i hi)
  exact hlt.pairwise

/-- Nothing of a key comes behind greater keys. -/
theorem find?_of_lt {a : α} {l : List α} (h : ∀ b ∈ l, key a < key b) :
    l.find? (fun b => key b = key a) = none := by
  rw [List.find?_eq_none]
  intro b hb heq
  exact (h b hb).ne (of_decide_eq_true heq).symm

theorem filter_destutter' {a : α} {l : List α}
    (h : (a :: l).Pairwise fun a b => key a ≤ key b) (k : K) :
    (l.destutter' (fun a b => key a ≠ key b) a).filter (fun x => key x = k) =
      ((a :: l).find? fun x => key x = k).toList := by
  induction l generalizing a with
  | nil =>
      by_cases hk : key a = k
      · simp [hk]
      · simp [hk]
  | cons b l ih =>
      obtain ⟨ha, hbl⟩ := List.pairwise_cons.mp h
      by_cases hab : key a = key b
      · have hal : (a :: l).Pairwise fun a b => key a ≤ key b :=
          h.sublist ((List.sublist_cons_self b l).cons_cons a)
        rw [List.destutter'_cons_neg _ (not_not.mpr hab), ih hal]
        by_cases hk : key a = k
        · simp only [List.find?_cons, hk, decide_true]
        · have hk' : ¬ key b = k := hab ▸ hk
          simp only [List.find?_cons, hk, hk', decide_false]
      · rw [List.destutter'_cons_pos _ hab, List.filter_cons, ih hbl]
        by_cases hk : key a = k
        · subst hk
          have hlt : ∀ c ∈ b :: l, key a < key c := by
            intro c hc
            have hb : key a < key b :=
              lt_of_le_of_ne (ha b List.mem_cons_self) hab
            rcases List.mem_cons.mp hc with rfl | hc
            · exact hb
            · exact hb.trans_le ((List.pairwise_cons.mp hbl).1 c hc)
          rw [find?_of_lt key hlt, List.find?_cons_of_pos (by simp),
            if_pos (by simp)]
          rfl
        · have hskip : (a :: b :: l).find? (fun x => key x = k) =
              (b :: l).find? fun x => key x = k :=
            List.find?_cons_of_neg (by simpa using hk)
          rw [hskip, if_neg (by simpa using hk)]

theorem filter_dedupByKey {l : List α}
    (h : l.Pairwise fun a b => key a ≤ key b) (k : K) :
    (dedupByKey key l).filter (fun x => key x = k) =
      (l.find? fun x => key x = k).toList := by
  cases l with
  | nil => rfl
  | cons a l => exact filter_destutter' key h k

/-! ## The first of each key -/

/-- **The keys are strictly increasing.** -/
theorem firstPerKey_strict (l : List α) :
    (firstPerKey key l).Pairwise fun a b => key a < key b :=
  dedupByKey_strict key (sortByKey_sorted key l)

/-- **Of each key there is the first element and no other.** -/
theorem filter_firstPerKey (l : List α) (k : K) :
    (firstPerKey key l).filter (fun x => key x = k) =
      (l.find? fun x => key x = k).toList := by
  rw [firstPerKey, filter_dedupByKey key (sortByKey_sorted key l),
    ← List.head?_filter, filter_sortByKey, List.head?_filter]

theorem mem_firstPerKey_iff (l : List α) (a : α) :
    a ∈ firstPerKey key l ↔ l.find? (fun x => key x = key a) = some a := by
  rw [← Option.mem_toList, ← filter_firstPerKey, List.mem_filter]
  simp

/-- **The two properties leave one list.** -/
theorem firstPerKey_unique {l result : List α}
    (hstrict : result.Pairwise fun a b => key a < key b)
    (hfirst : ∀ a, a ∈ result ↔ l.find? (fun x => key x = key a) = some a) :
    result = firstPerKey key l := by
  have hnodup : ∀ {l : List α}, (l.Pairwise fun a b => key a < key b) →
      l.Nodup := fun h => h.imp fun hab heq => (heq ▸ hab).ne rfl
  have hperm : result.Perm (firstPerKey key l) := by
    rw [List.perm_ext_iff_of_nodup (hnodup hstrict)
      (hnodup (firstPerKey_strict key l))]
    intro a
    rw [hfirst, mem_firstPerKey_iff]
  refine List.Perm.eq_of_pairwise ?_ hstrict (firstPerKey_strict key l) hperm
  exact fun a b _ _ hab hba => absurd hab hba.asymm

end RenderEngine.Verified.FirstPerKey
