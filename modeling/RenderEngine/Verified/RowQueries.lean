import RenderEngine.Verified.KeyedRows

/-!
# Queries over tables

What a query returns depends on the rows its `WHERE` clause can select and on
no other; two queries that pick the newest row of a group pick the same one,
whether by `ORDER BY .. DESC LIMIT 1` or by `DISTINCT ON`.

## Main results

* `filter_congr`, `scan_congr`: tables that agree on a selection answer every
  query inside it alike.
* `head?_scan_eq_some_iff`: `ORDER BY col DESC LIMIT 1` is the newest row.
* `mem_distinctOn_sort_iff`: `DISTINCT ON (key) .. ORDER BY key, col DESC` has
  the newest row of every key.
* `scan_eq_of_perm`, `scan_perm`: what an `ORDER BY` fixes of the order of the
  rows, and what it leaves open.
-/

namespace RenderEngine.Verified.RowQueries

open RenderEngine.Verified.KeyedRows

variable {R : Type}

/-! ## Queries inside a selection -/

theorem filter_inside {p q : R → Bool} (hpq : ∀ r, p r = true → q r = true)
    (rows : List R) : rows.filter p = (rows.filter q).filter p := by
  rw [List.filter_filter]
  apply List.filter_congr
  intro r _
  by_cases hp : p r = true
  · rw [hp, hpq r hp]
    rfl
  · rw [Bool.not_eq_true] at hp
    rw [hp]
    rfl

theorem filter_congr {p q : R → Bool} (hpq : ∀ r, p r = true → q r = true)
    {rows rows' : List R} (h : rows.filter q = rows'.filter q) :
    rows.filter p = rows'.filter p := by
  rw [filter_inside hpq rows, filter_inside hpq rows', h]

theorem scan_congr {p q : R → Bool} (hpq : ∀ r, p r = true → q r = true)
    (col : R → Int) {rows rows' : List R}
    (h : rows.filter q = rows'.filter q) :
    scan p col rows = scan p col rows' := by
  rw [scan, scan, filter_congr hpq h]

/-! ## Rows in another order -/

section Perm

theorem sort_eq_of_perm {le : R → R → Prop} [DecidableRel le] [Std.Total le]
    [IsTrans R le] {xs ys : List R} (h : xs.Perm ys)
    (hanti : ∀ a ∈ xs, ∀ b ∈ xs, le a b → le b a → a = b) :
    xs.insertionSort le = ys.insertionSort le := by
  have hsame : (xs.insertionSort le).Perm (ys.insertionSort le) :=
    (List.perm_insertionSort le xs).trans
      (h.trans (List.perm_insertionSort le ys).symm)
  refine hsame.eq_of_pairwise ?_ (List.pairwise_insertionSort le xs)
    (List.pairwise_insertionSort le ys)
  intro a b ha hb
  exact hanti a ((List.mem_insertionSort le).mp ha) b
    (h.mem_iff.mpr ((List.mem_insertionSort le).mp hb))

variable {p q : R → Bool} {rows rows' : List R}

theorem filter_perm (hpq : ∀ r, p r = true → q r = true)
    (h : (rows.filter q).Perm (rows'.filter q)) :
    (rows.filter p).Perm (rows'.filter p) := by
  rw [filter_inside hpq rows, filter_inside hpq rows']
  exact h.filter p

theorem mem_iff_of_perm (h : (rows.filter q).Perm (rows'.filter q)) {r : R}
    (hq : q r = true) : r ∈ rows ↔ r ∈ rows' := by
  have hmem := h.mem_iff (a := r)
  simpa only [List.mem_filter, hq, and_true] using hmem

theorem findKey_eq_of_perm {K : Type} [DecidableEq K] {key : R → K} {k : K}
    (hq : ∀ r, key r = k → q r = true)
    (h : (rows.filter q).Perm (rows'.filter q)) (hkeys : KeysNodup key rows)
    (hkeys' : KeysNodup key rows') :
    findKey key k rows = findKey key k rows' := by
  apply Option.ext
  intro r
  rw [findKey_eq_some_iff hkeys, findKey_eq_some_iff hkeys']
  exact and_congr_left fun hkey => mem_iff_of_perm h (hq r hkey)

/-- The order of a column that tells the rows apart. -/
theorem scan_eq_of_perm (hpq : ∀ r, p r = true → q r = true) {col : R → Int}
    (h : (rows.filter q).Perm (rows'.filter q))
    (hcol : ∀ a ∈ rows, ∀ b ∈ rows, p a = true → p b = true →
      col a = col b → a = b) : scan p col rows = scan p col rows' := by
  have htotal : Std.Total (fun a b : R => col a ≤ col b) :=
    ⟨fun a b => le_total (col a) (col b)⟩
  have htrans : IsTrans R (fun a b => col a ≤ col b) :=
    ⟨fun a b c => le_trans⟩
  refine sort_eq_of_perm (filter_perm hpq h) ?_
  intro a ha b hb hab hba
  rw [List.mem_filter] at ha hb
  exact hcol a ha.1 b hb.1 ha.2 hb.2 (le_antisymm hab hba)

/-- Rows that agree in the column come in any order. -/
theorem scan_perm (hpq : ∀ r, p r = true → q r = true) (col : R → Int)
    (h : (rows.filter q).Perm (rows'.filter q)) :
    (scan p col rows).Perm (scan p col rows') ∧
      (scan p col rows).map col = (scan p col rows').map col := by
  have htotal : Std.Total (fun a b : R => col a ≤ col b) :=
    ⟨fun a b => le_total (col a) (col b)⟩
  have htrans : IsTrans R (fun a b => col a ≤ col b) :=
    ⟨fun a b c => le_trans⟩
  have hsorted : ∀ l : List R, ((scan p col l).map col).Pairwise (· ≤ ·) :=
    fun l => List.pairwise_map.mpr (List.pairwise_insertionSort _ _)
  have hperm : (scan p col rows).Perm (scan p col rows') :=
    (List.perm_insertionSort _ _).trans
      ((filter_perm hpq h).trans (List.perm_insertionSort _ _).symm)
  exact ⟨hperm, (hperm.map col).eq_of_pairwise' (hsorted rows)
    (hsorted rows')⟩

end Perm

/-! ## Newest rows -/

section Newest

variable (col : R → Int)

/-- Among the rows that satisfy `p` this one has the largest column. -/
structure IsNewest (p : R → Prop) (rows : List R) (r : R) : Prop where
  mem : r ∈ rows
  selected : p r
  newest : ∀ r' ∈ rows, p r' → col r' ≤ col r

variable {col}

/-- `ORDER BY col DESC LIMIT 1`. -/
theorem isNewest_of_head?_scan {p : R → Bool} {rows : List R} {r : R}
    (h : (scan p (fun r => -col r) rows).head? = some r) :
    IsNewest col (fun r => p r = true) rows r := by
  have htotal : Std.Total (fun a b : R => -col a ≤ -col b) :=
    ⟨fun a b => le_total (-col a) (-col b)⟩
  have htrans : IsTrans R (fun a b => -col a ≤ -col b) :=
    ⟨fun a b c => le_trans⟩
  have hsorted := List.pairwise_insertionSort
    (fun a b : R => -col a ≤ -col b) (rows.filter p)
  have hmem : ∀ r', r' ∈ scan p (fun r => -col r) rows ↔
      r' ∈ rows ∧ p r' = true := by
    intro r'
    rw [scan, List.mem_insertionSort, List.mem_filter]
  rcases List.head?_eq_some_iff.mp h with ⟨rest, hrest⟩
  have hr := (hmem r).mp (by rw [hrest]; exact List.mem_cons_self)
  refine ⟨hr.1, hr.2, ?_⟩
  intro r' hr' hp
  have hin := (hmem r').mpr ⟨hr', hp⟩
  rw [scan] at hrest
  rw [hrest] at hsorted
  rw [scan, hrest] at hin
  rcases List.mem_cons.mp hin with rfl | hin
  · exact le_refl _
  · have hle := List.rel_of_pairwise_cons hsorted hin
    omega

/-- The newest row of a selection whose column tells its rows apart. -/
theorem head?_scan_eq_some_iff {p : R → Bool} {rows : List R}
    (hcol : ∀ a ∈ rows, ∀ b ∈ rows, p a = true → p b = true →
      col a = col b → a = b) (r : R) :
    (scan p (fun r => -col r) rows).head? = some r ↔
      IsNewest col (fun r => p r = true) rows r := by
  constructor
  · exact isNewest_of_head?_scan
  · intro h
    cases hhead : (scan p (fun r => -col r) rows).head? with
    | none =>
        have hnil := List.head?_eq_none_iff.mp hhead
        have hin : r ∈ scan p (fun r => -col r) rows := by
          rw [scan, List.mem_insertionSort, List.mem_filter]
          exact ⟨h.mem, h.selected⟩
        rw [hnil] at hin
        cases hin
    | some r' =>
        have h' := isNewest_of_head?_scan hhead
        have hle := h.newest r' h'.mem h'.selected
        have hge := h'.newest r h.mem h.selected
        rw [hcol r' h'.mem r h.mem h'.selected h.selected (by omega)]

end Newest

/-! ## `DISTINCT ON` -/

section DistinctOn

variable (key : R → Int) (col : R → Int)

/-- Of the rows with one key the first. -/
def distinctOn : List R → List R
  | [] => []
  | r :: rows => r :: (distinctOn rows).filter (fun r' => key r' ≠ key r)

/-- `ORDER BY key, col DESC`. -/
def NewestFirst (a b : R) : Prop :=
  key a < key b ∨ key a = key b ∧ col b ≤ col a

instance : DecidableRel (NewestFirst key col) :=
  fun a b => inferInstanceAs
    (Decidable (key a < key b ∨ key a = key b ∧ col b ≤ col a))

theorem mem_distinctOn_iff (rows : List R) (r : R) :
    r ∈ distinctOn key rows ↔
      rows.find? (fun r' => key r' = key r) = some r := by
  induction rows with
  | nil => simp [distinctOn]
  | cons a rows ih =>
      rw [distinctOn, List.mem_cons, List.mem_filter, ih, List.find?_cons]
      by_cases hkey : key a = key r
      · simp only [hkey, decide_true, Option.some.injEq, ne_eq,
          not_true_eq_false, decide_false, Bool.false_eq_true, and_false,
          or_false]
        exact eq_comm
      · have hne : r ≠ a := fun h => hkey (h ▸ rfl)
        simp [hkey, hne, Ne.symm hkey]

theorem distinctOn_nodup (rows : List R) :
    ((distinctOn key rows).map key).Nodup := by
  induction rows with
  | nil => exact List.nodup_nil
  | cons a rows ih =>
      rw [distinctOn, List.map_cons, List.nodup_cons]
      refine ⟨?_, (List.filter_sublist.map key).nodup ih⟩
      intro hmem
      rcases List.mem_map.mp hmem with ⟨r, hr, hkey⟩
      have hne := (List.mem_filter.mp hr).2
      rw [decide_eq_true_eq] at hne
      exact hne hkey

variable {key col}

/-- In a list in this order the first row of a key is its newest. -/
theorem isNewest_of_find? {rows : List R} {k : Int} {r : R}
    (hsorted : rows.Pairwise (NewestFirst key col))
    (h : rows.find? (fun r' => key r' = k) = some r) :
    IsNewest col (fun r' => key r' = k) rows r := by
  rcases List.find?_eq_some_iff_append.mp h with ⟨hr, pre, post, rfl, hpre⟩
  rw [decide_eq_true_eq] at hr
  refine ⟨by simp, hr, ?_⟩
  intro r' hr' hkey
  rw [List.mem_append] at hr'
  rcases hr' with hr' | hr'
  · have hother := hpre r' hr'
    simp [hkey] at hother
  · rcases List.mem_cons.mp hr' with rfl | hr'
    · exact le_refl _
    · have hrel := List.rel_of_pairwise_cons
        (List.pairwise_append.mp hsorted).2.1 hr'
      unfold NewestFirst at hrel
      omega

/-- **`DISTINCT ON` has the newest row of every key.** -/
theorem mem_distinctOn_sort_iff {rows : List R}
    (hcol : ∀ a ∈ rows, ∀ b ∈ rows, key a = key b → col a = col b → a = b)
    (r : R) :
    r ∈ distinctOn key (rows.insertionSort (NewestFirst key col)) ↔
      IsNewest col (fun r' => key r' = key r) rows r := by
  have htotal : Std.Total (NewestFirst key col) := ⟨by
    intro a b
    unfold NewestFirst
    omega⟩
  have htrans : IsTrans R (NewestFirst key col) := ⟨by
    intro a b c hab hbc
    unfold NewestFirst at *
    omega⟩
  have hsorted := List.pairwise_insertionSort (NewestFirst key col) rows
  have hback : ∀ r', r' ∈ rows.insertionSort (NewestFirst key col) ↔ r' ∈ rows :=
    fun r' => List.mem_insertionSort _
  have hnewest : ∀ {r'}, (rows.insertionSort (NewestFirst key col)).find?
      (fun r' => key r' = key r) = some r' →
      IsNewest col (fun r' => key r' = key r) rows r' := by
    intro r' hfind
    have h := isNewest_of_find? hsorted hfind
    exact ⟨(hback r').mp h.mem, h.selected,
      fun a ha => h.newest a ((hback a).mpr ha)⟩
  rw [mem_distinctOn_iff]
  constructor
  · exact hnewest
  · intro h
    cases hfind : (rows.insertionSort (NewestFirst key col)).find?
        (fun r' => key r' = key r) with
    | none =>
        have hnone := List.find?_eq_none.mp hfind r ((hback r).mpr h.mem)
        simp at hnone
    | some r' =>
        have h' := hnewest hfind
        have hle := h.newest r' h'.mem h'.selected
        have hge := h'.newest r h.mem rfl
        rw [hcol r' h'.mem r h.mem h'.selected (by omega)]

theorem distinctOn_sort_eq_of_perm {xs ys : List R} (h : xs.Perm ys)
    (hcol : ∀ a ∈ xs, ∀ b ∈ xs, key a = key b → col a = col b → a = b) :
    distinctOn key (xs.insertionSort (NewestFirst key col)) =
      distinctOn key (ys.insertionSort (NewestFirst key col)) := by
  have htotal : Std.Total (NewestFirst key col) := ⟨by
    intro a b
    unfold NewestFirst
    omega⟩
  have htrans : IsTrans R (NewestFirst key col) := ⟨by
    intro a b c hab hbc
    unfold NewestFirst at *
    omega⟩
  rw [sort_eq_of_perm h]
  intro a ha b hb hab hba
  unfold NewestFirst at hab hba
  exact hcol a ha b hb (by omega) (by omega)

end DistinctOn

end RenderEngine.Verified.RowQueries
