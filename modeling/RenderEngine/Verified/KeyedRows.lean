import Mathlib.Data.List.Nodup
import Mathlib.Data.List.Sort

/-!
# Tables with a unique key

A table is the list of its rows, `key` its primary key.  `insertAll` inserts
rows one after another and skips those whose key is taken, whether by a row
that was there or by an earlier row of the same batch; it never changes or
removes a row.

## Main results

* `findKey_eq_some_iff`: a key is found exactly where it stands.
* `insertAll_nodup`: the key stays unique.
* `insertAll_of_fresh`, `insertAll_of_present`: the two batches that are
  inserted whole and not at all.
* `insertAll_eq_iff`: no other batch leaves the selected rows as they are.
* `length_filter_insertAll_iff`: into a selection that was empty a whole batch
  arrives exactly when its keys are distinct.
-/

namespace RenderEngine.Verified.KeyedRows

variable {R K : Type} [DecidableEq K] (key : R → K)

/-- No two rows share a key. -/
def KeysNodup (rows : List R) : Prop := (rows.map key).Nodup

/-- Insert a row unless its key is taken. -/
def insertNew (rows : List R) (r : R) : List R :=
  if key r ∈ rows.map key then rows else rows ++ [r]

/-- Insert a batch row by row. -/
def insertAll (rows batch : List R) : List R := batch.foldl (insertNew key) rows

/-- The row with a key. -/
def findKey (k : K) (rows : List R) : Option R :=
  rows.find? (fun r => key r = k)

/-- The rows a query selects, in the order of its `ORDER BY` column. -/
def scan (p : R → Bool) (col : R → Int) (rows : List R) : List R :=
  (rows.filter p).insertionSort (fun a b => col a ≤ col b)

/-! ## Looking up a key -/

theorem findKey_eq_some_iff {key : R → K} {rows : List R}
    (hnodup : KeysNodup key rows) (k : K) (r : R) :
    findKey key k rows = some r ↔ r ∈ rows ∧ key r = k := by
  constructor
  · intro h
    exact ⟨List.mem_of_find?_eq_some h, by simpa using List.find?_some h⟩
  · rintro ⟨hmem, hkey⟩
    unfold findKey
    cases hfind : rows.find? (fun r => key r = k) with
    | none =>
        have hnone := List.find?_eq_none.mp hfind r hmem
        exact absurd hkey (by simpa using hnone)
    | some r' =>
        have hkey' : key r' = k := by simpa using List.find?_some hfind
        have hmem' := List.mem_of_find?_eq_some hfind
        exact congrArg some (List.inj_on_of_nodup_map hnodup hmem' hmem
          (hkey'.trans hkey.symm))

theorem findKey_eq_none_iff {key : R → K} (k : K) (rows : List R) :
    findKey key k rows = none ↔ k ∉ rows.map key := by
  rw [findKey, List.find?_eq_none]
  simp only [decide_eq_true_eq, List.mem_map, not_exists, not_and]

/-! ## Inserting -/

theorem insertAll_cons (rows : List R) (r : R) (batch : List R) :
    insertAll key rows (r :: batch) =
      insertAll key (insertNew key rows r) batch := rfl

theorem insertAll_append (rows batch more : List R) :
    insertAll key rows (batch ++ more) =
      insertAll key (insertAll key rows batch) more := List.foldl_append ..

theorem insertNew_nodup {rows : List R} (h : KeysNodup key rows) (r : R) :
    KeysNodup key (insertNew key rows r) := by
  unfold insertNew
  split
  · exact h
  · next hfresh =>
      rw [KeysNodup, List.map_append]
      refine List.Nodup.append h (List.nodup_singleton _) ?_
      intro k hk hk'
      rw [List.map_singleton, List.mem_singleton] at hk'
      exact hfresh (hk' ▸ hk)

theorem insertAll_nodup {rows : List R} (h : KeysNodup key rows)
    (batch : List R) : KeysNodup key (insertAll key rows batch) := by
  induction batch generalizing rows with
  | nil => exact h
  | cons r batch ih => exact ih (insertNew_nodup key h r)

/-- A batch only adds rows, and only its own. -/
theorem exists_added (rows batch : List R) :
    ∃ added, insertAll key rows batch = rows ++ added ∧
      added.Sublist batch := by
  induction batch generalizing rows with
  | nil => exact ⟨[], (List.append_nil rows).symm, List.Sublist.refl _⟩
  | cons r batch ih =>
      rw [insertAll_cons, insertNew]
      split
      · have h := ih rows
        rcases h with ⟨added, heq, hsub⟩
        exact ⟨added, heq, hsub.cons r⟩
      · have h := ih (rows ++ [r])
        rcases h with ⟨added, heq, hsub⟩
        exact ⟨r :: added, by rw [heq]; simp, hsub.cons_cons r⟩

theorem prefix_insertAll (rows batch : List R) :
    rows <+: insertAll key rows batch := by
  have h := exists_added key rows batch
  rcases h with ⟨added, heq, -⟩
  exact ⟨added, heq.symm⟩

theorem mem_of_mem_insertAll {rows batch : List R} {r : R}
    (h : r ∈ insertAll key rows batch) : r ∈ rows ∨ r ∈ batch := by
  have hadd := exists_added key rows batch
  rcases hadd with ⟨added, heq, hsub⟩
  rw [heq, List.mem_append] at h
  exact h.imp id (fun hr => hsub.subset hr)

/-- Afterwards every key of the batch is taken. -/
theorem key_mem_insertAll (rows : List R) {batch : List R} {r : R}
    (h : r ∈ batch) : key r ∈ (insertAll key rows batch).map key := by
  induction batch generalizing rows with
  | nil => cases h
  | cons r' batch ih =>
      rw [insertAll_cons]
      rcases List.mem_cons.mp h with rfl | h
      · have hnew : key r ∈ (insertNew key rows r).map key := by
          unfold insertNew
          split
          · assumption
          · simp
        exact ((prefix_insertAll key _ batch).map key).subset hnew
      · exact ih (insertNew key rows r') h

/-- A batch whose keys are all taken changes nothing. -/
theorem insertAll_of_present {rows batch : List R}
    (h : ∀ r ∈ batch, key r ∈ rows.map key) : insertAll key rows batch = rows := by
  induction batch with
  | nil => rfl
  | cons r batch ih =>
      rw [insertAll_cons, insertNew, if_pos (h r List.mem_cons_self)]
      exact ih (fun r' hr' => h r' (List.mem_cons_of_mem r hr'))

/-- A batch of distinct keys, none of them taken, is inserted whole. -/
theorem insertAll_of_fresh {rows batch : List R} (hnodup : KeysNodup key batch)
    (hfresh : ∀ r ∈ batch, key r ∉ rows.map key) :
    insertAll key rows batch = rows ++ batch := by
  induction batch generalizing rows with
  | nil => exact (List.append_nil rows).symm
  | cons r batch ih =>
      have hhead : key r ∉ batch.map key := (List.nodup_cons.mp hnodup).1
      have htail : KeysNodup key batch := (List.nodup_cons.mp hnodup).2
      rw [insertAll_cons, insertNew, if_neg (hfresh r List.mem_cons_self)]
      rw [ih htail]
      · simp
      · intro r' hr' hmem
        rw [List.map_append, List.mem_append, List.map_singleton,
          List.mem_singleton] at hmem
        rcases hmem with hmem | hmem
        · exact hfresh r' (List.mem_cons_of_mem r hr') hmem
        · exact hhead (hmem ▸ List.mem_map_of_mem hr')

/-- A batch whose keys are all free meets only itself. -/
theorem insertAll_of_disjoint {rows batch : List R}
    (hfree : ∀ r ∈ batch, key r ∉ rows.map key) :
    insertAll key rows batch = rows ++ insertAll key [] batch := by
  have hstep : ∀ acc : List R,
      insertAll key (rows ++ acc) batch = rows ++ insertAll key acc batch := by
    induction batch with
    | nil => exact fun _ => rfl
    | cons r batch ih =>
        intro acc
        have hr : key r ∉ rows.map key := hfree r List.mem_cons_self
        have hrest := ih (fun r' hr' => hfree r' (List.mem_cons_of_mem r hr'))
        have hnew : insertNew key (rows ++ acc) r =
            rows ++ insertNew key acc r := by
          have hmem : key r ∈ (rows ++ acc).map key ↔ key r ∈ acc.map key := by
            rw [List.map_append, List.mem_append, or_iff_right hr]
          by_cases hacc : key r ∈ acc.map key
          · rw [insertNew, insertNew, if_pos (hmem.mpr hacc), if_pos hacc]
          · rw [insertNew, insertNew, if_neg (mt hmem.mp hacc), if_neg hacc,
              List.append_assoc]
        rw [insertAll_cons, hnew, hrest]
        rfl
  have h := hstep []
  rwa [List.append_nil] at h

/-- Columns outside the key do not matter to which rows are inserted. -/
theorem map_insertAll {f : R → R} (hf : ∀ r, key (f r) = key r)
    (rows batch : List R) :
    (insertAll key rows batch).map f =
      insertAll key (rows.map f) (batch.map f) := by
  have hkeys : ∀ rows : List R, (rows.map f).map key = rows.map key := by
    intro rows
    rw [List.map_map]
    exact List.map_congr_left (fun r _ => hf r)
  induction batch generalizing rows with
  | nil => rfl
  | cons r batch ih =>
      rw [insertAll_cons, ih, List.map_cons, insertAll_cons]
      congr 1
      rw [insertNew, insertNew, hkeys, hf]
      split
      · rfl
      · rw [List.map_append]
        rfl

/-! ## A selection and a batch inside it -/

section Selection

variable {key}
variable {p : R → Bool}

/-- Rows outside the batch's selection are left alone. -/
theorem filter_insertAll_of_disjoint (rows : List R) {batch : List R}
    (h : ∀ r ∈ batch, p r = false) :
    (insertAll key rows batch).filter p = rows.filter p := by
  have hadd := exists_added key rows batch
  rcases hadd with ⟨added, heq, hsub⟩
  have hnone : added.filter p = [] := by
    rw [List.filter_eq_nil_iff]
    intro r hr
    simp [h r (hsub.subset hr)]
  rw [heq, List.filter_append, hnone, List.append_nil]

/-- **The selected rows keep their number exactly when every key of the batch
was taken.** -/
theorem insertAll_eq_iff (hp : ∀ a b, key a = key b → p a = p b)
    (rows : List R) {batch : List R} (hbatch : ∀ r ∈ batch, p r = true) :
    ((insertAll key rows batch).filter p).length = (rows.filter p).length ↔
      ∀ r ∈ batch, key r ∈ rows.map key := by
  constructor
  · intro hlen r hr
    have hpre := (prefix_insertAll key rows batch).filter p
    have heq := hpre.eq_of_length hlen.symm
    have hkey := key_mem_insertAll key rows hr
    rcases List.mem_map.mp hkey with ⟨r', hr', hkr⟩
    have hsel : r' ∈ (insertAll key rows batch).filter p :=
      List.mem_filter.mpr ⟨hr', (hp r' r hkr).trans (hbatch r hr)⟩
    rw [← heq] at hsel
    exact hkr ▸ List.mem_map_of_mem (List.mem_filter.mp hsel).1
  · intro h
    rw [insertAll_of_present key h]

/-- A batch of distinct keys arrives whole in an empty selection. -/
theorem filter_insertAll_of_fresh (hp : ∀ a b, key a = key b → p a = p b)
    {rows batch : List R} (hnodup : KeysNodup key batch)
    (hbatch : ∀ r ∈ batch, p r = true) (hempty : rows.filter p = []) :
    (insertAll key rows batch).filter p = batch := by
  have hfresh : ∀ r ∈ batch, key r ∉ rows.map key := by
    intro r hr hmem
    rcases List.mem_map.mp hmem with ⟨r', hr', hkr⟩
    have hsel : p r' = true := (hp r' r hkr).trans (hbatch r hr)
    exact List.filter_eq_nil_iff.mp hempty r' hr' hsel
  rw [insertAll_of_fresh key hnodup hfresh, List.filter_append, hempty,
    List.nil_append]
  exact List.filter_eq_self.mpr hbatch

/-- **A batch arrives whole in an empty selection exactly when its keys are
distinct.** -/
theorem length_filter_insertAll_iff (hp : ∀ a b, key a = key b → p a = p b)
    {rows batch : List R} (hnodup : KeysNodup key rows)
    (hbatch : ∀ r ∈ batch, p r = true) (hempty : rows.filter p = []) :
    ((insertAll key rows batch).filter p).length = batch.length ↔
      KeysNodup key batch := by
  constructor
  · intro hlen
    have hadd := exists_added key rows batch
    rcases hadd with ⟨added, heq, hsub⟩
    have hall : added.filter p = added :=
      List.filter_eq_self.mpr (fun r hr => hbatch r (hsub.subset hr))
    rw [heq, List.filter_append, hempty, hall, List.nil_append] at hlen
    have hn := insertAll_nodup key hnodup batch
    rw [heq, hsub.eq_of_length hlen, KeysNodup, List.map_append] at hn
    exact (List.nodup_append.mp hn).2.1
  · intro hn
    rw [filter_insertAll_of_fresh hp hn hbatch hempty]

end Selection

end RenderEngine.Verified.KeyedRows
