import Mathlib.Data.List.Perm.Basic
import Mathlib.Data.Nat.Digits.Defs

/-!
# `SELECT` statements with bound parameters

A statement compares columns with numbered parameters, orders by columns and
stops after a number of rows that is a parameter too.  Rows that its order does
not tell apart come in any order: an `Arrangement` is one way of sorting.

## Main results

* `IsTop`: what filter, sort and limit return, whatever the arrangement.
* `orderLe_total`, `orderLe_trans`: an `ORDER BY` list is an order.
* `run_isTop`: a statement returns the first rows of its order.
-/

namespace RenderEngine.Verified.BoundSelect

variable {R : Type}

/-! ## The first rows of an order -/

/-- The first `n` rows that satisfy `p`, in the order `le`. -/
def IsTop (p : R → Bool) (le : R → R → Prop) (n : Nat) (table rows : List R) :
    Prop :=
  ∃ sorted : List R, sorted.Perm (table.filter p) ∧ sorted.Pairwise le ∧
    rows = sorted.take n

section IsTop

variable {p : R → Bool} {le : R → R → Prop} {n : Nat} {table rows : List R}

theorem IsTop.mem (h : IsTop p le n table rows) {r : R} (hr : r ∈ rows) :
    r ∈ table ∧ p r = true := by
  obtain ⟨sorted, hperm, -, rfl⟩ := h
  exact List.mem_filter.mp (hperm.mem_iff.mp (List.mem_of_mem_take hr))

theorem IsTop.length (h : IsTop p le n table rows) :
    rows.length = min n (table.filter p).length := by
  obtain ⟨sorted, hperm, -, rfl⟩ := h
  rw [List.length_take, hperm.length_eq]

theorem IsTop.length_le (h : IsTop p le n table rows) : rows.length ≤ n := by
  rw [h.length]
  exact Nat.min_le_left _ _

/-- Two orders that agree on the selected rows. -/
theorem IsTop.mono (h : IsTop p le n table rows) {le' : R → R → Prop}
    (hle : ∀ a ∈ table.filter p, ∀ b ∈ table.filter p, le a b → le' a b) :
    IsTop p le' n table rows := by
  obtain ⟨sorted, hperm, hsorted, hrows⟩ := h
  refine ⟨sorted, hperm, hsorted.imp_of_mem ?_, hrows⟩
  intro a b ha hb
  exact hle a (hperm.mem_iff.mp ha) b (hperm.mem_iff.mp hb)

/-- A row that is selected and not returned comes after `n` that are. -/
theorem IsTop.mem_or_full (h : IsTop p le n table rows) {r : R}
    (hr : r ∈ table) (hp : p r = true) :
    r ∈ rows ∨ rows.length = n ∧ ∀ a ∈ rows, le a r := by
  obtain ⟨sorted, hperm, hsorted, rfl⟩ := h
  have hmem : r ∈ sorted.take n ++ sorted.drop n := by
    rw [List.take_append_drop]
    exact hperm.mem_iff.mpr (List.mem_filter.mpr ⟨hr, hp⟩)
  rcases List.mem_append.mp hmem with htake | hdrop
  · exact Or.inl htake
  · have hlt : n < sorted.length := by
      have hpos := List.length_pos_of_mem hdrop
      rw [List.length_drop] at hpos
      omega
    rw [← List.take_append_drop n sorted, List.pairwise_append] at hsorted
    refine Or.inr ⟨?_, fun a ha => hsorted.2.2 a ha r hdrop⟩
    rw [List.length_take]
    omega

end IsTop

/-- A way of sorting rows. -/
structure Arrangement (R : Type) where
  sort : (R → R → Bool) → List R → List R
  sort_perm : ∀ le rows, (sort le rows).Perm rows
  sort_sorted : ∀ le rows, (∀ a b, (le a b || le b a) = true) →
    (∀ a b c, le a b = true → le b c = true → le a c = true) →
    (sort le rows).Pairwise fun a b => le a b = true

/-- Sorting that keeps rows of equal rank as they come. -/
def Arrangement.stable (R : Type) : Arrangement R where
  sort := fun le rows => rows.mergeSort le
  sort_perm := fun le rows => List.mergeSort_perm rows le
  sort_sorted := fun _ rows htotal htrans =>
    List.pairwise_mergeSort htrans htotal rows

/-! ## Statements -/

inductive Direction where
  | asc
  | desc

/-- `WHERE column = $i AND .. ORDER BY column direction, .. LIMIT $n`. -/
structure Statement (C : Type) where
  conditions : List (C × Nat)
  orderBy : List (C × Direction)
  limit : Nat

/-- The value bound to a placeholder; they are counted from 1. -/
def param {V : Type} (binds : List V) : Nat → Option V
  | 0 => none
  | i + 1 => binds[i]?

/-- How the columns of a row are read and compared. -/
structure Columns (R C V : Type) where
  /-- `none` is `NULL` -/
  value : R → C → Option V
  le : V → V → Bool
  le_total : ∀ x y, (le x y || le y x) = true
  le_trans : ∀ x y z, le x y = true → le y z = true → le x z = true
  /-- a value as a number of rows -/
  asLimit : V → Option Nat

section Semantics

variable {C V : Type} (cols : Columns R C V)

/-! ### `ORDER BY` -/

/-- `NULL` is greater than every value. -/
def nullLe : Option V → Option V → Bool
  | _, none => true
  | none, some _ => false
  | some x, some y => cols.le x y

theorem nullLe_total (x y : Option V) :
    (nullLe cols x y || nullLe cols y x) = true := by
  cases x with
  | none => cases y <;> simp [nullLe]
  | some x =>
      cases y with
      | none => simp [nullLe]
      | some y => exact cols.le_total x y

theorem nullLe_trans (x y z : Option V) (hxy : nullLe cols x y = true)
    (hyz : nullLe cols y z = true) : nullLe cols x z = true := by
  cases z with
  | none => cases x <;> rfl
  | some z =>
      cases y with
      | none => cases hyz
      | some y =>
          cases x with
          | none => cases hxy
          | some x => exact cols.le_trans x y z hxy hyz

/-- One key of an `ORDER BY` list. -/
def keyLe (key : C × Direction) (a b : R) : Bool :=
  match key.2 with
  | .asc => nullLe cols (cols.value a key.1) (cols.value b key.1)
  | .desc => nullLe cols (cols.value b key.1) (cols.value a key.1)

/-- The order of an `ORDER BY` list: a later key tells apart what the ones
before it do not. -/
def orderLe : List (C × Direction) → R → R → Bool
  | [], _, _ => true
  | key :: keys, a, b =>
      keyLe cols key a b && (!keyLe cols key b a || orderLe keys a b)

theorem keyLe_total (key : C × Direction) (a b : R) :
    (keyLe cols key a b || keyLe cols key b a) = true := by
  unfold keyLe
  cases key.2 with
  | asc => exact nullLe_total cols _ _
  | desc => exact nullLe_total cols _ _

theorem keyLe_trans (key : C × Direction) {a b c : R}
    (hab : keyLe cols key a b = true) (hbc : keyLe cols key b c = true) :
    keyLe cols key a c = true := by
  unfold keyLe at *
  cases hkey : key.2 with
  | asc =>
      rw [hkey] at hab hbc
      exact nullLe_trans cols _ _ _ hab hbc
  | desc =>
      rw [hkey] at hab hbc
      exact nullLe_trans cols _ _ _ hbc hab

theorem orderLe_total (keys : List (C × Direction)) (a b : R) :
    (orderLe cols keys a b || orderLe cols keys b a) = true := by
  induction keys with
  | nil => rfl
  | cons key keys ih =>
      have htotal := keyLe_total cols key a b
      simp only [orderLe]
      by_cases hab : keyLe cols key a b = true
      · by_cases hba : keyLe cols key b a = true
        · simpa [hab, hba] using ih
        · simp [hab, hba]
      · rw [Bool.not_eq_true] at hab
        rw [hab, Bool.false_or] at htotal
        simp [hab, htotal]

theorem orderLe_trans (keys : List (C × Direction)) (a b c : R)
    (hab : orderLe cols keys a b = true) (hbc : orderLe cols keys b c = true) :
    orderLe cols keys a c = true := by
  induction keys with
  | nil => rfl
  | cons key keys ih =>
      simp only [orderLe, Bool.and_eq_true, Bool.or_eq_true, Bool.not_eq_true']
        at hab hbc ⊢
      refine ⟨keyLe_trans cols key hab.1 hbc.1, ?_⟩
      by_cases hca : keyLe cols key c a = true
      · -- all three have the same rank under this key
        have hba := keyLe_trans cols key hbc.1 hca
        have hcb := keyLe_trans cols key hca hab.1
        refine Or.inr (ih ?_ ?_)
        · exact hab.2.resolve_left (by simp [hba])
        · exact hbc.2.resolve_left (by simp [hcb])
      · exact Or.inl (by simpa using hca)

/-! ### `WHERE` and `LIMIT` -/

variable [DecidableEq V]

/-- A comparison with `NULL` is not true. -/
def holds (binds : List V) (row : R) (condition : C × Nat) : Bool :=
  match cols.value row condition.1, param binds condition.2 with
  | some v, some bound => decide (v = bound)
  | _, _ => false

def selects (s : Statement C) (binds : List V) (row : R) : Bool :=
  s.conditions.all (holds cols binds row)

/-- A comparison with a bound value. -/
theorem holds_eq (binds : List V) (row : R) (c : C) (i : Nat) :
    holds cols binds row (c, i) =
      (param binds i).any fun v => decide (cols.value row c = some v) := by
  rw [holds]
  cases cols.value row c with
  | none => cases param binds i <;> simp
  | some x => cases param binds i <;> simp

variable (arr : Arrangement R)

/-- A statement with its parameters on a table; without a value for one of
its placeholders it is an error. -/
def run (s : Statement C) (binds : List V) (table : List R) :
    Option (List R) :=
  if s.conditions.all fun c => (param binds c.2).isSome then
    ((param binds s.limit).bind cols.asLimit).map fun n =>
      (arr.sort (orderLe cols s.orderBy)
        (table.filter (selects cols s binds))).take n
  else none

/-- **A statement returns the first rows of its order.** -/
theorem run_isTop {s : Statement C} {binds : List V} {n : Nat}
    (hbound : ∀ c ∈ s.conditions, (param binds c.2).isSome = true)
    (hlimit : (param binds s.limit).bind cols.asLimit = some n)
    (table : List R) :
    ∃ rows, run cols arr s binds table = some rows ∧
      IsTop (selects cols s binds)
        (fun a b => orderLe cols s.orderBy a b = true) n table rows := by
  let sorted := arr.sort (orderLe cols s.orderBy)
    (table.filter (selects cols s binds))
  have hrun : run cols arr s binds table = some (sorted.take n) := by
    rw [run, if_pos (List.all_eq_true.mpr hbound), hlimit]
    rfl
  exact ⟨sorted.take n, hrun, sorted, arr.sort_perm _ _, arr.sort_sorted _ _
    (orderLe_total cols s.orderBy) (orderLe_trans cols s.orderBy), rfl⟩

end Semantics

/-! ## The text of a statement -/

/-- `$i` -/
def placeholder (i : Nat) : List Char := '$' :: Nat.toDigits 10 i

def Direction.sql : Direction → List Char
  | .asc => " ASC".toList
  | .desc => " DESC".toList

/-- The statement as SQL, with the names of the table and of the columns. -/
def Statement.sql {C : Type} (tableName : List Char)
    (columnName : C → List Char) (s : Statement C) : List Char :=
  "SELECT * FROM ".toList ++ tableName ++ " WHERE ".toList
    ++ " AND ".toList.intercalate (s.conditions.map fun c =>
      columnName c.1 ++ " = ".toList ++ placeholder c.2)
    ++ " ORDER BY ".toList
    ++ ", ".toList.intercalate (s.orderBy.map fun key =>
      columnName key.1 ++ key.2.sql)
    ++ " LIMIT ".toList ++ placeholder s.limit

end RenderEngine.Verified.BoundSelect
