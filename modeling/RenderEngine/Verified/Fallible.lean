import Mathlib.Data.List.Forall2

/-!
# Computations that may fail

What is known of a chain of calls, or of a traversal, that came to its end,
and of the errors it may end with.

## Main results

* `bind_eq_ok`, `mapM_eq_ok_iff`: a chain, and a traversal, that returned.
* `errorsIn_bind`, `errorsIn_mapM`: where all calls fail in one way, so does
  what is made of them.
* `Alike`: two outcomes with the same errors and related values.
-/

namespace RenderEngine.Verified.Fallible

variable {ε ε' α β : Type}

/-- What a computation that returned did. -/
theorem bind_eq_ok {x : Except ε α} {f : α → Except ε β} {b : β} :
    (x >>= f) = .ok b ↔ ∃ a, x = .ok a ∧ f a = .ok b := by
  cases x with
  | error e => simp [bind, Except.bind]
  | ok a => simp [bind, Except.bind]

theorem toOption_eq_some_iff {x : Except ε α} {a : α} :
    x.toOption = some a ↔ x = .ok a := by
  cases x with
  | error e => simp [Except.toOption]
  | ok a => simp [Except.toOption]

theorem mapError_eq_ok {x : Except ε α} {f : ε → ε'} {a : α} :
    x.mapError f = .ok a ↔ x = .ok a := by
  cases x with
  | error e => simp [Except.mapError]
  | ok a => simp [Except.mapError]

/-- A traversal returns exactly if each of its calls does. -/
theorem mapM_eq_ok_iff {f : α → Except ε β} {xs : List α} {ys : List β} :
    xs.mapM f = .ok ys ↔ List.Forall₂ (fun x y => f x = .ok y) xs ys := by
  induction xs generalizing ys with
  | nil => simp [pure, Except.pure, eq_comm]
  | cons x xs ih =>
      simp only [List.mapM_cons, bind_eq_ok, ih, List.forall₂_cons_left_iff]
      constructor
      · rintro ⟨y, hy, rest, hrest, hok⟩
        cases hok
        exact ⟨y, rest, hy, hrest, rfl⟩
      · rintro ⟨y, rest, hy, hrest, rfl⟩
        exact ⟨y, hy, rest, hrest, rfl⟩

/-! ## Outcomes that are alike -/

/-- Both fail with one error, or return values that are related. -/
inductive Alike (r : α → α → Prop) : Except ε α → Except ε α → Prop
  | error (e : ε) : Alike r (.error e) (.error e)
  | ok {a b : α} (h : r a b) : Alike r (.ok a) (.ok b)

section Alike

variable {r : α → α → Prop} {s : β → β → Prop}

theorem Alike.bind {x y : Except ε α} {f g : α → Except ε β}
    (h : Alike r x y) (hfg : ∀ a b, r a b → Alike s (f a) (g b)) :
    Alike s (x >>= f) (y >>= g) := by
  cases h with
  | error e => exact .error e
  | ok hab => exact hfg _ _ hab

theorem Alike.bind_same (x : Except ε α) {f g : α → Except ε β}
    (hfg : ∀ a, Alike s (f a) (g a)) : Alike s (x >>= f) (x >>= g) := by
  cases x with
  | error e => exact .error e
  | ok a => exact hfg a

end Alike

section Members

variable {r : α → β → Prop} {xs : List α} {ys : List β}

/-- What a traversal was given for one of its results. -/
theorem exists_of_mem_right (h : List.Forall₂ r xs ys) {y : β} (hy : y ∈ ys) :
    ∃ x ∈ xs, r x y := by
  induction h with
  | nil => cases hy
  | cons hxy _ ih =>
      rcases List.mem_cons.mp hy with rfl | hy
      · exact ⟨_, List.mem_cons_self, hxy⟩
      · obtain ⟨x, hx, hrel⟩ := ih hy
        exact ⟨x, List.mem_cons_of_mem _ hx, hrel⟩

/-- What a traversal made of one of its members. -/
theorem exists_of_mem_left (h : List.Forall₂ r xs ys) {x : α} (hx : x ∈ xs) :
    ∃ y ∈ ys, r x y :=
  exists_of_mem_right h.flip hx

end Members

/-- A traversal whose calls all return returns. -/
theorem mapM_returns {f : α → Except ε β} {xs : List α}
    (h : ∀ x ∈ xs, ∃ y, f x = .ok y) : ∃ ys, xs.mapM f = .ok ys := by
  induction xs with
  | nil => exact ⟨[], rfl⟩
  | cons x xs ih =>
      obtain ⟨y, hy⟩ := h x List.mem_cons_self
      obtain ⟨ys, hys⟩ := ih fun x' hx' => h x' (List.mem_cons_of_mem _ hx')
      refine ⟨y :: ys, ?_⟩
      rw [List.mapM_cons, hy, hys]
      rfl

/-- A traversal ends at the first of its calls that fails. -/
theorem mapM_eq_error_iff {f : α → Except ε β} {xs : List α} {e : ε} :
    xs.mapM f = .error e ↔ ∃ before x after ys, xs = before ++ x :: after ∧
      List.Forall₂ (fun x y => f x = .ok y) before ys ∧ f x = .error e := by
  induction xs with
  | nil => simp [pure, Except.pure]
  | cons x xs ih =>
      rw [List.mapM_cons]
      cases hx : f x with
      | error e' =>
          show Except.error e' = .error e ↔ _
          constructor
          · intro he
            cases he
            exact ⟨[], x, xs, [], rfl, .nil, hx⟩
          · rintro ⟨before, x', after, ys, hxs, hok, he⟩
            cases hok with
            | nil =>
                cases hxs
                rw [hx] at he
                cases he
                rfl
            | cons hy _ =>
                cases hxs
                rw [hx] at hy
                cases hy
      | ok y =>
          have hstep : (xs.mapM f >>= fun ys => pure (y :: ys)) = .error e ↔
              xs.mapM f = .error e := by
            cases xs.mapM f with
            | error e' => exact Iff.rfl
            | ok ys => exact ⟨nofun, nofun⟩
          show (xs.mapM f >>= fun ys => pure (y :: ys)) = .error e ↔ _
          rw [hstep, ih]
          constructor
          · rintro ⟨before, x', after, ys, rfl, hok, he⟩
            exact ⟨x :: before, x', after, y :: ys, rfl, .cons hx hok, he⟩
          · rintro ⟨before, x', after, ys, hxs, hok, he⟩
            cases hok with
            | nil =>
                cases hxs
                rw [hx] at he
                cases he
            | cons _ hrest =>
                cases hxs
                exact ⟨_, x', after, _, rfl, hrest, he⟩

/-- Whatever error the call returns satisfies `P`. -/
def ErrorsIn (P : ε → Prop) (x : Except ε α) : Prop := ∀ e, x = .error e → P e

section ErrorsIn

variable {P : ε → Prop}

theorem errorsIn_ok (a : α) : ErrorsIn P (.ok a) := nofun

theorem errorsIn_error {e : ε} (h : P e) :
    ErrorsIn P (.error e : Except ε α) := by
  intro e' he
  cases he
  exact h

theorem errorsIn_bind {x : Except ε α} {f : α → Except ε β}
    (hx : ErrorsIn P x) (hf : ∀ a, ErrorsIn P (f a)) :
    ErrorsIn P (x >>= f) := by
  cases x with
  | error e => exact errorsIn_error (hx e rfl)
  | ok a => exact hf a

theorem errorsIn_mapM {f : α → Except ε β} (hf : ∀ a, ErrorsIn P (f a))
    (xs : List α) : ErrorsIn P (xs.mapM f) := by
  induction xs with
  | nil => exact errorsIn_ok []
  | cons x xs ih =>
      rw [List.mapM_cons]
      exact errorsIn_bind (hf x) fun y =>
        errorsIn_bind ih fun ys => errorsIn_ok (y :: ys)

end ErrorsIn

end RenderEngine.Verified.Fallible
