import Mathlib.Data.List.Count

/-!
# Fixed windows

Calls are let through in windows of a fixed length.  Each call counts in one
window, windows do not overlap, and no window takes more than a limit.  A window
may start at any time after the one before has ended, so an interval of one
window's length can meet the end of a window and the start of the next, but
never a third.

## Main results

* `countP_le_of_sameStart`: calls of one window keep its limit.
* `countP_interval_le`: an interval of a window's length holds at most twice
  the limit.
-/

namespace RenderEngine.Verified.FixedWindow

/-- A call that was let through, with the start of its window. -/
structure Entry where
  time : Nat
  start : Nat
  deriving DecidableEq

/-- The calls of a run, in windows of length `width` that take `limit` calls. -/
structure Windowed (width limit : Nat) (log : List Entry) : Prop where
  inside : ∀ c ∈ log, c.start ≤ c.time ∧ c.time < c.start + width
  apart : ∀ c ∈ log, ∀ d ∈ log, c.start < d.start → c.start + width ≤ d.start
  bounded : ∀ s, log.countP (fun c => c.start = s) ≤ limit

theorem windowed_nil (width limit : Nat) : Windowed width limit [] where
  inside := nofun
  apart := nofun
  bounded := fun _ => Nat.zero_le limit

section Bounds

private theorem countP_le_add {α : Type} {p q r : α → Bool} {xs : List α}
    (h : ∀ x ∈ xs, p x = true → q x = true ∨ r x = true) :
    xs.countP p ≤ xs.countP q + xs.countP r := by
  induction xs with
  | nil => exact Nat.le_refl 0
  | cons x xs ih =>
      have hx := h x List.mem_cons_self
      have hxs := ih fun y hy => h y (List.mem_cons_of_mem x hy)
      simp only [List.countP_cons]
      by_cases hp : p x = true
      · cases hx hp with
        | inl hq =>
            rw [if_pos hp, if_pos hq]
            omega
        | inr hr =>
            rw [if_pos hp, if_pos hr]
            omega
      · rw [if_neg hp]
        omega

variable {width limit : Nat} {log : List Entry}

/-- Calls that all belong to one window keep its limit. -/
theorem countP_le_of_sameStart (h : Windowed width limit log)
    {p : Entry → Bool}
    (hsame : ∀ c ∈ log, ∀ d ∈ log, p c = true → p d = true →
      c.start = d.start) : log.countP p ≤ limit := by
  by_cases hsome : ∃ c ∈ log, p c = true
  · obtain ⟨c, hc, hpc⟩ := hsome
    have hwindow : log.countP p ≤ log.countP fun d => d.start = c.start := by
      apply List.countP_mono_left
      intro d hd hpd
      exact decide_eq_true (hsame d hd c hc hpd hpc)
    exact Nat.le_trans hwindow (h.bounded c.start)
  · have hnone : log.countP p = 0 := by
      rw [List.countP_eq_zero]
      exact fun c hc hpc => hsome ⟨c, hc, hpc⟩
    omega

/-- Windows that begin less than a window's length apart are one. -/
theorem start_eq_of_close (h : Windowed width limit log) {c d : Entry}
    (hc : c ∈ log) (hd : d ∈ log) (hcd : c.start < d.start + width)
    (hdc : d.start < c.start + width) : c.start = d.start := by
  have hbefore := h.apart c hc d hd
  have hafter := h.apart d hd c hc
  omega

/-- Calls whose windows begin less than a window's length apart keep the limit
of one. -/
theorem countP_le_of_close (h : Windowed width limit log) {p : Entry → Bool}
    (hclose : ∀ c ∈ log, ∀ d ∈ log, p c = true → p d = true →
      c.start < d.start + width) : log.countP p ≤ limit :=
  countP_le_of_sameStart h fun c hc d hd hpc hpd =>
    start_eq_of_close h hc hd (hclose c hc d hd hpc hpd)
      (hclose d hd c hc hpd hpc)

/-- **An interval of a window's length meets at most two windows.** -/
theorem countP_interval_le (h : Windowed width limit log) (a : Nat) :
    log.countP (fun c => a ≤ c.time ∧ c.time < a + width) ≤ 2 * limit := by
  -- the windows that have begun before `a`, and those that begin later
  have hsplit : log.countP (fun c => a ≤ c.time ∧ c.time < a + width) ≤
      log.countP (fun c => a ≤ c.time ∧ c.start < a)
        + log.countP (fun c => a ≤ c.start ∧ c.time < a + width) := by
    apply countP_le_add
    intro c _ hc
    simp only [decide_eq_true_eq] at hc ⊢
    omega
  have hearlier : log.countP (fun c => a ≤ c.time ∧ c.start < a) ≤ limit := by
    apply countP_le_of_close h
    intro c hc d hd hpc hpd
    rw [decide_eq_true_eq] at hpc hpd
    have hcin := h.inside c hc
    have hdin := h.inside d hd
    omega
  have hlater : log.countP (fun c => a ≤ c.start ∧ c.time < a + width) ≤
      limit := by
    apply countP_le_of_close h
    intro c hc d hd hpc hpd
    rw [decide_eq_true_eq] at hpc hpd
    have hcin := h.inside c hc
    have hdin := h.inside d hd
    omega
  omega

end Bounds

/-! ## One more call -/

section Append

variable {width limit : Nat} {log : List Entry} {c : Entry}

/-- A call joins the last window while that has room. -/
theorem Windowed.append (h : Windowed width limit log)
    (hinside : c.start ≤ c.time ∧ c.time < c.start + width)
    (hlast : ∀ d ∈ log, d.start = c.start ∨ d.start + width ≤ c.start)
    (hroom : log.countP (fun d => d.start = c.start) < limit) :
    Windowed width limit (log ++ [c]) where
  inside := by
    intro d hd
    rw [List.mem_append, List.mem_singleton] at hd
    cases hd with
    | inl hd => exact h.inside d hd
    | inr hd => exact hd ▸ hinside
  apart := by
    intro d hd e he hlt
    rw [List.mem_append, List.mem_singleton] at hd he
    cases hd with
    | inl hd =>
        cases he with
        | inl he => exact h.apart d hd e he hlt
        | inr he =>
            subst he
            have hd := hlast d hd
            omega
    | inr hd =>
        subst hd
        cases he with
        | inl he =>
            have he := hlast e he
            omega
        | inr he =>
            subst he
            omega
  bounded := by
    intro s
    rw [List.countP_append, List.countP_singleton]
    by_cases hs : c.start = s
    · subst hs
      rw [if_pos (decide_eq_true rfl)]
      omega
    · rw [if_neg (by simpa using hs), Nat.add_zero]
      exact h.bounded s

end Append

end RenderEngine.Verified.FixedWindow
