import Mathlib.Data.List.Induction

/-!
# Runs of a partial step function

A system takes inputs one after another; a step may be refused, which ends
the run.  `Throughout P` says that `P` holds in every state a run reaches,
the first one included; `StepsMeet C` that every step taken meets the
condition `C` on the state before it and its input.

## Main results

* `exists_run`: steps that go through and keep an invariant make runs that do.
* `run_rel`: what relates the ends of a step relates the ends of a run.
* `run_keeps`: what every step keeps holds where a run ends.
* `throughout_iff_of_invariant`: a run keeps a property throughout exactly when
  its steps meet `C`.
* `throughout_iff_stepsMeet`: the property may be the invariant itself.
* `end_iff_stepsMeet`: what is lost in one step is not found again, so a run
  ends well exactly when its steps meet `C`.
-/

namespace RenderEngine.Verified.StepRun

variable {S I : Type} (step : S → I → Option S)

/-- The state a run ends in. -/
def run (s : S) (inputs : List I) : Option S :=
  inputs.foldl (fun s i => s.bind (step · i)) (some s)

/-- `P` holds in every state reached on the way. -/
def Throughout (P : S → Prop) (s : S) (inputs : List I) : Prop :=
  ∀ pre, pre <+: inputs → ∀ t, run step s pre = some t → P t

/-- Every step taken meets `C`. -/
def StepsMeet (C : S → I → Prop) (s : S) (inputs : List I) : Prop :=
  ∀ pre i, pre ++ [i] <+: inputs → ∀ t t', run step s pre = some t →
    step t i = some t' → C t i

theorem run_concat (s : S) (pre : List I) (i : I) :
    run step s (pre ++ [i]) = (run step s pre).bind (step · i) := by
  simp [run, List.foldl_append]

theorem run_append (s : S) (pre post : List I) :
    run step s (pre ++ post) = (run step s pre).bind (run step · post) := by
  induction post using List.reverseRecOn with
  | nil =>
      rw [List.append_nil]
      exact (Option.bind_fun_some _).symm
  | append_singleton post i ih =>
      rw [← List.append_assoc, run_concat, ih, Option.bind_assoc]
      simp only [run_concat]

theorem run_cons (s : S) (i : I) (post : List I) :
    run step s (i :: post) = (step s i).bind (run step · post) :=
  run_append step s [i] post

theorem stepsMeet_nil (C : S → I → Prop) (s : S) : StepsMeet step C s [] := by
  intro pre i hpre
  simp at hpre

theorem stepsMeet_cons (C : S → I → Prop) (s : S) (i : I) (post : List I) :
    StepsMeet step C s (i :: post) ↔
      ∀ s', step s i = some s' → C s i ∧ StepsMeet step C s' post := by
  constructor
  · intro h s' hs'
    refine ⟨h [] i (by simp) s s' rfl hs', ?_⟩
    intro pre j hpre t t' ht
    apply h (i :: pre) j (List.cons_prefix_cons.mpr ⟨rfl, hpre⟩) t t'
    rw [run_cons, hs']
    exact ht
  · intro h pre j hpre t t' ht hstep
    cases pre with
    | nil =>
        cases ht
        obtain rfl : j = i := by simpa using hpre
        exact (h t' hstep).1
    | cons k pre =>
        rcases List.cons_prefix_cons.mp hpre with ⟨rfl, hrest⟩
        rw [run_cons, Option.bind_eq_some_iff] at ht
        rcases ht with ⟨s', hs', ht⟩
        exact (h s' hs').2 pre j hrest t t' ht hstep

theorem Throughout.start {P : S → Prop} {s : S} {inputs : List I}
    (h : Throughout step P s inputs) : P s :=
  h [] List.nil_prefix s rfl

theorem throughout_nil (P : S → Prop) (s : S) :
    Throughout step P s [] ↔ P s := by
  constructor
  · exact fun h => h.start step
  · intro h pre hpre t ht
    rw [List.prefix_nil.mp hpre] at ht
    cases ht
    exact h

theorem throughout_cons (P : S → Prop) (s : S) (i : I) (post : List I) :
    Throughout step P s (i :: post) ↔
      P s ∧ ∀ s', step s i = some s' → Throughout step P s' post := by
  constructor
  · intro h
    refine ⟨h.start step, fun s' hs' pre hpre t ht => ?_⟩
    apply h (i :: pre) (List.cons_prefix_cons.mpr ⟨rfl, hpre⟩)
    rw [run_cons, hs']
    exact ht
  · rintro ⟨hs, h⟩ pre hpre t ht
    cases pre with
    | nil =>
        cases ht
        exact hs
    | cons j pre =>
        obtain ⟨rfl, hrest⟩ := List.cons_prefix_cons.mp hpre
        rw [run_cons, Option.bind_eq_some_iff] at ht
        obtain ⟨s', hs', ht⟩ := ht
        exact h s' hs' pre hrest t ht

/-- Steps that go through and keep an invariant make runs that do. -/
theorem exists_run {P : S → Prop} {Q : I → Prop}
    (hstep : ∀ s i, P s → Q i → ∃ s', step s i = some s' ∧ P s')
    {s : S} (hs : P s) {inputs : List I} (hinputs : ∀ i ∈ inputs, Q i) :
    ∃ s', run step s inputs = some s' ∧ P s' := by
  induction inputs using List.reverseRecOn with
  | nil => exact ⟨s, rfl, hs⟩
  | append_singleton pre i ih =>
      have hpre := ih (fun j hj => hinputs j (List.mem_append_left _ hj))
      rcases hpre with ⟨t, ht, hP⟩
      rcases hstep t i hP (hinputs i (by simp)) with ⟨t', ht', hP'⟩
      refine ⟨t', ?_, hP'⟩
      rw [run_concat, ht]
      exact ht'

/-- A preorder that every step moves along relates the ends of a run. -/
theorem run_rel {R : S → S → Prop} {Q : I → Prop} (hrefl : ∀ s, R s s)
    (htrans : ∀ s t u, R s t → R t u → R s u)
    (hstep : ∀ s i s', Q i → step s i = some s' → R s s')
    {s s' : S} {inputs : List I} (hrun : run step s inputs = some s')
    (hinputs : ∀ i ∈ inputs, Q i) : R s s' := by
  induction inputs using List.reverseRecOn generalizing s' with
  | nil =>
      cases hrun
      exact hrefl s
  | append_singleton pre i ih =>
      rw [run_concat, Option.bind_eq_some_iff] at hrun
      rcases hrun with ⟨t, ht, hlast⟩
      have hpre := ih ht (fun j hj => hinputs j (List.mem_append_left _ hj))
      exact htrans s t s' hpre (hstep t i s' (hinputs i (by simp)) hlast)

/-- What every step keeps holds where a run ends. -/
theorem run_keeps {P : S → Prop}
    (hstep : ∀ s i s', P s → step s i = some s' → P s') {s s' : S}
    {inputs : List I} (hrun : run step s inputs = some s') (hs : P s) : P s' :=
  run_rel step (R := fun s s' => P s → P s') (Q := fun _ => True)
    (fun _ h => h) (fun _ _ _ h h' => h' ∘ h)
    (fun s i s' _ hs' h => hstep s i s' h hs') hrun (fun _ _ => trivial) hs

/-- **A run keeps a property throughout exactly when its steps meet a
condition**, if from an invariant with the property the condition leads to the
invariant and the property comes from the condition. -/
theorem throughout_iff_of_invariant {J P : S → Prop} {C : S → I → Prop}
    (hJP : ∀ s, J s → P s)
    (hstep : ∀ s i s', J s → step s i = some s' →
      (C s i → J s') ∧ (P s' → C s i))
    {s : S} (hs : J s) (inputs : List I) :
    Throughout step P s inputs ↔ StepsMeet step C s inputs := by
  induction inputs generalizing s with
  | nil =>
      exact iff_of_true ((throughout_nil step P s).mpr (hJP s hs))
        (stepsMeet_nil step C s)
  | cons i post ih =>
      rw [throughout_cons, stepsMeet_cons]
      constructor
      · rintro ⟨-, h⟩ s' hs'
        have hC := (hstep s i s' hs hs').2 ((h s' hs').start step)
        exact ⟨hC, (ih ((hstep s i s' hs hs').1 hC)).mp (h s' hs')⟩
      · intro h
        refine ⟨hJP s hs, fun s' hs' => ?_⟩
        obtain ⟨hC, hpost⟩ := h s' hs'
        exact (ih ((hstep s i s' hs hs').1 hC)).mpr hpost

/-- **A run keeps an invariant throughout exactly when its steps meet the
condition under which one step keeps it.** -/
theorem throughout_iff_stepsMeet {P : S → Prop} {C : S → I → Prop}
    (hstep : ∀ s i s', P s → step s i = some s' → (P s' ↔ C s i))
    {s : S} (hs : P s) (inputs : List I) :
    Throughout step P s inputs ↔ StepsMeet step C s inputs := by
  apply throughout_iff_of_invariant step (fun _ h => h) _ hs
  intro s i s' hP hstep'
  exact ⟨(hstep s i s' hP hstep').mpr, (hstep s i s' hP hstep').mp⟩

/-- **A run ends well exactly when its steps meet a condition**, if the steps
that do not lead from good states to lost ones, and no step of the run leads
out of these. -/
theorem end_iff_stepsMeet {Good Lost P : S → Prop} {C : S → I → Prop}
    {Q : I → Prop}
    (hkeep : ∀ s i s', Q i → Good s → step s i = some s' → C s i → Good s')
    (hbreak : ∀ s i s', Q i → Good s → step s i = some s' → ¬ C s i → Lost s')
    (hlost : ∀ s i s', Q i → Lost s → step s i = some s' → Lost s')
    {s s' : S} (hs : Good s) {inputs : List I} (hQ : ∀ i ∈ inputs, Q i)
    (hrun : run step s inputs = some s') (hgood : Good s' → P s')
    (hnot : Lost s' → ¬ P s') :
    P s' ↔ StepsMeet step C s inputs := by
  induction inputs generalizing s with
  | nil =>
      cases hrun
      exact iff_of_true (hgood hs) (stepsMeet_nil step C _)
  | cons i post ih =>
      rw [run_cons, Option.bind_eq_some_iff] at hrun
      obtain ⟨t, ht, hpost⟩ := hrun
      have hQpost : ∀ j ∈ post, Q j :=
        fun j hj => hQ j (List.mem_cons_of_mem i hj)
      have hcons : StepsMeet step C s (i :: post) ↔
          C s i ∧ StepsMeet step C t post := by
        rw [stepsMeet_cons]
        simp [ht]
      rw [hcons]
      have hQi := hQ i List.mem_cons_self
      by_cases hC : C s i
      · rw [ih (hkeep s i t hQi hs ht hC) hQpost hpost]
        exact (and_iff_right hC).symm
      · have hbroken := hbreak s i t hQi hs ht hC
        have hend : Lost t → Lost s' :=
          run_rel step (R := fun s s' => Lost s → Lost s') (fun _ h => h)
            (fun _ _ _ h h' => h' ∘ h)
            (fun s i s' hQi hs' h => hlost s i s' hQi h hs') hpost hQpost
        exact iff_of_false (hnot (hend hbroken)) (fun h => hC h.1)

end RenderEngine.Verified.StepRun
