/-!
# What a run costs

A machine whose steps always succeed takes a list of inputs; each step costs
a number that depends on the state it starts in and on its input.  A potential
that pays for every step bounds the cost of every run.

## Main results

* `runCost_le_potential`: a run costs no more than the potential it starts with.
* `runCost_le_mul`: costs that are bounded step by step are bounded over runs.
-/

namespace RenderEngine.Verified.RunCost

variable {S I : Type} (step : S → I → S)

/-- The cost of a run. -/
def runCost (cost : S → I → Nat) : S → List I → Nat
  | _, [] => 0
  | s, i :: inputs => cost s i + runCost cost (step s i) inputs

/-- **A potential bounds the cost of runs** if every step pays its cost out of
it. -/
theorem runCost_le_potential {cost : S → I → Nat} {potential : S → Nat}
    (hpays : ∀ s i, cost s i + potential (step s i) ≤ potential s)
    (s : S) (inputs : List I) :
    runCost step cost s inputs ≤ potential s := by
  induction inputs generalizing s with
  | nil => exact Nat.zero_le _
  | cons i inputs ih =>
      have hstep := hpays s i
      have hrest := ih (step s i)
      show cost s i + runCost step cost (step s i) inputs ≤ potential s
      omega

theorem runCost_le_mul {cost base : S → I → Nat} {factor : Nat}
    {inputs : List I}
    (hcost : ∀ i ∈ inputs, ∀ s, cost s i ≤ factor * base s i) (s : S) :
    runCost step cost s inputs ≤ factor * runCost step base s inputs := by
  induction inputs generalizing s with
  | nil => exact Nat.zero_le _
  | cons i inputs ih =>
      have hstep := hcost i List.mem_cons_self s
      have hrest := ih (fun j hj => hcost j (List.mem_cons_of_mem _ hj))
        (step s i)
      show cost s i + runCost step cost (step s i) inputs ≤
        factor * (base s i + runCost step base (step s i) inputs)
      rw [Nat.mul_add]
      omega

end RenderEngine.Verified.RunCost
