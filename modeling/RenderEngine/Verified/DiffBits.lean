import Mathlib.Data.List.Zip

/-!
# Comparing byte strings without an early exit

A comparison that must not stop at the first difference accumulates the bits
in which the paired bytes differ and looks at the sum once.

## Main results

* `diffBits_zip_eq_zero`: no bits differ exactly when the strings are equal.
* `length_guarded_iff`: the comparison behind a test of the lengths is
  equality of byte strings.
-/

namespace RenderEngine.Verified.DiffBits

/-- The bits in which paired bytes differ, on top of those already seen. -/
def diffBits (pairs : List (UInt8 × UInt8)) (acc : UInt8) : UInt8 :=
  pairs.foldl (fun acc x => acc ||| (x.1 ^^^ x.2)) acc

theorem diffBits_eq_zero (pairs : List (UInt8 × UInt8)) (acc : UInt8) :
    diffBits pairs acc = 0 ↔ acc = 0 ∧ ∀ x ∈ pairs, x.1 = x.2 := by
  induction pairs generalizing acc with
  | nil => simp [diffBits]
  | cons x pairs ih =>
      show diffBits pairs (acc ||| (x.1 ^^^ x.2)) = 0 ↔ _
      rw [ih, UInt8.or_eq_zero_iff, UInt8.xor_eq_zero_iff,
        List.forall_mem_cons, and_assoc]

theorem diffBits_zip_eq_zero {a b : List UInt8} (hlen : a.length = b.length) :
    diffBits (a.zip b) 0 = 0 ↔ a = b := by
  rw [diffBits_eq_zero]
  constructor
  · intro h
    apply List.ext_getElem hlen
    intro i ha hb
    have hi : i < (a.zip b).length := by
      rw [List.length_zip]
      omega
    have hpair := h.2 _ (List.getElem_mem hi)
    rwa [List.getElem_zip] at hpair
  · intro h
    subst h
    refine ⟨rfl, ?_⟩
    intro x hx
    rw [List.zip_eq_zipWith, List.zipWith_self] at hx
    obtain ⟨y, -, hy⟩ := List.mem_map.mp hx
    rw [← hy]

/-- **A test of the lengths, then of the bits, is equality.** -/
theorem length_guarded_iff (a b : List UInt8) :
    (if a.length ≠ b.length then false else diffBits (a.zip b) 0 == 0) = true ↔
      a = b := by
  by_cases hlen : a.length = b.length
  · rw [if_neg (by simpa using hlen), beq_iff_eq]
    exact diffBits_zip_eq_zero hlen
  · rw [if_pos hlen]
    constructor
    · intro h
      cases h
    · intro h
      exact absurd (congrArg List.length h) hlen

end RenderEngine.Verified.DiffBits
