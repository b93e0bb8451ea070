import Mathlib.Algebra.Ring.Nat
import Mathlib.Data.Nat.Digits.Defs

/-!
# Numerals in a base

The number a run of digits writes, most significant digit first.  The
characters and how they are read are parameters.

## Main results

* `value_append`, `value_lt`: a numeral is read part by part, and its length
  bounds it.
* `value_take`: the leading digits are the number without its low digits.
* `value_digit`: the digits of the number are those of the numeral.
* `value_toDigits`: the numeral of a number has its value.
-/

namespace RenderEngine.Verified.Numerals

variable {C : Type} (base : Nat) (digit : C → Option Nat)

/-- Every character is a digit of the base. -/
def AllDigits (cs : List C) : Prop := ∀ c ∈ cs, ∃ d < base, digit c = some d

/-- The number read on from `n`. -/
def valueFrom (n : Nat) (cs : List C) : Nat :=
  cs.foldl (fun n c => n * base + (digit c).getD 0) n

/-- The number a run of digits writes. -/
def value (cs : List C) : Nat := valueFrom base digit 0 cs

variable {base digit}

@[simp] theorem allDigits_nil : AllDigits base digit [] :=
  fun _ hc => nomatch hc

theorem allDigits_cons {c : C} {cs : List C} :
    AllDigits base digit (c :: cs) ↔
      (∃ d < base, digit c = some d) ∧ AllDigits base digit cs :=
  List.forall_mem_cons

theorem allDigits_append {cs ds : List C} :
    AllDigits base digit (cs ++ ds) ↔
      AllDigits base digit cs ∧ AllDigits base digit ds :=
  List.forall_mem_append

theorem AllDigits.not_mem {c : C} {cs : List C}
    (h : AllDigits base digit cs) (hc : digit c = none) : c ∉ cs := by
  intro hmem
  obtain ⟨d, -, hd⟩ := h c hmem
  rw [hc] at hd
  cases hd

@[simp] theorem valueFrom_cons (n : Nat) (c : C) (cs : List C) :
    valueFrom base digit n (c :: cs) =
      valueFrom base digit (n * base + (digit c).getD 0) cs := rfl

theorem valueFrom_eq (n : Nat) (cs : List C) :
    valueFrom base digit n cs = n * base ^ cs.length + value base digit cs := by
  induction cs generalizing n with
  | nil => simp [valueFrom, value]
  | cons c cs ih =>
      rw [value, valueFrom_cons, valueFrom_cons, ih, ih (0 * base + _),
        List.length_cons]
      ring

theorem le_valueFrom (hbase : 0 < base) (n : Nat) (cs : List C) :
    n ≤ valueFrom base digit n cs := by
  rw [valueFrom_eq]
  have hpow : 0 < base ^ cs.length := Nat.pow_pos hbase
  calc n ≤ n * base ^ cs.length := Nat.le_mul_of_pos_right n hpow
    _ ≤ _ := Nat.le_add_right _ _

theorem value_append (cs ds : List C) :
    value base digit (cs ++ ds) =
      value base digit cs * base ^ ds.length + value base digit ds := by
  rw [← valueFrom_eq, value, valueFrom, List.foldl_append]
  rfl

@[simp] theorem value_singleton (c : C) :
    value base digit [c] = (digit c).getD 0 := by
  simp [value, valueFrom]

theorem value_lt {cs : List C} (h : AllDigits base digit cs) :
    value base digit cs < base ^ cs.length := by
  induction cs with
  | nil => exact Nat.one_pos
  | cons c cs ih =>
      obtain ⟨⟨d, hd, hc⟩, hcs⟩ := allDigits_cons.mp h
      have hrest := ih hcs
      rw [value, valueFrom_cons, valueFrom_eq, hc, List.length_cons, pow_succ']
      simp only [Nat.zero_mul, Nat.zero_add, Option.getD_some]
      calc d * base ^ cs.length + value base digit cs
          < d * base ^ cs.length + base ^ cs.length := by omega
        _ = (d + 1) * base ^ cs.length := (Nat.succ_mul d _).symm
        _ ≤ base * base ^ cs.length := Nat.mul_le_mul_right _ hd

/-- The leading digits write the number without its low digits. -/
theorem value_take {cs : List C} (h : AllDigits base digit cs) (k : Nat) :
    value base digit (cs.take k) =
      value base digit cs / base ^ (cs.length - k) := by
  have hsplit : value base digit (cs.take k ++ cs.drop k) = _ :=
    value_append _ _
  rw [List.take_append_drop, List.length_drop] at hsplit
  have hlow : value base digit (cs.drop k) < _ :=
    value_lt (fun c hc => h c (List.mem_of_mem_drop hc))
  rw [List.length_drop] at hlow
  rw [hsplit, Nat.mul_comm, Nat.mul_add_div (by omega), Nat.div_eq_of_lt hlow,
    Nat.add_zero]

/-- The digits of the number are those of the numeral. -/
theorem value_digit {cs : List C} (h : AllDigits base digit cs) {k : Nat}
    (hk : k < cs.length) :
    value base digit cs / base ^ (cs.length - (k + 1)) % base =
      (digit cs[k]).getD 0 := by
  obtain ⟨d, hd, hc⟩ := h cs[k] (List.getElem_mem hk)
  rw [← value_take h, List.take_succ_eq_append_getElem hk, value_append,
    value_singleton, List.length_singleton, pow_one, Nat.mul_add_mod_self_right,
    hc]
  exact Nat.mod_eq_of_lt hd

/-- `Nat.toDigits` writes digits that have the value of the number. -/
theorem value_toDigits {digit : Char → Option Nat} (hbase : 1 < base)
    (hdigit : ∀ d < base, digit d.digitChar = some d) (n : Nat) :
    AllDigits base digit (Nat.toDigits base n) ∧
      value base digit (Nat.toDigits base n) = n := by
  induction n using Nat.strongRecOn with
  | ind n ih =>
      by_cases hn : n < base
      · rw [Nat.toDigits_of_lt_base hn]
        refine ⟨allDigits_cons.mpr ⟨⟨n, hn, hdigit n hn⟩, allDigits_nil⟩, ?_⟩
        rw [value_singleton, hdigit n hn]
        rfl
      · have hlow : n % base < base := Nat.mod_lt n (by omega)
        obtain ⟨hdigits, hvalue⟩ := ih (n / base)
          (Nat.div_lt_self (by omega) hbase)
        rw [Nat.toDigits_of_base_le hbase (by omega)]
        refine ⟨allDigits_append.mpr ⟨hdigits, allDigits_cons.mpr
          ⟨⟨_, hlow, hdigit _ hlow⟩, allDigits_nil⟩⟩, ?_⟩
        rw [value_append, hvalue, value_singleton, hdigit _ hlow,
          List.length_singleton, pow_one, Option.getD_some]
        exact Nat.div_add_mod' n base

end RenderEngine.Verified.Numerals
