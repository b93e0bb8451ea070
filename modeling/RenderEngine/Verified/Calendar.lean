import Mathlib.Algebra.BigOperators.Group.List.Basic
import Mathlib.Algebra.Ring.Nat
import Mathlib.Data.List.GetD
import Mathlib.Logic.Equiv.Defs
import Mathlib.Tactic.SplitIfs

/-!
# The Gregorian calendar

Days are numbered from 0 for the first of January of the year 1, in both
directions.  A `Date` is a year, a month and a day that the calendar has, and a
`DateTime` adds a time of day in microseconds.

## Main results

* `daysBeforeYear_succ`: a year takes 365 days, or 366.
* `Date.equiv`: dates are day numbers.
* `DateTime.equiv`: times are microseconds.
-/

namespace RenderEngine.Verified.Calendar

/-! ## Years -/

def isLeap (year : Int) : Bool :=
  year % 4 == 0 && (year % 100 != 0 || year % 400 == 0)

def yearLength (year : Int) : Nat := if isLeap year then 366 else 365

/-- The number of the first day of a year. -/
def daysBeforeYear (year : Int) : Int :=
  365 * (year - 1) + (year - 1) / 4 - (year - 1) / 100 + (year - 1) / 400

theorem daysBeforeYear_succ (year : Int) :
    daysBeforeYear (year + 1) = daysBeforeYear year + yearLength year := by
  unfold daysBeforeYear yearLength
  by_cases hleap : isLeap year = true
  · rw [if_pos hleap]
    simp only [isLeap, Bool.and_eq_true, Bool.or_eq_true, beq_iff_eq,
      bne_iff_ne] at hleap
    omega
  · rw [if_neg hleap]
    simp only [isLeap, Bool.and_eq_true, Bool.or_eq_true, beq_iff_eq,
      bne_iff_ne] at hleap
    omega

theorem daysBeforeYear_mono {y y' : Int} (h : y ≤ y') :
    daysBeforeYear y ≤ daysBeforeYear y' := by
  unfold daysBeforeYear
  by_cases heq : y = y'
  · subst heq
    exact Int.le_refl _
  · omega

/-- The year of a day, by the cycles of 400, 100 and 4 years. -/
def yearOf (n : Int) : Int :=
  let cycle := n % 146097
  let century := min (cycle / 36524) 3
  let inCentury := cycle - 36524 * century
  let inFour := inCentury % 1461
  400 * (n / 146097) + 100 * century + 4 * (inCentury / 1461)
    + min (inFour / 365) 3 + 1

/-- The first day of a year, by its place in the cycles. -/
theorem daysBeforeYear_cycles (q : Int) {c f r : Int} (hc : 0 ≤ c ∧ c ≤ 3)
    (hf : 0 ≤ f ∧ f ≤ 24) (hr : 0 ≤ r ∧ r ≤ 3) :
    daysBeforeYear (400 * q + 100 * c + 4 * f + r + 1) =
      146097 * q + 36524 * c + 1461 * f + 365 * r := by
  have hquarter : (400 * q + 100 * c + 4 * f + r + 1 - 1) / 4 =
      100 * q + 25 * c + f := by
    omega
  have hcentury : (400 * q + 100 * c + 4 * f + r + 1 - 1) / 100 =
      4 * q + c := by
    omega
  have hcycle : (400 * q + 100 * c + 4 * f + r + 1 - 1) / 400 = q := by
    omega
  rw [daysBeforeYear, hquarter, hcentury, hcycle]
  omega

/-- **Each day lies in its year.** -/
theorem yearOf_bounds (n : Int) :
    daysBeforeYear (yearOf n) ≤ n ∧ n < daysBeforeYear (yearOf n + 1) := by
  unfold yearOf
  dsimp only
  generalize hcycle : n % 146097 = cycle
  generalize hcentury : min (cycle / 36524) 3 = c
  generalize hfours : (cycle - 36524 * c) / 1461 = f
  generalize hinFour : (cycle - 36524 * c) % 1461 = inFour
  generalize hyears : min (inFour / 365) 3 = r
  generalize hq : n / 146097 = q
  have hn : n = 146097 * q + cycle := by omega
  have hc : 0 ≤ c ∧ c ≤ 3 := by omega
  have hrest : cycle - 36524 * c = 1461 * f + inFour := by omega
  have hf : 0 ≤ f ∧ f ≤ 24 := by omega
  have hr : 0 ≤ r ∧ r ≤ 3 := by omega
  have hfirst := daysBeforeYear_cycles q hc hf hr
  refine ⟨by omega, ?_⟩
  -- the year after is the next of its four, or begins a cycle
  by_cases hr3 : r < 3
  · have hnext := daysBeforeYear_cycles q hc hf (r := r + 1) (by omega)
    rw [show 400 * q + 100 * c + 4 * f + r + 1 + 1 =
      400 * q + 100 * c + 4 * f + (r + 1) + 1 from by omega, hnext]
    omega
  by_cases hf24 : f < 24
  · have hnext := daysBeforeYear_cycles q hc (f := f + 1) (r := 0)
      (by omega) (by omega)
    rw [show 400 * q + 100 * c + 4 * f + r + 1 + 1 =
      400 * q + 100 * c + 4 * (f + 1) + 0 + 1 from by omega, hnext]
    omega
  by_cases hc3 : c < 3
  · have hnext := daysBeforeYear_cycles q (c := c + 1) (f := 0) (r := 0)
      (by omega) (by omega) (by omega)
    rw [show 400 * q + 100 * c + 4 * f + r + 1 + 1 =
      400 * q + 100 * (c + 1) + 4 * 0 + 0 + 1 from by omega, hnext]
    omega
  · have hnext := daysBeforeYear_cycles (q + 1) (c := 0) (f := 0) (r := 0)
      (by omega) (by omega) (by omega)
    rw [show 400 * q + 100 * c + 4 * f + r + 1 + 1 =
      400 * (q + 1) + 100 * 0 + 4 * 0 + 0 + 1 from by omega, hnext]
    omega

theorem yearOf_eq {n year : Int} (hfirst : daysBeforeYear year ≤ n)
    (hnext : n < daysBeforeYear (year + 1)) : yearOf n = year := by
  obtain ⟨hlo, hhi⟩ := yearOf_bounds n
  by_contra hne
  by_cases hbefore : yearOf n < year
  · have hmono := daysBeforeYear_mono (show yearOf n + 1 ≤ year by omega)
    omega
  · have hmono := daysBeforeYear_mono (show year + 1 ≤ yearOf n by omega)
    omega

/-! ## Months -/

/-- The lengths of the months. -/
def monthLengths (leap : Bool) : List Nat :=
  [31, if leap then 29 else 28, 31, 30, 31, 30, 31, 31, 30, 31, 30, 31]

theorem monthLengths_length (leap : Bool) : (monthLengths leap).length = 12 :=
  rfl

theorem monthLengths_sum (year : Int) :
    (monthLengths (isLeap year)).sum = yearLength year := by
  unfold yearLength
  by_cases hleap : isLeap year = true
  · rw [if_pos hleap, hleap]
    rfl
  · rw [Bool.not_eq_true] at hleap
    rw [hleap]
    rfl

/-- The span a position lies in, and where in it. -/
def locate : List Nat → Nat → Nat × Nat
  | [], k => (0, k)
  | len :: lens, k =>
      if k < len then (0, k)
      else
        let (i, j) := locate lens (k - len)
        (i + 1, j)

/-- Where a position inside a span is found. -/
theorem locate_eq {lens : List Nat} {i j : Nat} (hi : i < lens.length)
    (hj : j < lens[i]) : locate lens ((lens.take i).sum + j) = (i, j) := by
  induction lens generalizing i with
  | nil => exact absurd hi (Nat.not_lt_zero i)
  | cons len lens ih =>
      cases i with
      | zero =>
          have hj : j < len := hj
          rw [locate, List.take_zero, List.sum_nil, Nat.zero_add, if_pos hj]
      | succ i =>
          have hi : i < lens.length := Nat.lt_of_succ_lt_succ hi
          have hj : j < lens[i] := hj
          have hpast : ¬ (List.take (i + 1) (len :: lens)).sum + j < len := by
            rw [List.take_succ_cons, List.sum_cons]
            omega
          have hrest : (List.take (i + 1) (len :: lens)).sum + j - len =
              (lens.take i).sum + j := by
            rw [List.take_succ_cons, List.sum_cons]
            omega
          rw [locate, if_neg hpast, hrest, ih hi hj]

/-- Every position below the sum lies in a span. -/
theorem locate_spec {lens : List Nat} {k : Nat} (hk : k < lens.sum) :
    ∃ h : (locate lens k).1 < lens.length,
      (locate lens k).2 < lens[(locate lens k).1] ∧
      (lens.take (locate lens k).1).sum + (locate lens k).2 = k := by
  induction lens generalizing k with
  | nil => exact absurd hk (Nat.not_lt_zero k)
  | cons len lens ih =>
      rw [List.sum_cons] at hk
      by_cases hin : k < len
      · have hlocate : locate (len :: lens) k = (0, k) := by
          rw [locate, if_pos hin]
        simp only [hlocate]
        exact ⟨Nat.zero_lt_succ _, hin, by simp⟩
      · obtain ⟨hi, hj, hsum⟩ := ih (k := k - len) (by omega)
        have hlocate : locate (len :: lens) k =
            ((locate lens (k - len)).1 + 1, (locate lens (k - len)).2) := by
          rw [locate, if_neg hin]
        simp only [hlocate]
        refine ⟨Nat.succ_lt_succ hi, hj, ?_⟩
        rw [List.take_succ_cons, List.sum_cons]
        omega

/-! ## Dates -/

/-- The length of a month, the first being January; 0 if there is no such
month. -/
def monthLength (year : Int) (month : Nat) : Nat :=
  (monthLengths (isLeap year)).getD (month - 1) 0

/-- A day of the calendar. -/
@[ext] structure Date where
  year : Int
  month : Nat
  day : Nat
  month_pos : 1 ≤ month
  day_pos : 1 ≤ day
  day_le : day ≤ monthLength year month

namespace Date

theorem month_le (d : Date) : d.month - 1 < 12 := by
  by_contra hlarge
  have hnone : monthLength d.year d.month = 0 := by
    unfold monthLength
    rw [List.getD_eq_default]
    rw [monthLengths_length]
    omega
  have hpos := d.day_pos
  have hle := d.day_le
  omega

/-- Days since the first of January. -/
def dayOfYear (d : Date) : Nat :=
  ((monthLengths (isLeap d.year)).take (d.month - 1)).sum + (d.day - 1)

/-- The number of the day. -/
def ordinal (d : Date) : Int := daysBeforeYear d.year + d.dayOfYear

theorem locate_dayOfYear (d : Date) :
    locate (monthLengths (isLeap d.year)) d.dayOfYear =
      (d.month - 1, d.day - 1) := by
  have hmonth : d.month - 1 < (monthLengths (isLeap d.year)).length :=
    d.month_le
  have hday : d.day - 1 < (monthLengths (isLeap d.year))[d.month - 1] := by
    have hpos := d.day_pos
    have hle := d.day_le
    rw [monthLength, List.getD_eq_getElem _ _ hmonth] at hle
    omega
  exact locate_eq hmonth hday

theorem dayOfYear_lt (d : Date) : d.dayOfYear < yearLength d.year := by
  have hmonth : d.month - 1 < (monthLengths (isLeap d.year)).length :=
    d.month_le
  have hsplit := List.sum_take_add_sum_drop
    (monthLengths (isLeap d.year)) (d.month - 1)
  rw [List.drop_eq_getElem_cons hmonth, List.sum_cons, monthLengths_sum]
    at hsplit
  have hpos := d.day_pos
  have hle := d.day_le
  rw [monthLength, List.getD_eq_getElem _ _ hmonth] at hle
  unfold dayOfYear
  omega

theorem yearOf_ordinal (d : Date) : yearOf d.ordinal = d.year := by
  have hlt := d.dayOfYear_lt
  apply yearOf_eq
  · unfold ordinal
    omega
  · rw [daysBeforeYear_succ]
    unfold ordinal
    omega

/-- The day of the year of a day number. -/
def offset (n : Int) : Nat := (n - daysBeforeYear (yearOf n)).toNat

theorem offset_lt (n : Int) :
    offset n < (monthLengths (isLeap (yearOf n))).sum := by
  obtain ⟨hlo, hhi⟩ := yearOf_bounds n
  rw [daysBeforeYear_succ] at hhi
  rw [monthLengths_sum]
  unfold offset
  omega

/-- The date of a day number. -/
def ofOrdinal (n : Int) : Date where
  year := yearOf n
  month := (locate (monthLengths (isLeap (yearOf n))) (offset n)).1 + 1
  day := (locate (monthLengths (isLeap (yearOf n))) (offset n)).2 + 1
  month_pos := Nat.le_add_left 1 _
  day_pos := Nat.le_add_left 1 _
  day_le := by
    obtain ⟨hmonth, hday, -⟩ := locate_spec (offset_lt n)
    rw [monthLength, Nat.add_sub_cancel, List.getD_eq_getElem _ _ hmonth]
    exact hday

theorem ordinal_ofOrdinal (n : Int) : (ofOrdinal n).ordinal = n := by
  obtain ⟨hlo, -⟩ := yearOf_bounds n
  obtain ⟨-, -, hsum⟩ := locate_spec (offset_lt n)
  have hoffset : (ofOrdinal n).dayOfYear = offset n := hsum
  show daysBeforeYear (yearOf n) + (ofOrdinal n).dayOfYear = n
  rw [hoffset]
  unfold offset
  omega

theorem ofOrdinal_ordinal (d : Date) : ofOrdinal d.ordinal = d := by
  have hyear := d.yearOf_ordinal
  have hoffset : offset d.ordinal = d.dayOfYear := by
    unfold offset
    rw [hyear]
    unfold ordinal
    omega
  have hmonth := d.month_pos
  have hday := d.day_pos
  apply Date.ext
  · exact hyear
  · show (locate (monthLengths (isLeap (yearOf d.ordinal)))
      (offset d.ordinal)).1 + 1 = d.month
    rw [hyear, hoffset, d.locate_dayOfYear]
    exact Nat.sub_add_cancel hmonth
  · show (locate (monthLengths (isLeap (yearOf d.ordinal)))
      (offset d.ordinal)).2 + 1 = d.day
    rw [hyear, hoffset, d.locate_dayOfYear]
    exact Nat.sub_add_cancel hday

/-- **Dates are day numbers.** -/
def equiv : Date ≃ Int where
  toFun := ordinal
  invFun := ofOrdinal
  left_inv := ofOrdinal_ordinal
  right_inv := ordinal_ofOrdinal

end Date

/-! ## Times -/

/-- A date with a time of day. -/
@[ext] structure DateTime where
  date : Date
  hour : Nat
  minute : Nat
  second : Nat
  microsecond : Nat
  hour_lt : hour < 24
  minute_lt : minute < 60
  second_lt : second < 60
  microsecond_lt : microsecond < 1000000

namespace DateTime

/-- The number of the day the Unix epoch begins with. -/
def unixEpoch : Int := 719162

example : Date.ordinal ⟨1970, 1, 1, by decide, by decide, by decide⟩ =
    unixEpoch := by decide

/-- Microseconds since the Unix epoch. -/
def toUnix (d : DateTime) : Int :=
  (d.date.ordinal - unixEpoch) * 86400000000
    + (d.hour * 3600000000 + d.minute * 60000000 + d.second * 1000000
      + d.microsecond : Nat)

/-- The time of day of a number of microseconds. -/
def timeOfDay (ts : Int) : Nat := (ts % 86400000000).toNat

/-- The time of a number of microseconds since the Unix epoch. -/
def ofUnix (ts : Int) : DateTime where
  date := Date.ofOrdinal (ts / 86400000000 + unixEpoch)
  hour := timeOfDay ts / 3600000000
  minute := timeOfDay ts / 60000000 % 60
  second := timeOfDay ts / 1000000 % 60
  microsecond := timeOfDay ts % 1000000
  hour_lt := by
    unfold timeOfDay
    omega
  minute_lt := Nat.mod_lt _ (by decide)
  second_lt := Nat.mod_lt _ (by decide)
  microsecond_lt := Nat.mod_lt _ (by decide)

theorem toUnix_ofUnix (ts : Int) : (ofUnix ts).toUnix = ts := by
  show ((Date.ofOrdinal _).ordinal - unixEpoch) * 86400000000
    + (timeOfDay ts / 3600000000 * 3600000000
      + timeOfDay ts / 60000000 % 60 * 60000000
      + timeOfDay ts / 1000000 % 60 * 1000000
      + timeOfDay ts % 1000000 : Nat) = ts
  rw [Date.ordinal_ofOrdinal]
  have htime : (timeOfDay ts : Int) = ts % 86400000000 := by
    unfold timeOfDay
    omega
  omega

theorem ofUnix_toUnix (d : DateTime) : ofUnix d.toUnix = d := by
  have hhour := d.hour_lt
  have hminute := d.minute_lt
  have hsecond := d.second_lt
  have hmicro := d.microsecond_lt
  have hdays : d.toUnix / 86400000000 + unixEpoch = d.date.ordinal := by
    unfold toUnix
    omega
  have htime : timeOfDay d.toUnix = d.hour * 3600000000
      + d.minute * 60000000 + d.second * 1000000 + d.microsecond := by
    unfold timeOfDay toUnix
    omega
  apply DateTime.ext
  · show Date.ofOrdinal (d.toUnix / 86400000000 + unixEpoch) = d.date
    rw [hdays, Date.ofOrdinal_ordinal]
  · show timeOfDay d.toUnix / 3600000000 = d.hour
    omega
  · show timeOfDay d.toUnix / 60000000 % 60 = d.minute
    omega
  · show timeOfDay d.toUnix / 1000000 % 60 = d.second
    omega
  · show timeOfDay d.toUnix % 1000000 = d.microsecond
    omega

/-- **Times are microseconds.** -/
def equiv : DateTime ≃ Int where
  toFun := toUnix
  invFun := ofUnix
  left_inv := ofUnix_toUnix
  right_inv := toUnix_ofUnix

end DateTime

end RenderEngine.Verified.Calendar
