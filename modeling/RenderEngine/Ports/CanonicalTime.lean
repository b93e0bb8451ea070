import RenderEngine.Ports.CoreTypes
import RenderEngine.Verified.Calendar

/-!
# Canonical timestamps (`format_canonical_ts` of `lab-client/postgres.rs`)

The lab signs the text that Python's `datetime.isoformat()` gives for a time;
the server prints the time it reads from the database with a format string of
`chrono`.  Both print the fields of the calendar.  They part where there are no
microseconds: Python leaves the fraction out, the format string does not.

## Main results

* `formatCanonicalTs_toUnix`: the server's text, field by field.
* `formatCanonicalTs_eq_isoformat_iff`: when the two texts are the same.
-/

namespace RenderEngine.Ports.CanonicalTime

open RenderEngine.Ports.CoreTypes
open RenderEngine.Verified.Calendar

/-! ## `chrono` -/

/-- A number padded with zeros. -/
def padded (width n : Nat) : Text :=
  List.replicate (width - (decimal n).length) '0' ++ decimal n

/-- `%Y`: four digits, and a sign outside the years 0 to 9999. -/
def yearText (year : Int) : Text :=
  if 0 ≤ year ∧ year ≤ 9999 then padded 4 year.toNat
  else if 0 ≤ year then '+' :: padded 4 year.toNat
  else '-' :: padded 4 year.natAbs

/-- `%Y-%m-%dT%H:%M:%S`. -/
def secondsText (d : DateTime) : Text :=
  yearText d.date.year ++ '-' :: padded 2 d.date.month
    ++ '-' :: padded 2 d.date.day ++ 'T' :: padded 2 d.hour
    ++ ':' :: padded 2 d.minute ++ ':' :: padded 2 d.second

/-- `%.6f`. -/
def fractionText (d : DateTime) : Text := '.' :: padded 6 d.microsecond

def utcOffset : Text := "+00:00".toList

/-- `format_canonical_ts`. -/
def formatCanonicalTs (ts : Timestamp) : Text :=
  let d := DateTime.ofUnix ts
  secondsText d ++ fractionText d ++ utcOffset

/-! ## Python -/

/-- A `datetime` with the time zone UTC. -/
structure PythonDatetime extends DateTime where
  year_min : 1 ≤ date.year
  year_max : date.year ≤ 9999

namespace PythonDatetime

/-- `isoformat()`: the microseconds are printed unless there are none. -/
def isoformat (d : PythonDatetime) : Text :=
  padded 4 d.date.year.toNat ++ '-' :: padded 2 d.date.month
    ++ '-' :: padded 2 d.date.day ++ 'T' :: padded 2 d.hour
    ++ ':' :: padded 2 d.minute ++ ':' :: padded 2 d.second
    ++ (if d.microsecond = 0 then [] else '.' :: padded 6 d.microsecond)
    ++ utcOffset

/-- Up to the seconds both print the same. -/
theorem isoformat_eq (d : PythonDatetime) :
    d.isoformat = secondsText d.toDateTime
      ++ (if d.microsecond = 0 then [] else fractionText d.toDateTime)
      ++ utcOffset := by
  have hmin := d.year_min
  have hmax := d.year_max
  have hyear : yearText d.date.year = padded 4 d.date.year.toNat := by
    unfold yearText
    rw [if_pos ⟨by omega, hmax⟩]
  unfold isoformat secondsText fractionText
  rw [hyear]

/-- The server's text of the same time. -/
theorem formatCanonicalTs_toUnix (d : PythonDatetime) :
    formatCanonicalTs d.toUnix = secondsText d.toDateTime
      ++ fractionText d.toDateTime ++ utcOffset := by
  unfold formatCanonicalTs
  rw [DateTime.ofUnix_toUnix]

/-- **The texts are the same exactly when there are microseconds**, for every
time from the year 1 to the year 9999. -/
theorem formatCanonicalTs_eq_isoformat_iff (d : PythonDatetime) :
    formatCanonicalTs d.toUnix = d.isoformat ↔ d.microsecond ≠ 0 := by
  rw [formatCanonicalTs_toUnix, isoformat_eq]
  by_cases hmicro : d.microsecond = 0
  · rw [if_pos hmicro]
    refine iff_of_false ?_ (not_not_intro hmicro)
    intro htexts
    have hlength := congrArg List.length htexts
    simp only [fractionText, List.length_append, List.length_cons,
      List.length_nil] at hlength
    omega
  · rw [if_neg hmicro]
    exact iff_of_true rfl hmicro

end PythonDatetime

/-- Midnight, the first of January 2024. -/
def newYear : PythonDatetime where
  date := ⟨2024, 1, 1, by decide, by decide, by decide⟩
  hour := 0
  minute := 0
  second := 0
  microsecond := 0
  hour_lt := by decide
  minute_lt := by decide
  second_lt := by decide
  microsecond_lt := by decide
  year_min := by decide
  year_max := by decide

/-- At midnight the server prints six digits that Python does not. -/
theorem newYear_texts :
    formatCanonicalTs newYear.toUnix =
        "2024-01-01T00:00:00.000000+00:00".toList ∧
      newYear.isoformat = "2024-01-01T00:00:00+00:00".toList ∧
      ¬ ∀ d : PythonDatetime, formatCanonicalTs d.toUnix = d.isoformat := by
  refine ⟨by decide, by decide, fun hclaim => ?_⟩
  exact absurd (hclaim newYear) (by decide)

end RenderEngine.Ports.CanonicalTime
