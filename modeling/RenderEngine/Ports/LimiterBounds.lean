import RenderEngine.Ports.RateLimit
import RenderEngine.Verified.FixedWindow
import Mathlib.Data.List.Induction

/-!
# What the limiter bounds, and what it promises (`rate_limit.rs`)

A run is a list of times at which `check` is called.  `Tracks` says how the
bucket stands to the calls let through so far: its count is the number of those
in its window, and every other window lies behind it.

A refused caller is told how many seconds to wait.  The number is the time left
in the window in whole seconds, rounded down, so that it is too small unless
nothing was lost by rounding.

## Main results

* `Tracks.check`: what one call preserves.
* `limiter_bounds`: count, refusals, and any interval of 60 seconds.
* `retryHonest_iff`: when waiting as long as told is enough.
-/

namespace RenderEngine.Ports.LimiterBounds

open RenderEngine.Ports.RateLimit
open RenderEngine.Ports.RustStd
open RenderEngine.Verified.FixedWindow

/-! ## Runs -/

/-- The limiter after calls at these times. -/
def run (r : DemoRateLimiter) (times : List Nat) : DemoRateLimiter :=
  times.foldl (fun r now => (r.check now).2) r

/-- The call at `now`, if it is let through, and the window it counts in. -/
def entry (r : DemoRateLimiter) (now : Nat) : List Entry :=
  if (r.check now).1.isOk then [⟨now, (r.check now).2.state.windowStart⟩]
  else []

/-- The calls of a run that are let through. -/
def log : DemoRateLimiter → List Nat → List Entry
  | _, [] => []
  | r, now :: times => entry r now ++ log (r.check now).2 times

/-- The times of the calls that are let through. -/
def admittedTimes (r : DemoRateLimiter) (times : List Nat) : List Nat :=
  (log r times).map Entry.time

theorem run_concat (r : DemoRateLimiter) (times : List Nat) (now : Nat) :
    run r (times ++ [now]) = ((run r times).check now).2 := by
  rw [run, List.foldl_append]
  rfl

theorem log_concat (r : DemoRateLimiter) (times : List Nat) (now : Nat) :
    log r (times ++ [now]) = log r times ++ entry (run r times) now := by
  induction times generalizing r with
  | nil => exact List.append_nil _
  | cons first times ih =>
      show entry r first ++ log (r.check first).2 (times ++ [now]) = _
      rw [ih, ← List.append_assoc]
      rfl

/-! ## The bucket and the calls let through -/

/-- The bucket of `r` after the calls `log`, none of them later than `last`. -/
structure Tracks (r : DemoRateLimiter) (log : List Entry) (last : Nat) :
    Prop where
  begun : r.state.windowStart ≤ last
  past : ∀ c ∈ log, c.time ≤ last
  windowed : Windowed window r.limitPerMin log
  behind : ∀ c ∈ log, c.start = r.state.windowStart ∨
    c.start + window ≤ r.state.windowStart
  counted : log.countP (fun c => c.start = r.state.windowStart) = r.state.count
  room : r.state.count ≤ r.limitPerMin

theorem tracks_new (limit start : Nat) :
    Tracks (.new limit start) [] start where
  begun := Nat.le_refl start
  past := nofun
  windowed := windowed_nil window limit
  behind := nofun
  counted := rfl
  room := Nat.zero_le limit

/-- A refused call found its window full. -/
theorem full_of_exceeded {r : DemoRateLimiter} {now retryAfterSec max : Nat}
    (h : (r.check now).1 = .exceeded retryAfterSec max) :
    r.limitPerMin ≤ (r.rolled now).count := by
  by_contra hroom
  rw [r.check_of_room now (Nat.not_le.mp hroom)] at h
  cases h

section Step

variable {r : DemoRateLimiter} {log : List Entry} {last now : Nat}

/-- Rolling leaves every call behind that has been let through. -/
theorem Tracks.roll (h : Tracks r log last) (hnow : last ≤ now) :
    Tracks { r with state := r.rolled now } log now := by
  have hbegun := h.begun
  unfold DemoRateLimiter.rolled
  by_cases hexpired : durationSince now r.state.windowStart ≥ window
  · rw [if_pos hexpired]
    have hend : window ≤ now - r.state.windowStart := hexpired
    have hbehind : ∀ c ∈ log, c.start + window ≤ now := by
      intro c hc
      have hc := h.behind c hc
      omega
    have hpos : 0 < window := by decide
    exact {
      begun := Nat.le_refl now
      past := fun c hc => Nat.le_trans (h.past c hc) hnow
      windowed := h.windowed
      behind := fun c hc => .inr (hbehind c hc)
      counted := by
        rw [List.countP_eq_zero]
        intro c hc hstart
        have hc := hbehind c hc
        have hstart : c.start = now := of_decide_eq_true hstart
        omega
      room := Nat.zero_le r.limitPerMin }
  · rw [if_neg hexpired]
    exact {
      begun := Nat.le_trans hbegun hnow
      past := fun c hc => Nat.le_trans (h.past c hc) hnow
      windowed := h.windowed
      behind := h.behind
      counted := h.counted
      room := h.room }

/-- **One call**: what the bucket stands for is preserved. -/
theorem Tracks.check (h : Tracks r log last) (hnow : last ≤ now) :
    Tracks (r.check now).2 (log ++ entry r now) now := by
  have hroll := h.roll hnow
  by_cases hroom : (r.rolled now).count < r.limitPerMin
  · have hcheck := r.check_of_room now hroom
    have hinside := r.check_inWindow now
    have hentry : entry r now = [⟨now, (r.rolled now).windowStart⟩] := by
      unfold entry
      rw [hcheck]
      rfl
    have hbegun : (r.rolled now).windowStart ≤ now := hroll.begun
    have hcounted : log.countP
        (fun c => c.start = (r.rolled now).windowStart) =
          (r.rolled now).count := hroll.counted
    rw [r.check_windowStart] at hinside
    unfold durationSince at hinside
    rw [hcheck, hentry]
    exact {
      begun := hbegun
      past := by
        intro c hc
        rw [List.mem_append, List.mem_singleton] at hc
        cases hc with
        | inl hc => exact hroll.past c hc
        | inr hc => exact Nat.le_of_eq (congrArg Entry.time hc)
      windowed := hroll.windowed.append
        ⟨hbegun, by show now < (r.rolled now).windowStart + window; omega⟩
        hroll.behind (hcounted.symm ▸ hroom)
      behind := by
        intro c hc
        rw [List.mem_append, List.mem_singleton] at hc
        cases hc with
        | inl hc => exact hroll.behind c hc
        | inr hc => exact .inl (congrArg Entry.start hc)
      counted := by
        show List.countP (fun c : Entry => c.start = (r.rolled now).windowStart)
          (log ++ [⟨now, (r.rolled now).windowStart⟩]) =
            (r.rolled now).count + 1
        rw [List.countP_append, List.countP_singleton, hcounted,
          if_pos (decide_eq_true rfl)]
      room := hroom }
  · have hcheck := r.check_of_full now (Nat.not_lt.mp hroom)
    have hentry : entry r now = [] := by
      unfold entry
      rw [hcheck]
      rfl
    rw [hcheck, hentry, List.append_nil]
    exact hroll

/-- The calls that count in the bucket's window are those since it began. -/
theorem Tracks.countP_since (h : Tracks r log last) :
    log.countP (fun c : Entry => r.state.windowStart ≤ c.time) =
      r.state.count := by
  rw [← h.counted]
  apply List.countP_congr
  intro c hc
  have hin := h.windowed.inside c hc
  have hbehind := h.behind c hc
  simp only [decide_eq_true_eq]
  omega

/-- A refused call found its window full, and the window still open. -/
theorem Tracks.exceeded (h : Tracks r log last) (hnow : last ≤ now)
    {retryAfterSec max : Nat}
    (hrefused : (r.check now).1 = .exceeded retryAfterSec max) :
    (r.rolled now).windowStart ≤ now ∧
      now < (r.rolled now).windowStart + window ∧
      log.countP (fun c : Entry => (r.rolled now).windowStart ≤ c.time) =
        r.limitPerMin := by
  have hroll := h.roll hnow
  have hbegun : (r.rolled now).windowStart ≤ now := hroll.begun
  have hroom : (r.rolled now).count ≤ r.limitPerMin := hroll.room
  have hfull := full_of_exceeded hrefused
  have hinside := r.check_inWindow now
  rw [r.check_windowStart] at hinside
  unfold durationSince at hinside
  refine ⟨hbegun, by omega, ?_⟩
  exact hroll.countP_since.trans (Nat.le_antisymm hroom hfull)

end Step

/-- The time of the last call, or of the limiter's start. -/
def lastCall (start : Nat) (times : List Nat) : Nat :=
  (start :: times).getLast (List.cons_ne_nil start times)

theorem lastCall_le {start now : Nat} {times : List Nat}
    (hsorted : (start :: (times ++ [now])).Pairwise (· ≤ ·)) :
    lastCall start times ≤ now := by
  rw [← List.cons_append, List.pairwise_append] at hsorted
  exact hsorted.2.2 _ (List.getLast_mem _) now List.mem_cons_self

/-- **A run** of calls at times that never step back. -/
theorem tracks_run (limit : Nat) {start : Nat} {times : List Nat}
    (hsorted : (start :: times).Pairwise (· ≤ ·)) :
    Tracks (run (.new limit start) times) (log (.new limit start) times)
      (lastCall start times) := by
  induction times using List.reverseRecOn with
  | nil => exact tracks_new limit start
  | append_singleton times now ih =>
      have hbefore : (start :: times).Pairwise (· ≤ ·) :=
        hsorted.sublist ((List.sublist_append_left times [now]).cons_cons start)
      have hlast : lastCall start (times ++ [now]) = now := by
        unfold lastCall
        simp
      rw [run_concat, log_concat, hlast]
      exact (ih hbefore).check (lastCall_le hsorted)

theorem run_limitPerMin (r : DemoRateLimiter) (times : List Nat) :
    (run r times).limitPerMin = r.limitPerMin := by
  induction times using List.reverseRecOn with
  | nil => rfl
  | append_singleton times now ih =>
      rw [run_concat, DemoRateLimiter.check_limitPerMin, ih]

/-- **The bounds of the limiter**, over every run: the count keeps the limit;
a call is refused only after `limit` calls since its window began, which was
less than 60 seconds before; and 60 seconds hold at most twice the limit. -/
theorem limiter_bounds (limit start : Nat) {times : List Nat}
    (hsorted : (start :: times).Pairwise (· ≤ ·)) :
    (∀ pre, pre <+: times →
      (run (.new limit start) pre).state.count ≤ limit) ∧
    (∀ pre now retryAfterSec max, pre ++ [now] <+: times →
      ((run (.new limit start) pre).check now).1 =
        .exceeded retryAfterSec max →
      ∃ windowStart, windowStart ≤ now ∧ now < windowStart + window ∧
        ((run (.new limit start) pre).check now).2.state.windowStart =
          windowStart ∧
        (admittedTimes (.new limit start) pre).countP (windowStart ≤ ·) =
          limit) ∧
    (∀ a, (admittedTimes (.new limit start) times).countP
      (fun t => a ≤ t ∧ t < a + window) ≤ 2 * limit) := by
  have hearlier : ∀ {pre}, pre <+: times →
      (start :: pre).Pairwise (· ≤ ·) := by
    intro pre hpre
    exact hsorted.sublist (hpre.sublist.cons_cons start)
  refine ⟨?_, ?_, ?_⟩
  · intro pre hpre
    have hroom := (tracks_run limit (hearlier hpre)).room
    rw [run_limitPerMin] at hroom
    exact hroom
  · intro pre now retryAfterSec max hpre hrefused
    have hbefore := hearlier ((List.prefix_append pre [now]).trans hpre)
    have hfull := (tracks_run limit hbefore).exceeded
      (lastCall_le (hearlier hpre)) hrefused
    obtain ⟨hbegun, hopen, hcount⟩ := hfull
    refine ⟨_, hbegun, hopen, DemoRateLimiter.check_windowStart _ now, ?_⟩
    rw [run_limitPerMin] at hcount
    rw [admittedTimes, List.countP_map]
    exact hcount
  · intro a
    have hwindowed := (tracks_run limit hsorted).windowed
    rw [run_limitPerMin] at hwindowed
    rw [admittedTimes, List.countP_map]
    exact countP_interval_le hwindowed a

/-- Two calls a minute, and six of them around the end of a window. -/
theorem limiter_bounds_six :
    (admittedTimes (.new 2 0) [1, 2, 3, 60000000000, 60000000001,
        60000000002]).countP
      (fun t => 1 ≤ t ∧ t < 1 + window) ≤ 2 * 2 :=
  (limiter_bounds 2 0 (by decide)).2.2 1

/-! ## Waiting as long as told -/

section Retry

variable (r : DemoRateLimiter) (now : Nat)

/-- A refused caller is told between one and sixty seconds, and is let through
at any time after them, if nobody calls in between. -/
def RetryHonest : Prop :=
  ∀ retryAfterSec max, (r.check now).1 = .exceeded retryAfterSec max →
    1 ≤ retryAfterSec ∧ retryAfterSec ≤ 60 ∧
    ∀ later, now + fromSecs retryAfterSec ≤ later →
      ((r.check now).2.check later).1.isOk = true

/-- The window has ended, or has room. -/
def LetsThrough : Prop :=
  window ≤ durationSince now r.state.windowStart ∨
    r.state.count < r.limitPerMin

/-- What is left of the window. -/
def timeLeft : Nat := window - durationSince now r.state.windowStart

variable {r now}

theorem letsThrough_iff (hlimit : 1 ≤ r.limitPerMin) :
    LetsThrough r now ↔ (r.rolled now).count < r.limitPerMin := by
  unfold LetsThrough DemoRateLimiter.rolled
  by_cases hexpired : durationSince now r.state.windowStart ≥ window
  · rw [if_pos hexpired]
    exact iff_of_true (.inl hexpired) hlimit
  · rw [if_neg hexpired]
    constructor
    · intro h
      exact h.resolve_left hexpired
    · exact .inr

/-- A call that is not let through leaves the limiter as it is, and tells the
whole seconds that are left. -/
theorem check_of_not_letsThrough (h : ¬ LetsThrough r now) :
    r.check now = (.exceeded (max (asSecs (timeLeft r now)) 1) r.limitPerMin,
      r) := by
  have hopen : ¬ durationSince now r.state.windowStart ≥ window :=
    fun hexpired => h (.inl hexpired)
  have hrolled : r.rolled now = r.state := by
    unfold DemoRateLimiter.rolled
    rw [if_neg hopen]
  have hfull : r.limitPerMin ≤ (r.rolled now).count := by
    rw [hrolled]
    exact Nat.not_lt.mp fun hroom => h (.inr hroom)
  rw [r.check_of_full now hfull, hrolled]
  rfl

/-- The seconds told are enough unless time was lost by rounding down. -/
private theorem whole_iff {left : Nat} (hpos : 0 < left) :
    left ≤ fromSecs (max (asSecs left) 1) ↔
      left % fromSecs 1 = 0 ∨ left < fromSecs 1 := by
  unfold fromSecs asSecs
  omega

/-- **Waiting as long as told is enough** exactly when the call is let through,
or the clock is not behind the window and what is left of the window is a whole
number of seconds, or less than one. -/
theorem retryHonest_iff (hlimit : 1 ≤ r.limitPerMin) :
    RetryHonest r now ↔
      LetsThrough r now ∨
      (r.state.windowStart ≤ now ∧
        (timeLeft r now % fromSecs 1 = 0 ∨ timeLeft r now < fromSecs 1)) := by
  by_cases hthrough : LetsThrough r now
  · refine iff_of_true ?_ (.inl hthrough)
    intro retryAfterSec max hrefused
    have hfull := full_of_exceeded hrefused
    have hroom := (letsThrough_iff hlimit).mp hthrough
    omega
  · have hcheck := check_of_not_letsThrough hthrough
    have hfull : ¬ r.state.count < r.limitPerMin :=
      fun hroom => hthrough (.inr hroom)
    have hopen : durationSince now r.state.windowStart < window :=
      Nat.not_le.mp fun hexpired => hthrough (.inl hexpired)
    have hwindow : window = 60 * 1000000000 := rfl
    have hleft : timeLeft r now =
        window - durationSince now r.state.windowStart := rfl
    have hpos : 0 < timeLeft r now := by omega
    -- nothing but the end of the window lets the next call through
    have hlater : ∀ later, (r.check later).1.isOk = true ↔
        r.state.windowStart + window ≤ later := by
      intro later
      rw [r.check_ok_iff, ← letsThrough_iff hlimit]
      unfold LetsThrough durationSince
      omega
    rw [or_iff_right hthrough, ← whole_iff hpos]
    unfold RetryHonest
    rw [hcheck]
    unfold durationSince at hopen hleft
    constructor
    · intro h
      obtain ⟨-, -, hwait⟩ := h _ _ rfl
      have hend := (hlater _).mp (hwait _ (Nat.le_refl _))
      have hbound : fromSecs (max (asSecs (timeLeft r now)) 1) ≤ window := by
        unfold fromSecs asSecs
        omega
      omega
    · rintro ⟨hbegun, hwhole⟩ retryAfterSec max hrefused
      cases hrefused
      refine ⟨Nat.le_max_right _ _, ?_, ?_⟩
      · unfold asSecs
        omega
      · intro later hwaited
        rw [hlater]
        omega

end Retry

/-- A full window half a second old. -/
def halfSecondOld : DemoRateLimiter where
  limitPerMin := 5
  state := { windowStart := 0, count := 5 }

/-- After half a second a caller is told 59 seconds of 59 and a half. -/
theorem not_retryHonest_halfSecondOld :
    ¬ RetryHonest halfSecondOld 500000000 := by
  intro h
  obtain ⟨-, -, hwait⟩ := h 59 5 (by decide)
  exact absurd (hwait 59500000000 (by decide)) (by decide)

/-- At the start of the window a caller is told all of its 60 seconds. -/
theorem retryHonest_iff_start : RetryHonest halfSecondOld 0 :=
  (retryHonest_iff (by decide)).mpr (.inr ⟨by decide, .inl (by decide)⟩)

end RenderEngine.Ports.LimiterBounds
