import RenderEngine.Ports.RustStd

/-!
# The rate limiter of the demo key (`rate_limit.rs`)

One bucket counts the requests of a window of 60 seconds.  The first request
after the window's end starts the next one, so that windows begin when traffic
arrives.

## Main results

* `check_of_room`, `check_of_full`: the two things a check can do.
* `check_inWindow`: a check counts in a window that has not expired.
* `check_room`: each request let through in a window takes from its room.
-/

namespace RenderEngine.Ports.RateLimit

open RenderEngine.Ports.RustStd

structure BucketState where
  windowStart : Nat
  count : Nat
  deriving DecidableEq

structure DemoRateLimiter where
  limitPerMin : Nat
  state : BucketState
  deriving DecidableEq

inductive RateLimitDecision where
  | ok (countInWindow limit : Nat)
  | exceeded (retryAfterSec limit : Nat)
  deriving DecidableEq

def RateLimitDecision.isOk : RateLimitDecision → Bool
  | .ok _ _ => true
  | .exceeded _ _ => false

/-- The length of a window. -/
def window : Nat := fromSecs 60

namespace DemoRateLimiter

/-- `DemoRateLimiter::new`. -/
def new (limitPerMin : Nat) (now : Nat) : DemoRateLimiter where
  limitPerMin := limitPerMin
  state := { windowStart := now, count := 0 }

/-- The bucket once an expired window is rolled. -/
def rolled (r : DemoRateLimiter) (now : Nat) : BucketState :=
  if durationSince now r.state.windowStart ≥ window
  then { windowStart := now, count := 0 }
  else r.state

/-- `check`: count one request. -/
def check (r : DemoRateLimiter) (now : Nat) :
    RateLimitDecision × DemoRateLimiter :=
  let s := r.rolled now
  if s.count ≥ r.limitPerMin then
    let elapsed := durationSince now s.windowStart
    let retryAfterSec := max (asSecs (window - elapsed)) 1
    (.exceeded retryAfterSec r.limitPerMin, { r with state := s })
  else
    let s := { s with count := s.count + 1 }
    (.ok s.count r.limitPerMin, { r with state := s })

variable (r : DemoRateLimiter) (now : Nat)

/-- A request that the window has room for. -/
theorem check_of_room (hroom : (r.rolled now).count < r.limitPerMin) :
    r.check now =
      (.ok ((r.rolled now).count + 1) r.limitPerMin,
        { r with state :=
          { r.rolled now with count := (r.rolled now).count + 1 } }) := by
  unfold check
  rw [if_neg (Nat.not_le.mpr hroom)]

/-- A request that the window has no room for. -/
theorem check_of_full (hfull : r.limitPerMin ≤ (r.rolled now).count) :
    r.check now =
      (.exceeded (max (asSecs (window -
          durationSince now (r.rolled now).windowStart)) 1) r.limitPerMin,
        { r with state := r.rolled now }) := by
  unfold check
  rw [if_pos hfull]

theorem check_limitPerMin : (r.check now).2.limitPerMin = r.limitPerMin := by
  by_cases hroom : (r.rolled now).count < r.limitPerMin
  · rw [check_of_room r now hroom]
  · rw [check_of_full r now (Nat.not_lt.mp hroom)]

/-- A check leaves the window it found or has just rolled to. -/
theorem check_windowStart :
    (r.check now).2.state.windowStart = (r.rolled now).windowStart := by
  by_cases hroom : (r.rolled now).count < r.limitPerMin
  · rw [check_of_room r now hroom]
  · rw [check_of_full r now (Nat.not_lt.mp hroom)]

/-- A request is let through exactly while the window has room. -/
theorem check_ok_iff :
    (r.check now).1.isOk = true ↔ (r.rolled now).count < r.limitPerMin := by
  by_cases hroom : (r.rolled now).count < r.limitPerMin
  · rw [check_of_room r now hroom]
    exact iff_of_true rfl hroom
  · rw [check_of_full r now (Nat.not_lt.mp hroom)]
    exact iff_of_false Bool.false_ne_true hroom

/-- Requests that are let through are counted, refused ones are not. -/
theorem check_count :
    (r.check now).2.state.count = (r.rolled now).count +
      if (r.check now).1.isOk = true then 1 else 0 := by
  by_cases hroom : (r.rolled now).count < r.limitPerMin
  · rw [check_of_room r now hroom]
    rfl
  · rw [check_of_full r now (Nat.not_lt.mp hroom)]
    rfl

/-- Rolling goes on to a later window, which is empty. -/
theorem rolled_cases :
    r.rolled now = r.state ∨
      (r.state.windowStart < (r.rolled now).windowStart ∧
        (r.rolled now).count = 0) := by
  unfold rolled
  by_cases hexpired : durationSince now r.state.windowStart ≥ window
  · rw [if_pos hexpired]
    right
    refine ⟨?_, rfl⟩
    have helapsed : 60 * 1000000000 ≤ now - r.state.windowStart := hexpired
    show r.state.windowStart < now
    omega
  · rw [if_neg hexpired]
    left
    rfl

/-- The window a check counts in has not expired. -/
theorem check_inWindow :
    durationSince now (r.check now).2.state.windowStart < window := by
  have hwindow : 0 < window := by decide
  rw [check_windowStart]
  unfold rolled
  by_cases hexpired : durationSince now r.state.windowStart ≥ window
  · rw [if_pos hexpired]
    show now - now < window
    omega
  · rw [if_neg hexpired]
    omega

/-- How many requests can still be let through in the window that begins at
`start`: none once it is past. -/
def room (start : Nat) : Nat :=
  if r.state.windowStart = start then r.limitPerMin - r.state.count
  else if r.state.windowStart < start then r.limitPerMin
  else 0

/-- Each request let through in a window takes from the window's room. -/
theorem check_room (start : Nat) :
    (if (r.check now).1.isOk = true ∧
        (r.check now).2.state.windowStart = start then 1 else 0)
      + (r.check now).2.room start ≤ r.room start := by
  have hok := r.check_ok_iff now
  have hcount := r.check_count now
  have hcases := r.rolled_cases now
  unfold room
  rw [check_limitPerMin, hcount, check_windowStart]
  cases hpass : (r.check now).1.isOk with
  | true =>
      have hlt := hok.mp hpass
      simp only [true_and, if_true]
      cases hcases with
      | inl hsame =>
          rw [hsame] at hlt ⊢
          split_ifs <;> omega
      | inr hnext =>
          obtain ⟨hlater, hempty⟩ := hnext
          rw [hempty] at hlt ⊢
          split_ifs <;> omega
  | false =>
      simp only [Bool.false_eq_true, false_and, if_false, Nat.zero_add,
        Nat.add_zero]
      cases hcases with
      | inl hsame => rw [hsame]
      | inr hnext =>
          obtain ⟨hlater, hempty⟩ := hnext
          rw [hempty]
          split_ifs <;> omega

theorem room_le (start : Nat) : r.room start ≤ r.limitPerMin := by
  unfold room
  split_ifs <;> omega

end DemoRateLimiter

end RenderEngine.Ports.RateLimit
