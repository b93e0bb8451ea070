import RenderEngine.Ports.McpHandler
import RenderEngine.Verified.RunCost

/-!
# What the demo key's limit bounds

The limiter counts HTTP requests.  A request's body may be a batch, and every
message of it is dispatched, so the limit bounds the `tools/call` messages of
a window only together with the largest batch.

## Main results

* `demo_has_limiter`: no demo request goes past the limiter.
* `demo_window_bound`: the requests, and the `tools/call` messages, that are
  dispatched in a window.
-/

namespace RenderEngine.Ports.DemoLimit

open RenderEngine.Ports.CoreTypes
open RenderEngine.Ports.Serde
open RenderEngine.Ports.ServerConfig
open RenderEngine.Ports.Auth
open RenderEngine.Ports.Mcp
open RenderEngine.Ports.McpDispatch
open RenderEngine.Ports.McpHandler
open RenderEngine.Ports.RateLimit
open RenderEngine.Ports.RustStd
open RenderEngine.Ports.SeedWriter (asBytes)
open RenderEngine.Verified.RunCost

/-! ## Runs of the server -/

/-- A `POST /mcp`, with what it meets outside. -/
structure Request (JwkSet N : Type) where
  provider : Provider JwkSet
  /-- the limiter's clock -/
  now : Nat
  headers : HeaderMap
  body : Value N

section Runs

variable {W JwkSet Jwk DecodingKey N : Type}

/-- The state `serve` starts in: a limiter where a demo key is configured. -/
def startup (cfg : Config) (now : Nat) (world : W) : Shared W JwkSet where
  jwks := none
  demoLimiter :=
    cfg.authDemoApiKey.map fun _ => .new cfg.authDemoRateLimitPerMin now
  world := world

variable (app : AppState W JwkSet Jwk DecodingKey N)

/-- The state a request leaves. -/
def next (s : Shared W JwkSet) (req : Request JwkSet N) : Shared W JwkSet :=
  (mcpHandler app req.provider req.now s req.headers req.body).2

/-- The request comes with the demo key. -/
def isDemo (s : Shared W JwkSet) (req : Request JwkSet N) : Bool :=
  match (authenticate app.auth app.cfg req.provider s.jwks req.headers).1 with
  | .ok ctx => ctx.scheme == .demoApiKey
  | .error _ => false

/-- The limiter's window after a request. -/
def windowAfter (s : Shared W JwkSet) (req : Request JwkSet N) : Option Nat :=
  (next app s req).demoLimiter.map fun r => r.state.windowStart

/-- A demo request is let through in the window that begins at `start`. -/
def admittedIn (start : Nat) (s : Shared W JwkSet) (req : Request JwkSet N) :
    Bool :=
  isDemo app s req && !isRefused .demoApiKey req.now s.demoLimiter
    && windowAfter app s req == some start

/-- The `tools/call` messages of a body. -/
def toolCalls (body : Value N) : Nat := (messages body).countP isToolsCall

/-- The demo requests let through in a window. -/
def requestsIn (start : Nat) :
    Shared W JwkSet → List (Request JwkSet N) → Nat :=
  runCost (next app) fun s req =>
    if admittedIn app start s req then 1 else 0

/-- The `tools/call` messages that these requests have dispatched. -/
def toolCallsIn (start : Nat) :
    Shared W JwkSet → List (Request JwkSet N) → Nat :=
  runCost (next app) fun s req =>
    if admittedIn app start s req then toolCalls req.body else 0

/-- The most `tools/call` messages in one body. -/
def mostToolCalls (reqs : List (Request JwkSet N)) : Nat :=
  (reqs.map fun req => toolCalls req.body).foldr max 0

/-! ## What is dispatched -/

/-- Messages that are no `tools/call` leave the world as it is. -/
theorem responses_world (tenant : TenantId) {items : List (Value N)}
    (hnone : items.countP isToolsCall = 0) (w : W) :
    (responses app tenant items w).2 = w := by
  induction items generalizing w with
  | nil => rfl
  | cons item items ih =>
      rw [List.countP_cons] at hnone
      have hitem : isToolsCall item = false := by
        cases hcall : isToolsCall item with
        | false => rfl
        | true =>
            rw [hcall, if_pos rfl] at hnone
            omega
      rw [responses_cons, dispatchOne_world app.wire app.tools tenant hitem]
      exact ih (by omega) w

/-- **The work of a request is that of its `tools/call` messages.** -/
theorem next_world (s : Shared W JwkSet) {req : Request JwkSet N}
    (hnone : toolCalls req.body = 0) : (next app s req).world = s.world := by
  unfold next
  cases hauth : authenticate app.auth app.cfg req.provider s.jwks
      req.headers with
  | mk result jwks =>
      cases result with
      | error e => rw [mcpHandler_of_error app hauth]
      | ok ctx =>
          cases hrefused : isRefused ctx.scheme req.now s.demoLimiter with
          | true =>
              obtain ⟨_, _, hreply⟩ := mcpHandler_of_refused app hauth hrefused
              rw [hreply]
          | false =>
              rw [mcpHandler_of_admitted app hauth hrefused]
              exact responses_world app ctx.tenant hnone s.world

/-! ## The limiter over a run -/

theorem consume_of_not_demo {scheme : AuthScheme} (h : scheme ≠ .demoApiKey)
    (now : Nat) (limiter : Option DemoRateLimiter) :
    consume scheme now limiter = (none, limiter) := by
  unfold consume
  rw [if_neg h]

theorem next_demoLimiter (s : Shared W JwkSet) (req : Request JwkSet N) :
    (next app s req).demoLimiter =
      if isDemo app s req then (consume .demoApiKey req.now s.demoLimiter).2
      else s.demoLimiter := by
  unfold next isDemo
  cases hauth : authenticate app.auth app.cfg req.provider s.jwks
      req.headers with
  | mk result jwks =>
      cases result with
      | error e =>
          rw [mcpHandler_of_error app hauth]
          rfl
      | ok ctx =>
          have hconsume : (mcpHandler app req.provider req.now s req.headers
              req.body).2.demoLimiter =
                (consume ctx.scheme req.now s.demoLimiter).2 := by
            cases hrefused : isRefused ctx.scheme req.now s.demoLimiter with
            | true =>
                obtain ⟨_, _, hreply⟩ :=
                  mcpHandler_of_refused app hauth hrefused
                rw [hreply]
            | false => rw [mcpHandler_of_admitted app hauth hrefused]
          rw [hconsume]
          by_cases hdemo : ctx.scheme = .demoApiKey
          · simp only [hdemo, beq_self_eq_true, if_true]
          · have hnot : (ctx.scheme == AuthScheme.demoApiKey) = false :=
              beq_eq_false_iff_ne.mpr hdemo
            rw [consume_of_not_demo hdemo]
            simp only [hnot, Bool.false_eq_true, if_false]

/-- A limiter, once there, keeps its limit and its place. -/
theorem next_demoLimiter_some {s : Shared W JwkSet} {r : DemoRateLimiter}
    (hlimiter : s.demoLimiter = some r) (req : Request JwkSet N) :
    (next app s req).demoLimiter =
      some (if isDemo app s req then (r.check req.now).2 else r) := by
  rw [next_demoLimiter, hlimiter]
  by_cases hdemo : isDemo app s req = true
  · rw [if_pos hdemo, if_pos hdemo]
    rfl
  · rw [if_neg hdemo, if_neg hdemo]

theorem next_demoLimiter_isSome (s : Shared W JwkSet)
    (req : Request JwkSet N) :
    (next app s req).demoLimiter.isSome = s.demoLimiter.isSome := by
  cases hlimiter : s.demoLimiter with
  | none =>
      rw [next_demoLimiter, hlimiter]
      split_ifs <;> rfl
  | some r =>
      rw [next_demoLimiter_some app hlimiter]
      rfl

theorem run_demoLimiter_isSome (s : Shared W JwkSet)
    (reqs : List (Request JwkSet N)) :
    (reqs.foldl (next app) s).demoLimiter.isSome = s.demoLimiter.isSome := by
  induction reqs generalizing s with
  | nil => rfl
  | cons first reqs ih => rw [List.foldl_cons, ih, next_demoLimiter_isSome]

/-- **No demo request goes past the limiter**: whenever one is authenticated,
the limiter is there to count it. -/
theorem demo_has_limiter (now : Nat) (world : W)
    (reqs : List (Request JwkSet N)) (req : Request JwkSet N)
    (hdemo : isDemo app
      (reqs.foldl (next app) (startup app.cfg now world)) req = true) :
    (reqs.foldl (next app)
      (startup app.cfg now world)).demoLimiter.isSome = true := by
  rw [run_demoLimiter_isSome]
  unfold isDemo at hdemo
  split at hdemo
  · next ctx hauth =>
      obtain ⟨key, hkey⟩ := authenticate_demoApiKey app.auth app.cfg _ hauth
        (beq_iff_eq.mp hdemo)
      rw [startup, hkey]
      rfl
  · cases hdemo

/-- A request let through in a window comes before the window's end. -/
theorem admittedIn_inWindow {start : Nat} {s : Shared W JwkSet}
    {req : Request JwkSet N} (h : admittedIn app start s req = true) :
    durationSince req.now start < window := by
  rw [admittedIn, Bool.and_eq_true, Bool.and_eq_true, beq_iff_eq,
    windowAfter] at h
  obtain ⟨⟨hdemo, -⟩, hwindow⟩ := h
  cases hlimiter : s.demoLimiter with
  | none =>
      rw [next_demoLimiter, hdemo, hlimiter] at hwindow
      cases hwindow
  | some r =>
      rw [next_demoLimiter_some app hlimiter, if_pos hdemo] at hwindow
      cases hwindow
      exact r.check_inWindow req.now

/-- What the limiter still lets through in a window. -/
def roomLeft (start : Nat) (s : Shared W JwkSet) : Nat :=
  match s.demoLimiter with
  | some r => r.room start
  | none => 0

/-- **Each request of a window is paid for by the window's room.** -/
theorem admitted_pays (start : Nat) (s : Shared W JwkSet)
    (req : Request JwkSet N) :
    (if admittedIn app start s req then 1 else 0)
      + roomLeft start (next app s req) ≤ roomLeft start s := by
  cases hlimiter : s.demoLimiter with
  | none =>
      have hnext : (next app s req).demoLimiter = none := by
        rw [next_demoLimiter, hlimiter]
        split_ifs <;> rfl
      have hadmitted : admittedIn app start s req = false := by
        rw [admittedIn, windowAfter, hnext]
        simp
      rw [hadmitted, roomLeft, hnext]
      exact Nat.zero_le _
  | some r =>
      have hnext := next_demoLimiter_some app hlimiter req
      rw [roomLeft, roomLeft, hnext, hlimiter]
      cases hdemo : isDemo app s req with
      | false =>
          have hadmitted : admittedIn app start s req = false := by
            rw [admittedIn, hdemo]
            rfl
          rw [hadmitted]
          simp
      | true =>
          have hadmitted : admittedIn app start s req = true ↔
              (r.check req.now).1.isOk = true ∧
                (r.check req.now).2.state.windowStart = start := by
            rw [admittedIn, windowAfter, hnext, hdemo, isRefused, hlimiter]
            simp [consume]
          have hroom := r.check_room req.now start
          simp only [if_true]
          simp only [hadmitted]
          exact hroom

theorem requestsIn_le {s : Shared W JwkSet} {limit : Nat}
    (hlimit : ∀ r, s.demoLimiter = some r → r.limitPerMin = limit)
    (start : Nat) (reqs : List (Request JwkSet N)) :
    requestsIn app start s reqs ≤ limit := by
  have hrun : requestsIn app start s reqs ≤ roomLeft start s :=
    runCost_le_potential (next app) (admitted_pays app start) s reqs
  have hroom : roomLeft start s ≤ limit := by
    unfold roomLeft
    cases hlimiter : s.demoLimiter with
    | none => exact Nat.zero_le _
    | some r => exact hlimit r hlimiter ▸ r.room_le start
  omega

theorem le_mostToolCalls {reqs : List (Request JwkSet N)}
    {req : Request JwkSet N} (h : req ∈ reqs) :
    toolCalls req.body ≤ mostToolCalls reqs := by
  unfold mostToolCalls
  induction reqs with
  | nil => cases h
  | cons first reqs ih =>
      show toolCalls req.body ≤ max (toolCalls first.body) _
      cases List.mem_cons.mp h with
      | inl heq =>
          rw [heq]
          exact Nat.le_max_left _ _
      | inr hmem => exact Nat.le_trans (ih hmem) (Nat.le_max_right _ _)

/-- **The limit of a window.**  It bounds the demo requests let through, and
with the largest batch the `tools/call` messages they have dispatched. -/
theorem demo_window_bound (now : Nat) (world : W) (start : Nat)
    (reqs : List (Request JwkSet N)) :
    requestsIn app start (startup app.cfg now world) reqs ≤
        app.cfg.authDemoRateLimitPerMin ∧
      toolCallsIn app start (startup app.cfg now world) reqs ≤
        app.cfg.authDemoRateLimitPerMin * mostToolCalls reqs := by
  have hrequests : requestsIn app start (startup app.cfg now world) reqs ≤
      app.cfg.authDemoRateLimitPerMin := by
    apply requestsIn_le
    intro r hr
    obtain ⟨key, -, hnew⟩ := Option.map_eq_some_iff.mp hr
    rw [← hnew]
    rfl
  refine ⟨hrequests, ?_⟩
  have hcalls : toolCallsIn app start (startup app.cfg now world) reqs ≤
      mostToolCalls reqs *
        requestsIn app start (startup app.cfg now world) reqs := by
    apply runCost_le_mul
    intro req hreq s
    by_cases hadmitted : admittedIn app start s req = true
    · rw [if_pos hadmitted, if_pos hadmitted, Nat.mul_one]
      exact le_mostToolCalls hreq
    · rw [if_neg hadmitted]
      exact Nat.zero_le _
  rw [Nat.mul_comm] at hcalls
  exact Nat.le_trans hcalls (Nat.mul_le_mul_right _ hrequests)

end Runs

/-! ## One request, two calls -/

/-- A tool that counts its calls. -/
def countingTool : ToolEntry Nat Int where
  definition :=
    { name := "get_cell_state".toList
      description := []
      inputSchema := Value.null }
  run := fun _ _ w => (.ok Value.null, w + 1)

/-- A deployment with a demo key and a limit of one request a minute. -/
def demoApp : AppState Nat Unit Unit Unit Int where
  cfg := Config.fromVariables (fun key => List.lookup key
    [ ("AUTH_DEMO_API_KEY".toList, "demo".toList)
    , ("AUTH_DEMO_RATE_LIMIT_PER_MIN".toList, "1".toList) ])
    0 "postgres://localhost".toList
  auth := refusingLibraries
  tools := ⟨[countingTool]⟩
  wire := intWire

def cellStateCall (id : Int) : Value Int :=
  Value.object
    [ ("jsonrpc".toList, Value.string "2.0".toList)
    , ("method".toList, Value.string "tools/call".toList)
    , ("params".toList, Value.object
        [("name".toList, Value.string "get_cell_state".toList)])
    , ("id".toList, Value.number id) ]

/-- A batch of two calls with the demo key. -/
def demoBatch : Request Unit Int where
  provider := offlineProvider
  now := 0
  headers := [("x-mobydb-api-key".toList, asBytes "demo".toList)]
  body := Value.array [cellStateCall 1, cellStateCall 2]

/-- The batch is one request and two calls of the tool, over a limit of one. -/
theorem demoBatch_exceeds_limit :
    isDemo demoApp (startup demoApp.cfg 0 0) demoBatch = true ∧
      (next demoApp (startup demoApp.cfg 0 0) demoBatch).world = 2 ∧
      ¬ toolCallsIn demoApp 0 (startup demoApp.cfg 0 0) [demoBatch] ≤
        demoApp.cfg.authDemoRateLimitPerMin := by
  refine ⟨rfl, rfl, ?_⟩
  show ¬ 2 ≤ 1
  decide

end RenderEngine.Ports.DemoLimit
