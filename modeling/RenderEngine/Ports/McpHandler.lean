import RenderEngine.Ports.Auth
import RenderEngine.Ports.McpDispatch
import RenderEngine.Ports.RateLimit

/-!
# The MCP endpoint (`mcp_handler` of `http.rs`)

A request is authenticated, counted if it came with the demo key, dispatched
message by message, and its responses are framed into one reply.

The handler's comment asks for an array wherever the body was one.  The
framing does not know the body: `wasBatch` is constant, so a single response
is sent bare.

## Main results

* `dispatchBody_eq`: the handler's loop dispatches the messages in order.
* `length_responses`: how many responses there are is a matter of the body.
* `mcpHandler_of_error`, `mcpHandler_of_refused`, `mcpHandler_of_admitted`: the
  three things the handler can do.
* `mcpHandler_framed_iff`: the replies that are framed as the comment says.
-/

namespace RenderEngine.Ports.McpHandler

open RenderEngine.Ports.CoreTypes
open RenderEngine.Ports.Serde
open RenderEngine.Ports.ServerConfig
open RenderEngine.Ports.Auth
open RenderEngine.Ports.Mcp
open RenderEngine.Ports.McpDispatch
open RenderEngine.Ports.RateLimit
open RenderEngine.Ports.SeedWriter (asBytes)

/-! ## Replies -/

inductive ReplyBody (N : Type) where
  | empty
  | text (s : Text)
  | json (v : Value N)

structure Reply (N : Type) where
  status : StatusCode
  headers : List (Text × Text)
  body : ReplyBody N

section Replies

variable {N : Type}

/-- `AuthError::into_response`. -/
def Reply.refused (e : AuthError) : Reply N where
  status := e.status
  headers := []
  body := .text e.message

/-- `Json(..).into_response()`. -/
def Reply.json (v : Value N) : Reply N where
  status := 200
  headers := []
  body := .json v

/-- `StatusCode::NO_CONTENT`. -/
def Reply.noContent : Reply N where
  status := 204
  headers := []
  body := .empty

/-- The reply to a request over the demo key's limit. -/
def Reply.tooManyRequests (fromI64 : Int → N) (retryAfterSec limit : Nat) :
    Reply N where
  status := 429
  headers :=
    [ ("retry-after".toList, decimal retryAfterSec)
    , ("x-ratelimit-limit".toList, decimal limit)
    , ("x-ratelimit-remaining".toList, "0".toList) ]
  body := .json (Value.object
    [ ("jsonrpc".toList, Value.string jsonrpcVersion)
    , ("error".toList, Value.object
        [ ("code".toList, Value.number (fromI64 JsonRpcError.rateLimited))
        , ("message".toList, Value.string ("demo rate limit of ".toList
            ++ decimal limit ++ " req/min exceeded — retry in ".toList
            ++ decimal retryAfterSec ++ "s".toList)) ])
    , ("id".toList, Value.null) ])

end Replies

/-! ## The server -/

/-- What `AppState` holds that does not change. -/
structure AppState (W JwkSet Jwk DecodingKey N : Type) where
  cfg : Config
  auth : Auth.Libraries JwkSet Jwk DecodingKey N
  tools : ToolRegistry W N
  wire : Wire W N

/-- What its locks guard, and the world the tools work on. -/
structure Shared (W JwkSet : Type) where
  jwks : Option (CachedJwks JwkSet)
  demoLimiter : Option DemoRateLimiter
  world : W

section Handler

variable {W JwkSet Jwk DecodingKey N : Type}
variable (app : AppState W JwkSet Jwk DecodingKey N)

/-- The limiter is asked about demo traffic only. -/
def consume (scheme : AuthScheme) (now : Nat)
    (limiter : Option DemoRateLimiter) :
    Option RateLimitDecision × Option DemoRateLimiter :=
  if scheme = .demoApiKey then
    match limiter with
    | some r => (some (r.check now).1, some (r.check now).2)
    | none => (none, none)
  else (none, limiter)

/-- One turn of the loop over a batch. -/
def dispatchItem (tenant : TenantId) (acc : List (JsonRpcResponse N) × W)
    (item : Value N) : List (JsonRpcResponse N) × W :=
  match dispatchOne app.wire app.tools tenant item acc.2 with
  | (some resp, w) => (acc.1 ++ [resp], w)
  | (none, w) => (acc.1, w)

/-- The responses of a body, and the world its messages leave. -/
def dispatchBody (tenant : TenantId) (body : Value N) (w : W) :
    List (JsonRpcResponse N) × W :=
  match body.asArray with
  | some arr => arr.foldl (dispatchItem app tenant) ([], w)
  | none =>
      match dispatchOne app.wire app.tools tenant body w with
      | (some r, w) => ([r], w)
      | (none, w) => ([], w)

/-- `was_batch`: a sentinel. -/
def wasBatch : Bool := false

/-- The reply to responses. -/
def frame (responses : List (JsonRpcResponse N)) : Reply N :=
  match responses with
  | [] => .noContent
  | r :: rest =>
      if rest.isEmpty && !wasBatch
      then .json (r.toValue app.wire.fromI64)
      else .json (Value.array
        ((r :: rest).map fun r => r.toValue app.wire.fromI64))

/-- `mcp_handler` on a body that is JSON; `now` is the clock of the limiter.
The tenant is that of the credentials, as `tenancy::resolve` has it. -/
def mcpHandler (provider : Provider JwkSet) (now : Nat)
    (s : Shared W JwkSet) (headers : HeaderMap) (body : Value N) :
    Reply N × Shared W JwkSet :=
  match authenticate app.auth app.cfg provider s.jwks headers with
  | (.error e, jwks) => (.refused e, { s with jwks := jwks })
  | (.ok ctx, jwks) =>
      match consume ctx.scheme now s.demoLimiter with
      | (some (.exceeded retryAfterSec limit), limiter) =>
          (.tooManyRequests app.wire.fromI64 retryAfterSec limit,
            { s with jwks := jwks, demoLimiter := limiter })
      | (_, limiter) =>
          let (responses, world) := dispatchBody app ctx.tenant body s.world
          (frame app responses,
            { jwks := jwks, demoLimiter := limiter, world := world })

/-! ## The responses of a body -/

/-- The messages of a body: an array's elements, else the body itself. -/
def messages (body : Value N) : List (Value N) := body.asArray.getD [body]

theorem messages_of_array {body : Value N} {arr : List (Value N)}
    (harray : body.asArray = some arr) : messages body = arr := by
  rw [messages, harray]
  rfl

theorem messages_of_single {body : Value N} (hsingle : body.asArray = none) :
    messages body = [body] := by
  rw [messages, hsingle]
  rfl

/-- The responses to messages, each dispatched in the world that the ones
before it left. -/
def responses (tenant : TenantId) :
    List (Value N) → W → List (JsonRpcResponse N) × W
  | [], w => ([], w)
  | raw :: rest, w =>
      let (resp, w₁) := dispatchOne app.wire app.tools tenant raw w
      let (resps, w₂) := responses tenant rest w₁
      (resp.toList ++ resps, w₂)

theorem responses_cons (tenant : TenantId) (raw : Value N)
    (rest : List (Value N)) (w : W) :
    responses app tenant (raw :: rest) w =
      ((dispatchOne app.wire app.tools tenant raw w).1.toList ++
          (responses app tenant rest
            (dispatchOne app.wire app.tools tenant raw w).2).1,
        (responses app tenant rest
          (dispatchOne app.wire app.tools tenant raw w).2).2) := rfl

theorem dispatchItem_eq (tenant : TenantId)
    (acc : List (JsonRpcResponse N) × W) (item : Value N) :
    dispatchItem app tenant acc item =
      (acc.1 ++ (dispatchOne app.wire app.tools tenant item acc.2).1.toList,
        (dispatchOne app.wire app.tools tenant item acc.2).2) := by
  unfold dispatchItem
  cases dispatchOne app.wire app.tools tenant item acc.2 with
  | mk resp w =>
      cases resp with
      | none => rw [Option.toList_none, List.append_nil]
      | some resp => rfl

theorem foldl_dispatchItem (tenant : TenantId) (items : List (Value N))
    (acc : List (JsonRpcResponse N) × W) :
    items.foldl (dispatchItem app tenant) acc =
      (acc.1 ++ (responses app tenant items acc.2).1,
        (responses app tenant items acc.2).2) := by
  induction items generalizing acc with
  | nil => simp [responses]
  | cons item items ih =>
      rw [List.foldl_cons, ih, dispatchItem_eq, responses_cons,
        List.append_assoc]

/-- **The handler dispatches the messages of the body in order.** -/
theorem dispatchBody_eq (tenant : TenantId) (body : Value N) (w : W) :
    dispatchBody app tenant body w =
      responses app tenant (messages body) w := by
  unfold dispatchBody
  cases harray : body.asArray with
  | some arr =>
      rw [messages_of_array harray]
      show arr.foldl (dispatchItem app tenant) ([], w) = _
      rw [foldl_dispatchItem, List.nil_append]
  | none =>
      rw [messages_of_single harray, responses_cons]
      cases dispatchOne app.wire app.tools tenant body w with
      | mk resp w₁ =>
          cases resp with
          | none => rfl
          | some resp => rfl

/-- **Each message due a response gets one, the others none.** -/
theorem length_responses (tenant : TenantId) (items : List (Value N)) (w : W) :
    (responses app tenant items w).1.length = items.countP isDue := by
  induction items generalizing w with
  | nil => rfl
  | cons item items ih =>
      have hone := dispatchOne_isSome app.wire app.tools tenant item w
      rw [responses_cons, List.length_append, ih, List.countP_cons,
        Nat.add_comm, ← hone]
      cases (dispatchOne app.wire app.tools tenant item w).1 with
      | none => rfl
      | some resp => rfl

/-! ## Framing -/

/-- The framing of the handler's comment: an array is answered by the array of
its responses, any other body by its one response, and a body that is due none
by no content. -/
structure Framed (tenant : TenantId) (body : Value N) (w : W)
    (reply : Reply N) : Prop where
  array : ∀ arr, body.asArray = some arr → (∃ raw ∈ arr, isDue raw = true) →
    reply = .json (Value.array ((responses app tenant arr w).1.map fun r =>
      r.toValue app.wire.fromI64))
  single : body.asArray = none → isDue body = true →
    ∃ r, (dispatchOne app.wire app.tools tenant body w).1 = some r ∧
      reply = .json (r.toValue app.wire.fromI64)
  silent : (∀ raw ∈ messages body, isDue raw = false) → reply = .noContent

/-- The demo limiter turns the request away. -/
def isRefused (scheme : AuthScheme) (now : Nat)
    (limiter : Option DemoRateLimiter) : Bool :=
  (consume scheme now limiter).1.any fun d => !d.isOk

section Requests

variable {provider : Provider JwkSet} {now : Nat} {s : Shared W JwkSet}
variable {headers : HeaderMap} {body : Value N}
variable {jwks : Option (CachedJwks JwkSet)} {ctx : AuthContext}

theorem mcpHandler_of_error {e : AuthError}
    (hauth : authenticate app.auth app.cfg provider s.jwks headers =
      (.error e, jwks)) :
    mcpHandler app provider now s headers body =
      (.refused e, { s with jwks := jwks }) := by
  unfold mcpHandler
  rw [hauth]

/-- A demo request over the limit is dispatched no message. -/
theorem mcpHandler_of_refused
    (hauth : authenticate app.auth app.cfg provider s.jwks headers =
      (.ok ctx, jwks))
    (hrefused : isRefused ctx.scheme now s.demoLimiter = true) :
    ∃ retryAfterSec limit,
      mcpHandler app provider now s headers body =
        (.tooManyRequests app.wire.fromI64 retryAfterSec limit,
          { s with
            jwks := jwks
            demoLimiter := (consume ctx.scheme now s.demoLimiter).2 }) := by
  unfold isRefused at hrefused
  unfold mcpHandler
  simp only [hauth]
  cases hconsume : consume ctx.scheme now s.demoLimiter with
  | mk decision limiter =>
      rw [hconsume] at hrefused
      cases decision with
      | none => cases hrefused
      | some d =>
          cases d with
          | ok count limit => cases hrefused
          | exceeded retryAfterSec limit => exact ⟨_, _, rfl⟩

/-- Any other authenticated request is dispatched its messages in order. -/
theorem mcpHandler_of_admitted
    (hauth : authenticate app.auth app.cfg provider s.jwks headers =
      (.ok ctx, jwks))
    (hadmitted : isRefused ctx.scheme now s.demoLimiter = false) :
    mcpHandler app provider now s headers body =
      (frame app (responses app ctx.tenant (messages body) s.world).1,
        { jwks := jwks
          demoLimiter := (consume ctx.scheme now s.demoLimiter).2
          world := (responses app ctx.tenant (messages body) s.world).2 }) := by
  unfold isRefused at hadmitted
  unfold mcpHandler
  simp only [hauth, dispatchBody_eq]
  cases hconsume : consume ctx.scheme now s.demoLimiter with
  | mk decision limiter =>
      rw [hconsume] at hadmitted
      cases decision with
      | none => rfl
      | some d =>
          cases d with
          | ok count limit => rfl
          | exceeded retryAfterSec limit => cases hadmitted

/-- What the framing of a batch comes to. -/
theorem framed_array_iff {tenant : TenantId} {arr : List (Value N)} {w : W}
    {reply : Reply N} (harray : body.asArray = some arr) :
    Framed app tenant body w reply ↔
      ((∃ raw ∈ arr, isDue raw = true) →
        reply = .json (Value.array ((responses app tenant arr w).1.map fun r =>
          r.toValue app.wire.fromI64))) ∧
      ((∀ raw ∈ arr, isDue raw = false) → reply = .noContent) := by
  constructor
  · intro h
    exact ⟨h.array arr harray, messages_of_array harray ▸ h.silent⟩
  · intro h
    constructor
    · intro arr' harr'
      rw [harray] at harr'
      cases harr'
      exact h.1
    · intro hnone
      rw [harray] at hnone
      cases hnone
    · rw [messages_of_array harray]
      exact h.2

/-- What the framing of any other body comes to. -/
theorem framed_single_iff {tenant : TenantId} {w : W} {reply : Reply N}
    (hsingle : body.asArray = none) :
    Framed app tenant body w reply ↔
      (isDue body = true →
        ∃ r, (dispatchOne app.wire app.tools tenant body w).1 = some r ∧
          reply = .json (r.toValue app.wire.fromI64)) ∧
      (isDue body = false → reply = .noContent) := by
  have hall : (∀ raw ∈ messages body, isDue raw = false) ↔
      isDue body = false := by
    rw [messages_of_single hsingle, List.forall_mem_singleton]
  constructor
  · intro h
    exact ⟨h.single hsingle, fun hdue => h.silent (hall.mpr hdue)⟩
  · intro h
    constructor
    · intro arr harr
      rw [hsingle] at harr
      cases harr
    · exact fun _ => h.1
    · exact fun hdue => h.2 (hall.mp hdue)

/-- A reply over the limit is none of the three. -/
theorem not_framed_tooManyRequests (tenant : TenantId) (w : W)
    (retryAfterSec limit : Nat) :
    ¬ Framed app tenant body w
      (.tooManyRequests app.wire.fromI64 retryAfterSec limit) := by
  have hjson : ∀ v : Value N,
      .tooManyRequests app.wire.fromI64 retryAfterSec limit ≠ Reply.json v :=
    fun v h => absurd (congrArg Reply.status h)
      (show (429 : Nat) ≠ 200 by decide)
  have hempty :
      .tooManyRequests app.wire.fromI64 retryAfterSec limit ≠
        (Reply.noContent : Reply N) :=
    fun h => absurd (congrArg Reply.status h)
      (show (429 : Nat) ≠ 204 by decide)
  cases harray : body.asArray with
  | some arr =>
      rw [framed_array_iff app harray]
      intro h
      by_cases hdue : ∃ raw ∈ arr, isDue raw = true
      · exact hjson _ (h.1 hdue)
      · apply hempty (h.2 _)
        intro raw hraw
        rw [← Bool.not_eq_true]
        exact fun hraw' => hdue ⟨raw, hraw, hraw'⟩
  | none =>
      rw [framed_single_iff app harray]
      intro h
      cases hdue : isDue body with
      | true =>
          obtain ⟨r, -, hreply⟩ := h.1 hdue
          exact hjson _ hreply
      | false => exact hempty (h.2 hdue)

/-- A body that is no array is framed as it should be. -/
theorem framed_single (tenant : TenantId) (hsingle : body.asArray = none)
    (w : W) :
    Framed app tenant body w
      (frame app (responses app tenant (messages body) w).1) := by
  have hdue := dispatchOne_isSome app.wire app.tools tenant body w
  rw [framed_single_iff app hsingle, messages_of_single hsingle,
    responses_cons, ← hdue]
  cases (dispatchOne app.wire app.tools tenant body w).1 with
  | none =>
      constructor
      · intro h
        cases h
      · intro _
        rfl
  | some r =>
      constructor
      · intro _
        exact ⟨r, rfl, rfl⟩
      · intro h
        cases h

/-- A batch is framed as it should be unless one response is due. -/
theorem framed_batch_iff (tenant : TenantId) {arr : List (Value N)}
    (harray : body.asArray = some arr) (w : W) :
    Framed app tenant body w
        (frame app (responses app tenant arr w).1) ↔
      arr.countP isDue ≠ 1 := by
  rw [framed_array_iff app harray]
  have hlength := length_responses app tenant arr w
  cases hresponses : (responses app tenant arr w).1 with
  | nil =>
      rw [hresponses, List.length_nil] at hlength
      have hsilent := List.countP_eq_zero.mp hlength.symm
      constructor
      · intro _
        omega
      · intro _
        constructor
        · intro hdue
          obtain ⟨raw, hraw, hdue⟩ := hdue
          exact absurd hdue (hsilent raw hraw)
        · intro _
          rfl
  | cons r rest =>
      rw [hresponses, List.length_cons] at hlength
      have hdue := List.countP_pos_iff.mp
        (show 0 < arr.countP isDue by omega)
      cases rest with
      | nil =>
          -- the one response goes out bare, and is no array
          rw [List.length_nil] at hlength
          constructor
          · intro h
            exact absurd
              (ReplyBody.json.inj (congrArg Reply.body (h.1 hdue)))
              (Value.object_ne_array _ _)
          · intro hne
            exact absurd hlength.symm hne
      | cons r' rest =>
          rw [List.length_cons] at hlength
          constructor
          · intro _
            omega
          · intro _
            constructor
            · intro _
              rfl
            · intro hsilent
              obtain ⟨raw, hraw, hdue⟩ := hdue
              rw [hsilent raw hraw] at hdue
              cases hdue

end Requests

/-- **A reply is framed as the comment says** exactly when the limiter lets the
request through and the body is no array with a single response due. -/
theorem mcpHandler_framed_iff {provider : Provider JwkSet} {now : Nat}
    {s : Shared W JwkSet} {headers : HeaderMap} {ctx : AuthContext}
    (hauth : (authenticate app.auth app.cfg provider s.jwks headers).1 =
      .ok ctx) (body : Value N) :
    Framed app ctx.tenant body s.world
        (mcpHandler app provider now s headers body).1 ↔
      isRefused ctx.scheme now s.demoLimiter = false ∧
        (body.asArray = none ∨ (messages body).countP isDue ≠ 1) := by
  have hpair : authenticate app.auth app.cfg provider s.jwks headers =
      (.ok ctx, (authenticate app.auth app.cfg provider s.jwks headers).2) :=
    Prod.ext hauth rfl
  cases hrefused : isRefused ctx.scheme now s.demoLimiter with
  | true =>
      obtain ⟨retryAfterSec, limit, hreply⟩ :=
        @mcpHandler_of_refused _ _ _ _ _ app provider now s headers body _ _
          hpair hrefused
      rw [hreply]
      constructor
      · intro h
        exact absurd h (not_framed_tooManyRequests app _ _ _ _)
      · intro h
        cases h.1
  | false =>
      rw [mcpHandler_of_admitted app hpair hrefused]
      cases harray : body.asArray with
      | none =>
          constructor
          · intro _
            exact ⟨rfl, .inl rfl⟩
          · intro _
            exact framed_single app ctx.tenant harray s.world
      | some arr =>
          rw [messages_of_array harray, framed_batch_iff app ctx.tenant harray]
          constructor
          · intro hne
            exact ⟨rfl, .inr hne⟩
          · intro h
            cases h.2 with
            | inl hnone => cases hnone
            | inr hne => exact hne

end Handler

/-! ## A batch with one response -/

/-- The deployment with both keys, without tools. -/
def keyedApp : AppState Unit Unit Unit Unit Int where
  cfg := keyedConfig
  auth := refusingLibraries
  tools := ⟨[]⟩
  wire := intWire

def keyedShared : Shared Unit Unit where
  jwks := none
  demoLimiter := some (.new 100 0)
  world := ()

def offlineProvider : Provider Unit where
  now := 0
  answer := fun _ => .error "unreachable".toList
  answeredAt := 0

def mainKeyHeaders : HeaderMap :=
  [("x-mobydb-api-key".toList, asBytes "main".toList)]

def ping (id : Int) : Value Int := plainMessage "ping".toList (Value.number id)

/-- `[{"jsonrpc":"2.0","method":"ping","id":1}]` is answered by an object. -/
theorem not_framed_batch_of_one :
    (authenticate refusingLibraries keyedConfig offlineProvider none
        mainKeyHeaders).1 = .ok (defaultContext keyedConfig .apiKey) ∧
      ¬ Framed keyedApp ⟨0⟩ (Value.array [ping 1]) ()
        (mcpHandler keyedApp offlineProvider 0 keyedShared mainKeyHeaders
          (Value.array [ping 1])).1 := by
  refine ⟨rfl, ?_⟩
  intro hframed
  have hreply : (mcpHandler keyedApp offlineProvider 0 keyedShared
      mainKeyHeaders (Value.array [ping 1])).1 =
        .json ((JsonRpcResponse.ok (Value.number 1)
          (Value.object [])).toValue id) := rfl
  have harray := hframed.array [ping 1] rfl ⟨ping 1, List.mem_singleton_self _,
    rfl⟩
  rw [hreply] at harray
  exact absurd (ReplyBody.json.inj (congrArg Reply.body harray))
    (Value.object_ne_array _ _)

/-- A batch of two is framed as it should be. -/
theorem mcpHandler_framed_batch_of_two :
    Framed keyedApp ⟨0⟩ (Value.array [ping 1, ping 2]) ()
      (mcpHandler keyedApp offlineProvider 0 keyedShared mainKeyHeaders
        (Value.array [ping 1, ping 2])).1 := by
  have hauth : (authenticate keyedApp.auth keyedApp.cfg offlineProvider
      keyedShared.jwks mainKeyHeaders).1 =
        .ok (defaultContext keyedConfig .apiKey) := rfl
  exact (mcpHandler_framed_iff keyedApp hauth _).mpr
    ⟨rfl, .inr (show (2 : Nat) ≠ 1 by decide)⟩

end RenderEngine.Ports.McpHandler
