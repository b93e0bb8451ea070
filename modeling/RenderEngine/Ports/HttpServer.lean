import RenderEngine.Ports.RegistryBuild

/-!
# The server over a run of requests (`mcp-server/src/http.rs`)

The server keeps a cache of keys and the demo key's limiter from one request to
the next; the database is changed by others.  A run is a list of exchanges, each
a request and the world it is served in, so that anything may have been
committed in between.

## Main results

* `serveOne_world`: no request changes the world.
* `serve_isolated`: what a tenant is answered in a run does not depend on what
  is stored for others.
-/

namespace RenderEngine.Ports.HttpServer

open RenderEngine.Ports.CoreTypes
open RenderEngine.Ports.Serde
open RenderEngine.Ports.Auth
open RenderEngine.Ports.Mcp
open RenderEngine.Ports.McpDispatch
open RenderEngine.Ports.McpHandler
open RenderEngine.Ports.RateLimit
open RenderEngine.Ports.RegistryBuild
open RenderEngine.Ports.ServerConfig
open RenderEngine.Ports.ToolInputs
open RenderEngine.Ports.WireTypes
open RenderEngine.Ports.ConcurrentReads
open RenderEngine.Ports.PostgresClient
open RenderEngine.Ports.RegionQuery
open RenderEngine.Ports.Schema
open RenderEngine.Ports.SeedWriter
open RenderEngine.Ports.TenantIsolation
open RenderEngine.Ports.VerifyAttestation

section Server

variable {F N Cell Point K Lab JwkSet Jwk DecodingKey : Type}
variable (server : Server F N Cell Point K Lab) (cfg : Config)
variable (auth : Auth.Libraries JwkSet Jwk DecodingKey N)

/-- The wire of the server: a call takes the time its world says. -/
def serverWire : Wire (World F N Lab) N where
  serde := server.serde
  fromI64 := server.codecs.fromI64
  display := fun e => server.inputErrorText (.decode e)
  elapsedMs := fun w _ => f64ToValue server.codecs w.elapsedMs

/-- The state of the application, as `main` puts it together. -/
def appState : AppState (World F N Lab) JwkSet Jwk DecodingKey N where
  cfg := cfg
  auth := auth
  tools := build server
  wire := serverWire server

/-! ## One message -/

/-- What the method of a message answers. -/
theorem runMethod_congr {tenant : TenantId} {w w' : World F N Lab}
    (h : SameBut (AgreeOn tenant) w w') (req : JsonRpcRequest N) :
    (runMethod (serverWire server) (build server) tenant req w).1 =
      (runMethod (serverWire server) (build server) tenant req w').1 := by
  have hcall : (handleToolsCall (serverWire server) (build server) tenant req
        w).1 =
      (handleToolsCall (serverWire server) (build server) tenant req w').1 := by
    unfold handleToolsCall
    cases req.params with
    | none => rfl
    | some params =>
        dsimp only
        cases ToolsCallParams.fromValue params with
        | error e => rfl
        | ok call =>
            have hresult := registry_call_congr server h call.name
              call.arguments
            have htime : (serverWire server).elapsedMs w w =
                (serverWire server).elapsedMs w' w' := by
              show f64ToValue _ w.elapsedMs = f64ToValue _ w'.elapsedMs
              rw [h.elapsedMs]
            dsimp only
            rw [registry_world, registry_world, hresult, htime]
  unfold runMethod
  split_ifs <;> first | rfl | exact congrArg some hcall

/-- **What a message is answered depends on the tenant's rows only.** -/
theorem dispatchOne_congr {tenant : TenantId} {w w' : World F N Lab}
    (h : SameBut (AgreeOn tenant) w w') (raw : Value N) :
    (dispatchOne (serverWire server) (build server) tenant raw w).1 =
      (dispatchOne (serverWire server) (build server) tenant raw w').1 := by
  cases hreq : JsonRpcRequest.fromValue raw with
  | error e => simp only [dispatchOne, hreq]
  | ok req =>
      by_cases hversion : req.jsonrpc = jsonrpcVersion
      · rw [dispatchOne_request _ _ _ hreq hversion,
          dispatchOne_request _ _ _ hreq hversion, runMethod_congr server h]
      · simp only [dispatchOne, hreq, ne_eq, hversion, not_false_eq_true,
          if_true]

/-- A message leaves the world as it is. -/
theorem dispatchOne_keeps (tenant : TenantId) (raw : Value N)
    (w : World F N Lab) :
    (dispatchOne (serverWire server) (build server) tenant raw w).2 = w := by
  cases hcall : isToolsCall raw with
  | false => exact dispatchOne_world _ _ _ hcall w
  | true =>
      unfold isToolsCall at hcall
      cases hreq : JsonRpcRequest.fromValue raw with
      | error e =>
          rw [hreq] at hcall
          cases hcall
      | ok req =>
          rw [hreq, Bool.and_eq_true, beq_iff_eq, beq_iff_eq] at hcall
          rw [dispatchOne_request _ _ _ hreq hcall.1]
          have hmethod : (runMethod (serverWire server) (build server) tenant
              req w).2 =
              (handleToolsCall (serverWire server) (build server) tenant req
                w).2 := by
            unfold runMethod
            rw [hcall.2]
            rfl
          rw [hmethod]
          unfold handleToolsCall
          cases req.params with
          | none => rfl
          | some params =>
              dsimp only
              cases ToolsCallParams.fromValue params with
              | error e => rfl
              | ok call => exact registry_world server _ _ _ _

/-! ## One request -/

theorem responses_keeps (tenant : TenantId) (raws : List (Value N))
    (w : World F N Lab) :
    (responses (appState server cfg auth) tenant raws w).2 = w := by
  induction raws generalizing w with
  | nil => rfl
  | cons raw raws ih =>
      rw [responses_cons]
      show (responses _ tenant raws (dispatchOne (serverWire server)
        (build server) tenant raw w).2).2 = w
      rw [dispatchOne_keeps, ih]

theorem responses_congr {tenant : TenantId} {w w' : World F N Lab}
    (h : SameBut (AgreeOn tenant) w w') (raws : List (Value N)) :
    (responses (appState server cfg auth) tenant raws w).1 =
      (responses (appState server cfg auth) tenant raws w').1 := by
  induction raws with
  | nil => rfl
  | cons raw raws ih =>
      have hone := dispatchOne_congr server h raw
      rw [responses_cons, responses_cons]
      show (dispatchOne (serverWire server) (build server) tenant raw
          w).1.toList ++ (responses _ tenant raws (dispatchOne
            (serverWire server) (build server) tenant raw w).2).1 =
        (dispatchOne (serverWire server) (build server) tenant raw
          w').1.toList ++ (responses _ tenant raws (dispatchOne
            (serverWire server) (build server) tenant raw w').2).1
      rw [dispatchOne_keeps, dispatchOne_keeps, hone, ih]

/-- What the server keeps from one request to the next. -/
structure Kept (JwkSet : Type) where
  jwks : Option (CachedJwks JwkSet)
  demoLimiter : Option DemoRateLimiter

/-- A request, the clock, and what the provider of keys would answer. -/
structure Request (JwkSet N : Type) where
  provider : Provider JwkSet
  now : Nat
  headers : HeaderMap
  body : Value N

/-- Serve one request in a world. -/
def serveOne (kept : Kept JwkSet) (req : Request JwkSet N)
    (w : World F N Lab) : Reply N × Shared (World F N Lab) JwkSet :=
  mcpHandler (appState server cfg auth) req.provider req.now
    { jwks := kept.jwks, demoLimiter := kept.demoLimiter, world := w }
    req.headers req.body

/-- The tenant that the request's credentials name. -/
def tenantOf (kept : Kept JwkSet) (req : Request JwkSet N) : Option TenantId :=
  (authenticate auth cfg req.provider kept.jwks req.headers).1.toOption.map
    AuthContext.tenant

/-- What is kept, beside a world. -/
def Kept.shared (kept : Kept JwkSet) (w : World F N Lab) :
    Shared (World F N Lab) JwkSet where
  jwks := kept.jwks
  demoLimiter := kept.demoLimiter
  world := w

/-- A request is turned away with a reply that the world has no part in, or its
messages are dispatched for its tenant; what is kept does not depend on the
world, and the world stays as it is. -/
theorem serveOne_cases (kept : Kept JwkSet) (req : Request JwkSet N) :
    ∃ kept' : Kept JwkSet,
      (∃ reply, ∀ w, serveOne server cfg auth kept req w =
        (reply, kept'.shared w)) ∨
      (∃ tenant, tenantOf cfg auth kept req = some tenant ∧
        ∀ w, serveOne server cfg auth kept req w =
          (frame (appState server cfg auth)
            (responses (appState server cfg auth) tenant (messages req.body)
              w).1, kept'.shared w)) := by
  cases hauth : authenticate auth cfg req.provider kept.jwks req.headers with
  | mk result jwks =>
      cases result with
      | error e =>
          refine ⟨⟨jwks, kept.demoLimiter⟩, .inl ⟨.refused e, fun w => ?_⟩⟩
          exact mcpHandler_of_error (appState server cfg auth)
            (s := kept.shared w) hauth
      | ok ctx =>
          have htenant : tenantOf cfg auth kept req = some ctx.tenant := by
            rw [tenantOf, hauth]
            rfl
          cases hconsume : consume ctx.scheme req.now kept.demoLimiter with
          | mk decision limiter =>
              -- a demo request over the limit is turned away
              by_cases hrefused : ∃ retryAfterSec limit,
                  decision = some (.exceeded retryAfterSec limit)
              · obtain ⟨retryAfterSec, limit, rfl⟩ := hrefused
                refine ⟨⟨jwks, limiter⟩, .inl
                  ⟨.tooManyRequests server.codecs.fromI64 retryAfterSec limit,
                    fun w => ?_⟩⟩
                unfold serveOne mcpHandler
                simp only [appState, hauth, hconsume]
                rfl
              · refine ⟨⟨jwks, limiter⟩, .inr ⟨ctx.tenant, htenant,
                  fun w => ?_⟩⟩
                have hadmitted : isRefused ctx.scheme req.now
                    kept.demoLimiter = false := by
                  unfold isRefused
                  rw [hconsume]
                  cases decision with
                  | none => rfl
                  | some d =>
                      cases d with
                      | ok count limit => rfl
                      | exceeded retryAfterSec limit =>
                          exact absurd ⟨_, _, rfl⟩ hrefused
                have h := @mcpHandler_of_admitted _ _ _ _ _
                  (appState server cfg auth) _ _ (kept.shared w) _ req.body _ _
                  hauth hadmitted
                rw [responses_keeps] at h
                have hlimiter : (consume ctx.scheme req.now
                    (kept.shared w).demoLimiter).2 = limiter := by
                  show (consume ctx.scheme req.now kept.demoLimiter).2 = limiter
                  rw [hconsume]
                rw [hlimiter] at h
                exact h

/-- **No request changes the world.** -/
theorem serveOne_world (kept : Kept JwkSet) (req : Request JwkSet N)
    (w : World F N Lab) :
    (serveOne server cfg auth kept req w).2.world = w := by
  obtain ⟨kept', ⟨reply, h⟩ | ⟨tenant, -, h⟩⟩ :=
    serveOne_cases server cfg auth kept req
  · rw [h]
    rfl
  · rw [h]
    rfl

/-! ## A run of requests -/

/-- What is kept after a request, whatever world it was served in. -/
def keptAfter (kept : Kept JwkSet) (req : Request JwkSet N)
    (w : World F N Lab) : Kept JwkSet where
  jwks := (serveOne server cfg auth kept req w).2.jwks
  demoLimiter := (serveOne server cfg auth kept req w).2.demoLimiter

/-- Serve requests one after another, each in the world it finds: for each of
them the tenant of its credentials, and the reply. -/
def serve : Kept JwkSet → List (Request JwkSet N × World F N Lab) →
    List (Option TenantId × Reply N)
  | _, [] => []
  | kept, (req, w) :: rest =>
      (tenantOf cfg auth kept req, (serveOne server cfg auth kept req w).1)
        :: serve (keptAfter server cfg auth kept req w) rest

/-- The same request, in worlds whose databases are related. -/
def AlikeFor (r : Database N → Database N → Prop)
    (e e' : Request JwkSet N × World F N Lab) : Prop :=
  e.1 = e'.1 ∧ SameBut r e.2 e'.2

/-- The replies that a tenant gets. -/
def repliesTo (tenant : TenantId)
    (log : List (Option TenantId × Reply N)) : List (Reply N) :=
  (log.filter fun entry => entry.1 = some tenant).map Prod.snd

/-- One request: the server keeps the same, and the tenant's replies are the
same. -/
theorem serveOne_congr (tenant : TenantId) (kept : Kept JwkSet)
    (req : Request JwkSet N) {w w' : World F N Lab}
    (h : SameBut (AgreeOn tenant) w w') :
    keptAfter server cfg auth kept req w =
        keptAfter server cfg auth kept req w' ∧
      (tenantOf cfg auth kept req = some tenant →
        (serveOne server cfg auth kept req w).1 =
          (serveOne server cfg auth kept req w').1) := by
  obtain ⟨kept', ⟨reply, hserve⟩ | ⟨other, hother, hserve⟩⟩ :=
    serveOne_cases server cfg auth kept req
  · simp only [keptAfter, hserve]
    exact ⟨rfl, fun _ => trivial⟩
  · simp only [keptAfter, hserve]
    refine ⟨rfl, fun htenant => ?_⟩
    rw [hother, Option.some.injEq] at htenant
    subst htenant
    rw [responses_congr server cfg auth h]

/-- Runs in worlds that give the tenant its rows in the same order. -/
theorem serve_congr (tenant : TenantId) (kept : Kept JwkSet)
    {run run' : List (Request JwkSet N × World F N Lab)}
    (h : List.Forall₂ (AlikeFor (AgreeOn tenant)) run run') :
    repliesTo tenant (serve server cfg auth kept run) =
      repliesTo tenant (serve server cfg auth kept run') := by
  induction h generalizing kept with
  | nil => rfl
  | @cons e e' rest rest' halike _ ih =>
      obtain ⟨req, w⟩ := e
      obtain ⟨req', w'⟩ := e'
      obtain ⟨hreq, hworld⟩ := halike
      cases hreq
      obtain ⟨hkept, hreply⟩ :=
        serveOne_congr server cfg auth tenant kept req hworld
      have hreplies := ih (keptAfter server cfg auth kept req w')
      simp only [serve, hkept]
      unfold repliesTo at hreplies ⊢
      by_cases hmine : tenantOf cfg auth kept req = some tenant
      · rw [List.filter_cons_of_pos (by simpa using hmine),
          List.filter_cons_of_pos (by simpa using hmine), List.map_cons,
          List.map_cons, hreplies, hreply hmine]
      · rw [List.filter_cons_of_neg (by simpa using hmine),
          List.filter_cons_of_neg (by simpa using hmine), hreplies]

/-- A run can be given the tenant's rows in the order of another one. -/
theorem exists_rearranged_run {tenant : TenantId}
    {run run' : List (Request JwkSet N × World F N Lab)}
    (h : List.Forall₂ (AlikeFor (SameRows tenant)) run run') :
    ∃ run'', List.Forall₂ (AlikeFor Rearranged) run' run'' ∧
      List.Forall₂ (AlikeFor (AgreeOn tenant)) run run'' := by
  induction h with
  | nil => exact ⟨[], .nil, .nil⟩
  | @cons e e' rest rest' halike _ ih =>
      obtain ⟨hreq, hworld⟩ := halike
      obtain ⟨rest'', hrest, hrest'⟩ := ih
      obtain ⟨db'', hrearranged, hagree⟩ := exists_rearranged hworld.db
      refine ⟨(e'.1, { e'.2 with db := db'' }) :: rest'',
        .cons ⟨rfl, hrearranged, rfl, rfl, rfl, rfl⟩ hrest,
        .cons ⟨hreq, hagree, ?_, ?_, ?_, ?_⟩ hrest'⟩
      · exact hworld.lab
      · exact hworld.now
      · exact hworld.renderMs
      · exact hworld.elapsedMs

/-- Which requests are whose does not depend on the worlds. -/
theorem tenants_congr (kept : Kept JwkSet)
    {run run' : List (Request JwkSet N × World F N Lab)}
    (h : List.Forall₂ (fun e e' => e.1 = e'.1) run run') :
    (serve server cfg auth kept run).map Prod.fst =
      (serve server cfg auth kept run').map Prod.fst := by
  induction h generalizing kept with
  | nil => rfl
  | @cons e e' rest rest' hreq _ ih =>
      obtain ⟨req, w⟩ := e
      obtain ⟨req', w'⟩ := e'
      obtain rfl : req = req' := hreq
      have hkept : keptAfter server cfg auth kept req w =
          keptAfter server cfg auth kept req w' := by
        obtain ⟨kept', ⟨reply, hserve⟩ | ⟨other, -, hserve⟩⟩ :=
          serveOne_cases server cfg auth kept req <;>
            simp only [keptAfter, hserve] <;> rfl
      simp only [serve, List.map_cons, hkept, ih]

/-- **What a tenant is answered does not depend on what is stored for
others.**  Two runs of the same requests, with anything committed for other
tenants in between, find the same tenant for each request.  This tenant gets
the replies, errors included, that the other run gives it with the rows of its
databases in some order. -/
theorem serve_isolated (tenant : TenantId) (kept : Kept JwkSet)
    {run run' : List (Request JwkSet N × World F N Lab)}
    (h : List.Forall₂ (AlikeFor (SameRows tenant)) run run') :
    (serve server cfg auth kept run).map Prod.fst =
        (serve server cfg auth kept run').map Prod.fst ∧
      ∃ run'', List.Forall₂ (AlikeFor Rearranged) run' run'' ∧
        repliesTo tenant (serve server cfg auth kept run) =
          repliesTo tenant (serve server cfg auth kept run'') := by
  obtain ⟨run'', hrearranged, hagree⟩ := exists_rearranged_run h
  exact ⟨tenants_congr server cfg auth kept (h.imp fun _ _ he => he.1), run'',
    hrearranged, serve_congr server cfg auth tenant kept hagree⟩

end Server

/-! ## A small instance -/

/-- Whole numbers for `f64`, base cells and the checksum; no predictions. -/
def smallServer {N : Type} (codecs : Codecs Int N) (serde : SerdeText N) :
    Server Int N (BitVec 64) Unit HexBytes32 Unit where
  codecs := codecs
  f64 := wholeF64
  h3o := baseCellH3o
  pair := checksumPair
  crypto := checksumCrypto
  serde := serde
  schemaFor := fun _ => Value.null
  inputErrorText := fun _ => "invalid input".toList
  queryPredictions := fun _ _ =>
    .error (.new Mcp.JsonRpcError.invalidParams "no lab".toList)
  panicked := .new Mcp.JsonRpcError.invalidParams "panicked".toList

/-- A world at midnight, in which nothing takes time. -/
def worldOf {N : Type} (db : Database N) : World Int N Unit where
  db := db
  lab := ()
  now := 0
  renderMs := 0
  elapsedMs := 0

/-- A deployment for the tenant of migration 0001. -/
def seededConfig : Config := { keyedConfig with tenantIdDefault := 1 }

/-- A call of `get_provenance` with the main key. -/
def provenanceRequest : Request Unit Int where
  provider := offlineProvider
  now := 0
  headers := mainKeyHeaders
  body := Value.object
    [ ("jsonrpc".toList, Value.string "2.0".toList)
    , ("method".toList, Value.string "tools/call".toList)
    , ("id".toList, Value.number 1)
    , ("params".toList, Value.object
        [ ("name".toList, Value.string "get_provenance".toList)
        , ("arguments".toList, Value.object
            [ ("h3_cell".toList, Value.string "5".toList)
            , ("epoch_id".toList, Value.number 0) ]) ]) ]

/-- Another tenant is deleted between two requests and the tables are read the
other way round, or not. -/
theorem serve_isolated_cleared :
    ∃ db, OfTwoTenants db ∧
      let kept : Kept Unit := ⟨none, some (.new 100 0)⟩
      let run := [(provenanceRequest, worldOf db),
        (provenanceRequest, worldOf db)]
      let run' := [(provenanceRequest, worldOf db),
        (provenanceRequest, worldOf (reversed (clearTenant ⟨2⟩ db)))]
      ∃ run'', List.Forall₂ (AlikeFor Rearranged) run' run'' ∧
        repliesTo ciTenant (serve (smallServer wholeCodecs intText) seededConfig
            refusingLibraries kept run) =
          repliesTo ciTenant (serve (smallServer wholeCodecs intText)
            seededConfig refusingLibraries kept run'') := by
  obtain ⟨db, hdb⟩ := exists_ofTwoTenants
  refine ⟨db, hdb, ?_⟩
  intro kept run run'
  have hsame : SameBut (SameRows ciTenant) (worldOf db) (worldOf db) :=
    ⟨(Rearranged.refl db).sameRows ciTenant, rfl, rfl, rfl, rfl⟩
  have hcleared : SameBut (SameRows ciTenant) (worldOf db)
      (worldOf (reversed (clearTenant ⟨2⟩ db))) :=
    ⟨sameRows_reversed_cleared (by decide) db, rfl, rfl, rfl, rfl⟩
  have halike : List.Forall₂ (AlikeFor (SameRows ciTenant)) run run' :=
    .cons ⟨rfl, hsame⟩ (.cons ⟨rfl, hcleared⟩ .nil)
  exact (serve_isolated (smallServer wholeCodecs intText) seededConfig
    refusingLibraries ciTenant kept halike).2

end RenderEngine.Ports.HttpServer
