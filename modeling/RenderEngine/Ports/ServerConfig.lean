import RenderEngine.Ports.RustStd
import RenderEngine.Verified.Fallible

/-!
# The server's configuration (`config.rs`)

Every variable has a default but `DATABASE_URL`.  A configured key is never
the empty text: an empty variable counts as none.

## Main results

* `fromEnv_ok_iff`: what an environment must hold to configure the server.
-/

namespace RenderEngine.Ports.ServerConfig

open RenderEngine.Ports.CoreTypes
open RenderEngine.Ports.RustStd
open RenderEngine.Verified.Fallible

/-! ## Configuration -/

/-- A text that is set: a variable with the empty text counts as none. -/
structure NonEmptyText where
  text : Text
  nonempty : text ≠ []
  deriving DecidableEq

/-- `filter(|s| !s.is_empty())`. -/
def NonEmptyText.fromText (s : Text) : Option NonEmptyText :=
  if h : s ≠ [] then some ⟨s, h⟩ else none

structure Config where
  env : Text
  rustLog : Text
  mcpServerHost : Text
  mcpServerPort : Nat
  mcpTransport : Text
  databaseUrl : Text
  databasePoolMax : Nat
  databasePoolMin : Nat
  databaseConnectTimeoutSec : Nat
  databaseIdleTimeoutSec : Nat
  databaseMigrateOnStart : Bool
  tenancySessionVar : Text
  tenantIdDefault : BitVec 128
  tenancyStrict : Bool
  authApiKey : Option NonEmptyText
  authApiKeyHeader : Text
  /-- a second key, for the public demo -/
  authDemoApiKey : Option NonEmptyText
  /-- requests per minute with the demo key -/
  authDemoRateLimitPerMin : Nat
  labDatabaseUrl : Option NonEmptyText
  oauthEnabled : Bool
  oauthIssuer : Text
  oauthAudience : Text
  oauthJwksUrl : Text
  oauthJwksCacheSec : Nat
  oauthTenantClaim : Text
  maxViewportCells : Nat
  defaultH3Resolution : Nat
  renderP99BudgetMs : Nat
  metricsEnabled : Bool
  gitSha : Text
  buildTime : Text
  railwayEnvironment : Option NonEmptyText

/-! ## Environment -/

/-- The variables whose value is Unicode text. -/
abbrev Env := Text → Option Text

def envOr (env : Env) (key default : Text) : Text := (env key).getD default

/-- The words `bool_env` knows.  It lower-cases all of Unicode; none of these
letters is the lower case of a character outside ASCII. -/
def boolWord (s : Text) : Option Bool :=
  let s := asciiLowercase s
  if s = "1".toList ∨ s = "true".toList ∨ s = "yes".toList ∨ s = "on".toList
  then some true
  else if s = "0".toList ∨ s = "false".toList ∨ s = "no".toList
    ∨ s = "off".toList
  then some false
  else none

def boolEnv (env : Env) (key : Text) (default : Bool) : Bool :=
  ((env key).bind boolWord).getD default

/-- `env_or(key, default).parse().unwrap_or(default)`. -/
def unsignedEnv (env : Env) (max : Nat) (key : Text) (default : Nat) : Nat :=
  (parseUnsigned max (envOr env key (decimal default))).getD default

def keyEnv (env : Env) (key : Text) : Option NonEmptyText :=
  (env key).bind NonEmptyText.fromText

def u8Max : Nat := 2 ^ 8 - 1
def u16Max : Nat := 2 ^ 16 - 1
def u32Max : Nat := 2 ^ 32 - 1
def u64Max : Nat := 2 ^ 64 - 1

/-- `MCP_SERVER_PORT`, else `PORT`, else 8080. -/
def serverPort (env : Env) : Nat :=
  (parseUnsigned u16Max (envOr env "MCP_SERVER_PORT".toList [])
    <|> parseUnsigned u16Max (envOr env "PORT".toList [])).getD 8080

/-- The variable of the default tenant. -/
def defaultTenantText (env : Env) : Text :=
  envOr env "TENANT_ID_DEFAULT".toList
    "00000000-0000-0000-0000-000000000000".toList

/-- What `Config::from_env` builds once nothing can fail. -/
def Config.fromVariables (env : Env) (tenantIdDefault : BitVec 128)
    (databaseUrl : Text) : Config :=
  { env := envOr env "ENV".toList "development".toList
    rustLog := envOr env "RUST_LOG".toList "info".toList
    mcpServerHost := envOr env "MCP_SERVER_HOST".toList "0.0.0.0".toList
    mcpServerPort := serverPort env
    mcpTransport := envOr env "MCP_TRANSPORT".toList "http".toList
    databaseUrl := databaseUrl
    databasePoolMax := unsignedEnv env u32Max "DATABASE_POOL_MAX".toList 20
    databasePoolMin := unsignedEnv env u32Max "DATABASE_POOL_MIN".toList 2
    databaseConnectTimeoutSec :=
      unsignedEnv env u64Max "DATABASE_CONNECT_TIMEOUT_SEC".toList 10
    databaseIdleTimeoutSec :=
      unsignedEnv env u64Max "DATABASE_IDLE_TIMEOUT_SEC".toList 300
    databaseMigrateOnStart :=
      boolEnv env "DATABASE_MIGRATE_ON_START".toList true
    tenancySessionVar := envOr env "TENANCY_SESSION_VAR".toList
      "app.current_tenant_id".toList
    tenantIdDefault := tenantIdDefault
    tenancyStrict := boolEnv env "TENANCY_STRICT".toList true
    authApiKey := keyEnv env "AUTH_API_KEY".toList
    authApiKeyHeader := envOr env "AUTH_API_KEY_HEADER".toList
      "x-mobydb-api-key".toList
    authDemoApiKey := keyEnv env "AUTH_DEMO_API_KEY".toList
    authDemoRateLimitPerMin :=
      unsignedEnv env u32Max "AUTH_DEMO_RATE_LIMIT_PER_MIN".toList 100
    labDatabaseUrl := keyEnv env "LAB_DATABASE_URL".toList
    oauthEnabled := boolEnv env "OAUTH_ENABLED".toList false
    oauthIssuer := envOr env "OAUTH_ISSUER".toList []
    oauthAudience := envOr env "OAUTH_AUDIENCE".toList []
    oauthJwksUrl := envOr env "OAUTH_JWKS_URL".toList []
    oauthJwksCacheSec :=
      unsignedEnv env u64Max "OAUTH_JWKS_CACHE_SEC".toList 3600
    oauthTenantClaim := envOr env "OAUTH_TENANT_CLAIM".toList
      "tenant_id".toList
    maxViewportCells := unsignedEnv env u64Max "MAX_VIEWPORT_CELLS".toList 4096
    defaultH3Resolution :=
      unsignedEnv env u8Max "DEFAULT_H3_RESOLUTION".toList 9
    renderP99BudgetMs := unsignedEnv env u64Max "RENDER_P99_BUDGET_MS".toList 50
    metricsEnabled := boolEnv env "METRICS_ENABLED".toList true
    gitSha := envOr env "GIT_SHA".toList "unknown".toList
    buildTime := envOr env "BUILD_TIME".toList "unknown".toList
    railwayEnvironment := keyEnv env "RAILWAY_ENVIRONMENT".toList }

/-- `Config::from_env`, with `Uuid::parse_str` and its error's text. -/
def fromEnv (parseUuid : Text → Except Text (BitVec 128)) (env : Env) :
    Except Text Config := do
  let tenantIdDefault ← (parseUuid (defaultTenantText env)).mapError fun e =>
    "TENANT_ID_DEFAULT invalid UUID: ".toList ++ e
  let databaseUrl ← okOr "DATABASE_URL is required".toList
    (env "DATABASE_URL".toList)
  return Config.fromVariables env tenantIdDefault databaseUrl

section FromEnv

variable (parseUuid : Text → Except Text (BitVec 128)) (env : Env)

/-- **The server configures itself** exactly when the default tenant is a UUID
and `DATABASE_URL` is set. -/
theorem fromEnv_ok_iff (cfg : Config) :
    fromEnv parseUuid env = .ok cfg ↔
      ∃ uuid url, parseUuid (defaultTenantText env) = .ok uuid ∧
        env "DATABASE_URL".toList = some url ∧
        Config.fromVariables env uuid url = cfg := by
  unfold fromEnv
  simp only [bind_eq_ok, okOr_eq_ok, mapError_eq_ok]
  constructor
  · intro h
    obtain ⟨uuid, huuid, url, hurl, hcfg⟩ := h
    exact ⟨uuid, url, huuid, hurl, Except.ok.inj hcfg⟩
  · intro h
    obtain ⟨uuid, url, huuid, hurl, hcfg⟩ := h
    exact ⟨uuid, huuid, url, hurl, congrArg Except.ok hcfg⟩

/-- A variable set to the empty text configures no key. -/
theorem keyEnv_eq_some_iff (key : Text) (k : NonEmptyText) :
    keyEnv env key = some k ↔ env key = some k.text := by
  unfold keyEnv NonEmptyText.fromText
  cases env key with
  | none => simp
  | some s =>
      by_cases hs : s = []
      · subst hs
        have hne := k.nonempty
        simp [Ne.symm hne]
      · simp only [Option.bind_some, ne_eq, hs, not_false_eq_true, dif_pos,
          Option.some.injEq]
        constructor
        · intro h
          rw [← h]
        · intro h
          subst h
          rfl

end FromEnv

end RenderEngine.Ports.ServerConfig
