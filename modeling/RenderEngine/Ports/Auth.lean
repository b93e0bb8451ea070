import RenderEngine.Ports.SeedWriter
import RenderEngine.Ports.SerdeValue
import RenderEngine.Ports.ServerConfig
import RenderEngine.Verified.DiffBits
import RenderEngine.Verified.Fallible

/-!
# Authentication (`auth.rs`)

A request comes in under one of four schemes: a bearer token, the main key,
the demo key, or no credentials at all in a development deployment.

Tokens, key sets and UUIDs are read by libraries.  `Libraries` holds their
calls; the key set itself is cached, and fetched when the cache is empty or
older than its time to live.

## Main results

* `constantTimeEq_iff`: the comparison of keys is equality.
* `extractBearer_iff`: which headers present a bearer token.
* `authenticate_fails_closed`: what an accepted request has shown.
-/

namespace RenderEngine.Ports.Auth

open RenderEngine.Ports.CoreTypes
open RenderEngine.Ports.RustStd
open RenderEngine.Ports.Serde
open RenderEngine.Ports.ServerConfig
open RenderEngine.Ports.SeedWriter (asBytes)
open RenderEngine.Verified.DiffBits
open RenderEngine.Verified.Fallible

/-! ## Headers -/

/-- `HeaderMap`: names in lower case, each with its value's bytes. -/
abbrev HeaderMap := List (Text × List UInt8)

/-- `get`: the first value under a name, whatever the name's case. -/
def HeaderMap.get (headers : HeaderMap) (name : Text) : Option (List UInt8) :=
  headers.lookup (asciiLowercase name)

/-- A byte `to_str` takes: visible ASCII, a blank or a tab. -/
def isVisible (b : UInt8) : Bool :=
  32 ≤ b.toNat && b.toNat < 127 || b.toNat == 9

/-- `HeaderValue::to_str`. -/
def toStr (value : List UInt8) : Option Text :=
  if value.all isVisible then some (value.map fun b => Char.ofNat b.toNat)
  else none

private theorem utf8_ofNat : ∀ n < 128,
    String.utf8EncodeChar (Char.ofNat n) = [UInt8.ofNat n] := by
  decide

/-- The bytes of a header's text are those of its value. -/
theorem asBytes_toStr {value : List UInt8} {s : Text}
    (h : toStr value = some s) : asBytes s = value := by
  unfold toStr at h
  by_cases hall : value.all isVisible = true
  · rw [if_pos hall] at h
    cases h
    rw [List.all_eq_true] at hall
    induction value with
    | nil => rfl
    | cons b value ih =>
        have hb : b.toNat < 128 := by
          have hvis := hall b List.mem_cons_self
          simp only [isVisible, Bool.or_eq_true, Bool.and_eq_true,
            decide_eq_true_eq, beq_iff_eq] at hvis
          omega
        have hrest := ih fun x hx => hall x (List.mem_cons_of_mem _ hx)
        show String.utf8EncodeChar (Char.ofNat b.toNat) ++
          asBytes (value.map fun b => Char.ofNat b.toNat) = b :: value
        rw [utf8_ofNat _ hb, hrest, UInt8.ofNat_toNat]
        rfl
  · rw [if_neg hall] at h
    cases h

/-! ## Bearer tokens -/

def bearerPrefix : Text := "Bearer ".toList

/-- `extract_bearer`. -/
def extractBearer (headers : HeaderMap) : Option Text := do
  let value ← headers.get "authorization".toList
  let h ← toStr value
  if bearerPrefix.length < h.length
    && eqIgnoreAsciiCase (h.take bearerPrefix.length) bearerPrefix
  then some (trimWhitespace (h.drop bearerPrefix.length))
  else none

/-- The headers present `token`: the text of `authorization` is the word
`Bearer` in any case, a blank, and something that trims to the token. -/
def PresentsBearer (headers : HeaderMap) (token : Text) : Prop :=
  ∃ value scheme rest,
    headers.get "authorization".toList = some value ∧
    toStr value = some (scheme ++ rest) ∧
    asciiLowercase scheme = asciiLowercase bearerPrefix ∧
    rest ≠ [] ∧ token = trimWhitespace rest

theorem extractBearer_iff (headers : HeaderMap) (token : Text) :
    extractBearer headers = some token ↔ PresentsBearer headers token := by
  unfold extractBearer PresentsBearer
  cases headers.get "authorization".toList with
  | none => simp
  | some value =>
      cases hstr : toStr value with
      | none => simp [hstr]
      | some h =>
          simp only [Option.bind_eq_bind, Option.bind_some, hstr,
            Bool.and_eq_true, decide_eq_true_eq, eqIgnoreAsciiCase,
            beq_iff_eq, Option.ite_none_right_eq_some, Option.some.injEq]
          constructor
          · intro hguard
            obtain ⟨⟨hlen, hcase⟩, htoken⟩ := hguard
            refine ⟨value, h.take bearerPrefix.length,
              h.drop bearerPrefix.length, rfl, ?_, hcase, ?_, htoken.symm⟩
            · rw [hstr, List.take_append_drop]
            · intro hnil
              rw [List.drop_eq_nil_iff] at hnil
              omega
          · intro hpresents
            obtain ⟨_, scheme, rest, rfl, htext, hcase, hne, htoken⟩ :=
              hpresents
            rw [hstr] at htext
            cases htext
            have hlen : scheme.length = bearerPrefix.length := by
              have hmap := congrArg List.length hcase
              simpa [asciiLowercase] using hmap
            rw [← hlen, List.take_left, List.drop_left, List.length_append]
            have hrest := List.length_pos_iff.mpr hne
            exact ⟨⟨by omega, hcase⟩, htoken.symm⟩

/-! ## Accepted requests -/

inductive AuthScheme where
  | apiKey
  | demoApiKey
  | oAuth2
  /-- development: no credentials are configured -/
  | none
  deriving DecidableEq

structure AuthContext where
  tenant : TenantId
  scheme : AuthScheme
  subject : Option Text
  deriving DecidableEq

abbrev StatusCode := Nat

/-- An opaque refusal. -/
structure AuthError where
  status : StatusCode
  message : Text
  deriving DecidableEq

/-- A refusal with `StatusCode::UNAUTHORIZED`. -/
def unauthorized (message : Text) : AuthError := ⟨401, message⟩

/-! ## Tokens -/

/-- `jsonwebtoken::Algorithm`. -/
inductive Algorithm where
  | hs256 | hs384 | hs512
  | es256 | es384
  | rs256 | rs384 | rs512
  | ps256 | ps384 | ps512
  | edDsa
  deriving DecidableEq

/-- What is read of a token's header. -/
structure TokenHeader where
  alg : Algorithm
  kid : Option Text

/-- `jsonwebtoken::Validation`, as far as it is set here. -/
structure Validation where
  algorithms : List Algorithm
  issuer : Option (List Text)
  audience : Option (List Text)

/-- `Validation::new`. -/
def Validation.new (alg : Algorithm) : Validation where
  algorithms := [alg]
  issuer := none
  audience := none

/-- The calls of other packages. -/
structure Libraries (JwkSet Jwk DecodingKey N : Type) where
  decodeHeader : Text → Except Text TokenHeader
  /-- `JwkSet::find`: the key with this id -/
  find : JwkSet → Text → Option Jwk
  fromJwk : Jwk → Except Text DecodingKey
  /-- `decode`, at the time of the request -/
  decode : Text → DecodingKey → Validation → Except Text (Value N)
  parseUuid : Text → Except Text (BitVec 128)

structure CachedJwks (JwkSet : Type) where
  set : JwkSet
  fetchedAt : Nat

/-- What a request meets outside: the clock when the cache is looked at, the
identity provider's answer, and the clock when that is in. -/
structure Provider (JwkSet : Type) where
  now : Nat
  answer : Text → Except Text JwkSet
  answeredAt : Nat

section Authenticate

variable {JwkSet Jwk DecodingKey N : Type}
variable (lib : Libraries JwkSet Jwk DecodingKey N) (cfg : Config)
variable (provider : Provider JwkSet)

/-- The fetch of `get_jwks`: a failure leaves the cache as it is. -/
def fetchJwks (cache : Option (CachedJwks JwkSet)) :
    Except Text JwkSet × Option (CachedJwks JwkSet) :=
  match provider.answer cfg.oauthJwksUrl with
  | .error e => (.error e, cache)
  | .ok set => (.ok set, some ⟨set, provider.answeredAt⟩)

/-- `get_jwks`. -/
def getJwks (cache : Option (CachedJwks JwkSet)) :
    Except Text JwkSet × Option (CachedJwks JwkSet) :=
  match cache with
  | none => fetchJwks cfg provider cache
  | some c =>
      if durationSince provider.now c.fetchedAt
        > fromSecs cfg.oauthJwksCacheSec
      then fetchJwks cfg provider cache
      else (.ok c.set, cache)

/-- The validation `verify_oauth` asks for. -/
def validation (alg : Algorithm) : Validation :=
  { Validation.new alg with
    issuer := some [cfg.oauthIssuer]
    audience := some [cfg.oauthAudience]
    algorithms := [.rs256, .es256, .edDsa] }

/-- `verify_oauth`, once it has the keys. -/
def verifyToken (set : JwkSet) (token : Text) : Except Text AuthContext := do
  let header ← lib.decodeHeader token
  let kid ← okOr "token header missing kid".toList header.kid
  let jwk ← okOr ("no JWK matches kid ".toList ++ kid) (lib.find set kid)
  let decodingKey ← lib.fromJwk jwk
  let claims ← lib.decode token decodingKey (validation cfg header.alg)
  let tenantStr ← okOr
    ("token missing tenant claim `".toList ++ cfg.oauthTenantClaim
      ++ "`".toList)
    ((claims.get cfg.oauthTenantClaim).bind Value.asStr)
  let tenant ← (lib.parseUuid tenantStr).mapError fun e =>
    "tenant claim not a UUID: ".toList ++ e
  return {
    tenant := ⟨tenant⟩
    scheme := .oAuth2
    subject := (claims.get "sub".toList).bind Value.asStr }

/-- `verify_oauth`. -/
def verifyOauth (cache : Option (CachedJwks JwkSet)) (token : Text) :
    Except Text AuthContext × Option (CachedJwks JwkSet) :=
  let (jwks, cache) := getJwks cfg provider cache
  (jwks.bind fun set => verifyToken lib cfg set token, cache)

/-! ## Keys -/

/-- `constant_time_eq`. -/
def constantTimeEq (a b : List UInt8) : Bool :=
  if a.length ≠ b.length then false
  else (a.zip b).foldl (fun acc x => acc ||| (x.1 ^^^ x.2)) 0 == 0

theorem constantTimeEq_iff (a b : List UInt8) :
    constantTimeEq a b = true ↔ a = b :=
  length_guarded_iff a b

/-- A key is configured, and the value compares equal to it. -/
def matchesKey (v : List UInt8) : Option NonEmptyText → Bool
  | some expected => constantTimeEq v (asBytes expected.text)
  | none => false

/-- The context of a request without a token. -/
def defaultContext (scheme : AuthScheme) : AuthContext where
  tenant := ⟨cfg.tenantIdDefault⟩
  scheme := scheme
  subject := none

/-- `authenticate` from its second step on: the key header, then the fallback
of a development deployment. -/
def authenticateKey (headers : HeaderMap) : Except AuthError AuthContext :=
  if cfg.authApiKey.isSome || cfg.authDemoApiKey.isSome then
    match headers.get cfg.authApiKeyHeader with
    | some v =>
        let v := asBytes ((toStr v).getD [])
        if matchesKey v cfg.authApiKey then .ok (defaultContext cfg .apiKey)
        else if matchesKey v cfg.authDemoApiKey then
          .ok (defaultContext cfg .demoApiKey)
        else .error (unauthorized "invalid api key".toList)
    | none => .error (unauthorized "missing api key".toList)
  else if cfg.env = "production".toList then
    .error (unauthorized "no auth configured".toList)
  else .ok (defaultContext cfg .none)

/-- `authenticate`, with the cache it leaves. -/
def authenticate (cache : Option (CachedJwks JwkSet)) (headers : HeaderMap) :
    Except AuthError AuthContext × Option (CachedJwks JwkSet) :=
  if cfg.oauthEnabled then
    match extractBearer headers with
    | some token =>
        let (result, cache) := verifyOauth lib cfg provider cache token
        (result.mapError fun _ => unauthorized "invalid token".toList, cache)
    | none =>
        if cfg.authApiKey.isNone then
          (.error (unauthorized "bearer token required".toList), cache)
        else (authenticateKey cfg headers, cache)
  else (authenticateKey cfg headers, cache)

/-! ## What an accepted request has shown -/

/-- `decode` takes these claims out of the token, with the key of the set that
the token's header names. -/
def TokenClaims (set : JwkSet) (token : Text) (claims : Value N) : Prop :=
  ∃ header kid jwk decodingKey,
    lib.decodeHeader token = .ok header ∧ header.kid = some kid ∧
    lib.find set kid = some jwk ∧ lib.fromJwk jwk = .ok decodingKey ∧
    lib.decode token decodingKey (validation cfg header.alg) = .ok claims

/-- The tenant claim is a text that reads as the tenant's UUID. -/
def TenantClaim (claims : Value N) (tenant : TenantId) : Prop :=
  ∃ s, (claims.get cfg.oauthTenantClaim).bind Value.asStr = some s ∧
    lib.parseUuid s = .ok tenant.uuid

structure ByToken (cache : Option (CachedJwks JwkSet)) (headers : HeaderMap)
    (ctx : AuthContext) : Prop where
  scheme : ctx.scheme = .oAuth2
  enabled : cfg.oauthEnabled = true
  verified : ∃ token set claims, PresentsBearer headers token ∧
    (verifyOauth lib cfg provider cache token).1 = .ok ctx ∧
    (getJwks cfg provider cache).1 = .ok set ∧
    TokenClaims lib cfg set token claims ∧
    TenantClaim lib cfg claims ctx.tenant

/-- The key a scheme asks for. -/
def configuredKey : AuthScheme → Option NonEmptyText
  | .apiKey => cfg.authApiKey
  | .demoApiKey => cfg.authDemoApiKey
  | _ => none

structure ByKey (headers : HeaderMap) (ctx : AuthContext) : Prop where
  scheme : ctx.scheme = .apiKey ∨ ctx.scheme = .demoApiKey
  presented : ∃ key, configuredKey cfg ctx.scheme = some key ∧
    headers.get cfg.authApiKeyHeader = some (asBytes key.text)
  tenant : ctx.tenant = ⟨cfg.tenantIdDefault⟩

structure ByFallback (ctx : AuthContext) : Prop where
  scheme : ctx.scheme = .none
  noOauth : cfg.oauthEnabled = false
  noKey : cfg.authApiKey = none
  noDemoKey : cfg.authDemoApiKey = none
  notProduction : cfg.env ≠ "production".toList
  tenant : ctx.tenant = ⟨cfg.tenantIdDefault⟩

theorem verifyToken_ok_iff {set : JwkSet} {token : Text} {ctx : AuthContext} :
    verifyToken lib cfg set token = .ok ctx ↔
      ∃ claims, TokenClaims lib cfg set token claims ∧
        TenantClaim lib cfg claims ctx.tenant ∧ ctx.scheme = .oAuth2 ∧
        ctx.subject = (claims.get "sub".toList).bind Value.asStr := by
  unfold verifyToken TokenClaims TenantClaim
  simp only [bind_eq_ok, okOr_eq_ok, mapError_eq_ok]
  constructor
  · intro h
    obtain ⟨header, hheader, kid, hkid, jwk, hjwk, key, hkey, claims, hclaims,
      s, hs, uuid, huuid, hctx⟩ := h
    cases hctx
    exact ⟨claims, ⟨header, kid, jwk, key, hheader, hkid, hjwk, hkey, hclaims⟩,
      ⟨s, hs, huuid⟩, rfl, rfl⟩
  · intro h
    obtain ⟨claims, ⟨header, kid, jwk, key, hheader, hkid, hjwk, hkey,
      hclaims⟩, ⟨s, hs, huuid⟩, hscheme, hsubject⟩ := h
    refine ⟨header, hheader, kid, hkid, jwk, hjwk, key, hkey, claims, hclaims,
      s, hs, ctx.tenant.uuid, huuid, ?_⟩
    obtain ⟨tenant, scheme, subject⟩ := ctx
    cases hscheme
    cases hsubject
    rfl

theorem verifyOauth_ok {cache : Option (CachedJwks JwkSet)} {token : Text}
    {ctx : AuthContext}
    (h : (verifyOauth lib cfg provider cache token).1 = .ok ctx) :
    ∃ set, (getJwks cfg provider cache).1 = .ok set ∧
      verifyToken lib cfg set token = .ok ctx :=
  bind_eq_ok.mp h

private theorem asBytes_eq_nil {s : Text} (h : asBytes s = []) : s = [] := by
  cases s with
  | nil => rfl
  | cons c s =>
      have hnil := (List.append_eq_nil_iff.mp h).1
      exact absurd hnil String.utf8EncodeChar_ne_nil

/-- A header whose bytes are no text matches no key: keys are not empty. -/
theorem matchesKey_toStr {value : List UInt8} {key : Option NonEmptyText}
    (h : matchesKey (asBytes ((toStr value).getD [])) key = true) :
    ∃ k, key = some k ∧ value = asBytes k.text := by
  cases key with
  | none => cases h
  | some k =>
      refine ⟨k, rfl, ?_⟩
      rw [matchesKey, constantTimeEq_iff] at h
      cases hstr : toStr value with
      | none =>
          rw [hstr] at h
          exact absurd (asBytes_eq_nil h.symm) k.nonempty
      | some s =>
          rw [hstr] at h
          exact (asBytes_toStr hstr).symm.trans h

/-- What the second and third steps accept. -/
theorem authenticateKey_ok {headers : HeaderMap} {ctx : AuthContext}
    (h : authenticateKey cfg headers = .ok ctx) :
    ByKey cfg headers ctx ∨
      (ctx = defaultContext cfg .none ∧ cfg.authApiKey = none ∧
        cfg.authDemoApiKey = none ∧ cfg.env ≠ "production".toList) := by
  unfold authenticateKey at h
  by_cases hkeys : (cfg.authApiKey.isSome || cfg.authDemoApiKey.isSome) = true
  · rw [if_pos hkeys] at h
    cases hvalue : headers.get cfg.authApiKeyHeader with
    | none =>
        rw [hvalue] at h
        cases h
    | some v =>
        simp only [hvalue] at h
        left
        by_cases hmain :
            matchesKey (asBytes ((toStr v).getD [])) cfg.authApiKey = true
        · rw [if_pos hmain] at h
          cases h
          obtain ⟨k, hk, hv⟩ := matchesKey_toStr hmain
          exact ⟨.inl rfl, ⟨k, hk, hv ▸ hvalue⟩, rfl⟩
        · rw [if_neg hmain] at h
          by_cases hdemo :
              matchesKey (asBytes ((toStr v).getD [])) cfg.authDemoApiKey = true
          · rw [if_pos hdemo] at h
            cases h
            obtain ⟨k, hk, hv⟩ := matchesKey_toStr hdemo
            exact ⟨.inr rfl, ⟨k, hk, hv ▸ hvalue⟩, rfl⟩
          · rw [if_neg hdemo] at h
            cases h
  · rw [if_neg hkeys] at h
    rw [Bool.not_eq_true, Bool.or_eq_false_iff, Option.isSome_eq_false_iff,
      Option.isSome_eq_false_iff, Option.isNone_iff_eq_none,
      Option.isNone_iff_eq_none] at hkeys
    by_cases henv : cfg.env = "production".toList
    · rw [if_pos henv] at h
      cases h
    · rw [if_neg henv] at h
      cases h
      exact .inr ⟨rfl, hkeys.1, hkeys.2, henv⟩

/-- The two ways `authenticate` comes to accept. -/
theorem authenticate_ok {cache : Option (CachedJwks JwkSet)}
    {headers : HeaderMap} {ctx : AuthContext}
    (h : (authenticate lib cfg provider cache headers).1 = .ok ctx) :
    (∃ token, cfg.oauthEnabled = true ∧ extractBearer headers = some token ∧
      (verifyOauth lib cfg provider cache token).1 = .ok ctx) ∨
    (authenticateKey cfg headers = .ok ctx ∧
      (cfg.oauthEnabled = true → cfg.authApiKey ≠ none)) := by
  unfold authenticate at h
  by_cases henabled : cfg.oauthEnabled = true
  · rw [if_pos henabled] at h
    cases hbearer : extractBearer headers with
    | some token =>
        rw [hbearer] at h
        exact .inl ⟨token, henabled, rfl, mapError_eq_ok.mp h⟩
    | none =>
        simp only [hbearer] at h
        by_cases hmain : cfg.authApiKey.isNone = true
        · rw [if_pos hmain] at h
          cases h
        · rw [if_neg hmain] at h
          rw [Option.isNone_iff_eq_none] at hmain
          exact .inr ⟨h, fun _ => hmain⟩
  · rw [if_neg henabled] at h
    exact .inr ⟨h, fun hon => absurd hon henabled⟩

/-- The demo scheme is for deployments with a demo key. -/
theorem authenticate_demoApiKey {cache : Option (CachedJwks JwkSet)}
    {headers : HeaderMap} {ctx : AuthContext}
    (h : (authenticate lib cfg provider cache headers).1 = .ok ctx)
    (hdemo : ctx.scheme = .demoApiKey) :
    ∃ key, cfg.authDemoApiKey = some key := by
  cases authenticate_ok lib cfg provider h with
  | inl htoken =>
      obtain ⟨token, -, -, hverify⟩ := htoken
      obtain ⟨set, -, haccept⟩ := verifyOauth_ok lib cfg provider hverify
      obtain ⟨claims, -, -, hscheme, -⟩ :=
        (verifyToken_ok_iff lib cfg).mp haccept
      rw [hdemo] at hscheme
      cases hscheme
  | inr hkey =>
      cases authenticateKey_ok cfg hkey.1 with
      | inl hpresented =>
          obtain ⟨key, hconfigured, -⟩ := hpresented.presented
          rw [hdemo] at hconfigured
          exact ⟨key, hconfigured⟩
      | inr hfallback =>
          rw [hfallback.1] at hdemo
          cases hdemo

/-- **Authentication fails closed**: a request is let in by its token, by its
key, or by the fallback of a deployment that configures neither. -/
theorem authenticate_fails_closed {cache : Option (CachedJwks JwkSet)}
    {headers : HeaderMap} {ctx : AuthContext}
    (h : (authenticate lib cfg provider cache headers).1 = .ok ctx) :
    ByToken lib cfg provider cache headers ctx ∨ ByKey cfg headers ctx ∨
      ByFallback cfg ctx := by
  cases authenticate_ok lib cfg provider h with
  | inl htoken =>
      obtain ⟨token, henabled, hbearer, hverify⟩ := htoken
      obtain ⟨set, hset, haccept⟩ := verifyOauth_ok lib cfg provider hverify
      obtain ⟨claims, hclaims, htenant, hscheme, -⟩ :=
        (verifyToken_ok_iff lib cfg).mp haccept
      exact .inl ⟨hscheme, henabled, token, set, claims,
        (extractBearer_iff headers token).mp hbearer, hverify, hset, hclaims,
        htenant⟩
  | inr hkey =>
      obtain ⟨hkey, henabled⟩ := hkey
      cases authenticateKey_ok cfg hkey with
      | inl hpresented => exact .inr (.inl hpresented)
      | inr hfallback =>
          obtain ⟨hctx, hmain, hdemo, henv⟩ := hfallback
          -- with OAuth on, a main key is configured: no fallback
          have hoff : cfg.oauthEnabled = false := by
            rw [← Bool.not_eq_true]
            exact fun hon => henabled hon hmain
          subst hctx
          exact .inr (.inr ⟨rfl, hoff, hmain, hdemo, henv, rfl⟩)

end Authenticate

/-- A deployment with both keys and OAuth; tokens are opaque to it. -/
def keyedConfig : Config :=
  Config.fromVariables (fun key => List.lookup key
    [ ("OAUTH_ENABLED".toList, "on".toList)
    , ("AUTH_API_KEY".toList, "main".toList)
    , ("AUTH_DEMO_API_KEY".toList, "demo".toList) ])
    0 "postgres://localhost".toList

/-- Libraries that refuse every token. -/
def refusingLibraries : Libraries Unit Unit Unit Int where
  decodeHeader := fun _ => .error "InvalidToken".toList
  find := fun _ _ => none
  fromJwk := fun _ => .ok ()
  decode := fun _ _ _ => .error "InvalidToken".toList
  parseUuid := fun _ => .error "invalid length".toList

/-- The demo key is let in where OAuth is on as well. -/
theorem authenticate_fails_closed_demo_key :
    ByToken refusingLibraries keyedConfig
        ⟨0, fun _ => .error "unreachable".toList, 0⟩ none
        [("x-mobydb-api-key".toList, asBytes "demo".toList)]
        (defaultContext keyedConfig .demoApiKey) ∨
      ByKey keyedConfig
        [("x-mobydb-api-key".toList, asBytes "demo".toList)]
        (defaultContext keyedConfig .demoApiKey) ∨
      ByFallback keyedConfig (defaultContext keyedConfig .demoApiKey) :=
  authenticate_fails_closed refusingLibraries keyedConfig
    ⟨0, fun _ => .error "unreachable".toList, 0⟩ rfl

end RenderEngine.Ports.Auth
