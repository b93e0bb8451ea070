import RenderEngine.Ports.Auth

/-!
# Valid tokens (`verify_oauth` of `auth.rs`)

`jsonwebtoken` 9 is not part of the sources.  `Jsonwebtoken` has the parts its
`decode` is put together from, and `decode` puts them together as its
documentation says: before anything else, every algorithm of the validation
must be of the key's family.  `verify_oauth` asks for RS256, ES256 and EdDSA at
once, which are of three families.

## Main results

* `decode_of_families`: a token is decoded only where all algorithms are of the
  key's family.
* `decode_of_own_algorithm`: with its own algorithm alone a valid token is
  decoded.
* `valid_token_refused`: no valid token is let in.
-/

namespace RenderEngine.Ports.OauthTokens

open RenderEngine.Ports.CoreTypes
open RenderEngine.Ports.RustStd
open RenderEngine.Ports.Serde
open RenderEngine.Ports.ServerConfig
open RenderEngine.Ports.Auth

/-! ## `jsonwebtoken` -/

inductive AlgorithmFamily where
  | hmac
  | rsa
  | ec
  | ed
  deriving DecidableEq

/-- `Algorithm::family`. -/
def family : Algorithm → AlgorithmFamily
  | .hs256 | .hs384 | .hs512 => .hmac
  | .rs256 | .rs384 | .rs512 | .ps256 | .ps384 | .ps512 => .rsa
  | .es256 | .es384 => .ec
  | .edDsa => .ed

/-- The parts of `decode`. -/
structure Jsonwebtoken (DecodingKey N : Type) where
  keyFamily : DecodingKey → AlgorithmFamily
  /-- the token's signature under the key -/
  verify : Text → DecodingKey → Algorithm → Bool
  /-- the token's payload -/
  payload : Text → Except Text (Value N)
  /-- the registered claims, with issuer and audience, at the time of the
  request -/
  validate : Value N → Option (List Text) → Option (List Text) →
    Except Text Unit

section Decode

variable {JwkSet Jwk DecodingKey N : Type}
variable (lib : Libraries JwkSet Jwk DecodingKey N)
variable (jwt : Jsonwebtoken DecodingKey N)

/-- `decode`, in the order of its checks. -/
def decode (token : Text) (key : DecodingKey) (validation : Validation) :
    Except Text (Value N) :=
  if validation.algorithms.any fun alg => jwt.keyFamily key ≠ family alg then
    .error "InvalidAlgorithm".toList
  else do
    let header ← lib.decodeHeader token
    if !validation.algorithms.contains header.alg then
      .error "InvalidAlgorithm".toList
    else if !jwt.verify token key header.alg then
      .error "InvalidSignature".toList
    else do
      let claims ← jwt.payload token
      jwt.validate claims validation.issuer validation.audience
      return claims

/-- `decode` decodes only where every algorithm is of the key's family. -/
theorem decode_of_families {token : Text} {key : DecodingKey}
    {validation : Validation} {claims : Value N}
    (h : decode lib jwt token key validation = .ok claims) :
    ∀ alg ∈ validation.algorithms, jwt.keyFamily key = family alg := by
  intro alg halg
  by_contra hother
  have hany : (validation.algorithms.any
      fun alg => jwt.keyFamily key ≠ family alg) = true := by
    rw [List.any_eq_true]
    exact ⟨alg, halg, decide_eq_true hother⟩
  unfold decode at h
  rw [if_pos hany] at h
  cases h

variable (cfg : Config)

/-- No key is of the family of all three algorithms. -/
theorem decode_validation (token : Text) (key : DecodingKey) (alg : Algorithm)
    (claims : Value N) :
    decode lib jwt token key (validation cfg alg) ≠ .ok claims := by
  intro h
  have hrsa := decode_of_families lib jwt h .rs256 (by simp [validation])
  have hec := decode_of_families lib jwt h .es256 (by simp [validation])
  rw [hrsa] at hec
  cases hec

/-! ## Valid tokens -/

/-- A token that is signed by a key of the set, with one of the accepted
algorithms, and names that key, the issuer, the audience and a tenant. -/
structure ValidToken (set : JwkSet) where
  token : Text
  header : TokenHeader
  kid : Text
  jwk : Jwk
  key : DecodingKey
  claims : Value N
  tenant : TenantId
  header_decoded : lib.decodeHeader token = .ok header
  accepted : header.alg ∈ [Algorithm.rs256, .es256, .edDsa]
  names : header.kid = some kid
  found : lib.find set kid = some jwk
  key_read : lib.fromJwk jwk = .ok key
  key_family : jwt.keyFamily key = family header.alg
  signed : jwt.verify token key header.alg = true
  payload_read : jwt.payload token = .ok claims
  validated : jwt.validate claims (some [cfg.oauthIssuer])
    (some [cfg.oauthAudience]) = .ok ()
  tenant_claim : TenantClaim lib cfg claims tenant

variable {lib jwt cfg} {set : JwkSet}

/-- **A valid token is decoded** where its own algorithm is asked for. -/
theorem decode_of_own_algorithm (t : ValidToken lib jwt cfg set) :
    decode lib jwt t.token t.key
      { validation cfg t.header.alg with algorithms := [t.header.alg] } =
        .ok t.claims := by
  have hfamily : ([t.header.alg].any
      fun alg => jwt.keyFamily t.key ≠ family alg) = false := by
    simp [t.key_family]
  have hlisted : (!([t.header.alg].contains t.header.alg)) = false := by
    simp
  have hsigned : (!(jwt.verify t.token t.key t.header.alg)) = false := by
    rw [t.signed]
    rfl
  unfold decode
  simp only [hfamily, Bool.false_eq_true, if_false, t.header_decoded, hlisted,
    hsigned, t.payload_read, validation, bind, Except.bind, t.validated]
  rfl

end Decode

/-! ## Requests with a valid token -/

section Authenticate

variable {JwkSet Jwk DecodingKey N : Type}
variable (lib : Libraries JwkSet Jwk DecodingKey N)
variable (jwt : Jsonwebtoken DecodingKey N) (cfg : Config)
variable (provider : Provider JwkSet) (cache : Option (CachedJwks JwkSet))
variable (headers : HeaderMap)

/-- A request with OAuth on, whose token is valid for the keys in use. -/
structure ValidRequest where
  set : JwkSet
  valid : ValidToken lib jwt cfg set
  enabled : cfg.oauthEnabled = true
  served : (getJwks cfg provider cache).1 = .ok set
  presented : PresentsBearer headers valid.token

/-- The request is let in by its token, for this tenant. -/
def LetIn (tenant : TenantId) : Prop :=
  ∃ ctx, (authenticate lib cfg provider cache headers).1 = .ok ctx ∧
    ctx.scheme = .oAuth2 ∧ ctx.tenant = tenant

variable {lib jwt cfg provider cache headers}

/-- No token gets past `decode`. -/
theorem verifyOauth_ne_ok
    (hdecode : ∀ token key v, lib.decode token key v = decode lib jwt token key v)
    (token : Text) (ctx : AuthContext) :
    (verifyOauth lib cfg provider cache token).1 ≠ .ok ctx := by
  intro h
  obtain ⟨set, -, haccept⟩ := verifyOauth_ok lib cfg provider h
  obtain ⟨claims, hclaims, -⟩ := (verifyToken_ok_iff lib cfg).mp haccept
  obtain ⟨header, kid, jwk, key, -, -, -, -, hdecoded⟩ := hclaims
  rw [hdecode] at hdecoded
  exact decode_validation lib jwt cfg token key header.alg claims hdecoded

/-- **No valid token is let in**: the request gets the opaque refusal. -/
theorem valid_token_refused
    (hdecode : ∀ token key v, lib.decode token key v = decode lib jwt token key v)
    (req : ValidRequest lib jwt cfg provider cache headers) :
    ¬ LetIn lib cfg provider cache headers req.valid.tenant ∧
      (authenticate lib cfg provider cache headers).1 =
        .error (unauthorized "invalid token".toList) := by
  have hbearer := (extractBearer_iff headers req.valid.token).mpr req.presented
  have hrefused : (authenticate lib cfg provider cache headers).1 =
      .error (unauthorized "invalid token".toList) := by
    unfold authenticate
    rw [if_pos req.enabled, hbearer]
    cases hverify : (verifyOauth lib cfg provider cache req.valid.token).1 with
    | ok ctx => exact absurd hverify (verifyOauth_ne_ok hdecode _ ctx)
    | error e =>
        show (verifyOauth lib cfg provider cache req.valid.token).1.mapError
          _ = _
        rw [hverify]
        rfl
  refine ⟨?_, hrefused⟩
  rintro ⟨ctx, hok, -, -⟩
  rw [hrefused] at hok
  cases hok

end Authenticate

/-! ## One token -/

/-- A deployment that trusts one issuer. -/
def issuerConfig : Config :=
  Config.fromVariables (fun key => List.lookup key
    [ ("OAUTH_ENABLED".toList, "on".toList)
    , ("OAUTH_ISSUER".toList, "issuer".toList)
    , ("OAUTH_AUDIENCE".toList, "mobydb".toList) ])
    0 "postgres://localhost".toList

def tenantText : Text := "00000000-0000-0000-0000-000000000007".toList

def issuerClaims : Value Int :=
  Value.object
    [ ("iss".toList, Value.string "issuer".toList)
    , ("aud".toList, Value.string "mobydb".toList)
    , ("tenant_id".toList, Value.string tenantText) ]

/-- Tokens are texts that name nothing but their signer; one is signed. -/
def issuerTokens : Jsonwebtoken AlgorithmFamily Int where
  keyFamily := id
  verify := fun token key alg => token == "signed".toList && key == family alg
  payload := fun _ => .ok issuerClaims
  validate := fun claims issuer audience =>
    if (claims.get "iss".toList).bind Value.asStr = issuer.bind List.head?
      ∧ (claims.get "aud".toList).bind Value.asStr = audience.bind List.head?
    then .ok ()
    else .error "InvalidIssuer".toList

/-- The issuer's key set: an RSA key. -/
def issuerLibraries : Libraries Unit AlgorithmFamily AlgorithmFamily Int where
  decodeHeader := fun _ => .ok ⟨.rs256, some "key-1".toList⟩
  find := fun _ kid => if kid = "key-1".toList then some .rsa else none
  fromJwk := .ok
  decode := decode
    { decodeHeader := fun _ => .ok ⟨.rs256, some "key-1".toList⟩
      find := fun _ _ => none
      fromJwk := .ok
      decode := fun _ _ _ => .error []
      parseUuid := fun _ => .error [] : Libraries Unit AlgorithmFamily
        AlgorithmFamily Int }
    issuerTokens
  parseUuid := fun s => if s = tenantText then .ok 7 else .error []

/-- The issuer's server, which answers. -/
def issuerProvider : Provider Unit where
  now := 0
  answer := fun _ => .ok ()
  answeredAt := 0

def issuerHeaders : HeaderMap :=
  [("authorization".toList, SeedWriter.asBytes "Bearer signed".toList)]

/-- A request with the RS256 token of the issuer. -/
def issuerRequest : ValidRequest issuerLibraries issuerTokens issuerConfig
    issuerProvider none issuerHeaders where
  set := ()
  valid :=
    { token := "signed".toList
      header := ⟨.rs256, some "key-1".toList⟩
      kid := "key-1".toList
      jwk := .rsa
      key := .rsa
      claims := issuerClaims
      tenant := ⟨7⟩
      header_decoded := rfl
      accepted := by simp
      names := rfl
      found := rfl
      key_read := rfl
      key_family := rfl
      signed := by decide
      payload_read := rfl
      validated := rfl
      tenant_claim := ⟨tenantText, rfl, rfl⟩ }
  enabled := rfl
  served := rfl
  presented := (extractBearer_iff _ _).mp rfl

theorem valid_token_refused_rs256 :
    ¬ LetIn issuerLibraries issuerConfig issuerProvider none issuerHeaders
        ⟨7⟩ ∧
      (authenticate issuerLibraries issuerConfig issuerProvider none
        issuerHeaders).1 = .error (unauthorized "invalid token".toList) :=
  valid_token_refused (fun _ _ _ => rfl) issuerRequest

/-- The token of the issuer is valid, and refused. -/
theorem not_letIn_rs256 :
    ¬ ∀ req : ValidRequest issuerLibraries issuerTokens issuerConfig
        issuerProvider none issuerHeaders,
      LetIn issuerLibraries issuerConfig issuerProvider none issuerHeaders
        req.valid.tenant := by
  intro hclaim
  obtain ⟨ctx, hok, -, -⟩ := hclaim issuerRequest
  cases hok

end RenderEngine.Ports.OauthTokens
