import RenderEngine.Ports.Auth

/-!
# Which configured keys are let in (`auth.rs`)

With OAuth on, a request without a token is turned away before the keys are
looked at, unless a main key is configured.  The demo key has no say in that:
next to OAuth alone it is never looked at.

## Main results

* `authenticateKey_main`, `authenticateKey_demo`: the key that is presented.
* `configuredKeysWork_iff`: a configured key is let in unless it is the demo
  key next to OAuth alone.
-/

namespace RenderEngine.Ports.ApiKeys

open RenderEngine.Ports.CoreTypes
open RenderEngine.Ports.RustStd
open RenderEngine.Ports.ServerConfig
open RenderEngine.Ports.Auth
open RenderEngine.Ports.SeedWriter (asBytes)

/-- A header can carry the key. -/
def VisibleKey (key : NonEmptyText) : Prop :=
  (asBytes key.text).all isVisible = true

/-- The request's key header holds this key. -/
def Presents (cfg : Config) (headers : HeaderMap) (key : NonEmptyText) : Prop :=
  headers.get cfg.authApiKeyHeader = some (asBytes key.text)

section Keys

variable {cfg : Config} {headers : HeaderMap} {key : NonEmptyText}

/-- The text of the header is that of the key. -/
theorem asBytes_presented (hvisible : VisibleKey key) :
    asBytes ((toStr (asBytes key.text)).getD []) = asBytes key.text := by
  have htext : toStr (asBytes key.text) =
      some ((asBytes key.text).map fun b => Char.ofNat b.toNat) := by
    unfold toStr VisibleKey at *
    rw [if_pos hvisible]
  rw [htext]
  exact asBytes_toStr htext

theorem matchesKey_iff (v : List UInt8) (key : NonEmptyText) :
    matchesKey v (some key) = true ↔ v = asBytes key.text :=
  constantTimeEq_iff v (asBytes key.text)

/-- The main key is let in once the keys are looked at. -/
theorem authenticateKey_main (hkey : cfg.authApiKey = some key)
    (hvisible : VisibleKey key) (hpresents : Presents cfg headers key) :
    authenticateKey cfg headers = .ok (defaultContext cfg .apiKey) := by
  have hmatch := (matchesKey_iff _ key).mpr (asBytes_presented hvisible)
  have hpresents : headers.get cfg.authApiKeyHeader =
      some (asBytes key.text) := hpresents
  unfold authenticateKey
  simp only [hkey, Option.isSome_some, Bool.true_or, if_true, hpresents]
  rw [if_pos hmatch]

/-- So is the demo key, where it is not the main key as well. -/
theorem authenticateKey_demo (hkey : cfg.authDemoApiKey = some key)
    (hvisible : VisibleKey key) (hpresents : Presents cfg headers key)
    (hmain : ∀ main, cfg.authApiKey = some main →
      ¬ Presents cfg headers main) :
    authenticateKey cfg headers = .ok (defaultContext cfg .demoApiKey) := by
  have hmatch := (matchesKey_iff _ key).mpr (asBytes_presented hvisible)
  have hother : ¬ matchesKey (asBytes ((toStr (asBytes key.text)).getD []))
      cfg.authApiKey = true := by
    intro hmatches
    obtain ⟨main, hmainKey, hbytes⟩ := matchesKey_toStr hmatches
    exact hmain main hmainKey (hpresents.trans (congrArg some hbytes))
  have hpresents : headers.get cfg.authApiKeyHeader =
      some (asBytes key.text) := hpresents
  unfold authenticateKey
  rw [hkey] at *
  simp only [Option.isSome_some, Bool.or_true, if_true, hpresents]
  rw [if_neg hother, if_pos hmatch]

end Keys

section Authenticate

variable {JwkSet Jwk DecodingKey N : Type}
variable (lib : Libraries JwkSet Jwk DecodingKey N) (cfg : Config)
variable (provider : Provider JwkSet) (cache : Option (CachedJwks JwkSet))
variable {headers : HeaderMap}

/-- OAuth is on and no main key is configured. -/
def OauthWithoutMain : Prop := cfg.oauthEnabled = true ∧ cfg.authApiKey = none

/-- Without a token the keys decide, unless OAuth stands without a main key. -/
theorem authenticate_without_bearer (hbearer : extractBearer headers = none) :
    (OauthWithoutMain cfg →
      (authenticate lib cfg provider cache headers).1 =
        .error (unauthorized "bearer token required".toList)) ∧
    (¬ OauthWithoutMain cfg →
      (authenticate lib cfg provider cache headers).1 =
        authenticateKey cfg headers) := by
  unfold authenticate
  constructor
  · intro h
    rw [if_pos h.1, hbearer, h.2]
    rfl
  · intro h
    by_cases henabled : cfg.oauthEnabled = true
    · have hmain : ¬ cfg.authApiKey.isNone = true := by
        intro hnone
        exact h ⟨henabled, Option.isNone_iff_eq_none.mp hnone⟩
      rw [if_pos henabled, hbearer]
      simp only
      rw [if_neg hmain]
    · rw [if_neg henabled]

/-- Each configured key is let in under its scheme, for the default tenant;
the main key where it is both. -/
structure ConfiguredKeysWork (headers : HeaderMap) : Prop where
  main : ∀ key, cfg.authApiKey = some key → Presents cfg headers key →
    (authenticate lib cfg provider cache headers).1 =
      .ok (defaultContext cfg .apiKey)
  demo : ∀ key, cfg.authDemoApiKey = some key → Presents cfg headers key →
    (∀ main, cfg.authApiKey = some main → ¬ Presents cfg headers main) →
    (authenticate lib cfg provider cache headers).1 =
      .ok (defaultContext cfg .demoApiKey)

/-- **A configured key is let in** exactly unless it is the demo key and OAuth
is on without a main key. -/
theorem configuredKeysWork_iff (hbearer : extractBearer headers = none)
    (hmain : ∀ key, cfg.authApiKey = some key → VisibleKey key)
    (hdemo : ∀ key, cfg.authDemoApiKey = some key → VisibleKey key) :
    ConfiguredKeysWork lib cfg provider cache headers ↔
      ¬ (OauthWithoutMain cfg ∧
        ∃ key, cfg.authDemoApiKey = some key ∧ Presents cfg headers key) := by
  obtain ⟨hrefused, hkeys⟩ :=
    authenticate_without_bearer lib cfg provider cache hbearer
  constructor
  · rintro hwork ⟨halone, key, hkey, hpresents⟩
    have hok := hwork.demo key hkey hpresents fun main hsome => by
      rw [halone.2] at hsome
      cases hsome
    rw [hrefused halone] at hok
    cases hok
  · intro hcondition
    by_cases halone : OauthWithoutMain cfg
    · exact {
        main := by
          intro key hkey
          rw [halone.2] at hkey
          cases hkey
        demo := fun key hkey hpresents _ =>
          absurd ⟨halone, key, hkey, hpresents⟩ hcondition }
    · exact {
        main := fun key hkey hpresents => by
          rw [hkeys halone]
          exact authenticateKey_main hkey (hmain key hkey) hpresents
        demo := fun key hkey hpresents hother => by
          rw [hkeys halone]
          exact authenticateKey_demo hkey (hdemo key hkey) hpresents hother }

end Authenticate

/-! ## The demo key next to OAuth -/

/-- A deployment with OAuth and a demo key. -/
def oauthDemoConfig : Config :=
  Config.fromVariables (fun key => List.lookup key
    [ ("OAUTH_ENABLED".toList, "on".toList)
    , ("AUTH_DEMO_API_KEY".toList, "demo".toList) ])
    0 "postgres://localhost".toList

/-- A request with the demo key. -/
def demoHeaders : HeaderMap :=
  [("x-mobydb-api-key".toList, asBytes "demo".toList)]

/-- The demo key of that deployment is turned away for want of a token. -/
theorem not_configuredKeysWork_demo :
    ¬ ConfiguredKeysWork refusingLibraries oauthDemoConfig
      ⟨0, fun _ => .error "unreachable".toList, 0⟩ none demoHeaders := by
  intro hwork
  have hok := hwork.demo ⟨"demo".toList, by decide⟩ rfl rfl nofun
  cases hok

/-- With a main key as well it is let in. -/
theorem configuredKeysWork_iff_keyed :
    ConfiguredKeysWork refusingLibraries keyedConfig
      ⟨0, fun _ => .error "unreachable".toList, 0⟩ none demoHeaders := by
  refine (configuredKeysWork_iff refusingLibraries keyedConfig
    ⟨0, fun _ => .error "unreachable".toList, 0⟩ none rfl ?_ ?_).mpr ?_
  · rintro key hkey
    cases hkey
    rfl
  · rintro key hkey
    cases hkey
    rfl
  · rintro ⟨⟨-, hnone⟩, -⟩
    cases hnone

end RenderEngine.Ports.ApiKeys
