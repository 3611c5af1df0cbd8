import ApiStarter.Package.Auth.Tokens
import ApiStarter.Package.Env
import ApiStarter.Provider.SampleEnv

/-
  `config/auth.rs` and `AppConfig::load_auth`: the lifetimes of the two tokens, in seconds.

  Any 64-bit number in the environment is accepted. `generate_tokens` adds it to the time of the
  login, so a negative lifetime makes a token that has expired when it is signed, and one that
  leads past the last `DateTime` makes the login panic. `accepted_lifetimes_work_iff` says that
  there is no third way to go wrong.
-/

namespace ApiStarter.Config

open ApiStarter.Auth ApiStarter.Database ApiStarter.Effect ApiStarter.Effect.Fallible ApiStarter.Jwt
  ApiStarter.Provider
open ApiStarter.Text (utf8)

structure Auth where
  accessTokenTtlInSeconds : Int64
  refreshTokenTtlInSeconds : Int64
  deriving DecidableEq, Repr

def accessTokenTtl : String := "AUTHENTICATION_ACCESS_TOKEN_TTL_SECONDS"
def refreshTokenTtl : String := "AUTHENTICATION_REFRESH_TOKEN_TTL_SECONDS"

def AppConfig.loadAuth (environ : Env.Environ) : Except Env.Error Auth := do
  let access ← Env.i64Or environ accessTokenTtl 3600
  let refresh ← Env.i64Or environ refreshTokenTtl 604800
  return { accessTokenTtlInSeconds := access, refreshTokenTtlInSeconds := refresh }

/-- What `Provider::inject_default` hands to `AuthService::new`. -/
def Auth.lifetimes (auth : Auth) : AuthConfig :=
  { tokenTtl := auth.accessTokenTtlInSeconds.toInt
    refreshTokenTtl := auth.refreshTokenTtlInSeconds.toInt }

/-- The environment with both lifetimes written in it. -/
def Auth.written (auth : Auth) : Env.Environ := fun key =>
  if key = accessTokenTtl then
    some (utf8 (toString auth.accessTokenTtlInSeconds.toInt).toList)
  else if key = refreshTokenTtl then
    some (utf8 (toString auth.refreshTokenTtlInSeconds.toInt).toList)
  else none

/-- Whatever the two numbers are, they are accepted. -/
theorem loadAuth_written (auth : Auth) : AppConfig.loadAuth auth.written = .ok auth := by
  have hne : refreshTokenTtl ≠ accessTokenTtl := by decide
  have haccess : Env.i64Or auth.written accessTokenTtl 3600 =
      .ok auth.accessTokenTtlInSeconds := Env.i64Or_of_written (if_pos rfl) _
  have hrefresh : Env.i64Or auth.written refreshTokenTtl 604800 =
      .ok auth.refreshTokenTtlInSeconds :=
    Env.i64Or_of_written ((if_neg hne).trans (if_pos rfl)) _
  unfold AppConfig.loadAuth
  rw [haccess, hrefresh]
  rfl

/-! ## Lifetimes that work -/

/-- The last second of `DateTime::<Utc>::MAX_UTC`. -/
def lastSecond : Int := 8210266876799

/-- From `clock` on, the lifetime ends neither in the past nor past the last date. -/
def Lasts (clock : Timestamp) (ttl : Int) : Prop := 0 ≤ ttl ∧ unixSeconds clock + ttl ≤ lastSecond

instance (clock : Timestamp) (ttl : Int) : Decidable (Lasts clock ttl) :=
  inferInstanceAs (Decidable (_ ∧ _))

theorem lasts_iff {clock : Int} (hclock : 0 ≤ clock) {ttl : Int} :
    Lasts clock ttl ↔ ∃ t, addSeconds clock ttl = some t ∧ unixSeconds clock ≤ unixSeconds t := by
  unfold Lasts addSeconds unixSeconds maxDurationSeconds lastSecond
  constructor
  · intro ⟨hpositive, hlast⟩
    have hsum : (-8334601228800000000 : Int) ≤ clock + ttl * 1000000 ∧
        clock + ttl * 1000000 ≤ 8210266876799999999 := by omega
    rw [if_pos (by omega)]
    dsimp only
    rw [if_pos hsum]
    exact ⟨_, rfl, by omega⟩
  · intro ⟨t, ht, hlater⟩
    split at ht
    · dsimp only at ht
      split at ht
      next hrange =>
        have hsum : clock + ttl * 1000000 ≤ (8210266876799999999 : Int) := hrange.2
        cases ht
        omega
      next => cases ht
    · cases ht

section

variable {env : Env} {config : AuthConfig} {faults : Faults} {w : World} {user : Identity}

/-- The token is accepted at the time of the world. -/
def Accepted (env : Env) (w : World) (token : String) : Prop :=
  ∃ claims, validateToken env.jwt (unixSeconds w.clock) token = .ok claims

theorem accepted_iff {token : String} {claims : Claims} {expiresAt : Int}
    (hdec : env.jwt.decode token = .ok (claims.insert "exp" (.num expiresAt))) :
    Accepted env w token ↔ unixSeconds w.clock ≤ expiresAt := by
  unfold Accepted
  rw [validateToken_of_decode hdec]
  split
  next hexpired => exact iff_of_false (by simp) (by omega)
  next hlive => exact iff_of_true ⟨_, rfl⟩ (by omega)

/-- What `generate_tokens` returns where both additions have a result. -/
theorem generateTokens_of_addSeconds (hjwt : env.jwt.RoundTrips) {t₁ t₂ : Timestamp}
    (h₁ : addSeconds w.clock config.tokenTtl = some t₁)
    (h₂ : addSeconds w.clock config.refreshTokenTtl = some t₂) : ∃ tokens w',
    runE (exec env faults) (AuthService.generateTokens env config user) w =
      (some (.ok tokens), w') ∧
    env.jwt.decode tokens.token =
      .ok ((AuthService.accessClaims env user).insert "exp" (.num (unixSeconds t₁))) ∧
    env.jwt.decode tokens.refreshToken =
      .ok ((AuthService.refreshClaims env user).insert "exp" (.num (unixSeconds t₂))) := by
  obtain ⟨token, hgen₁, hdec₁⟩ := generateToken_ok hjwt (AuthService.accessClaims env user)
    (unixSeconds t₁)
  obtain ⟨refreshToken, hgen₂, hdec₂⟩ := generateToken_ok hjwt
    (AuthService.refreshClaims env user) (unixSeconds t₂)
  refine ⟨⟨token, refreshToken⟩, ?_⟩
  unfold AuthService.generateTokens
  rw [runE_ask_bind]
  simp only [h₁, h₂, expect_some, pure_bind, runE_ask_bind, exec, jwtGenerate, hgen₁,
    hgen₂, mapErr_ok]
  exact ⟨_, rfl, hdec₁, hdec₂⟩

/-- `generate_tokens` returns, and what it returns is accepted at once. -/
def Works (env : Env) (faults : Faults) (config : AuthConfig) (user : Identity) (w : World) :
    Prop :=
  ∃ tokens w', runE (exec env faults) (AuthService.generateTokens env config user) w =
    (some (.ok tokens), w') ∧ Accepted env w tokens.token ∧ Accepted env w tokens.refreshToken

theorem works_iff (hjwt : env.jwt.RoundTrips) (hclock : 0 ≤ w.clock) :
    Works env faults config user w ↔
      Lasts w.clock config.tokenTtl ∧ Lasts w.clock config.refreshTokenTtl := by
  rw [lasts_iff hclock, lasts_iff hclock]
  constructor
  · rintro ⟨tokens, w', hrun, haccess, hrefresh⟩
    obtain ⟨t₁, t₂, h₁, h₂, -⟩ := generateTokens_ok hrun
    obtain ⟨tokens', w'', hrun', hdec₁, hdec₂⟩ :=
      @generateTokens_of_addSeconds env config faults w user hjwt t₁ t₂ h₁ h₂
    rw [hrun] at hrun'
    cases hrun'
    exact ⟨⟨t₁, h₁, (accepted_iff hdec₁).1 haccess⟩, t₂, h₂, (accepted_iff hdec₂).1 hrefresh⟩
  · rintro ⟨⟨t₁, h₁, hlive₁⟩, t₂, h₂, hlive₂⟩
    obtain ⟨tokens, w', hrun, hdec₁, hdec₂⟩ := generateTokens_of_addSeconds hjwt h₁ h₂
    exact ⟨tokens, w', hrun, (accepted_iff hdec₁).2 hlive₁, (accepted_iff hdec₂).2 hlive₂⟩

end

/-- All pairs of 64-bit lifetimes are accepted; from 1970 on, those work that end neither in the
    past nor past the last date, and no others. -/
theorem accepted_lifetimes_work_iff {env : Env} (hjwt : env.jwt.RoundTrips) (faults : Faults)
    (user : Identity) {w : World} (hclock : 0 ≤ w.clock) :
    (∀ auth : Auth, ∃ environ, AppConfig.loadAuth environ = .ok auth) ∧
    ∀ environ auth, AppConfig.loadAuth environ = .ok auth →
      (Works env faults auth.lifetimes user w ↔
        Lasts w.clock auth.accessTokenTtlInSeconds.toInt ∧
          Lasts w.clock auth.refreshTokenTtlInSeconds.toInt) :=
  ⟨fun auth => ⟨_, loadAuth_written auth⟩, fun _ _ _ => works_iff hjwt hclock⟩

def sampleIdentity : Identity :=
  { id := 2, email := "ada@example.com", userName := "ada", password := "", roles := ["Admin"] }

/-- Lifetimes of a quarter of an hour and of a day, as they are written in the environment. -/
theorem accepted_lifetimes_work_iff_sample :
    AppConfig.loadAuth (Auth.written ⟨900, 86400⟩) = .ok ⟨900, 86400⟩ ∧
    Works sampleEnv Faults.none (Auth.lifetimes ⟨900, 86400⟩) sampleIdentity sampleWorld := by
  have hload : AppConfig.loadAuth (Auth.written ⟨900, 86400⟩) = .ok ⟨900, 86400⟩ :=
    loadAuth_written _
  have hjwt : sampleEnv.jwt.RoundTrips := sampleJwt_roundTrips
  have hclock : 0 ≤ sampleWorld.clock := le_rfl
  have hwork := accepted_lifetimes_work_iff hjwt Faults.none sampleIdentity hclock
  exact ⟨hload, (hwork.2 _ _ hload).2 (by decide)⟩

/-- A lifetime of `-1` is accepted and signs a dead token; the greatest `i64` is accepted and the
    login panics. -/
theorem lifetimes_out_of_range :
    0 ≤ sampleWorld.clock ∧
    (AppConfig.loadAuth (Auth.written ⟨-1, 604800⟩) = .ok ⟨-1, 604800⟩ ∧
      ¬ Works sampleEnv Faults.none (Auth.lifetimes ⟨-1, 604800⟩) sampleIdentity sampleWorld) ∧
    AppConfig.loadAuth (Auth.written ⟨9223372036854775807, 604800⟩) =
      .ok ⟨9223372036854775807, 604800⟩ ∧
    (runE (exec sampleEnv Faults.none) (AuthService.generateTokens sampleEnv
      (Auth.lifetimes ⟨9223372036854775807, 604800⟩) sampleIdentity) sampleWorld).1 = none := by
  refine ⟨le_rfl, ⟨loadAuth_written _, fun hworks => ?_⟩, loadAuth_written _, rfl⟩
  obtain ⟨tokens, w', hrun, ⟨claims, haccepted⟩, -⟩ := hworks
  cases hrun
  have hlive := (congrArg Except.toBool haccepted).trans (rfl : _ = true)
  exact absurd hlive (by decide)

end ApiStarter.Config
