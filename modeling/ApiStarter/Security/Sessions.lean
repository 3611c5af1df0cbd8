import ApiStarter.Security.TokenKinds
import ApiStarter.Server.Serving

/-
  A session is a login and the refreshes of its tokens, between any other calls.

  Every token of a session names the user who logged in (`obtained_signed`, by induction on
  the refreshes). What a token gives is read from the database when it is presented, so any
  two live tokens of a user are seen alike: as the user's row and roles of that moment
  (`sessions_follow_store`). The roles an access token carries are never read.
-/

namespace ApiStarter.Security

open ApiStarter.Auth ApiStarter.Database ApiStarter.Effect ApiStarter.Effect.Fallible
  ApiStarter.Errdef ApiStarter.Iam ApiStarter.Jwt ApiStarter.Provider ApiStarter.Relational
  ApiStarter.Server ApiStarter.Web

/-- The tokens of the sessions of `userId` along a run from `start`. -/
inductive Obtained (env : Env) (config : AuthConfig) (faults : Faults) (start : World)
    (userId : Uuid) : List Event → World → String → Prop
  | login {events : List Event} {w w' : World} {row : UserRow} {password : String}
      {tokens : AuthenticationTokens} {token : String}
      (hrun : Run (Step env config faults) start events w)
      (hrow : row ∈ w.db.users) (hid : row.id = userId)
      (hstep : Step env config faults w
        (.called (.generateToken row.email password) (some (.ok tokens))) w')
      (htoken : token = tokens.token ∨ token = tokens.refreshToken) :
      Obtained env config faults start userId
        (events ++ [.called (.generateToken row.email password) (some (.ok tokens))]) w' token
  | refresh {events : List Event} {w w' : World} {old : String}
      {tokens : AuthenticationTokens} {token : String}
      (h : Obtained env config faults start userId events w old)
      (hstep : Step env config faults w
        (.called (.refreshToken old) (some (.ok tokens))) w')
      (htoken : token = tokens.token ∨ token = tokens.refreshToken) :
      Obtained env config faults start userId
        (events ++ [.called (.refreshToken old) (some (.ok tokens))]) w' token
  | later {events : List Event} {w w' : World} {e : Event} {token : String}
      (h : Obtained env config faults start userId events w token)
      (hstep : Step env config faults w e w') :
      Obtained env config faults start userId (events ++ [e]) w' token

/-- The token was signed for the user. -/
def SignedFor (env : Env) (userId : Uuid) (token : String) (w : World) : Prop :=
  ∃ s ∈ w.signed, s.token = token ∧ AuthService.subjectOf env s.claims = some userId

/-- `token` is taken for `identity`, and the guard behind it decides as the engine does now. -/
structure SeenAs (env : Env) (config : AuthConfig) (faults : Faults) (identity : Identity)
    (token : String) (w : World) : Prop where
  resolves : (perform env config faults (.getIdentity token) w).1 = some (.ok identity)
  decision : ∀ action next incoming, bearerToken incoming.request = some token →
    ∃ w', w'.db = w.db ∧
      (authenticate (rbacGuard action next) incoming).run (answer env config faults) w =
        match (Server.can env faults identity.id action w).1 with
        | some true =>
          (next { incoming with authUser := some identity }).run (answer env config faults) w'
        | some false => (some (.ofError (Error.unauthorized "unauthorized action")), w')
        | none => (none, w')

section

variable {env : Env} {config : AuthConfig} {faults : Faults} {w w' : World} {userId : Uuid}

/-! ## Every token of a session names its user -/

theorem SignedFor.later {token : String} {events : List Event}
    (h : SignedFor env userId token w) (hrun : Run (Step env config faults) w events w') :
    SignedFor env userId token w' := by
  obtain ⟨s, hs, htoken, hsubject⟩ := h
  exact ⟨s, run_signed_mono hrun hs, htoken, hsubject⟩

/-- Both strings of a pair are signed for the user of the pair. -/
theorem signedFor_of_generateTokens (huuids : env.uuids.RoundTrips) {user : Identity}
    {tokens : AuthenticationTokens} {token : String}
    (h : runE (exec env faults) (AuthService.generateTokens env config user) w =
      (some (.ok tokens), w'))
    (htoken : token = tokens.token ∨ token = tokens.refreshToken) :
    SignedFor env user.id token w' := by
  obtain ⟨t₁, t₂, -, -, hsigned⟩ := generateTokens_ok h
  rcases htoken with rfl | rfl
  · exact ⟨⟨AuthService.accessClaims env user, unixSeconds t₁, tokens.token⟩, by simp [hsigned],
      rfl, subjectOf_accessClaims huuids user⟩
  · exact ⟨⟨AuthService.refreshClaims env user, unixSeconds t₂, tokens.refreshToken⟩,
      by simp [hsigned], rfl, subjectOf_refreshClaims huuids user⟩

theorem findUserById_of_hasUser (hdb : w.db.Admissible) (h : HasUser userId w.db) :
    ∃ row ∈ w.db.users, row.id = userId ∧
      PostgresAuthStore.findUserById w.db userId = some (PostgresAuthStore.enrich w.db row) := by
  obtain ⟨row, hrow, rfl⟩ := List.mem_map.1 h
  exact ⟨row, hrow, rfl, PostgresAuthStore.findUserById_of_mem hdb hrow⟩

/-- A refresh stays with the subject of the token it is given. -/
theorem refreshToken_ok {s : Signed} {tokens : AuthenticationTokens}
    (hs : Signed.Authentic env s) (hsubject : AuthService.subjectOf env s.claims = some userId)
    (hdb : w.db.Admissible) (huser : HasUser userId w.db)
    (h : runE (exec env faults) (AuthService.refreshToken env config s.token) w =
      (some (.ok tokens), w')) :
    ∃ user, user.id = userId ∧
      runE (exec env faults) (AuthService.generateTokens env config user) w.counted =
        (some (.ok tokens), w') := by
  obtain ⟨row, -, hid, hfind⟩ := findUserById_of_hasUser hdb huser
  rw [refreshToken_eq] at h
  obtain ⟨user, w₁, hidentity, hsign⟩ := runE_bind_ok h
  rw [runE_getIdentity_of_signed hs hsubject hfind] at hidentity
  split at hidentity
  · cases hidentity
  cases hstore : faults.store w.statements with
  | some err => rw [hstore] at hidentity; cases hidentity
  | none =>
    rw [hstore] at hidentity
    cases hidentity
    exact ⟨_, hid, hsign⟩

section

variable {db : Db} {clock : Timestamp} (hpg : env.pg.RejectsLonger) (hjwt : env.jwt.RoundTrips)
  (huuids : env.uuids.RoundTrips) (hdb : db.Admissible)
include hpg hjwt huuids hdb

theorem obtained_signed {events : List Event} {token : String}
    (h : Obtained env config faults (World.init db clock) userId events w token) :
    Run (Step env config faults) (World.init db clock) events w ∧ HasUser userId w.db ∧
      SignedFor env userId token w := by
  have hinit : InDb Db.Admissible (World.init db clock) := ⟨hdb, by simp [World.init]⟩
  have hkeeps : ∀ {w w' : World} {events events' : List Event},
      Run (Step env config faults) (World.init db clock) events w → HasUser userId w.db →
        Run (Step env config faults) w events' w' → HasUser userId w'.db :=
    fun hbefore huser hafter =>
      (run_hasUser hpg hafter ⟨huser, by simp [run_tx hbefore rfl]⟩).1
  induction h with
  | @login events w w' row password tokens token hrun hrow hid hstep htoken =>
    have hone := Run.cons hstep (.nil _)
    have hadmissible : w.db.Admissible := (run_admissible hpg hrun hinit).1
    have huser : HasUser userId w.db := List.mem_map.2 ⟨row, hrow, hid⟩
    refine ⟨hrun.append hone, hkeeps hrun huser hone, ?_⟩
    obtain @⟨_, _, _, _, hperform⟩ := hstep
    obtain ⟨w₁, hcall, rfl⟩ := perform_eq hperform
    obtain ⟨user, hfind, -, hsign⟩ := generateToken_ok hcall
    rw [PostgresAuthStore.findUserByEmail_of_mem hadmissible hrow] at hfind
    cases hfind
    change SignedFor env userId token w₁
    exact hid ▸ signedFor_of_generateTokens huuids hsign htoken
  | @refresh events w w' old tokens token h hstep htoken ih =>
    obtain ⟨hrun, huser, s, hs, rfl, hsubject⟩ := ih
    have hone := Run.cons hstep (.nil _)
    have hadmissible : w.db.Admissible := (run_admissible hpg hrun hinit).1
    refine ⟨hrun.append hone, hkeeps hrun huser hone, ?_⟩
    have hauthentic : Signed.Authentic env s :=
      run_authentic hjwt hrun (by simp [World.init]) s hs
    obtain @⟨_, _, _, _, hperform⟩ := hstep
    obtain ⟨w₁, hcall, rfl⟩ := perform_eq hperform
    obtain ⟨user, rfl, hsign⟩ := refreshToken_ok hauthentic hsubject hadmissible huser hcall
    change SignedFor env user.id token w₁
    exact signedFor_of_generateTokens huuids hsign htoken
  | later h hstep ih =>
    obtain ⟨hrun, huser, hsigned⟩ := ih
    have hone := Run.cons hstep (.nil _)
    exact ⟨hrun.append hone, hkeeps hrun huser hone, hsigned.later hone⟩

end

/-! ## Presenting a token -/

theorem seenAs_of_signed {s : Signed} {identity : Identity} (hs : Signed.Authentic env s)
    (hsubject : AuthService.subjectOf env s.claims = some userId)
    (hfind : PostgresAuthStore.findUserById w.db userId = some identity)
    (hlive : unixSeconds w.clock ≤ s.expiresAt) (htx : w.tx = none)
    (hup : ∀ n, w.statements ≤ n → faults.store n = none) :
    SeenAs env config faults identity s.token w := by
  have hcall : perform env config faults (.getIdentity s.token) w =
      (some (.ok identity), w.counted) := by
    have hrun : runE (exec env faults) (AuthService.getIdentity env s.token) w =
        (some (.ok identity), w.counted) := by
      rw [runE_getIdentity_of_signed hs hsubject hfind, if_neg (by omega), hup _ le_rfl]
    unfold perform
    rw [show runE (exec env faults) (Call.service env config (.getIdentity s.token)) w = _ from
      hrun]
    refine Prod.ext rfl ?_
    change w.counted.dropTx = w.counted
    simp [World.dropTx, World.counted, htx]
  refine ⟨congrArg Prod.fst hcall, fun action next incoming hbearer => ?_⟩
  -- The engine answers alike before and after the statement that found the user.
  have hnow : (Server.can env faults identity.id action w).1 =
      some (allows w.db identity.id action) :=
    can_of_store_none (hup _ le_rfl) (hup _ (by omega))
  have hthen : (Server.can env faults identity.id action w.counted).1 =
      some (allows w.db identity.id action) :=
    can_of_store_none (hup _ (by simp [World.counted])) (hup _ (by simp [World.counted]; omega))
  obtain ⟨n, hworld⟩ := can_world env faults identity.id action w.counted
  refine ⟨(Server.can env faults identity.id action w.counted).2, by rw [hworld]; rfl, ?_⟩
  rw [authenticate_eq, hbearer]
  dsimp only
  rw [Prog.run_call, show answer env config faults (.call (.getIdentity s.token)) w = _ from
    hcall]
  dsimp only
  rw [rbacGuard_eq]
  dsimp only
  rw [Prog.run_call, show answer env config faults (.can identity.id action) w.counted =
    Server.can env faults identity.id action w.counted from rfl, hthen, hnow]
  cases allows w.db identity.id action with
  | false => rfl
  | true => rfl

/-- Whoever holds a token of a session of the user holds what the database says of the user
    now, for as long as the token lives. -/
theorem sessions_follow_store (hpg : env.pg.RejectsLonger) (hjwt : env.jwt.RoundTrips)
    (huuids : env.uuids.RoundTrips) {db : Db} (hdb : db.Admissible) {clock : Timestamp}
    {events : List Event}
    (hsession : ∃ token, Obtained env config faults (World.init db clock) userId events w token)
    (hup : ∀ n, w.statements ≤ n → faults.store n = none) :
    ∃ row ∈ w.db.users, row.id = userId ∧
      ∀ token, Obtained env config faults (World.init db clock) userId events w token →
        ∃ s ∈ w.signed, s.token = token ∧
          (unixSeconds w.clock ≤ s.expiresAt →
            SeenAs env config faults (PostgresAuthStore.enrich w.db row) token w) := by
  obtain ⟨_, hone⟩ := hsession
  obtain ⟨hrun, huser, -⟩ := obtained_signed hpg hjwt huuids hdb hone
  have hadmissible : w.db.Admissible :=
    (run_admissible hpg hrun ⟨hdb, by simp [World.init]⟩).1
  obtain ⟨row, hrow, hid, hfind⟩ := findUserById_of_hasUser hadmissible huser
  refine ⟨row, hrow, hid, fun token htoken => ?_⟩
  obtain ⟨-, -, s, hs, rfl, hsubject⟩ := obtained_signed hpg hjwt huuids hdb htoken
  have hauthentic : Signed.Authentic env s :=
    run_authentic hjwt hrun (by simp [World.init]) s hs
  exact ⟨s, hs, rfl, fun hlive =>
    seenAs_of_signed hauthentic hsubject hfind hlive (run_tx hrun rfl) hup⟩

end

/-! ## A session of the sample environment -/

/-- Ada logs in, becomes an administrator, and refreshes. -/
def sampleRefreshed : World :=
  sampleAfter (.refreshToken sampleTokens.refreshToken)
    (sampleAfter (.partialUpdate 2 { UpdateUser.default with addRoles := some ["Admin"] })
      loggedInWorld)

/-- The pair of that refresh. -/
def refreshedTokens : AuthenticationTokens :=
  match (perform sampleEnv sampleConfig Faults.none (.refreshToken sampleTokens.refreshToken)
    (sampleAfter (.partialUpdate 2 { UpdateUser.default with addRoles := some ["Admin"] })
      loggedInWorld)).1 with
  | some (.ok tokens) => tokens
  | _ => ⟨"", ""⟩

theorem sessions_follow_store_sample : ∃ events,
    Obtained sampleEnv sampleConfig Faults.none sampleWorld 2 events sampleRefreshed
        sampleTokens.token ∧
      Obtained sampleEnv sampleConfig Faults.none sampleWorld 2 events sampleRefreshed
        refreshedTokens.token ∧
      ∃ row ∈ sampleRefreshed.db.users, row.id = 2 ∧
        ∀ token, Obtained sampleEnv sampleConfig Faults.none sampleWorld 2 events
            sampleRefreshed token →
          ∃ s ∈ sampleRefreshed.signed, s.token = token ∧
            (unixSeconds sampleRefreshed.clock ≤ s.expiresAt →
              SeenAs sampleEnv sampleConfig Faults.none
                (PostgresAuthStore.enrich sampleRefreshed.db row) token sampleRefreshed) := by
  obtain ⟨before, hrun⟩ := signedUp_run
  obtain ⟨row, hrow, hemail, hid⟩ :
      ∃ row ∈ signedUp.db.users, row.email = "ada@example.com" ∧ row.id = 2 := by decide
  have hlogin : Step sampleEnv sampleConfig Faults.none signedUp
      (.called (.generateToken row.email "Str0ng-Pass") (some (.ok sampleTokens)))
      loggedInWorld := hemail ▸ step_sampleAfter (by decide)
  have hpromoted := step_sampleAfter (w := loggedInWorld)
    (c := .partialUpdate 2 { UpdateUser.default with addRoles := some ["Admin"] }) rfl
  have hrefresh : Step sampleEnv sampleConfig Faults.none
      (sampleAfter (.partialUpdate 2 { UpdateUser.default with addRoles := some ["Admin"] })
        loggedInWorld)
      (.called (.refreshToken sampleTokens.refreshToken) (some (.ok refreshedTokens)))
      sampleRefreshed := step_sampleAfter (by decide)
  have hfirst := ((Obtained.login hrun hrow hid hlogin (.inl rfl)).later hpromoted).later hrefresh
  have hsecond := ((Obtained.login hrun hrow hid hlogin (.inr rfl)).later hpromoted).refresh
    hrefresh (.inl rfl)
  exact ⟨_, hfirst, hsecond, sessions_follow_store samplePostgres_rejectsLonger
    sampleJwt_roundTrips sampleUuids_roundTrips (Db.admissible_seed sampleAdmin) ⟨_, hfirst⟩
    fun _ _ => rfl⟩

end ApiStarter.Security
