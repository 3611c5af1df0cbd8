import ApiStarter.Package.Auth.Tokens
import ApiStarter.Provider.Integrity
import ApiStarter.Provider.SampleEnv

/-
  Access tokens and refresh tokens at the two entry points.

  Both kinds are signed by the same generator and name their subject under the same claim, and
  nothing in the claims or in the checks tells them apart. Whatever a pair's string was issued
  as, `get_identity` and `refresh_token` take it for the pair's `Recipient` until it expires
  (`kinds_interchangeable`).
-/

namespace ApiStarter.Security

open ApiStarter.Auth ApiStarter.Database ApiStarter.Effect ApiStarter.Effect.Fallible
  ApiStarter.Errdef ApiStarter.Iam ApiStarter.Jwt ApiStarter.Provider ApiStarter.Relational

/-- The events that hand out a token pair. -/
def Issues (tokens : AuthenticationTokens) : Event → Prop
  | .called (.generateToken _ _) out => out = some (.ok tokens)
  | .called (.refreshToken _) out => out = some (.ok tokens)
  | _ => False

/-- Whom the event, happening in the state `w`, hands a pair to: the user of the address that
    logs in, or the user the refreshed token was taken for. -/
def Recipient (env : Env) (config : AuthConfig) (faults : Faults) (w : World) (userId : Uuid) :
    Event → Prop
  | .called (.generateToken email _) _ => ∃ row ∈ w.db.users, row.email = email ∧ row.id = userId
  | .called (.refreshToken token) _ => ∃ identity : Identity, identity.id = userId ∧
      (perform env config faults (.getIdentity token) w).1 = some (.ok identity)
  | _ => False

/-! ## Users stay -/

def HasUser (userId : Uuid) (db : Db) : Prop := userId ∈ db.users.map (·.id)

theorem HasUser.updateWhere {userId : Uuid} {db : Db} {p : UserRow → Bool}
    {f : UserRow → UserRow} (h : HasUser userId db) (hid : ∀ row, (f row).id = row.id) :
    HasUser userId { db with users := updateWhere p f db.users } := by
  have hids : (Relational.updateWhere p f db.users).map (·.id) = db.users.map (·.id) :=
    map_updateWhere hid db.users
  change userId ∈ (Relational.updateWhere p f db.users).map (·.id)
  rw [hids]
  exact h

/-- No statement of the program removes a user. -/
theorem preservedBy_hasUser {env : Env} (hpg : env.pg.RejectsLonger) (P : Op → Prop)
    (userId : Uuid) : PreservedBy env P (HasUser userId) := by
  refine preservedBy_of_users hpg ?frame ?reset ?insert ?update
  case frame =>
    intro db db' h husers
    unfold HasUser
    rw [husers]
    exact h
  case reset => exact fun _ _ _ _ h => h.updateWhere fun _ => rfl
  case insert =>
    intro _ _ _ _ _ _ h _
    unfold HasUser
    rw [List.map_append]
    exact List.mem_append_left _ h
  case update => exact fun _ _ _ _ _ h _ => h.updateWhere fun row => SetClause.applyAll_id _ row

section

variable {env : Env} {config : AuthConfig} {faults : Faults} {w w' : World}

theorem run_hasUser (hpg : env.pg.RejectsLonger) {userId : Uuid} {events : List Event}
    (h : Run (Step env config faults) w events w') (hw : InDb (HasUser userId) w) :
    InDb (HasUser userId) w' := by
  refine h.inv (fun w₁ e w₂ h₁ hstep => ?_) hw
  cases hstep with
  | called h => exact perform_inDb (preservedBy_hasUser hpg _ userId) h h₁
  | elapsed n w => exact inDb_of_eq rfl rfl h₁

/-! ## What was signed stays signed -/

theorem exec_signed_mono (o : Op) (w : World) {s : Signed} (hs : s ∈ w.signed) :
    s ∈ (exec env faults o w).2.signed := by
  by_cases hsign : ∃ claims expiresAt, o = .jwtGenerate claims expiresAt
  · obtain ⟨claims, expiresAt, rfl⟩ := hsign
    simp only [exec, jwtGenerate]
    split
    · exact hs
    · exact List.mem_append_left _ hs
  · rw [exec_signed fun claims expiresAt heq => hsign ⟨claims, expiresAt, heq⟩]
    exact hs

theorem run_signed_mono {events : List Event} (h : Run (Step env config faults) w events w')
    {s : Signed} (hs : s ∈ w.signed) : s ∈ w'.signed := by
  refine h.inv (I := fun w => s ∈ w.signed) (fun w₁ e w₂ h₁ hstep => ?_) hs
  cases hstep with
  | called h => exact perform_inv (fun o w _ => exec_signed_mono o w) (fun _ hw => hw) h h₁
  | elapsed n w => exact h₁

/-! ## Handing out a pair -/

theorem subjectOf_accessClaims (huuids : env.uuids.RoundTrips) (user : Identity) :
    AuthService.subjectOf env (AuthService.accessClaims env user) = some user.id := by
  simp [AuthService.subjectOf, AuthService.accessClaims, Claims.get, Value.asStr, huuids user.id]

theorem subjectOf_refreshClaims (huuids : env.uuids.RoundTrips) (user : Identity) :
    AuthService.subjectOf env (AuthService.refreshClaims env user) = some user.id := by
  simp [AuthService.subjectOf, AuthService.refreshClaims, Claims.get, Value.asStr, huuids user.id]

theorem generateToken_ok {email password : String} {tokens : AuthenticationTokens}
    (h : runE (exec env faults) (AuthService.generateToken env config email password) w =
      (some (.ok tokens), w')) :
    ∃ user, PostgresAuthStore.findUserByEmail w.db email = some user ∧ HasUser user.id w.db ∧
      runE (exec env faults) (AuthService.generateTokens env config user) w.counted =
        (some (.ok tokens), w') := by
  obtain ⟨found, w₁, hquery, hfound⟩ := runE_bind_ok (runE_ask_ok h)
  obtain ⟨hok, rfl⟩ := runE_mapErr_ok hquery
  obtain ⟨user, w₂, hsome, hcompare⟩ := runE_bind_ok hfound
  obtain ⟨rfl, rfl⟩ := runE_okOr_ok hsome
  rw [show (exec env faults (.findUserByEmail email) w).2 = w.counted from query_snd _] at hcompare
  have hfind : PostgresAuthStore.findUserByEmail w.db email = some user :=
    Except.ok.inj (query_ok hok)
  obtain ⟨row, hrow, rfl⟩ := Option.map_eq_some_iff.1 hfind
  refine ⟨PostgresAuthStore.enrich w.db row, hfind,
    List.mem_map.2 ⟨row, List.mem_of_find?_eq_some hrow, rfl⟩, ?_⟩
  split at hcompare
  · cases hcompare
  · exact hcompare

theorem getIdentity_ok {token : String} {user : Identity}
    (h : runE (exec env faults) (AuthService.getIdentity env token) w =
      (some (.ok user), w')) : HasUser user.id w.db ∧ w' = w.counted := by
  obtain ⟨userId, w₁, hsubject, hrequire⟩ := runE_bind_ok h
  obtain ⟨claims, w₂, hvalidate, hid⟩ := runE_bind_ok (runE_ask_ok hsubject)
  obtain ⟨-, rfl⟩ := runE_mapErr_ok hvalidate
  obtain ⟨-, rfl⟩ := runE_okOr_ok hid
  rw [runE_requireUserById] at hrequire
  obtain ⟨houtcome, rfl⟩ := Prod.mk.inj hrequire
  refine ⟨?_, rfl⟩
  cases hstore : faults.store w₁.statements with
  | some err => rw [hstore] at houtcome; cases houtcome
  | none =>
    cases hfind : PostgresAuthStore.findUserById w₁.db userId with
    | none => rw [hstore, hfind] at houtcome; cases houtcome
    | some found =>
      rw [hstore, hfind] at houtcome
      cases houtcome
      obtain ⟨row, hrow, rfl⟩ := Option.map_eq_some_iff.1 hfind
      exact List.mem_map.2 ⟨row, List.mem_of_find?_eq_some hrow, rfl⟩

/-- Where a pair comes from: a user of the database, its only recipient, and the signing of a
    pair for that user. -/
theorem step_issues (hdb : w.db.Admissible) {tokens : AuthenticationTokens} {e : Event}
    (he : Issues tokens e) (h : Step env config faults w e w') :
    ∃ user w₁, HasUser user.id w.db ∧
      (∀ userId, Recipient env config faults w userId e ↔ userId = user.id) ∧
      runE (exec env faults) (AuthService.generateTokens env config user) w.counted =
        (some (.ok tokens), w₁) ∧ w' = w₁.dropTx := by
  cases h with
  | elapsed n w => exact he.elim
  | @called c out w w' h =>
    obtain ⟨w₁, hrun, rfl⟩ := perform_eq h
    cases c with
    | generateToken email password =>
      obtain rfl : out = some (.ok tokens) := he
      obtain ⟨user, hfind, huser, hsign⟩ := generateToken_ok hrun
      obtain ⟨found, hfound, rfl⟩ := Option.map_eq_some_iff.1 hfind
      refine ⟨_, w₁, huser, fun userId => ⟨?_, ?_⟩, hsign, rfl⟩
      · rintro ⟨row, hrow, rfl, rfl⟩
        rw [PostgresAuthStore.findUserByEmail_of_mem hdb hrow] at hfind
        exact congrArg Identity.id (Option.some.inj hfind)
      · rintro rfl
        exact ⟨found, List.mem_of_find?_eq_some hfound, by simpa using List.find?_some hfound, rfl⟩
    | refreshToken token =>
      obtain rfl : out = some (.ok tokens) := he
      change runE _ (AuthService.refreshToken env config token) w = _ at hrun
      rw [refreshToken_eq] at hrun
      obtain ⟨user, w₂, hidentity, hsign⟩ := runE_bind_ok hrun
      obtain ⟨huser, rfl⟩ := getIdentity_ok hidentity
      have htaken : (perform env config faults (.getIdentity token) w).1 = some (.ok user) :=
        congrArg Prod.fst hidentity
      refine ⟨user, w₁, huser, fun userId => ⟨?_, ?_⟩, hsign, rfl⟩
      · rintro ⟨identity, rfl, hother⟩
        have heq : identity = user := Except.ok.inj (Option.some.inj (hother.symm.trans htaken))
        rw [heq]
      · rintro rfl
        exact ⟨user, rfl, htaken⟩
    | _ => exact he.elim

/-! ## Presenting either string of a pair -/

/-- The token is taken for the user wherever a token is asked for. -/
def TakenFor (env : Env) (config : AuthConfig) (faults : Faults) (userId : Uuid) (token : String)
    (w : World) : Prop :=
  (∃ row ∈ w.db.users, row.id = userId ∧ (perform env config faults (.getIdentity token) w).1 =
    some (.ok (PostgresAuthStore.enrich w.db row))) ∧
  ¬ Rejected (perform env config faults (.refreshToken token) w).1

/-- A live token is taken for the user its claims name. -/
theorem takenFor_of_signed (hjwt : env.jwt.RoundTrips) (hdb : w.db.Admissible) {userId : Uuid}
    (huser : HasUser userId w.db) {s : Signed} (hs : Signed.Authentic env s)
    (hsubject : AuthService.subjectOf env s.claims = some userId)
    (hlive : unixSeconds w.clock ≤ s.expiresAt) (hstore : faults.store w.statements = none) :
    TakenFor env config faults userId s.token w := by
  obtain ⟨row, hrow, rfl⟩ := List.mem_map.1 huser
  have hfind := PostgresAuthStore.findUserById_of_mem hdb hrow
  refine ⟨⟨row, hrow, rfl, ?_⟩, fun hrejected => ?_⟩
  · change (runE _ (AuthService.getIdentity env s.token) w).1 = _
    rw [runE_getIdentity_of_signed hs hsubject hfind, if_neg (by omega), hstore]
  · rcases (refreshToken_rejected_iff hjwt hs hsubject hfind).1 hrejected with hlate | hfault
    · omega
    · exact hfault hstore

/-- Every pair has one recipient. As long as either of its strings lives, `get_identity` and
    `refresh_token` take the string for that user, whatever calls ran since. -/
theorem kinds_interchangeable (hpg : env.pg.RejectsLonger) (hjwt : env.jwt.RoundTrips)
    (huuids : env.uuids.RoundTrips) {db : Db} (hdb : db.Admissible) {clock : Timestamp}
    {tokens : AuthenticationTokens} {e : Event} (he : Issues tokens e)
    {before after : List Event} {v v' : World}
    (hbefore : Run (Step env config faults) (World.init db clock) before v)
    (hissue : Step env config faults v e v')
    (hafter : Run (Step env config faults) v' after w)
    (hstore : faults.store w.statements = none) :
    ∃ userId, (∀ other, Recipient env config faults v other e ↔ other = userId) ∧
      ∀ token, token = tokens.token ∨ token = tokens.refreshToken →
        (∃ s ∈ w.signed, s.token = token) ∧
          ∀ s ∈ w.signed, s.token = token → unixSeconds w.clock ≤ s.expiresAt →
            TakenFor env config faults userId token w := by
  have hinit : InDb Db.Admissible (World.init db clock) := ⟨hdb, by simp [World.init]⟩
  have hrun := hbefore.append (.cons hissue hafter)
  have hadmissible : w.db.Admissible := (run_admissible hpg hrun hinit).1
  have hauthentic : ∀ s ∈ w.signed, Signed.Authentic env s :=
    run_authentic hjwt hrun (by simp [World.init])
  obtain ⟨user, w₁, huser, hrecipient, hsign, rfl⟩ :=
    step_issues (run_admissible hpg hbefore hinit).1 he hissue
  obtain ⟨t₁, t₂, -, -, hsigned⟩ := generateTokens_ok hsign
  have hstays : HasUser user.id w.db :=
    (run_hasUser hpg (.cons hissue hafter) ⟨huser, by simp [run_tx hbefore rfl]⟩).1
  -- What was signed for the user now, or has the same text.
  have htaken : ∀ s₀ ∈ w₁.signed, AuthService.subjectOf env s₀.claims = some user.id →
      (∃ s ∈ w.signed, s.token = s₀.token) ∧ ∀ s ∈ w.signed, s.token = s₀.token →
        unixSeconds w.clock ≤ s.expiresAt →
          TakenFor env config faults user.id s₀.token w := by
    intro s₀ hs₀ hsubject
    have hs₀' : s₀ ∈ w.signed := run_signed_mono hafter hs₀
    refine ⟨⟨s₀, hs₀', rfl⟩, fun s hs heq hlive => ?_⟩
    have hsame := (hauthentic s hs).subjectOf_eq (hauthentic s₀ hs₀') heq
    exact heq ▸ takenFor_of_signed hjwt hadmissible hstays (hauthentic s hs)
      (hsame.trans hsubject) hlive hstore
  refine ⟨user.id, hrecipient, ?_⟩
  rintro token (rfl | rfl)
  · exact htaken ⟨AuthService.accessClaims env user, unixSeconds t₁, tokens.token⟩
      (by simp [hsigned]) (subjectOf_accessClaims huuids user)
  · exact htaken ⟨AuthService.refreshClaims env user, unixSeconds t₂, tokens.refreshToken⟩
      (by simp [hsigned]) (subjectOf_refreshClaims huuids user)

end

/-! ## A pair in the sample environment -/

/-- The pair of Ada's first login. -/
def sampleTokens : AuthenticationTokens :=
  match (perform sampleEnv sampleConfig Faults.none
    (.generateToken "ada@example.com" "Str0ng-Pass") signedUp).1 with
  | some (.ok tokens) => tokens
  | _ => ⟨"", ""⟩

def loggedInWorld : World :=
  sampleAfter (.generateToken "ada@example.com" "Str0ng-Pass") signedUp

theorem loggedInWorld_step : Step sampleEnv sampleConfig Faults.none signedUp
    (.called (.generateToken "ada@example.com" "Str0ng-Pass") (some (.ok sampleTokens)))
    loggedInWorld :=
  .called (Prod.ext (by decide) rfl)

theorem loggedInWorld_run : ∃ before, Run (Step sampleEnv sampleConfig Faults.none) sampleWorld
    (before ++ [.called (.generateToken "ada@example.com" "Str0ng-Pass")
      (some (.ok sampleTokens))]) loggedInWorld := by
  obtain ⟨before, hrun⟩ := signedUp_run
  exact ⟨before, hrun.append (.cons loggedInWorld_step (.nil _))⟩

def aSecondLater : World := { loggedInWorld with clock := loggedInWorld.clock + 1000000 }

/-- The pair Ada gets is Ada's, and a second later its refresh token is taken for her. -/
theorem kinds_interchangeable_sample : Recipient sampleEnv sampleConfig Faults.none signedUp 2
      (.called (.generateToken "ada@example.com" "Str0ng-Pass") (some (.ok sampleTokens))) ∧
    TakenFor sampleEnv sampleConfig Faults.none 2 sampleTokens.refreshToken aSecondLater := by
  have hada : Recipient sampleEnv sampleConfig Faults.none signedUp 2 (.called
      (.generateToken "ada@example.com" "Str0ng-Pass") (some (.ok sampleTokens))) :=
    show ∃ row ∈ signedUp.db.users, row.email = "ada@example.com" ∧ row.id = 2 by decide
  have hissues : Issues sampleTokens (.called
      (.generateToken "ada@example.com" "Str0ng-Pass") (some (.ok sampleTokens))) := rfl
  have hlater : Step sampleEnv sampleConfig Faults.none loggedInWorld (.elapsed 1000000)
      aSecondLater := .elapsed _ _
  obtain ⟨before, hrun⟩ := signedUp_run
  obtain ⟨userId, hrecipient, htaken⟩ := kinds_interchangeable samplePostgres_rejectsLonger
    sampleJwt_roundTrips sampleUuids_roundTrips (Db.admissible_seed sampleAdmin) hissues hrun
    loggedInWorld_step (.cons hlater (.nil _)) rfl
  obtain rfl := (hrecipient 2).1 hada
  obtain ⟨⟨s, hs, htoken⟩, hlives⟩ := htaken sampleTokens.refreshToken (.inr rfl)
  have hlive : ∀ s ∈ aSecondLater.signed, unixSeconds aSecondLater.clock ≤ s.expiresAt := by decide
  exact ⟨hada, hlives s hs htoken (hlive s hs)⟩

/-- The refresh token of a pair works as a bearer token, the access token can be refreshed. -/
theorem kinds_are_interchanged :
    (∃ before, Run (Step sampleEnv sampleConfig Faults.none) sampleWorld
      (before ++ [.called (.generateToken "ada@example.com" "Str0ng-Pass")
        (some (.ok sampleTokens))]) loggedInWorld) ∧
    (∀ s ∈ loggedInWorld.signed, unixSeconds loggedInWorld.clock ≤ s.expiresAt) ∧
    ¬ Rejected (perform sampleEnv sampleConfig Faults.none
      (.getIdentity sampleTokens.refreshToken) loggedInWorld).1 ∧
    ¬ Rejected (perform sampleEnv sampleConfig Faults.none
      (.refreshToken sampleTokens.token) loggedInWorld).1 :=
  ⟨loggedInWorld_run, by decide, by decide, by decide⟩

end ApiStarter.Security
