import ApiStarter.Effect.Blind
import ApiStarter.Module.Iam.Blame
import ApiStarter.Package.Auth.Tokens
import ApiStarter.Server.Routes

/-
  What a failed authentication shows.

  `LoginFailure` and `IdentityFailure` list why a login and a bearer token fail. The service puts
  the reason into the cause of an error or drops it, `authenticate` replaces the error by its
  own, and `into_response` never reads a cause. So all failed logins are answered alike, and so
  are all requests `authenticate` rejects; and the router as a whole does not tell errors apart
  that differ in their causes (`failures_look_alike`).
-/

namespace ApiStarter.Security

open ApiStarter.Auth ApiStarter.Database ApiStarter.Effect ApiStarter.Effect.Fallible
  ApiStarter.Errdef ApiStarter.Iam ApiStarter.Jwt ApiStarter.Provider ApiStarter.Server
  ApiStarter.Web

/-! ## Causes -/

/-- The error without its cause. -/
def uncaused : Error → Error
  | .app err => .app { err with cause := none }
  | .validation err => .validation err

@[simp] theorem uncaused_withCause (err : Error) (cause : String) :
    uncaused (err.withCause cause) = uncaused err := by
  cases err <;> rfl

theorem ofError_uncaused (err : Error) :
    Response.ofError (uncaused err) = Response.ofError err := by
  cases err <;> rfl

theorem ofError_congr {err err' : Error} (h : uncaused err = uncaused err') :
    Response.ofError err = Response.ofError err' := by
  rw [← ofError_uncaused err, h, ofError_uncaused err']

theorem ofError_withCause (err : Error) (cause : String) :
    Response.ofError (err.withCause cause) = Response.ofError err :=
  ofError_congr (uncaused_withCause err cause)

/-- The same answer to the router, up to the causes of errors. -/
def Alike : (o : Port) → PortRes o → PortRes o → Prop
  | .call _, outcome, outcome' =>
    outcome.map (Except.mapError uncaused) = outcome'.map (Except.mapError uncaused)
  | .can _ _, allowed, allowed' => allowed = allowed'

/-- An endpoint that answers alike whatever the causes of the errors it is told. -/
def CauseBlind (e : Endpoint) : Prop := ∀ incoming, (e incoming).Blind Alike

theorem blind_respond {body : Handling Response} (h : Prog.Blind Alike (ExceptT.run body)) :
    (respond body).Blind Alike :=
  h.bind fun result => by cases result <;> trivial

theorem alike_cases {α : Type} {outcome outcome' : Option (Except Error α)}
    (h : outcome.map (Except.mapError uncaused) = outcome'.map (Except.mapError uncaused)) :
    outcome = outcome' ∨ ∃ err err', outcome = some (.error err) ∧ outcome' = some (.error err') ∧
      uncaused err = uncaused err' := by
  rcases outcome with _ | err | a <;> rcases outcome' with _ | err' | a' <;>
    simp_all [Except.mapError]

theorem blind_invoke (c : Call) (reply : c.Reply → Response) :
    Prog.Blind Alike
      (ExceptT.run (do let r ← invoke c; return reply r : Handling Response)) := by
  refine ⟨fun outcome outcome' halike => ?_, fun outcome => ?_⟩
  · rcases alike_cases halike with rfl | ⟨err, err', rfl, rfl, herr⟩
    · rfl
    · have hsame := ofError_congr herr
      exact congrArg (fun response => Prog.ret (Except.error response)) hsame
  · rcases outcome with _ | err | r <;> trivial

theorem blind_ret (response : Response) : CauseBlind fun _ => .ret response := fun _ => trivial

theorem blind_authenticate {next : Endpoint} (h : CauseBlind next) :
    CauseBlind (authenticate next) := by
  intro incoming
  rw [authenticate_eq]
  cases bearerToken incoming.request with
  | none => trivial
  | some token =>
    refine ⟨fun outcome outcome' halike => ?_, fun outcome => ?_⟩
    · rcases alike_cases halike with rfl | ⟨err, err', rfl, rfl, -⟩
      · rfl
      · dsimp only
        rw [ofError_withCause, ofError_withCause]
    · rcases outcome with _ | err | user
      · trivial
      · trivial
      · exact h _

theorem blind_rbacGuard {action : String} {next : Endpoint} (h : CauseBlind next) :
    CauseBlind (rbacGuard action next) := by
  intro incoming
  rw [rbacGuard_eq]
  cases incoming.authUser with
  | none => trivial
  | some user =>
    refine ⟨fun allowed allowed' halike => ?_, fun allowed => ?_⟩
    · cases halike
      rfl
    · rcases allowed with _ | _ | _
      · trivial
      · trivial
      · exact h _

section

variable (env : Env) (web : WebLibrary)

theorem health_blind : Health.routes.All fun _ _ => CauseBlind :=
  Router.All.new.route (blind_ret _) (blind_ret _)

theorem docs_blind : Docs.routes.All fun _ _ => CauseBlind :=
  Router.All.new
    |>.route (blind_ret _) (blind_ret _)
    |>.route (blind_ret _) (blind_ret _)

theorem auth_blind : (Auth.routes env web).All fun _ _ => CauseBlind := by
  refine Router.All.new
    |>.route (fun incoming => ?_) (blind_ret _)
    |>.route (fun incoming => ?_) (blind_ret _)
    |>.route (fun incoming => ?_) (blind_ret _)
    |>.route (fun incoming => ?_) (blind_ret _)
  all_goals exact blind_respond (blind_mapErr_bind fun _ => blind_invoke _ _)

theorem user_blind : (userRoutes env web).All fun _ _ => CauseBlind := by
  have hindex : (Router.new.route "/v1/users" (on .get (Handler.index web))
      |>.routeLayer (rbacGuard viewAll)).All fun _ _ => CauseBlind :=
    Router.All.routeLayer (Router.All.new.route (fun _ => blind_respond (blind_invoke _ _))
      (blind_ret _)) fun _ _ _ h => blind_rbacGuard h
  refine (Router.All.new
    |>.route (fun incoming => blind_respond (blind_mapErr_bind fun _ => ?_)) (blind_ret _)
    |>.route (fun incoming => blind_respond (blind_mapErr_bind fun _ => ?_)) (blind_ret _)
    |>.route (fun incoming => blind_respond (blind_mapErr_bind fun _ => ?_)) (blind_ret _)
    |>.route (fun incoming => blind_respond (blind_mapErr_bind fun _ => ?_)) (blind_ret _)
    |>.route (fun incoming => blind_respond (blind_mapErr_bind fun _ => ?_)) (blind_ret _)
    |>.route (fun incoming => blind_respond (blind_mapErr_bind fun _ => ?_))
      (blind_ret _)).merge hindex
  -- The two patches read the payload as well.
  case refine_3 | refine_5 => exact blind_mapErr_bind fun _ => blind_invoke _ _
  all_goals exact blind_invoke _ _

theorem permission_blind : permissionRoutes.All fun _ _ => CauseBlind :=
  Router.All.new.route (fun _ => blind_respond (blind_invoke _ _)) (blind_ret _)

theorem mount_blind : (mount env web).All fun _ _ => CauseBlind :=
  Router.All.new.merge health_blind
    |>.merge docs_blind
    |>.merge (auth_blind env web)
    |>.merge (((Router.All.new.merge (user_blind env web)).merge permission_blind).routeLayer
      fun _ _ _ h => blind_authenticate h)

theorem router_blind (request : Request) : (router env web request).Blind Alike := by
  unfold router
  split
  · trivial
  refine Prog.Blind.bind ?_ fun _ => trivial
  unfold routed
  split
  next endpoint params hdispatch =>
    obtain ⟨-, -, hblind, -, -⟩ := (mount_blind env web).dispatch hdispatch
    exact hblind _
  next => trivial

end

/-! ## Logins -/

/-- Why a login fails on a store that answers. -/
inductive LoginFailure (env : Env) (db : Db) (email password : String) : Prop
  | unknownEmail (h : PostgresAuthStore.findUserByEmail db email = none)
  | wrongPassword {user : Identity} (h : PostgresAuthStore.findUserByEmail db email = some user)
      (hverify : env.crypto.bcryptVerify password user.password = .ok false)
  | unreadableHash {user : Identity} {cause : String}
      (h : PostgresAuthStore.findUserByEmail db email = some user)
      (hverify : env.crypto.bcryptVerify password user.password = .error cause)

section

variable {env : Env} {config : AuthConfig} {web : WebLibrary} {faults : Faults} {w : World}

theorem compare_eq_ok_iff {user : Identity} {password : String} :
    Crypto.compareHashAndPassword env user.password password = .ok () ↔
      env.crypto.bcryptVerify password user.password = .ok true := by
  unfold Crypto.compareHashAndPassword
  split <;> simp_all

theorem runE_findUserByEmail (hup : faults.store w.statements = none) (email : String) :
    exec env faults (.findUserByEmail email) w =
      (.ok (PostgresAuthStore.findUserByEmail w.db email), w.counted) :=
  Prod.ext (query_fst_of_store_none hup _) (query_snd _)

/-- Whatever the reason, the error of a failed login is the same. -/
theorem perform_generateToken_of_failure (hup : faults.store w.statements = none)
    {email password : String} (h : LoginFailure env w.db email password) :
    (perform env config faults (.generateToken email password) w).1 =
      some (.error (Error.unauthorized invalidCredentials)) := by
  have hrun : (runE (exec env faults) (AuthService.generateToken env config email password) w).1 =
      some (.error (Error.unauthorized invalidCredentials)) := by
    unfold AuthService.generateToken
    rw [runE_ask_bind, runE_findUserByEmail hup, mapErr_ok, pure_bind]
    cases h with
    | unknownEmail h =>
      rw [h]
      rfl
    | wrongPassword h hverify =>
      rw [h, okOr_some, pure_bind]
      unfold Crypto.compareHashAndPassword
      rw [hverify]
      rfl
    | unreadableHash h hverify =>
      rw [h, okOr_some, pure_bind]
      unfold Crypto.compareHashAndPassword
      rw [hverify]
      rfl
  exact hrun

/-- There is no other reason, since signing does not fail. -/
theorem generateToken_fails_iff (hjwt : env.jwt.RoundTrips)
    (hup : faults.store w.statements = none) {email password : String} :
    Rejected (perform env config faults (.generateToken email password) w).1 ↔
      LoginFailure env w.db email password := by
  constructor
  · intro hrejected
    cases hfound : PostgresAuthStore.findUserByEmail w.db email with
    | none => exact .unknownEmail hfound
    | some user =>
      have hcompare : Crypto.compareHashAndPassword env user.password password ≠ .ok () := by
        rcases (generateToken_rejected_iff hjwt hfound).1 hrejected with hcompare | hstore
        · exact hcompare
        · exact absurd hup hstore
      rw [ne_eq, compare_eq_ok_iff] at hcompare
      cases hverify : env.crypto.bcryptVerify password user.password with
      | error cause => exact .unreadableHash hfound hverify
      | ok verified =>
        cases verified with
        | true => exact absurd hverify hcompare
        | false => exact .wrongPassword hfound hverify
  · exact fun h => ⟨_, perform_generateToken_of_failure hup h⟩

/-- The answer to every failed login. -/
def loginRefused : Response := .ofError (Error.unauthorized invalidCredentials)

theorem run_login_of_failure {incoming : Incoming} {payload : LoginRequest}
    (hpayload : validatedJson web.loginRequest LoginRequest.validate incoming.request = .ok payload)
    (hup : faults.store w.statements = none)
    (h : LoginFailure env w.db payload.email payload.password) :
    ((Handler.login web incoming).run (answer env config faults) w).1 = some loginRefused := by
  unfold Handler.login
  rw [hpayload, mapErr_ok, pure_bind]
  exact (run_respond_invoke _ _).trans (by rw [perform_generateToken_of_failure hup h]; rfl)

/-! ## Bearer tokens -/

/-- Why `get_identity` fails. -/
inductive IdentityFailure (env : Env) (faults : Faults) (w : World) (token : String) : Prop
  /-- Forged, malformed or expired. -/
  | invalid {err : JwtError} (h : validateToken env.jwt (unixSeconds w.clock) token = .error err)
  | noSubject {claims : Claims} (h : validateToken env.jwt (unixSeconds w.clock) token = .ok claims)
      (hsubject : AuthService.subjectOf env claims = none)
  | storeFailure {claims : Claims} {userId : Uuid} {err : SqlxError}
      (h : validateToken env.jwt (unixSeconds w.clock) token = .ok claims)
      (hsubject : AuthService.subjectOf env claims = some userId)
      (hstore : faults.store w.statements = some err)
  | vanished {claims : Claims} {userId : Uuid}
      (h : validateToken env.jwt (unixSeconds w.clock) token = .ok claims)
      (hsubject : AuthService.subjectOf env claims = some userId)
      (huser : PostgresAuthStore.findUserById w.db userId = none)

theorem runE_getIdentity (token : String) :
    (runE (exec env faults) (AuthService.getIdentity env token) w).1 =
      some (match validateToken env.jwt (unixSeconds w.clock) token with
        | .error err => .error ((Error.unauthorized invalidRefreshToken).withCause err.text)
        | .ok claims =>
          match AuthService.subjectOf env claims with
          | none => .error (Error.unauthorized invalidRefreshToken)
          | some userId =>
            match faults.store w.statements with
            | some err => .error (sqlxUnknown err)
            | none =>
              match PostgresAuthStore.findUserById w.db userId with
              | some user => .ok user
              | none => .error (Error.unauthorized invalidRefreshToken)) := by
  unfold AuthService.getIdentity AuthService.userIdFrom
  rw [bind_assoc, runE_ask_bind, exec_jwtValidate]
  dsimp only
  cases validateToken env.jwt (unixSeconds w.clock) token with
  | error err => rfl
  | ok claims =>
    rw [mapErr_ok, bind_assoc, pure_bind]
    dsimp only
    cases AuthService.subjectOf env claims with
    | none => rfl
    | some userId =>
      rw [okOr_some, pure_bind]
      exact congrArg Prod.fst runE_requireUserById

/-- The listed reasons are all there are. -/
theorem getIdentity_fails_iff {token : String} :
    Rejected (perform env config faults (.getIdentity token) w).1 ↔
      IdentityFailure env faults w token := by
  have hrun : (perform env config faults (.getIdentity token) w).1 = _ := runE_getIdentity token
  unfold Rejected
  rw [hrun]
  constructor
  · intro hrejected
    obtain ⟨e, he⟩ := hrejected
    cases hvalid : validateToken env.jwt (unixSeconds w.clock) token with
    | error err => exact .invalid hvalid
    | ok claims =>
      cases hsubject : AuthService.subjectOf env claims with
      | none => exact .noSubject hvalid hsubject
      | some userId =>
        cases hstore : faults.store w.statements with
        | some err => exact .storeFailure hvalid hsubject hstore
        | none =>
          cases huser : PostgresAuthStore.findUserById w.db userId with
          | none => exact .vanished hvalid hsubject huser
          | some user => simp [hvalid, hsubject, hstore, huser] at he
  · intro hfailure
    cases hfailure with
    | invalid h => simp [h]
    | noSubject h hsubject => simp [h, hsubject]
    | storeFailure h hsubject hstore => simp [h, hsubject, hstore]
    | vanished h hsubject huser =>
      rw [h]
      dsimp only
      rw [hsubject]
      dsimp only
      cases faults.store w.statements with
      | some err => exact ⟨_, rfl⟩
      | none => exact ⟨_, by rw [huser]⟩

/-- A request `authenticate` rejects: one without a bearer token, or whose token shows nobody. -/
def TurnedAway (env : Env) (faults : Faults) (w : World) (request : Request) : Prop :=
  bearerToken request = none ∨
    ∃ token, bearerToken request = some token ∧ IdentityFailure env faults w token

theorem run_authenticate_of_failure {incoming : Incoming} (next : Endpoint)
    (h : TurnedAway env faults w incoming.request) :
    ((authenticate next incoming).run (answer env config faults) w).1 =
      some (.ofError malformedToken) := by
  rw [authenticate_eq]
  rcases h with hnone | ⟨token, htoken, hfailure⟩
  · rw [hnone]
    rfl
  · have hrejected : Rejected (perform env config faults (.getIdentity token) w).1 :=
      getIdentity_fails_iff.2 hfailure
    obtain ⟨err, hrejected⟩ := hrejected
    rw [htoken]
    dsimp only
    rw [Prog.run_call, show answer env config faults (.call (.getIdentity token)) w =
      perform env config faults (.getIdentity token) w from rfl, hrejected]
    dsimp only
    rw [ofError_withCause]
    rfl

end

/-- A login whose payload is accepted and whose credentials are not, on a store that answers. -/
def LoginRefused (env : Env) (web : WebLibrary) (faults : Faults) (w : World)
    (request : Request) : Prop :=
  ∃ payload, validatedJson web.loginRequest LoginRequest.validate request = .ok payload ∧
    faults.store w.statements = none ∧ LoginFailure env w.db payload.email payload.password

/-- Two failed logins get one answer, and so do two requests `authenticate` rejects, each on a
    store and with faults of its own. And whatever answers the router as the services do, up to
    the causes of errors, makes it send what it sends. -/
theorem failures_look_alike (env : Env) (config : AuthConfig) (web : WebLibrary) :
    (∀ faults faults' w w' incoming incoming',
      LoginRefused env web faults w incoming.request →
      LoginRefused env web faults' w' incoming'.request → ∃ response,
        ((Handler.login web incoming).run (answer env config faults) w).1 = some response ∧
        ((Handler.login web incoming').run (answer env config faults') w').1 = some response) ∧
    (∀ next next' faults faults' w w' incoming incoming',
      TurnedAway env faults w incoming.request →
      TurnedAway env faults' w' incoming'.request → ∃ response,
        ((authenticate next incoming).run (answer env config faults) w).1 = some response ∧
        ((authenticate next' incoming').run (answer env config faults') w').1 = some response) ∧
    ∀ faults request w (other : Handler Port PortRes World),
      (∀ o s, Alike o (answer env config faults o s).1 (other o s).1 ∧
        (answer env config faults o s).2 = (other o s).2) →
      (router env web request).run other w = serve env config web faults request w := by
  refine ⟨?_, ?_, ?_⟩
  · intro faults faults' w w' incoming incoming' h h'
    obtain ⟨payload, hpayload, hup, hfailure⟩ := h
    obtain ⟨payload', hpayload', hup', hfailure'⟩ := h'
    exact ⟨loginRefused, run_login_of_failure hpayload hup hfailure,
      run_login_of_failure hpayload' hup' hfailure'⟩
  · intro next next' faults faults' w w' incoming incoming' h h'
    exact ⟨_, run_authenticate_of_failure next h, run_authenticate_of_failure next' h'⟩
  · intro faults request w other halike
    exact ((router_blind env web request).run_eq halike w).symm

/-! ## Two logins and two requests in the sample environment -/

/-- The answers of the services with the causes of their errors left out. -/
def forgetful (h : Handler Port PortRes World) : Handler Port PortRes World
  | .call c, w =>
    ((h (.call c) w).1.map (Except.mapError uncaused), (h (.call c) w).2)
  | .can userId action, w => h (.can userId action) w

theorem alike_forgetful (h : Handler Port PortRes World) (o : Port) (w : World) :
    Alike o (h o w).1 (forgetful h o w).1 ∧ (h o w).2 = (forgetful h o w).2 := by
  refine ⟨?_, by cases o <;> rfl⟩
  cases o with
  | call c =>
    have hstripped : ∀ outcome : c.Outcome, Alike (.call c) outcome
        (outcome.map (Except.mapError uncaused)) := by
      intro outcome
      rcases outcome with _ | err | r
      · rfl
      · cases err <;> rfl
      · rfl
    exact hstripped _
  | can userId action => rfl

def strangerBody : List UInt8 := ascii "\x7b\"email\":\"eve@example.com\",\"password\":\"guess\"\x7d"

def guessBody : List UInt8 := ascii "\x7b\"email\":\"ada@example.com\",\"password\":\"guess\"\x7d"

/-- Decodes the two login bodies above, as the library does. -/
def loginWeb : WebLibrary :=
  { sampleWeb with
    loginRequest := fun request =>
      if request.body = strangerBody then .ok ⟨"eve@example.com", "guess"⟩
      else if request.body = guessBody then .ok ⟨"ada@example.com", "guess"⟩
      else .error "expected value at line 1 column 1" }

def loggingIn (body : List UInt8) : Incoming :=
  { request :=
      { method := .post
        path := "/v1/login"
        query := none
        headers := [("content-type", ascii "application/json")]
        body := body }
    params := []
    authUser := none }

/-- Eve has no account, and Ada, who has signed up, did not write `guess`; one request carries no
    token, the other one that nobody signed. -/
theorem failures_look_alike_sample :
    (∃ response,
      ((Handler.login loginWeb (loggingIn strangerBody)).run
        (answer sampleEnv sampleConfig Faults.none) sampleWorld).1 = some response ∧
      ((Handler.login loginWeb (loggingIn guessBody)).run
        (answer sampleEnv sampleConfig Faults.none) signedUp).1 = some response) ∧
    (∃ response,
      ((authenticate Handler.getMyUser (loggingIn [])).run
        (answer sampleEnv sampleConfig Faults.none) signedUp).1 = some response ∧
      ((authenticate Handler.getMyUser
        { loggingIn [] with request := bearing "forged" .get "/v1/users/my-user" [] }).run
        (answer sampleEnv sampleConfig Faults.none) signedUp).1 = some response) ∧
    (router sampleEnv loginWeb (loggingIn guessBody).request).run
        (forgetful (answer sampleEnv sampleConfig Faults.none)) signedUp =
      serve sampleEnv sampleConfig loginWeb Faults.none (loggingIn guessBody).request signedUp := by
  have halike := failures_look_alike sampleEnv sampleConfig loginWeb
  refine ⟨halike.1 Faults.none Faults.none sampleWorld signedUp _ _ ?_ ?_,
    halike.2.1 _ _ Faults.none Faults.none signedUp signedUp _ _ ?_ ?_,
    halike.2.2 Faults.none _ signedUp _ (alike_forgetful _)⟩
  · exact ⟨⟨"eve@example.com", "guess"⟩, by decide, rfl, .unknownEmail (by decide)⟩
  · exact ⟨⟨"ada@example.com", "guess"⟩, by decide, rfl, .wrongPassword rfl (by decide)⟩
  · exact .inl rfl
  · exact .inr ⟨"forged", by decide, .invalid rfl⟩

end ApiStarter.Security
