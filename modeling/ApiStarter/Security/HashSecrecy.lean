import ApiStarter.Provider.Redaction
import ApiStarter.Server.Serving

/-
  Stored password hashes reach no response.

  `service_twin` follows each call along answers that differ in passwords at most: it returns the
  same, up to the password of a user, and a login the same if the password it presents is one on
  which the two hashes agree. `mount_twin` carries this through the routers, whose responses have
  no password left. `httpStep_alike` is the step lemma: alike worlds answer a request alike and
  stay alike.
-/

namespace ApiStarter.Security

open ApiStarter.Auth ApiStarter.Database ApiStarter.Effect ApiStarter.Effect.Fallible
  ApiStarter.Errdef ApiStarter.Iam ApiStarter.Pagination ApiStarter.Provider ApiStarter.Server
  ApiStarter.Web

/-! ## Calls -/

/-- Replies that differ in passwords at most. -/
def ReplyAlike : (c : Call) → c.Reply → c.Reply → Prop
  | .findUser _, user, user' => user.redacted = user'.redacted
  | .listUsers _, page, page' => page.map User.redacted = page'.map User.redacted
  | .getIdentity _, user, user' => redactedIdentity user = redactedIdentity user'
  | _, reply, reply' => reply = reply'

/-- A login presents a password of `K`. -/
def Presents (K : String → Prop) : Call → Prop
  | .generateToken _ password => K password
  | _ => True

section

variable {env : Env} {K : String → Prop}

/-- The services perform any operation. -/
abbrev ServiceTwin (env : Env) (K : String → Prop) {α β ε : Type} (V : α → β → Prop)
    (p : Service ε α) (q : Service ε β) : Prop :=
  TwinE (fun _ => True) (OpAlike env K) V p q

/-- An operation whose answer holds no password. -/
def Unsalted (env : Env) (K : String → Prop) (o : Op) : Prop :=
  True ∧ ∀ r r', OpAlike env K o r r' → r = r'

theorem unsalted_brackets (o : Op) (ho : o.Brackets) : Unsalted env K o := by
  cases o <;> first | exact ho.elim | exact ⟨trivial, fun _ _ h => h⟩

theorem usesE_unsalted_hash (password : String) :
    UsesE (Unsalted env K) (Crypto.hashPassword env password) :=
  (usesE_ask ⟨trivial, fun _ _ h => h⟩).bind fun _ => usesE_mapErr _ _

theorem usesE_unsalted_tokens (config : AuthConfig) (user : Identity) :
    UsesE (Unsalted env K) (AuthService.generateTokens env config user) := by
  refine (usesE_ask ⟨trivial, fun _ _ h => h⟩).bind fun _ => (usesE_expect _).bind fun _ => ?_
  refine (usesE_ask ⟨trivial, fun _ _ h => h⟩).bind fun _ => (usesE_mapErr _ _).bind fun _ => ?_
  refine (usesE_expect _).bind fun _ => (usesE_ask ⟨trivial, fun _ _ h => h⟩).bind fun _ => ?_
  exact (usesE_mapErr _ _).bind fun _ => usesE_pure _

/-! ### Users -/

theorem mapUser_redacted (row : JoinedUser) :
    PgUserRepository.mapUser row.redacted = (PgUserRepository.mapUser row).map User.redacted := by
  unfold PgUserRepository.mapUser
  cases hstatus : row.status.status with
  | none => simp only [JoinedUser.redacted, hstatus]; rfl
  | some status =>
    cases hname : row.department.name with
    | none => simp only [JoinedUser.redacted, hstatus, hname]; rfl
    | some name => simp only [JoinedUser.redacted, hstatus, hname]; rfl

theorem twin_mapUserWithRoles {row row' : JoinedUser} (h : row.redacted = row'.redacted) :
    ServiceTwin env K (fun user user' : User => user.redacted = user'.redacted)
      (PgUserRepository.mapUserWithRoles row) (PgUserRepository.mapUserWithRoles row') := by
  have hmapped : (PgUserRepository.mapUser row).map User.redacted =
      (PgUserRepository.mapUser row').map User.redacted := by
    rw [← mapUser_redacted, h, mapUser_redacted]
  refine (twinE_mapErr (matching_of_map_eq hmapped)).bind fun user user' huser => ?_
  have hid : user.redacted.id = user'.redacted.id := congrArg _ huser
  have hroles : ServiceTwin env K Eq (PgUserRepository.getUserRoles user.id)
      (PgUserRepository.getUserRoles user'.id) := by
    rw [show user.id = user'.id from hid]
    refine twinE_refl ((usesE_ask ⟨trivial, fun _ _ h => h⟩).bind fun _ => ?_)
    exact (usesE_mapErr _ _).bind fun _ => usesE_pure _
  refine hroles.bind fun roles roles' hroles => twinE_pure ?_
  rw [hroles]
  exact congrArg (fun user : User => { user with roles := roles' }) huser

theorem twin_requireUser (userId : Uuid) :
    ServiceTwin env K (fun user user' : User => user.redacted = user'.redacted)
      (UserServiceImpl.requireUser userId) (UserServiceImpl.requireUser userId) := by
  refine (TwinE.mapErrOf (V := Option.Rel fun user user' : User => user.redacted = user'.redacted)
    ?_).bind fun found found' hfound => twinE_okOr hfound
  refine (twinE_ask trivial).bind fun r r' hr => ?_
  refine (twinE_mapErr (matching_of_map_eq hr)).bind fun row row' hrow => ?_
  cases row with
  | none =>
    cases row' with
    | none => exact twinE_pure .none
    | some row' => cases hrow
  | some row =>
    cases row' with
    | none => cases hrow
    | some row' =>
      refine (twin_mapUserWithRoles (Option.some.inj hrow)).bind fun user user' huser => ?_
      exact twinE_pure (.some huser)

theorem forall₂_of_map_eq {α β : Type} {f : α → β} {as bs : List α} (h : as.map f = bs.map f) :
    List.Forall₂ (fun a b => f a = f b) as bs :=
  List.forall₂_map_left_iff.1 (List.forall₂_map_right_iff.1 (List.forall₂_eq_eq_eq ▸ h))

theorem twin_index (request : ListRequest) :
    ServiceTwin env K (fun page page' : Data User => page.map User.redacted = page'.map User.redacted)
      (UserServiceImpl.index request) (UserServiceImpl.index request) := by
  have hrepository : ServiceTwin env K
      (fun r r' : List User × Int64 => r.1.map User.redacted = r'.1.map User.redacted ∧ r.2 = r'.2)
      (PgUserRepository.index request) (PgUserRepository.index request) := by
    refine (twinE_ask trivial).bind fun r r' hr => ?_
    have hcount : r = r' := hr
    rw [hcount]
    refine (twinE_refl (usesE_mapErr _ _)).bind fun total total' htotal => ?_
    refine (twinE_ask trivial).bind fun rows rows' hrows => ?_
    refine (twinE_mapErr (matching_of_map_eq hrows)).bind fun rows rows' hrows => ?_
    refine (TwinE.listMapM (fun row row' hrow => twin_mapUserWithRoles hrow)
      (forall₂_of_map_eq hrows)).bind fun users users' husers => twinE_pure ⟨?_, htotal⟩
    exact List.forall₂_eq_eq_eq ▸
      List.forall₂_map_left_iff.2 (List.forall₂_map_right_iff.2 husers)
  refine hrepository.mapErrOf.bind fun r r' hr => ?_
  obtain ⟨users, total⟩ := r
  obtain ⟨users', total'⟩ := r'
  obtain ⟨husers, rfl⟩ := hr
  refine twinE_pure ?_
  simp only [Data.map, Data.new]
  rw [husers]

/-! ### Identities -/

theorem compare_alike {user user' : Identity} (h : IdentityAlike env K user user')
    {password : String} (hK : K password) :
    Crypto.compareHashAndPassword env user.password password =
      Crypto.compareHashAndPassword env user'.password password := by
  unfold Crypto.compareHashAndPassword
  rw [h.verdicts password hK]

/-- What a token is issued for is not the password. -/
theorem twin_generateTokens (config : AuthConfig) {user user' : Identity}
    (h : redactedIdentity user = redactedIdentity user') :
    ServiceTwin env K Eq (AuthService.generateTokens env config user)
      (AuthService.generateTokens env config user') := by
  have hblind : ∀ user, AuthService.generateTokens env config user =
      AuthService.generateTokens env config (redactedIdentity user) := fun _ => rfl
  rw [hblind user, h, ← hblind user']
  exact twinE_refl (usesE_unsalted_tokens config user')

theorem twin_requireUserById (userId : Uuid) :
    ServiceTwin env K (IdentityAlike env K) (AuthService.requireUserById userId)
      (AuthService.requireUserById userId) := by
  refine (twinE_ask trivial).bind fun r r' hr => ?_
  exact (twinE_mapErr hr).bind fun found found' hfound => twinE_okOr hfound

theorem twin_userIdFrom (token : String) :
    ServiceTwin env K Eq (AuthService.userIdFrom env token) (AuthService.userIdFrom env token) := by
  refine twinE_refl ((usesE_ask ⟨trivial, fun _ _ h => h⟩).bind fun _ => ?_)
  exact (usesE_mapErr _ _).bind fun _ => usesE_okOr _ _

theorem twin_findUserByEmail {α : Type} (email : String) (err : Error)
    {f : Identity → Service Error α} {V : α → α → Prop}
    (hf : ∀ user user', IdentityAlike env K user user' → ServiceTwin env K V (f user) (f user')) :
    ServiceTwin env K V
      (do
        let found ← mapErr sqlxUnknown (← ask (.findUserByEmail email))
        let user ← okOr err found
        f user)
      (do
        let found ← mapErr sqlxUnknown (← ask (.findUserByEmail email))
        let user ← okOr err found
        f user) := by
  refine (twinE_ask trivial).bind fun r r' hr => ?_
  refine (twinE_mapErr hr).bind fun found found' hfound => ?_
  exact (twinE_okOr hfound).bind hf

theorem twin_generateToken (config : AuthConfig) (email : String) {password : String}
    (hK : K password) : ServiceTwin env K Eq (AuthService.generateToken env config email password)
      (AuthService.generateToken env config email password) := by
  refine twin_findUserByEmail email _ fun user user' huser => ?_
  rw [compare_alike huser hK]
  cases Crypto.compareHashAndPassword env user'.password password with
  | error _ => exact twinE_throw _
  | ok _ => exact twin_generateTokens config huser.redacted

theorem twin_passwordRecovery (email callbackUri : String) :
    ServiceTwin env K Eq (AuthService.passwordRecovery env email callbackUri)
      (AuthService.passwordRecovery env email callbackUri) := by
  have hrest : ∀ mail mail' : String → Mail, mail = mail' →
      let rest (mail : String → Mail) : Service Error Unit := do
        mapErr sqlxUnknown (← ask (.deletePasswordReset email))
        let token ← ask .randomToken
        mapErr sqlxUnknown (← ask (.createPasswordReset email (Crypto.hashToken env token)))
        mapErr Error.unknown (← ask (.sendHtml (mail token)))
      ServiceTwin env K Eq (rest mail) (rest mail') := by
    rintro mail _ rfl
    refine twinE_refl ((usesE_ask ⟨trivial, fun _ _ h => h⟩).bind fun _ => ?_)
    refine (usesE_mapErr _ _).bind fun _ => ?_
    refine (usesE_ask ⟨trivial, fun _ _ h => h⟩).bind fun token => ?_
    refine (usesE_ask ⟨trivial, fun _ _ h => h⟩).bind fun _ => (usesE_mapErr _ _).bind fun _ => ?_
    exact (usesE_ask ⟨trivial, fun _ _ h => h⟩).bind fun _ => usesE_mapErr _ _
  refine twin_findUserByEmail email _ fun user user' huser => hrest _ _ ?_
  have hblind : ∀ user, AuthService.recoveryMail user callbackUri =
      AuthService.recoveryMail (redactedIdentity user) callbackUri := fun _ => rfl
  rw [hblind user, huser.redacted, ← hblind user']

/-! ### Every call -/

theorem service_twin (config : AuthConfig) (c : Call) (hc : Presents K c) :
    ServiceTwin env K (ReplyAlike c) (c.service env config) (c.service env config) := by
  cases c with
  | createUser newUser =>
    refine twinE_refl ((usesE_unsalted_hash _).bind fun password => ?_)
    refine usesE_inTransaction unsalted_brackets (UsesE.mapErrOf ?_)
    refine (usesE_ask ⟨trivial, fun _ _ h => h⟩).bind fun _ => (usesE_mapErr _ _).bind fun userId => ?_
    exact (usesE_addUserRoles userId ⟨trivial, fun _ _ h => h⟩).bind fun _ => usesE_pure _
  | partialUpdate userId fields =>
    refine (twin_requireUser userId).bind fun _ _ _ => twinE_refl (UsesE.bind ?_ fun fields => ?_)
    · unfold UserServiceImpl.withHashedPassword
      split
      · exact usesE_pure _
      · refine (usesE_mapErr _ _).bind fun _ => ?_
        exact (usesE_unsalted_hash _).bind fun _ => usesE_pure _
    · exact usesE_inTransaction unsalted_brackets (usesE_applyUpdate
        (fun _ _ => ⟨trivial, fun _ _ h => h⟩) (fun _ _ => ⟨trivial, fun _ _ h => h⟩)
        fun _ _ => ⟨trivial, fun _ _ h => h⟩)
  | deleteUser userId =>
    refine (twin_requireUser userId).bind fun _ _ _ => twinE_refl ?_
    refine usesE_inTransaction unsalted_brackets (UsesE.mapErrOf ?_)
    exact (usesE_ask ⟨trivial, fun _ _ h => h⟩).bind fun _ => usesE_mapErr _ _
  | findUser userId => exact twin_requireUser userId
  | listUsers request => exact twin_index request
  | listPermissions =>
    refine twinE_refl (UsesE.mapErrOf ((usesE_ask ⟨trivial, fun _ _ h => h⟩).bind fun _ => ?_))
    exact (usesE_mapErr _ _).bind fun _ => usesE_mapErr _ _
  | generateToken email password => exact twin_generateToken config email hc
  | refreshToken token =>
    refine (twin_userIdFrom token).bind fun userId userId' hid => ?_
    rw [hid]
    refine (twin_requireUserById userId').bind fun user user' huser => ?_
    exact twin_generateTokens config huser.redacted
  | getIdentity accessToken =>
    refine (twin_userIdFrom accessToken).bind fun userId userId' hid => ?_
    rw [hid]
    have htwin : ServiceTwin env K
        (fun user user' => redactedIdentity user = redactedIdentity user')
        (AuthService.requireUserById userId' >>= pure)
        (AuthService.requireUserById userId' >>= pure) :=
      (twin_requireUserById userId').bind fun user user' huser => twinE_pure huser.redacted
    rwa [bind_pure] at htwin
  | passwordRecovery email callbackUri => exact twin_passwordRecovery email callbackUri
  | resetPassword token newPassword =>
    refine twinE_refl ((usesE_ask ⟨trivial, fun _ _ h => h⟩).bind fun _ => ?_)
    refine (usesE_mapErr _ _).bind fun _ => (usesE_okOr _ _).bind fun reset => ?_
    refine (usesE_ask ⟨trivial, fun _ _ h => h⟩).bind fun now => ?_
    have hwrites : UsesE (Unsalted env K) (do
        let hashed ← Crypto.hashPassword env newPassword
        mapErr sqlxUnknown (← ask (.resetPassword reset.email hashed))
        mapErr sqlxUnknown (← ask (.deletePasswordReset reset.email)) : Service Error Unit) := by
      refine (usesE_unsalted_hash _).bind fun _ => ?_
      refine (usesE_ask ⟨trivial, fun _ _ h => h⟩).bind fun _ => (usesE_mapErr _ _).bind fun _ => ?_
      exact (usesE_ask ⟨trivial, fun _ _ h => h⟩).bind fun _ => usesE_mapErr _ _
    dsimp only
    split
    · exact (usesE_throw _).bind fun _ => hwrites
    · exact hwrites

theorem perform_alike {config : AuthConfig} {faults : Faults} {c : Call} (hc : Presents K c)
    {w w' : World} (h : WorldAlike env K w w') :
    Option.Rel (Matching (ReplyAlike c)) (perform env config faults c w).1
        (perform env config faults c w').1 ∧
      WorldAlike env K (perform env config faults c w).2 (perform env config faults c w').2 := by
  obtain ⟨houtcome, hleft⟩ := Prog.Twin.run
    (fun o s t _ hst => exec_alike env K faults o s t hst) (service_twin config c hc) h
  refine ⟨houtcome, ?_⟩
  unfold perform
  dsimp only [runE]
  generalize (Prog.run (exec env faults) (ExceptT.run (c.service env config)) w).2 = s,
    (Prog.run (exec env faults) (ExceptT.run (c.service env config)) w').2 = t at hleft
  cases hleft with
  | intro hdb _ => exact .intro hdb .none

end

/-! ## Endpoints -/

def PortPresents (K : String → Prop) : Port → Prop
  | .call c => Presents K c
  | .can _ _ => True

def PortAlike : (o : Port) → PortRes o → PortRes o → Prop
  | .call c, outcome, outcome' => Option.Rel (Matching (ReplyAlike c)) outcome outcome'
  | .can _ _, allowed, allowed' => allowed = allowed'

/-- The same request, of the same caller. -/
inductive IncomingAlike (incoming : Incoming) : Incoming → Prop
  | intro {authUser : Option Identity}
      (h : incoming.authUser.map redactedIdentity = authUser.map redactedIdentity) :
      IncomingAlike incoming { incoming with authUser := authUser }

/-- A request that logs in presents a password of `K`. -/
def Knows (K : String → Prop) (web : WebLibrary) (request : Request) : Prop :=
  ∀ params payload, request.method = .post → matchPath "/v1/login" request.path = some params →
    validatedJson web.loginRequest LoginRequest.validate request = .ok payload → K payload.password

section

variable {env : Env} {web : WebLibrary} {K : String → Prop} {pattern : String}
  {registered : Option Method}

/-- An endpoint that answers alike callers alike, for the requests it is registered for. -/
def TwinEndpoint (K : String → Prop) (web : WebLibrary) (pattern : String)
    (registered : Option Method) (e : Endpoint) : Prop :=
  ∀ incoming incoming', Knows K web incoming.request →
    Router.Serves registered incoming.request.method →
      matchPath pattern incoming.request.path = some incoming.params →
        IncomingAlike incoming incoming' →
          Prog.Twin (PortPresents K) PortAlike Eq (e incoming) (e incoming')

abbrev TwinHandling (K : String → Prop) (body body' : Handling Response) : Prop :=
  TwinE (PortPresents K) PortAlike Eq body body'

theorem twin_respond {body body' : Handling Response} (h : TwinHandling K body body') :
    Prog.Twin (PortPresents K) PortAlike Eq (respond body) (respond body') := by
  refine Prog.Twin.bind h fun r r' hr => ?_
  cases hr with
  | ok h => exact .ret h
  | error e => exact .ret rfl

/-- A handler that answers with what shows no password. -/
theorem twin_invoke {c : Call} (hc : Presents K c) (reply : c.Reply → Response)
    (hreply : ∀ r r', ReplyAlike c r r' → reply r = reply r') :
    TwinHandling K (do let r ← invoke c; return reply r) (do let r ← invoke c; return reply r) := by
  have hinvoke : TwinE (PortPresents K) PortAlike (ReplyAlike c) (invoke c) (invoke c) := by
    refine (twinE_ask (o := Port.call c) hc).bind fun outcome outcome' houtcome => ?_
    cases houtcome with
    | none => exact .panic
    | some h => exact twinE_mapErr h
  exact hinvoke.bind fun r r' hr => twinE_pure (hreply r r' hr)

theorem twinEndpoint_ret (response : Response) :
    TwinEndpoint K web pattern registered fun _ => .ret response :=
  fun _ _ _ _ _ _ => .ret rfl

/-- A handler that reads the request only. -/
theorem twinEndpoint_respond {body : Incoming → Handling Response}
    (hsame : ∀ incoming authUser, body { incoming with authUser := authUser } = body incoming)
    (h : ∀ incoming, TwinHandling K (body incoming) (body incoming)) :
    TwinEndpoint K web pattern registered fun incoming => respond (body incoming) := by
  intro incoming incoming' _ _ _ hincoming
  cases hincoming with
  | @intro authUser _ =>
    have hbody := hsame incoming authUser
    dsimp only
    rw [hbody]
    exact twin_respond (h incoming)

theorem twin_authenticate {next : Endpoint} (h : TwinEndpoint K web pattern registered next) :
    TwinEndpoint K web pattern registered (authenticate next) := by
  intro incoming incoming' hknows hserves hpath hincoming
  cases hincoming with
  | intro _ =>
    rw [authenticate_eq, authenticate_eq]
    dsimp only
    cases bearerToken incoming.request with
    | none => exact .ret rfl
    | some token =>
      refine .call trivial fun outcome outcome' houtcome => ?_
      cases houtcome with
      | none => exact .panic
      | some hreply =>
        cases hreply with
        | error err => exact .ret rfl
        | ok huser =>
          refine h { incoming with authUser := some _ } _ hknows hserves hpath (.intro ?_)
          exact congrArg some huser

theorem twin_rbacGuard {action : String} {next : Endpoint}
    (h : TwinEndpoint K web pattern registered next) :
    TwinEndpoint K web pattern registered (rbacGuard action next) := by
  intro incoming incoming' hknows hserves hpath hincoming
  have hnext := h incoming incoming' hknows hserves hpath hincoming
  cases hincoming with
  | @intro authUser hauth =>
    rw [rbacGuard_eq, rbacGuard_eq]
    dsimp only at hauth hnext ⊢
    generalize incoming.authUser = user at hauth
    cases user with
    | none =>
      cases authUser with
      | none => exact .ret rfl
      | some user' => cases hauth
    | some user =>
      cases authUser with
      | none => cases hauth
      | some user' =>
        have hid : (redactedIdentity user).id = (redactedIdentity user').id :=
          congrArg _ (Option.some.inj hauth)
        dsimp only [redactedIdentity] at hid ⊢
        rw [hid]
        refine .call trivial fun allowed allowed' hallowed => ?_
        rw [show allowed = allowed' from hallowed]
        rcases allowed' with _ | _ | _
        · exact .panic
        · exact .ret rfl
        · exact hnext

/-- What a handler of the caller itself asks for depends on the id of the caller alone. -/
theorem twinEndpoint_authUser (body : Incoming → Uuid → Handling Response)
    (hsame : ∀ incoming authUser, body { incoming with authUser := authUser } = body incoming)
    (h : ∀ incoming userId, TwinHandling K (body incoming userId) (body incoming userId)) :
    TwinEndpoint K web pattern registered fun incoming => respond (do
      let user ← mapErr Response.ofError (authUser incoming)
      body incoming user.id) := by
  intro incoming incoming' _ _ _ hincoming
  cases hincoming with
  | @intro caller hauth =>
    refine twin_respond (TwinE.bind (V := fun user user' : Identity => user.id = user'.id)
      (twinE_mapErr ?_) fun user user' hid => ?_)
    · unfold authUser
      dsimp only
      generalize incoming.authUser = user at hauth
      cases user with
      | none =>
        cases caller with
        | none => exact .error _
        | some user' => cases hauth
      | some user =>
        cases caller with
        | none => cases hauth
        | some user' =>
          have hid : (redactedIdentity user).id = (redactedIdentity user').id :=
            congrArg _ (Option.some.inj hauth)
          exact .ok hid
    · rw [hid, hsame incoming caller]
      exact h incoming user'.id

/-! ## Routers -/

theorem ofDomain_redacted (user : User) :
    Handler.User.ofDomain user = Handler.User.ofDomain user.redacted := rfl

theorem twin_findUser {userId : Uuid} :
    TwinHandling K
      (do let user ← invoke (.findUser userId); return .ok (.user (Handler.User.ofDomain user)))
      (do let user ← invoke (.findUser userId); return .ok (.user (Handler.User.ofDomain user))) := by
  refine twin_invoke (c := .findUser userId) trivial _ fun user user' huser => ?_
  have hsame : user.redacted = user'.redacted := huser
  rw [ofDomain_redacted user, hsame, ← ofDomain_redacted user']

theorem twin_index_handler :
    TwinEndpoint K web pattern registered (Handler.index web) := by
  refine twinEndpoint_respond (fun _ _ => rfl) fun incoming => ?_
  refine twin_invoke (c := .listUsers _) trivial
    (fun page => .okPaginated (.users (page.map Handler.User.ofDomain).data)
      (page.map Handler.User.ofDomain).metaData) fun page page' hpage => ?_
  have hmap : ∀ page : Data User, page.map Handler.User.ofDomain =
      (page.map User.redacted).map Handler.User.ofDomain := by
    intro page
    simp only [Data.map, List.map_map]
    rfl
  have hsame : page.map User.redacted = page'.map User.redacted := hpage
  rw [hmap page, hsame, ← hmap page']

/-- The one call that presents a password, and the one route it comes from. -/
theorem twin_login : TwinEndpoint K web "/v1/login" (some .post) (Auth.Handler.login web) := by
  intro incoming incoming' hknows hserves hpath hincoming
  cases hincoming with
  | intro _ =>
    refine twin_respond (twinE_mapErr_bind fun payload hpayload => ?_)
    refine twin_invoke (c := .generateToken payload.email payload.password)
      (hknows _ payload (hserves.eq (by decide)) hpath hpayload) _ fun tokens tokens' htokens => ?_
    rw [show tokens = tokens' from htokens]

theorem auth_twin : (Auth.routes env web).All (TwinEndpoint K web) := by
  refine Router.All.new
    |>.route twin_login (twinEndpoint_ret _)
    |>.route (twinEndpoint_respond (fun _ _ => rfl) fun incoming => ?_) (twinEndpoint_ret _)
    |>.route (twinEndpoint_respond (fun _ _ => rfl) fun incoming => ?_) (twinEndpoint_ret _)
    |>.route (twinEndpoint_respond (fun _ _ => rfl) fun incoming => ?_) (twinEndpoint_ret _)
  · refine twinE_mapErr_bind fun payload _ => ?_
    refine twin_invoke (c := .refreshToken payload.token) trivial _ fun tokens tokens' htokens => ?_
    rw [show tokens = tokens' from htokens]
  · exact twinE_mapErr_bind fun payload _ =>
      twin_invoke (c := .passwordRecovery payload.email payload.callbackUri) trivial _ fun _ _ _ => rfl
  · exact twinE_mapErr_bind fun payload _ =>
      twin_invoke (c := .resetPassword payload.token payload.password) trivial _ fun _ _ _ => rfl

theorem user_twin : (userRoutes env web).All (TwinEndpoint K web) := by
  have hindex : (Router.new.route "/v1/users" (on .get (Handler.index web))
      |>.routeLayer (rbacGuard viewAll)).All (TwinEndpoint K web) :=
    Router.All.routeLayer (Router.All.new.route twin_index_handler (twinEndpoint_ret _))
      fun _ _ _ h => twin_rbacGuard h
  refine (Router.All.new
    |>.route (twinEndpoint_respond (fun _ _ => rfl) fun incoming => ?_) (twinEndpoint_ret _)
    |>.route (twinEndpoint_authUser (fun _ userId => do
        let user ← invoke (.findUser userId)
        return .ok (.user (Handler.User.ofDomain user))) (fun _ _ => rfl)
        fun _ _ => twin_findUser) (twinEndpoint_ret _)
    |>.route (twinEndpoint_authUser (fun incoming userId => do
        let payload ← mapErr Response.ofError (json web.updateUser incoming.request)
        invoke (.partialUpdate userId payload.restrictedToSelf)
        return .ok (.message "successfully update user")) (fun _ _ => rfl)
        fun incoming userId => ?_) (twinEndpoint_ret _)
    |>.route (twinEndpoint_respond (fun _ _ => rfl) fun incoming => ?_) (twinEndpoint_ret _)
    |>.route (twinEndpoint_respond (fun _ _ => rfl) fun incoming => ?_) (twinEndpoint_ret _)
    |>.route (twinEndpoint_respond (fun _ _ => rfl) fun incoming => ?_)
      (twinEndpoint_ret _)).merge hindex
  · refine twinE_mapErr_bind fun payload _ => ?_
    refine twin_invoke (c := .createUser payload.toDomain) trivial _ fun userId userId' hid => ?_
    rw [show userId = userId' from hid]
  · exact twinE_mapErr_bind fun payload _ =>
      twin_invoke (c := .partialUpdate userId payload.restrictedToSelf) trivial _ fun _ _ _ => rfl
  · exact twinE_mapErr_bind fun userId _ => twin_findUser
  · exact twinE_mapErr_bind fun userId _ => twinE_mapErr_bind fun payload _ =>
      twin_invoke (c := .partialUpdate userId payload) trivial _ fun _ _ _ => rfl
  · exact twinE_mapErr_bind fun userId _ =>
      twin_invoke (c := .deleteUser userId) trivial _ fun _ _ _ => rfl

theorem permission_twin : permissionRoutes.All (TwinEndpoint K web) := by
  refine Router.All.new.route (twinEndpoint_respond (fun _ _ => rfl) fun incoming => ?_)
    (twinEndpoint_ret _)
  refine twin_invoke (c := .listPermissions) trivial _ fun permissions permissions' hsame => ?_
  rw [show permissions = permissions' from hsame]

theorem mount_twin : (mount env web).All (TwinEndpoint K web) := by
  have hhealth : Health.routes.All (TwinEndpoint K web) :=
    Router.All.new.route (twinEndpoint_ret _) (twinEndpoint_ret _)
  have hdocs : Docs.routes.All (TwinEndpoint K web) := Router.All.new
    |>.route (twinEndpoint_ret _) (twinEndpoint_ret _)
    |>.route (twinEndpoint_ret _) (twinEndpoint_ret _)
  have hiam : (Iam.routes env web).All (TwinEndpoint K web) :=
    ((Router.All.new.merge user_twin).merge permission_twin).routeLayer
      fun _ _ _ h => twin_authenticate h
  exact Router.All.new.merge hhealth
    |>.merge hdocs
    |>.merge auth_twin
    |>.merge hiam

theorem router_twin (env : Env) {request : Request} (hknows : Knows K web request) :
    Prog.Twin (PortPresents K) PortAlike Eq (router env web request) (router env web request) := by
  unfold router
  split
  · exact .ret rfl
  · refine Prog.Twin.bind (V := Eq) ?_ fun response response' hsame => hsame ▸ .ret rfl
    unfold routed
    split
    next endpoint params hdispatch =>
      obtain ⟨pattern, registered, htwin, hserves, hpath⟩ := mount_twin.dispatch hdispatch
      exact htwin _ _ hknows hserves hpath (.intro rfl)
    next => exact .ret rfl

/-! ## The server -/

theorem eq_of_rel {α : Type} {a b : Option α} (h : Option.Rel Eq a b) : a = b := by
  cases h with
  | some h => rw [h]
  | none => rfl

theorem answer_alike (config : AuthConfig) (faults : Faults) (o : Port) (w w' : World)
    (ho : PortPresents K o) (h : WorldAlike env K w w') :
    PortAlike o (answer env config faults o w).1 (answer env config faults o w').1 ∧
      WorldAlike env K (answer env config faults o w).2 (answer env config faults o w').2 := by
  cases o with
  | call c => exact perform_alike ho h
  | can userId action =>
    have huses : (Rbac.RbacEngine.can superRole userId action).Uses (Unsalted env K) := by
      refine Prog.Uses.bind ⟨⟨trivial, fun _ _ h => h⟩, fun r => by cases r <;> trivial⟩ fun bypass => ?_
      cases bypass with
      | true => trivial
      | false =>
        cases Rbac.splitAction action with
        | none => trivial
        | some parts => exact ⟨⟨trivial, fun _ _ h => h⟩, fun r => by cases r <;> trivial⟩
    obtain ⟨houtcome, hleft⟩ := Prog.Twin.run
      (fun o s t _ hst => exec_alike env K faults o s t hst) (Prog.twin_refl huses) h
    exact ⟨eq_of_rel houtcome, hleft⟩

/-- Alike worlds answer a request alike, and stay alike. -/
theorem httpStep_alike {config : AuthConfig} {faults : Faults} {e : HttpEvent} {w w' v : World}
    (h : HttpStep env config web faults w e w')
    (hknows : ∀ request response, e = .served request response → Knows K web request)
    (hv : WorldAlike env K w v) :
    ∃ v', HttpStep env config web faults v e v' ∧ WorldAlike env K w' v' := by
  cases h with
  | elapsed micros w =>
    cases hv with
    | intro hdb htx => exact ⟨_, .elapsed micros _, .intro hdb htx⟩
  | @served request response _ _ h =>
    obtain ⟨hresponse, hleft⟩ := Prog.Twin.run
      (fun o s t ho hst => answer_alike config faults o s t ho hst)
      (router_twin env (hknows request response rfl)) hv
    have hserved : serve env config web faults request w = (response, w') := h
    unfold serve at hserved
    rw [hserved] at hresponse hleft
    have hsame : response = (serve env config web faults request v).1 :=
      eq_of_rel hresponse
    refine ⟨_, ?_, hleft⟩
    rw [hsame]
    exact httpStep_serve env config web faults request v

/-- The responses of a run, and whatever it leaves, depend on the stored hashes through their
    verdicts on the passwords presented at login alone. -/
theorem run_blind_to_hashes {config : AuthConfig} {faults : Faults} {w w' v : World}
    {events : List HttpEvent} (h : Run (HttpStep env config web faults) w events w')
    (hknows : ∀ request response, HttpEvent.served request response ∈ events →
      Knows K web request)
    (hv : WorldAlike env K w v) :
    ∃ v', Run (HttpStep env config web faults) v events v' ∧ WorldAlike env K w' v' := by
  have hsimulated : ∃ v', Run (HttpStep env config web faults) v (events.map id) v' ∧
      WorldAlike env K w' v' := by
    refine h.simulates
      (P := fun e => ∀ request response, e = .served request response → Knows K web request)
      (fun w e w' v he hwv hstep => httpStep_alike hstep he hwv) (fun e he request response heq => ?_)
      hv
    exact hknows request response (heq ▸ he)
  rwa [List.map_id] at hsimulated

/-! ## A login over another hash -/

/-- The hash of Ada's password under a salt. -/
def adaHash (salt : String) : String :=
  String.ofList (joinWords [salt.toList.take 16, keyWord "Str0ng-Pass"])

/-- Ada's row, hashed once more under another salt. -/
def rehash (row : UserRow) : UserRow :=
  if row.password = adaHash "" then { row with password := adaHash "pepper" } else row

theorem verify_adaHash (salt password : String) :
    sampleCrypto.bcryptVerify password (adaHash salt) =
      .ok (bcryptKey password == bcryptKey "Str0ng-Pass") :=
  sampleCrypto_readsKey salt "Str0ng-Pass" (adaHash salt) rfl password

theorem rowAlike_rehash (K : String → Prop) (row : UserRow) :
    RowAlike sampleEnv K row (rehash row) := by
  unfold rehash
  split
  next hhash =>
    refine ⟨rfl, fun password _ => ?_⟩
    dsimp only [sampleEnv]
    rw [hhash, verify_adaHash, verify_adaHash]
  next => exact rowAlike_refl row

def rehashed : World :=
  { signedUp with db := { signedUp.db with users := signedUp.db.users.map rehash } }

theorem worldAlike_rehashed (K : String → Prop) : WorldAlike sampleEnv K signedUp rehashed :=
  .intro (.intro (List.forall₂_map_right_iff.2 (List.forall₂_same.2 fun row _ =>
    rowAlike_rehash K row))) .none

def adaBody : List UInt8 := ascii "\x7b\"email\":\"ada@example.com\",\"password\":\"Str0ng-Pass\"\x7d"

/-- Decodes the body of Ada's login. -/
def adaWeb : WebLibrary :=
  { sampleWeb with
    loginRequest := fun request =>
      if request.body = adaBody then .ok ⟨"ada@example.com", "Str0ng-Pass"⟩
      else .error "expected value at line 1 column 1" }

/-- What a request is answered, and what it leaves. -/
def adaServes (w : World) : Option Response × World :=
  serve sampleEnv sampleConfig adaWeb Faults.none (posting "/v1/login" adaBody) w

/-- Ada logs in, and the response does not tell which of her two hashes is stored. -/
theorem run_blind_to_hashes_sample :
    rehashed.db.users ≠ signedUp.db.users ∧
    (adaServes signedUp).1.map (·.status) = some 200 ∧
    ∃ left, Run (HttpStep sampleEnv sampleConfig adaWeb Faults.none) rehashed
        [.served (posting "/v1/login" adaBody) (adaServes signedUp).1] left ∧
      WorldAlike sampleEnv (· = "Str0ng-Pass") (adaServes signedUp).2 left := by
  refine ⟨by decide +kernel, by decide +kernel, ?_⟩
  refine run_blind_to_hashes (.cons (httpStep_serve _ _ _ _ _ _) (.nil _)) ?_
    (worldAlike_rehashed _)
  intro request response hserved params payload _ _ hpayload
  cases List.mem_singleton.1 hserved
  have hdecoded : validatedJson adaWeb.loginRequest LoginRequest.validate
      (posting "/v1/login" adaBody) = .ok ⟨"ada@example.com", "Str0ng-Pass"⟩ := by decide
  cases hdecoded.symm.trans hpayload
  rfl

end

end ApiStarter.Security
