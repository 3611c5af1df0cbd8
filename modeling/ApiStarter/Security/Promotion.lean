import ApiStarter.Module.Iam.Creation
import ApiStarter.Security.Mediation

/-
  What a user can do to their own roles.

  `PATCH /v1/users/my-user` drops the roles of its payload, and no other route writes the roles
  of an existing user, except `PATCH /v1/users/{user-id}`: it asks for no permission and takes
  any id, so also the caller's. `no_self_promotion` says that this request is the only way: in
  a run of requests of one user without it, the user gains no role and no permission.
-/

namespace ApiStarter.Security

open ApiStarter.Auth ApiStarter.Database ApiStarter.Effect ApiStarter.Effect.Fallible
  ApiStarter.Errdef ApiStarter.Iam ApiStarter.Iam.Handler ApiStarter.Provider ApiStarter.Rbac
  ApiStarter.Server ApiStarter.Web

/-! ## Gaining nothing -/

/-- The user holds no role in `db` that it did not hold in `db₀`, and the roles grant the same. -/
structure NoGain (userId : Uuid) (db₀ db : Db) : Prop where
  held : ∀ roleId, ⟨userId, roleId⟩ ∈ db.userHasRoles → ⟨userId, roleId⟩ ∈ db₀.userHasRoles
  roles : db.roles = db₀.roles
  permissions : db.permissions = db₀.permissions
  grants : db.roleHasPermissions = db₀.roleHasPermissions

namespace NoGain

variable {userId : Uuid} {db₀ db₁ db₂ : Db}

theorem refl : NoGain userId db₀ db₀ := ⟨fun _ h => h, rfl, rfl, rfl⟩

theorem trans (h₁ : NoGain userId db₀ db₁) (h₂ : NoGain userId db₁ db₂) : NoGain userId db₀ db₂ where
  held roleId h := h₁.held roleId (h₂.held roleId h)
  roles := h₂.roles.trans h₁.roles
  permissions := h₂.permissions.trans h₁.permissions
  grants := h₂.grants.trans h₁.grants

/-- Whatever the engine allows now, it allowed before. -/
theorem can {env : Env} {w₀ w₁ : World} (h : NoGain userId w₀.db w₁.db) {action : String}
    (hcan : (Server.can env Faults.none userId action w₁).1 = some true) :
    (Server.can env Faults.none userId action w₀).1 = some true := by
  rw [can_eq_true] at hcan ⊢
  rcases hcan with hsuper | ⟨resource, permission, hsplit, hpermission⟩
  · obtain ⟨r, hr, hname, huhr⟩ := PostgresRbacStore.mem_getRoles.1 hsuper
    exact .inl (PostgresRbacStore.mem_getRoles.2 ⟨r, h.roles ▸ hr, hname, h.held _ huhr⟩)
  · obtain ⟨p, hp, hnames⟩ := PostgresRbacStore.hasPermission_eq_true.1 hpermission
    obtain ⟨hp, roleId, hrhp, huhr⟩ := PostgresRbacStore.mem_grantedPermissions.1 hp
    have hp₀ := PostgresRbacStore.mem_grantedPermissions.2
      ⟨h.permissions ▸ hp, roleId, h.grants ▸ hrhp, h.held _ huhr⟩
    exact .inr ⟨resource, permission, hsplit,
      PostgresRbacStore.hasPermission_eq_true.2 ⟨p, hp₀, hnames⟩⟩

end NoGain

/-! ## One call -/

/-- Every role the payload adds is held already, or taken away by the same payload. -/
def AddsNothing (userId : Uuid) (fields : UpdateUser) (db : Db) : Prop :=
  ∀ roleId, Named db fields.addRoles roleId →
    ⟨userId, roleId⟩ ∈ db.userHasRoles ∨ Named db fields.removeRoles roleId

theorem addsNothing_of_none {userId : Uuid} {fields : UpdateUser} {db : Db}
    (h : fields.addRoles = none) : AddsNothing userId fields db := by
  rintro roleId ⟨r, -, -, hname⟩
  rw [h] at hname
  cases hname

theorem noGain_of_payloadApplied {env : Env} {userId id : Uuid} {fields : UpdateUser} {db db' : Db}
    (h : PayloadApplied env id fields db db') (hadds : id = userId → AddsNothing userId fields db) :
    NoGain userId db db' := by
  have hheld : ∀ roleId, ⟨userId, roleId⟩ ∈ db'.userHasRoles →
      ⟨userId, roleId⟩ ∈ db.userHasRoles := by
    intro roleId hmem
    by_cases heq : id = userId
    · subst heq
      obtain ⟨hold | hadded, hkept⟩ := (h.roles_self roleId).1 hmem
      · exact hold
      · exact (hadds rfl roleId hadded).resolve_right hkept
    · exact (h.roles_other userId roleId (Ne.symm heq)).1 hmem
  exact ⟨hheld, by rw [h.rest], by rw [h.rest], by rw [h.rest]⟩

theorem noGain_of_userCreated {env : Env} {userId id : Uuid} {newUser : CreateUser} {db db' : Db}
    (h : UserCreated env newUser id db db') (huser : HasUser userId db) : NoGain userId db db' := by
  have hheld : ∀ roleId, ⟨userId, roleId⟩ ∈ db'.userHasRoles →
      ⟨userId, roleId⟩ ∈ db.userHasRoles := by
    intro roleId hmem
    rcases (h.roles userId roleId).1 hmem with hold | ⟨rfl, -⟩
    · exact hold
    · exact absurd huser h.fresh
  exact ⟨hheld, by rw [h.rest], by rw [h.rest], by rw [h.rest]⟩

/-- No statement other than the `INSERT` of roles adds a role to anyone. -/
theorem preservedBy_noGain {env : Env} (hpg : env.pg.RejectsLonger) {P : Op → Prop}
    (hP : ∀ userId names, ¬ P (.insertUserRoles userId names)) (userId : Uuid) (db₀ : Db) :
    PreservedBy env P (NoGain userId db₀) where
  createPasswordReset _ _ _ _ _ h := { h with }
  resetPassword _ _ _ _ h := { h with }
  deletePasswordReset _ _ _ h := { h with }
  insertUser _ _ _ _ _ _ h hok := by
    obtain ⟨-, hw⟩ := insertUser_ok hpg hok
    obtain ⟨-, -, rfl⟩ := writeUsers_ok hw
    exact { h with }
  updateUser _ _ _ _ _ h hok := by
    obtain ⟨-, -, rfl⟩ := writeUsers_ok (updateUser_ok hpg hok)
    exact { h with }
  insertUserRoles _ _ _ _ ho _ _ := absurd ho (hP _ _)
  deleteUserRoles _ _ _ _ _ h hok := by
    obtain ⟨kept, rfl, hsub, -⟩ := deleteUserRoles_ok hok
    exact { h with held := fun roleId hmem => h.held roleId (hsub.subset hmem) }

section

variable {env : Env} {config : AuthConfig} {web : WebLibrary} {faults : Faults} {w w' : World}
  {userId : Uuid} {db₀ : Db}

/-- Between requests: no transaction is open, the user is there and has gained nothing. -/
structure Confined (userId : Uuid) (db₀ : Db) (w : World) : Prop where
  tx : w.tx = none
  user : HasUser userId w.db
  noGain : NoGain userId db₀ w.db

theorem perform_confined (hpg : env.pg.RejectsLonger) (c : Call) (hw : Confined userId db₀ w)
    (hadds : ∀ fields, c = .partialUpdate userId fields → AddsNothing userId fields w.db) :
    Confined userId db₀ (perform env config faults c w).2 := by
  generalize h : perform env config faults c w = result
  obtain ⟨outcome, w'⟩ := result
  have htx : w'.tx = none := step_tx (.called h) hw.tx
  have huser : HasUser userId w'.db :=
    (perform_inDb (preservedBy_hasUser hpg _ userId) h ⟨hw.user, by simp [hw.tx]⟩).1
  refine ⟨htx, huser, hw.noGain.trans ?_⟩
  have hother : (∀ id names, ¬ c.MayPerform (.insertUserRoles id names)) →
      NoGain userId w.db w'.db := fun hP =>
    (perform_inDb (preservedBy_noGain hpg hP userId w.db) h ⟨.refl, by simp [hw.tx]⟩).1
  cases c with
  | createUser newUser =>
    obtain ⟨w₁, hrun, rfl⟩ := perform_eq h
    by_cases hok : ∃ id, outcome = some (.ok id)
    · obtain ⟨id, rfl⟩ := hok
      have hcreated : UserCreated env newUser id w.db w₁.db := (create_ok hpg hrun).1
      exact noGain_of_userCreated hcreated hw.user
    · have hdb : w₁.db = w.db := create_failed (fun id heq => hok ⟨id, heq⟩) hrun
      rw [World.dropTx, hdb]
      exact .refl
  | partialUpdate id fields =>
    obtain ⟨w₁, hrun, rfl⟩ := perform_eq h
    by_cases hok : outcome = some (.ok ())
    · subst hok
      have happlied : PayloadApplied env id fields w.db w₁.db := partialUpdate_ok hpg hrun
      exact noGain_of_payloadApplied happlied fun heq => hadds fields (heq ▸ rfl)
    · have hdb : w₁.db = w.db := partialUpdate_failed (fun _ heq => hok heq) hrun
      rw [World.dropTx, hdb]
      exact .refl
  | _ =>
    refine hother fun other names ho => ?_
    obtain ho | ho | ho := ho
    · exact ho
    · exact ho
    · exact ho

theorem can_confined {id : Uuid} {action : String} (hw : Confined userId db₀ w) :
    Confined userId db₀ (Server.can env faults id action w).2 := by
  obtain ⟨n, hworld⟩ := can_world env faults id action w
  rw [hworld]
  exact { hw with }

/-! ## One request -/

/-- An operation that asks for no role of the user. -/
def Meek (userId : Uuid) : Port → Prop
  | .call (.partialUpdate id fields) => id = userId → fields.addRoles = none
  | _ => True

theorem answer_confined (hpg : env.pg.RejectsLonger) {o : Port} (ho : Meek userId o)
    (hw : Confined userId db₀ w) : Confined userId db₀ (answer env config faults o w).2 := by
  cases o with
  | can id action => exact can_confined hw
  | call c =>
    refine perform_confined hpg c hw fun fields heq => ?_
    subst heq
    exact addsNothing_of_none (ho rfl)

theorem run_confined (hpg : env.pg.RejectsLonger) {α : Type} {p : Prog Port PortRes α}
    (hp : p.Uses (Meek userId)) (hw : Confined userId db₀ w) :
    Confined userId db₀ (p.run (answer env config faults) w).2 :=
  Prog.run_inv_of_uses (h := answer env config faults) (I := Confined userId db₀)
    (fun _ _ ho h => answer_confined hpg ho h) hp hw

theorem meek_of_not_asksIam {o : Port} (h : ¬ AsksIam o) : Meek userId o := by
  cases o with
  | can id action => trivial
  | call c => cases c <;> first | trivial | exact absurd trivial h

end

/-- `authenticate` lets the request pass as one of the user. -/
def AuthenticatedAs (env : Env) (config : AuthConfig) (faults : Faults) (userId : Uuid)
    (request : Request) (w : World) : Prop :=
  ∃ token user, bearerToken request = some token ∧ user.id = userId ∧
    (perform env config faults (.getIdentity token) w).1 = some (.ok user)

/-- The request is a `PATCH` of the user by id, and its payload names a role that exists, that
    the user does not hold, and that the payload does not take away again. -/
def AddsOwnRole (web : WebLibrary) (userId : Uuid) (request : Request) (db : Db) : Prop :=
  ∃ params fields, request.method = .patch ∧
    matchPath "/v1/users/{user-id}" request.path = some params ∧
    web.pathUuid params = .ok userId ∧ web.updateUser request = .ok fields ∧
    ∃ roleId, Named db fields.addRoles roleId ∧ ⟨userId, roleId⟩ ∉ db.userHasRoles ∧
      ¬ Named db fields.removeRoles roleId

section

variable {env : Env} {config : AuthConfig} {web : WebLibrary} {faults : Faults} {w w' : World}
  {userId : Uuid}

/-- Looking the identity up sends a statement and changes nothing. -/
theorem getIdentity_world {token : String} {user : Identity}
    (h : (perform env config faults (.getIdentity token) w).1 = some (.ok user)) :
    HasUser user.id w.db ∧
      (perform env config faults (.getIdentity token) w).2 = w.counted.dropTx := by
  obtain ⟨w₁, hrun, hw₁⟩ := perform_eq (Prod.ext h rfl :
    perform env config faults (.getIdentity token) w = (some (.ok user), _))
  obtain ⟨huser, rfl⟩ := getIdentity_ok hrun
  exact ⟨huser, hw₁⟩

theorem behind_confined (hpg : env.pg.RejectsLonger) {pattern : String}
    {registered : Option Method} {next : Endpoint}
    (hnext : Behind env web pattern registered next) {incoming : Incoming}
    (hserves : Router.Serves registered incoming.request.method)
    (hpath : matchPath pattern incoming.request.path = some incoming.params)
    (hown : ¬ AddsOwnRole web userId incoming.request w.db) (hw : Confined userId w.db w) :
    Confined userId w.db ((next incoming).run (answer env config faults) w).2 := by
  cases hnext with
  | plain hplain =>
    exact run_confined hpg ((hplain incoming).mono fun _ => meek_of_not_asksIam) hw
  | guarded =>
    refine run_confined hpg ?_ hw
    rw [rbacGuard_eq]
    cases incoming.authUser with
    | none => trivial
    | some user =>
      refine ⟨trivial, fun allowed => ?_⟩
      rcases allowed with _ | _ | _
      · trivial
      · trivial
      · refine (index_once incoming).uses.mono fun o ho => ?_
        rw [show o = _ from ho]
        trivial
  | handler hm he =>
    subst hm
    rcases (endpoints_once he hserves hpath).run_cases (answer env config faults) w with
      hsame | ⟨o, ho, hrun⟩
    · rw [hsame]
      exact hw
    rw [hrun]
    cases ho with
    | selfUpdate huser hfields =>
      refine perform_confined hpg _ hw fun fields heq => ?_
      cases heq
      exact addsNothing_of_none rfl
    | @update id fields hmethod hparams hid hfields =>
      refine perform_confined hpg _ hw fun fields' heq roleId hadded => ?_
      cases heq
      by_contra hgain
      rw [not_or] at hgain
      exact hown ⟨incoming.params, fields, hmethod, hparams, hid, hfields, roleId, hadded,
        hgain.1, hgain.2⟩
    | create | find | delete | permissions =>
      exact perform_confined hpg _ hw fun _ heq => nomatch heq

/-- One authenticated request that does not ask for a role of its own user. -/
theorem serve_confined (hpg : env.pg.RejectsLonger) {request : Request}
    {response : Option Response} (h : serve env config web faults request w = (response, w'))
    (htx : w.tx = none) (hauth : AuthenticatedAs env config faults userId request w)
    (hown : ¬ AddsOwnRole web userId request w.db) : Confined userId w.db w' := by
  obtain ⟨token, user, htoken, rfl, hidentity⟩ := hauth
  obtain ⟨huser, hworld⟩ := getIdentity_world hidentity
  have hw : Confined user.id w.db w := ⟨htx, huser, .refl⟩
  have hw' : w' = ((router env web request).run (answer env config faults) w).2 :=
    (congrArg Prod.snd h).symm
  rw [hw']
  unfold router
  split
  · exact hw
  have hstrip : ∀ p : Prog Port PortRes Response, ((p.bind fun response =>
      .ret (stripBody request.method response)).run (answer env config faults) w).2 =
        (p.run (answer env config faults) w).2 := by
    intro p
    rw [Prog.run_bind]
    rcases p.run (answer env config faults) w with ⟨_ | response, w₁⟩ <;> rfl
  rw [hstrip]
  unfold routed
  split
  next endpoint params hdispatch =>
    obtain ⟨pattern, registered, hmounted, hserves, hpath⟩ := mount_mounted.dispatch hdispatch
    cases hmounted with
    | plain hplain => exact run_confined hpg ((hplain _).mono fun _ => meek_of_not_asksIam) hw
    | authenticated hnext =>
      rw [authenticate_eq, htoken]
      dsimp only
      rw [Prog.run_call, show answer env config faults (.call (.getIdentity token)) w =
        perform env config faults (.getIdentity token) w from rfl, hidentity, hworld]
      have hcounted : Confined user.id w.counted.dropTx.db w.counted.dropTx :=
        ⟨rfl, huser, .refl⟩
      exact behind_confined hpg hnext hserves hpath hown hcounted
  next => exact hw

end

/-! ## Runs of one user's requests -/

/-- Every request is authenticated as the user; time may pass. -/
def ByUser (env : Env) (config : AuthConfig) (faults : Faults) (userId : Uuid) (w : World) :
    HttpEvent → Prop
  | .served request _ => AuthenticatedAs env config faults userId request w
  | .elapsed _ => True

def PromotesSelf (web : WebLibrary) (userId : Uuid) (w : World) : HttpEvent → Prop
  | .served request _ => AddsOwnRole web userId request w.db
  | .elapsed _ => False

theorem no_self_promotion {env : Env} {config : AuthConfig} {web : WebLibrary} {faults : Faults}
    (hpg : env.pg.RejectsLonger) {userId : Uuid} {w w' : World} {events : List HttpEvent}
    (hw : w.tx = none)
    (hrun : Run (Guarded (HttpStep env config web faults) fun w e =>
      ByUser env config faults userId w e ∧ ¬ PromotesSelf web userId w e) w events w') :
    (∀ roleId, ⟨userId, roleId⟩ ∈ w'.db.userHasRoles → ⟨userId, roleId⟩ ∈ w.db.userHasRoles) ∧
      ∀ action, (Server.can env Faults.none userId action w').1 = some true →
        (Server.can env Faults.none userId action w).1 = some true := by
  have hkept : w'.tx = none ∧ NoGain userId w.db w'.db := by
    refine hrun.inv (I := fun w₁ => w₁.tx = none ∧ NoGain userId w.db w₁.db) ?_ ⟨hw, .refl⟩
    intro w₁ e w₂ hinv hguarded
    obtain ⟨htx, hgain⟩ := hinv
    obtain ⟨⟨huser, hown⟩, hstep⟩ := hguarded
    cases hstep with
    | served h =>
      have hconfined := serve_confined hpg h htx huser hown
      exact ⟨hconfined.tx, hgain.trans hconfined.noGain⟩
    | elapsed micros w => exact ⟨htx, hgain⟩
  exact ⟨hkept.2.held, fun action hcan => hkept.2.can hcan⟩

/-- Ada sends the body that asks for the role `Admin` to her self-service route. -/
def sampleSelfService : Request :=
  bearing sampleTokens.token .patch "/v1/users/my-user" promotingBody

def selfServedWorld : World :=
  (serve sampleEnv sampleConfig sampleWeb Faults.none sampleSelfService loggedInWorld).2

theorem no_self_promotion_sample :
    (∀ roleId, ⟨2, roleId⟩ ∈ selfServedWorld.db.userHasRoles →
      ⟨2, roleId⟩ ∈ loggedInWorld.db.userHasRoles) ∧
    ∀ action, (Server.can sampleEnv Faults.none 2 action selfServedWorld).1 = some true →
      (Server.can sampleEnv Faults.none 2 action loggedInWorld).1 = some true := by
  have hown : ¬ AddsOwnRole sampleWeb 2 sampleSelfService loggedInWorld.db := by
    rintro ⟨params, fields, -, hpath, hid, -⟩
    cases hpath
    exact absurd hid (by decide)
  have hidentity : ByUser sampleEnv sampleConfig Faults.none 2 loggedInWorld
      (.served sampleSelfService (serve sampleEnv sampleConfig sampleWeb Faults.none
        sampleSelfService loggedInWorld).1) := ⟨sampleTokens.token, _, by decide, rfl, rfl⟩
  have hserved := httpStep_serve sampleEnv sampleConfig sampleWeb Faults.none sampleSelfService
    loggedInWorld
  exact no_self_promotion samplePostgres_rejectsLonger rfl
    (.cons ⟨⟨hidentity, hown⟩, hserved⟩ (.nil _))

/-- Ada sends the same body to the route of her id. -/
def samplePromotion : Request :=
  bearing sampleTokens.token .patch "/v1/users/00000000-0000-0000-0000-000000000002" promotingBody

def promotedWorld : World :=
  (serve sampleEnv sampleConfig sampleWeb Faults.none samplePromotion loggedInWorld).2

theorem user_promotes_themselves :
    (∃ before, Run (Step sampleEnv sampleConfig Faults.none) sampleWorld before loggedInWorld) ∧
    superRole ∉ PostgresRbacStore.getRoles loggedInWorld.db 2 ∧
    ((Iam.routes sampleEnv sampleWeb).dispatch samplePromotion.method
      samplePromotion.path).isSome ∧
    (∃ response, Run (Guarded (HttpStep sampleEnv sampleConfig sampleWeb Faults.none) fun w e =>
      ByUser sampleEnv sampleConfig Faults.none 2 w e) loggedInWorld
        [.served samplePromotion response] promotedWorld) ∧
    ⟨2, 1⟩ ∉ loggedInWorld.db.userHasRoles ∧ ⟨2, 1⟩ ∈ promotedWorld.db.userHasRoles ∧
    (Server.can sampleEnv Faults.none 2 "Users.View All" loggedInWorld).1 = some false ∧
    (Server.can sampleEnv Faults.none 2 "Users.View All" promotedWorld).1 = some true := by
  obtain ⟨before, hbefore⟩ := loggedInWorld_run
  have hidentity : AuthenticatedAs sampleEnv sampleConfig Faults.none 2 samplePromotion
      loggedInWorld := ⟨sampleTokens.token, _, by decide, rfl, rfl⟩
  have hserved := httpStep_serve sampleEnv sampleConfig sampleWeb Faults.none samplePromotion
    loggedInWorld
  refine ⟨⟨_, hbefore⟩, by decide, by decide, ⟨_, .cons ⟨hidentity, hserved⟩ (.nil _)⟩, ?_⟩
  exact ⟨by decide, by decide, by decide, by decide⟩

end ApiStarter.Security
