import ApiStarter.Server.Routes

/-
  Reading the routers.

  `Iam.routes` wraps every endpoint in `authenticate`, and `user_routes` wraps the index alone
  in the guard before that. `mount_mounted` reads this off by the rules of `Router.All`: an
  endpoint of the server either never asks for an iam service, or is `authenticate` around the
  guarded index, around a handler of `endpoints`, or around an answer that asks for none.
  `endpoints_once` says what a request that reaches one of these handlers asks for.
-/

namespace ApiStarter.Server

open ApiStarter.Auth ApiStarter.Database ApiStarter.Effect ApiStarter.Effect.Fallible
  ApiStarter.Iam ApiStarter.Iam.Handler ApiStarter.Provider ApiStarter.Web

/-! ## What an operation asks for -/

/-- The methods of `UserService` and `PermissionService`. -/
def OfIam : Call → Prop
  | .createUser _ => True
  | .partialUpdate _ _ => True
  | .deleteUser _ => True
  | .findUser _ => True
  | .listUsers _ => True
  | .listPermissions => True
  | _ => False

/-- `UserService::index` -/
def IsIndex : Call → Prop
  | .listUsers _ => True
  | _ => False

def AsksIam : Port → Prop
  | .call c => OfIam c
  | .can _ _ => False

/-- An endpoint that never asks for an iam service. -/
def Plain (e : Endpoint) : Prop := ∀ incoming, (e incoming).Uses fun o => ¬ AsksIam o

/-! ## The endpoints -/

section

variable (env : Env) (web : WebLibrary)

/-- The handlers behind authentication alone, with the patterns and methods of their routes. -/
def endpoints : List (String × Method × Endpoint) := [
  ("/v1/users", .post, create env web),
  ("/v1/users/my-user", .get, getMyUser),
  ("/v1/users/my-user", .patch, patchMyUser web),
  ("/v1/users/{user-id}", .get, Handler.get web),
  ("/v1/users/{user-id}", .patch, patch web),
  ("/v1/users/{user-id}", .delete, delete web),
  ("/v1/permissions", .get, permissionIndex)]

/-- What authentication may hand a request over to. -/
inductive Behind (pattern : String) (registered : Option Method) : Endpoint → Prop
  | plain {e : Endpoint} (h : Plain e) : Behind pattern registered e
  | guarded : Behind pattern registered (rbacGuard viewAll (index web))
  | handler {method : Method} {e : Endpoint} (hm : registered = some method)
      (h : (pattern, method, e) ∈ endpoints env web) : Behind pattern registered e

inductive Mounted (pattern : String) (registered : Option Method) : Endpoint → Prop
  | plain {e : Endpoint} (h : Plain e) : Mounted pattern registered e
  | authenticated {next : Endpoint} (h : Behind env web pattern registered next) :
      Mounted pattern registered (authenticate next)

/-- What the handlers of `endpoints` ask for. -/
inductive Asked (incoming : Incoming) : Port → Prop
  | create {payload : CreateUserRequest} (h : validatedJson web.createUserRequest
      (CreateUserRequest.validate env.unicode web.emailValid) incoming.request = .ok payload) :
      Asked incoming (.call (.createUser payload.toDomain))
  | find (userId : Uuid) : Asked incoming (.call (.findUser userId))
  | selfUpdate {user : Identity} {fields : UpdateUser} (huser : authUser incoming = .ok user)
      (hfields : web.updateUser incoming.request = .ok fields) :
      Asked incoming (.call (.partialUpdate user.id fields.restrictedToSelf))
  | update {userId : Uuid} {fields : UpdateUser} (hmethod : incoming.request.method = .patch)
      (hpath : matchPath "/v1/users/{user-id}" incoming.request.path = some incoming.params)
      (hid : web.pathUuid incoming.params = .ok userId)
      (hfields : web.updateUser incoming.request = .ok fields) :
      Asked incoming (.call (.partialUpdate userId fields))
  | delete {userId : Uuid} (hid : web.pathUuid incoming.params = .ok userId) :
      Asked incoming (.call (.deleteUser userId))
  | permissions : Asked incoming (.call .listPermissions)

end

section

variable {env : Env} {web : WebLibrary}

/-! ## Reading the routers -/

theorem plain_ret (response : Response) : Plain fun _ => .ret response := fun _ => trivial

theorem plain_rbacGuard {action : String} {next : Endpoint} (h : Plain next) :
    Plain (rbacGuard action next) := by
  intro incoming
  rw [rbacGuard_eq]
  cases incoming.authUser with
  | none => trivial
  | some user =>
    refine ⟨id, fun allowed => ?_⟩
    rcases allowed with _ | _ | _
    · trivial
    · trivial
    · exact h incoming

/-- A handler that makes one call, of another service. -/
theorem plain_of_once {T : Type} {e : Endpoint} {accepted : Incoming → T → Prop} {c : T → Call}
    (h : ∀ incoming, (e incoming).Once fun o => ∃ t, accepted incoming t ∧ o = .call (c t))
    (hc : ∀ t, ¬ OfIam (c t)) : Plain e := by
  intro incoming
  refine (h incoming).uses.mono fun o ho => ?_
  obtain ⟨t, -, rfl⟩ := ho
  exact hc t

theorem health_mounted : Health.routes.All (Mounted env web) :=
  Router.All.new.route (.plain (plain_ret _)) (.plain (plain_ret _))

theorem docs_mounted : Docs.routes.All (Mounted env web) :=
  Router.All.new
    |>.route (.plain (plain_ret _)) (.plain (plain_ret _))
    |>.route (.plain (plain_ret _)) (.plain (plain_ret _))

theorem auth_mounted : (Auth.routes env web).All (Mounted env web) :=
  Router.All.new
    |>.route (.plain (plain_of_once Auth.Handler.login_once fun _ => id)) (.plain (plain_ret _))
    |>.route (.plain (plain_of_once Auth.Handler.refreshToken_once fun _ => id))
      (.plain (plain_ret _))
    |>.route (.plain (plain_of_once Auth.Handler.passwordRecovery_once fun _ => id))
      (.plain (plain_ret _))
    |>.route (.plain (plain_of_once Auth.Handler.passwordReset_once fun _ => id))
      (.plain (plain_ret _))

/-- Before authentication is put around them. The guard is around the index, and around the
    answer to the methods its path does not have. -/
theorem user_behind : (userRoutes env web).All (Behind env web) := by
  have hnot : ∀ pattern registered, Behind env web pattern registered methodNotAllowed :=
    fun _ _ => .plain (plain_ret _)
  have hindex : (Router.new.route "/v1/users" (on .get (index web))
      |>.routeLayer (rbacGuard viewAll)).All (Behind env web) := by
    refine Router.All.routeLayer (Q := fun _ _ e => e = index web ∨ e = methodNotAllowed)
      (Router.All.new.route (.inl rfl) (.inr rfl)) fun _ _ e he => ?_
    rcases he with rfl | rfl
    · exact .guarded
    · exact .plain (plain_rbacGuard (plain_ret _))
  exact (Router.All.new
    |>.route (.handler rfl (by simp [endpoints])) (hnot _ _)
    |>.route (.handler rfl (by simp [endpoints])) (hnot _ _)
    |>.route (.handler rfl (by simp [endpoints])) (hnot _ _)
    |>.route (.handler rfl (by simp [endpoints])) (hnot _ _)
    |>.route (.handler rfl (by simp [endpoints])) (hnot _ _)
    |>.route (.handler rfl (by simp [endpoints])) (hnot _ _)).merge hindex

theorem permission_behind : permissionRoutes.All (Behind env web) :=
  Router.All.new.route (.handler rfl (by simp [endpoints])) (.plain (plain_ret _))

theorem iam_mounted : (Iam.routes env web).All (Mounted env web) :=
  ((Router.All.new.merge user_behind).merge permission_behind).routeLayer
    fun _ _ _ h => .authenticated h

theorem mount_mounted : (mount env web).All (Mounted env web) :=
  Router.All.new.merge health_mounted
    |>.merge docs_mounted
    |>.merge auth_mounted
    |>.merge iam_mounted

/-! ## What a handler asks for -/

theorem endpoints_once {pattern : String} {method : Method} {e : Endpoint}
    (h : (pattern, method, e) ∈ endpoints env web) {incoming : Incoming}
    (hserves : Router.Serves (some method) incoming.request.method)
    (hpath : matchPath pattern incoming.request.path = some incoming.params) :
    (e incoming).Once (Asked env web incoming) := by
  simp only [endpoints, List.mem_cons, Prod.mk.injEq, List.not_mem_nil, or_false] at h
  obtain ⟨-, -, rfl⟩ | ⟨-, -, rfl⟩ | ⟨-, -, rfl⟩ | ⟨-, -, rfl⟩ | ⟨rfl, rfl, rfl⟩ | ⟨-, -, rfl⟩ |
    ⟨-, -, rfl⟩ := h
  · refine (create_once incoming).mono fun o ho => ?_
    obtain ⟨payload, hpayload, rfl⟩ := ho
    exact .create hpayload
  · refine (getMyUser_once incoming).mono fun o ho => ?_
    obtain ⟨user, -, rfl⟩ := ho
    exact .find user.id
  · refine (patchMyUser_once incoming).mono fun o ho => ?_
    obtain ⟨user, fields, huser, hfields, rfl⟩ := ho
    exact .selfUpdate huser (json_ok hfields)
  · refine (get_once incoming).mono fun o ho => ?_
    obtain ⟨userId, -, rfl⟩ := ho
    exact .find userId
  · have hmethod : incoming.request.method = .patch := by
      rcases hserves _ rfl with hpatch | ⟨-, hget⟩
      · exact hpatch.symm
      · cases hget
    refine (patch_once incoming).mono fun o ho => ?_
    obtain ⟨userId, fields, hid, hfields, rfl⟩ := ho
    exact .update hmethod hpath hid (json_ok hfields)
  · refine (delete_once incoming).mono fun o ho => ?_
    obtain ⟨userId, hid, rfl⟩ := ho
    exact .delete hid
  · refine (permissionIndex_once incoming).mono fun o ho => ?_
    rw [show o = .call .listPermissions from ho]
    exact .permissions

/-! ## Every request is answered -/

/-- An endpoint that panics only if a callee does. -/
def Sound (e : Endpoint) : Prop := ∀ incoming, (e incoming).Safe Answered

theorem sound_authenticate {next : Endpoint} (h : Sound next) : Sound (authenticate next) := by
  intro incoming
  rw [authenticate_eq]
  cases bearerToken incoming.request with
  | none => trivial
  | some token =>
    intro outcome houtcome
    rcases outcome with _ | err | user
    · cases houtcome
    · trivial
    · exact h _

theorem sound_rbacGuard {action : String} {next : Endpoint} (h : Sound next) :
    Sound (rbacGuard action next) := by
  intro incoming
  rw [rbacGuard_eq]
  cases incoming.authUser with
  | none => trivial
  | some user =>
    intro allowed hallowed
    rcases allowed with _ | _ | _
    · cases hallowed
    · trivial
    · exact h _

theorem sound_ret (response : Response) : Sound fun _ => .ret response := fun _ => trivial

/-- A handler that calls its service and answers with what it returned. -/
theorem sound_call {c : Call} {reply : c.Reply → Response} :
    SafeE Answered (do let r ← invoke c; return reply r) :=
  (safeE_invoke c).bind fun _ => safeE_pure _

theorem mount_sound : (mount env web).All fun _ _ e => Sound e := by
  have hnot : Sound methodNotAllowed := sound_ret _
  have hauth : (Auth.routes env web).All fun _ _ e => Sound e := Router.All.new
    |>.route (fun _ => safe_respond ((safeE_mapErr _ _).bind fun _ => sound_call)) hnot
    |>.route (fun _ => safe_respond ((safeE_mapErr _ _).bind fun _ => sound_call)) hnot
    |>.route (fun _ => safe_respond ((safeE_mapErr _ _).bind fun _ => sound_call)) hnot
    |>.route (fun _ => safe_respond ((safeE_mapErr _ _).bind fun _ => sound_call)) hnot
  have hindex : (Router.new.route "/v1/users" (on .get (index web))
      |>.routeLayer (rbacGuard viewAll)).All fun _ _ e => Sound e :=
    (Router.All.new.route (fun _ => safe_respond sound_call) hnot).routeLayer
      fun _ _ _ h => sound_rbacGuard h
  have huser : (userRoutes env web).All fun _ _ e => Sound e := (Router.All.new
    |>.route (fun _ => safe_respond ((safeE_mapErr _ _).bind fun _ => sound_call)) hnot
    |>.route (fun _ => safe_respond ((safeE_mapErr _ _).bind fun _ => sound_call)) hnot
    |>.route (fun _ => safe_respond ((safeE_mapErr _ _).bind fun _ =>
      (safeE_mapErr _ _).bind fun _ => sound_call)) hnot
    |>.route (fun _ => safe_respond ((safeE_mapErr _ _).bind fun _ => sound_call)) hnot
    |>.route (fun _ => safe_respond ((safeE_mapErr _ _).bind fun _ =>
      (safeE_mapErr _ _).bind fun _ => sound_call)) hnot
    |>.route (fun _ => safe_respond ((safeE_mapErr _ _).bind fun _ => sound_call)) hnot).merge
      hindex
  have hpermission : permissionRoutes.All fun _ _ e => Sound e :=
    Router.All.new.route (fun _ => safe_respond sound_call) hnot
  have hiam : (Iam.routes env web).All fun _ _ e => Sound e :=
    ((Router.All.new.merge huser).merge hpermission).routeLayer fun _ _ _ h => sound_authenticate h
  have hhealth : Health.routes.All fun _ _ e => Sound e := Router.All.new.route (sound_ret _) hnot
  have hdocs : Docs.routes.All fun _ _ e => Sound e :=
    (Router.All.new.route (sound_ret _) hnot).route (sound_ret _) hnot
  exact Router.All.new.merge hhealth
    |>.merge hdocs
    |>.merge hauth
    |>.merge hiam

theorem router_safe (request : Request) : (router env web request).Safe Answered := by
  unfold router
  split
  · trivial
  · refine Prog.Safe.bind ?_ fun _ => trivial
    unfold routed
    split
    next endpoint params hdispatch =>
      obtain ⟨-, -, hsound, -, -⟩ := mount_sound.dispatch hdispatch
      exact hsound _
    next => trivial

end

end ApiStarter.Server
