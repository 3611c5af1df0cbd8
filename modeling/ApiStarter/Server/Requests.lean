import ApiStarter.Server.Mounted
import ApiStarter.Server.Serving

/-
  What a request can make the services do.

  `Asks` says which calls the handlers make for a request, with the payloads they take from it
  and what their extractors have checked about them. `router_asks` proves it of the router, and
  `serve_inv` is the invariant rule it gives for one request.
-/

namespace ApiStarter.Server

open ApiStarter.Auth ApiStarter.Effect ApiStarter.Effect.Fallible ApiStarter.Iam
  ApiStarter.Iam.Handler ApiStarter.Provider ApiStarter.Validation ApiStarter.Web

def byId : String := "/v1/users/{user-id}"

def myUser : String := "/v1/users/my-user"

section

variable (env : Env) (web : WebLibrary)

/-- The request is one the `PATCH` route of the pattern answers. -/
def Patches (pattern : String) (request : Request) (params : Params) : Prop :=
  request.method = .patch ∧ matchPath pattern request.path = some params

/-- The payload-carrying calls a request can lead to; of the others nothing is said. -/
def Asks (request : Request) : Port → Prop
  | .call (.createUser newUser) => ∃ payload, validatedJson web.createUserRequest
      (CreateUserRequest.validate env.unicode web.emailValid) request = .ok payload ∧
      newUser = payload.toDomain
  | .call (.partialUpdate userId fields) =>
    (∃ params, Patches byId request params ∧ web.pathUuid params = .ok userId ∧
      web.updateUser request = .ok fields) ∨
    ∃ params payload, Patches myUser request params ∧ web.updateUser request = .ok payload ∧
      fields = payload.restrictedToSelf
  | .call (.resetPassword token newPassword) => ∃ payload : PasswordResetRequest,
      validatedJson web.passwordResetRequest (PasswordResetRequest.validate env.unicode) request =
        .ok payload ∧ token = payload.token ∧ newPassword = payload.password
  | _ => True

/-- An endpoint that makes no other calls for the requests it is registered for. -/
def Asking (pattern : String) (registered : Option Method) (e : Endpoint) : Prop :=
  ∀ incoming, Router.Serves registered incoming.request.method →
    matchPath pattern incoming.request.path = some incoming.params →
      (e incoming).Uses (Asks env web incoming.request)

end

section

variable {env : Env} {web : WebLibrary} {pattern : String} {registered : Option Method}

theorem asking_ret (response : Response) :
    Asking env web pattern registered fun _ => .ret response := fun _ _ _ => trivial

theorem asking_authenticate {next : Endpoint} (h : Asking env web pattern registered next) :
    Asking env web pattern registered (authenticate next) := by
  intro incoming hserves hpath
  rw [authenticate_eq]
  cases bearerToken incoming.request with
  | none => trivial
  | some token =>
    refine ⟨trivial, fun outcome => ?_⟩
    rcases outcome with _ | err | user
    · trivial
    · trivial
    · exact h { incoming with authUser := some user } hserves hpath

theorem asking_rbacGuard {action : String} {next : Endpoint}
    (h : Asking env web pattern registered next) :
    Asking env web pattern registered (rbacGuard action next) := by
  intro incoming hserves hpath
  rw [rbacGuard_eq]
  cases incoming.authUser with
  | none => trivial
  | some user =>
    refine ⟨trivial, fun allowed => ?_⟩
    rcases allowed with _ | _ | _
    · trivial
    · trivial
    · exact h incoming hserves hpath

/-- A handler that makes one call. -/
theorem asking_of_once {P : Incoming → Port → Prop} {e : Endpoint}
    (h : ∀ incoming, (e incoming).Once (P incoming))
    (hP : ∀ incoming o, Router.Serves registered incoming.request.method →
      matchPath pattern incoming.request.path = some incoming.params → P incoming o →
        Asks env web incoming.request o) : Asking env web pattern registered e :=
  fun incoming hserves hpath =>
    (h incoming).uses.mono fun o ho => hP incoming o hserves hpath ho

/-- The same, where the call carries nothing of the payload. -/
theorem asking_of_once_true {P : Incoming → Port → Prop} {e : Endpoint}
    (h : ∀ incoming, (e incoming).Once (P incoming))
    (hP : ∀ incoming o, P incoming o → ∀ request, Asks env web request o) :
    Asking env web pattern registered e :=
  asking_of_once h fun incoming o _ _ ho => hP incoming o ho _

theorem health_asking : Health.routes.All (Asking env web) :=
  Router.All.new.route (asking_ret _) (asking_ret _)

theorem docs_asking : Docs.routes.All (Asking env web) :=
  Router.All.new
    |>.route (asking_ret _) (asking_ret _)
    |>.route (asking_ret _) (asking_ret _)

theorem auth_asking : (Auth.routes env web).All (Asking env web) := by
  have hreset : Asking env web "/v1/reset-password" (some .post)
      (Auth.Handler.passwordReset env web) :=
    asking_of_once Auth.Handler.passwordReset_once fun incoming o _ _ ho => by
      obtain ⟨payload, hpayload, rfl⟩ := ho
      exact ⟨payload, hpayload, rfl, rfl⟩
  refine Router.All.new
    |>.route (asking_of_once_true Auth.Handler.login_once ?_) (asking_ret _)
    |>.route (asking_of_once_true Auth.Handler.refreshToken_once ?_) (asking_ret _)
    |>.route (asking_of_once_true Auth.Handler.passwordRecovery_once ?_) (asking_ret _)
    |>.route hreset (asking_ret _)
  all_goals
    rintro incoming o ⟨payload, -, rfl⟩ request
    trivial

theorem user_asking : (userRoutes env web).All (Asking env web) := by
  have hindex : (Router.new.route "/v1/users" (on .get (index web))
      |>.routeLayer (rbacGuard viewAll)).All (Asking env web) := by
    refine Router.All.routeLayer (Router.All.new.route (asking_of_once_true index_once ?_)
      (asking_ret _)) fun _ _ e he => asking_rbacGuard he
    rintro incoming o rfl request
    trivial
  have hcreate : Asking env web "/v1/users" (some .post) (create env web) :=
    asking_of_once create_once fun incoming o _ _ ho => by
      obtain ⟨payload, hpayload, rfl⟩ := ho
      exact ⟨payload, hpayload, rfl⟩
  have hpatchMyUser : Asking env web myUser (some .patch) (patchMyUser web) :=
    asking_of_once patchMyUser_once fun incoming o hserves hpath ho => by
      obtain ⟨user, payload, -, hpayload, rfl⟩ := ho
      exact .inr ⟨_, payload, ⟨hserves.eq (by decide), hpath⟩, json_ok hpayload, rfl⟩
  have hpatch : Asking env web byId (some .patch) (patch web) :=
    asking_of_once patch_once fun incoming o hserves hpath ho => by
      obtain ⟨userId, fields, hid, hfields, rfl⟩ := ho
      exact .inl ⟨_, ⟨hserves.eq (by decide), hpath⟩, hid, json_ok hfields⟩
  refine (Router.All.new
    |>.route hcreate (asking_ret _)
    |>.route (asking_of_once_true getMyUser_once ?_) (asking_ret _)
    |>.route hpatchMyUser (asking_ret _)
    |>.route (asking_of_once_true get_once ?_) (asking_ret _)
    |>.route hpatch (asking_ret _)
    |>.route (asking_of_once_true delete_once ?_) (asking_ret _)).merge hindex
  all_goals
    rintro incoming o ⟨user, -, rfl⟩ request
    trivial

theorem permission_asking : permissionRoutes.All (Asking env web) := by
  refine Router.All.new.route (asking_of_once_true permissionIndex_once ?_) (asking_ret _)
  rintro incoming o rfl request
  trivial

theorem mount_asking : (mount env web).All (Asking env web) :=
  Router.All.new.merge health_asking
    |>.merge docs_asking
    |>.merge auth_asking
    |>.merge (((Router.All.new.merge user_asking).merge permission_asking).routeLayer
      fun _ _ _ h => asking_authenticate h)

theorem router_asks (request : Request) :
    (router env web request).Uses (Asks env web request) := by
  unfold router
  split
  · trivial
  refine Prog.Uses.bind ?_ fun _ => trivial
  unfold routed
  split
  next endpoint params hdispatch =>
    obtain ⟨pattern, registered, hasking, hserves, hpath⟩ := mount_asking.dispatch hdispatch
    exact hasking { request := request, params := params, authUser := none } hserves hpath
  next => trivial

/-! ## One request -/

variable {config : AuthConfig} {faults : Faults} {w w' : World}

/-- The invariant rule for a request: what every call it can lead to keeps, it keeps. -/
theorem serve_inv {I : World → Prop} {request : Request} {response : Option Response}
    (hcall : ∀ c w, Asks env web request (.call c) → I w →
      I (perform env config faults c w).2)
    (hcan : ∀ userId action w, I w → I (can env faults userId action w).2)
    (h : serve env config web faults request w = (response, w')) (hw : I w) : I w' := by
  have hw' : w' = ((router env web request).run (answer env config faults) w).2 :=
    (congrArg Prod.snd h).symm
  rw [hw']
  refine Prog.run_inv_of_uses (I := I) (fun o w₁ ho h₁ => ?_) (router_asks request) hw
  cases o with
  | call c => exact hcall c w₁ ho h₁
  | can userId action => exact hcan userId action w₁ h₁

end

/-! ## What reaches the store -/

section

variable (env : Env) (config : AuthConfig) (web : WebLibrary) (faults : Faults)

/-- The operations with which one question of the router is answered. -/
def portOps : Port → World → List Op
  | .call c, w => ((ExceptT.run (c.service env config)).record (exec env faults) w).map (·.1)
  | .can userId action, w =>
    ((Rbac.RbacEngine.can superRole userId action).record (exec env faults) w).map (·.1)

/-- The operations performed while a request is served, in their order. -/
def requestOps (request : Request) (w : World) : List Op :=
  (router env web request).collect (answer env config faults) (portOps env config faults) w

end

end ApiStarter.Server
