import ApiStarter.Module.Auth.Handler
import ApiStarter.Module.Iam.Handler

/-
  The layers of `server/middlewares`, the routers of the modules, and `server::router`.

  The layers that only log, number or mark a request (`request_context`, tracing, request ids,
  sensitive headers) ask for nothing and change no answer, and are left out. The permissive
  CORS layer is outermost and answers every `OPTIONS` request by itself.
-/

namespace ApiStarter

namespace Server

open ApiStarter.Effect ApiStarter.Effect.Fallible ApiStarter.Errdef ApiStarter.Provider
  ApiStarter.Web

/-! ## Layers -/

def bearer : String := "Bearer "

/-- `str::strip_prefix` -/
def stripStart (start text : String) : Option String :=
  (start.toList.isPrefixOf? text.toList).map String.ofList

/-- The token `authenticate` takes out of the first `Authorization` header. -/
def bearerToken (request : Request) : Option String :=
  (((request.header "authorization").bind HeaderValue.toStr).bind (stripStart bearer)).filter
    fun token => !token.isEmpty

def malformedToken : Error := Error.unauthorized "malformed or missing jwt token"

def authenticate (next : Endpoint) : Endpoint := fun incoming => respond do
  let token ← okOr (.ofError malformedToken) (bearerToken incoming.request)
  let outcome ← expect (← ask (.call (.getIdentity token)))
  let user ← mapErr (fun err => .ofError (malformedToken.withCause err.text)) outcome
  ExceptT.lift (next { incoming with authUser := some user })

def rbacGuard (action : String) (next : Endpoint) : Endpoint := fun incoming => respond do
  let user ← okOr (.ofError (Error.unauthorized "unauthorized action")) incoming.authUser
  let allowed ← expect (← ask (.can user.id action))
  if allowed then ExceptT.lift (next incoming)
  else throw (.ofError (Error.unauthorized "unauthorized action"))

theorem authenticate_eq (next : Endpoint) (incoming : Incoming) :
    authenticate next incoming =
      match bearerToken incoming.request with
      | none => .ret (.ofError malformedToken)
      | some token => .call (.call (.getIdentity token)) fun outcome =>
        match outcome with
        | none => .panic
        | some (.error err) => .ret (.ofError (malformedToken.withCause err.text))
        | some (.ok user) => next { incoming with authUser := some user } := by
  unfold authenticate
  cases bearerToken incoming.request with
  | none => rfl
  | some token =>
    change Prog.call _ _ = Prog.call _ _
    congr 1
    funext outcome
    rcases outcome with _ | err | user
    · rfl
    · rfl
    · exact respond_lift _

theorem rbacGuard_eq (action : String) (next : Endpoint) (incoming : Incoming) :
    rbacGuard action next incoming =
      match incoming.authUser with
      | none => .ret (.ofError (Error.unauthorized "unauthorized action"))
      | some user => .call (.can user.id action) fun allowed =>
        match allowed with
        | none => .panic
        | some true => next incoming
        | some false => .ret (.ofError (Error.unauthorized "unauthorized action")) := by
  unfold rbacGuard
  cases incoming.authUser with
  | none => rfl
  | some user =>
    change Prog.call _ _ = Prog.call _ _
    congr 1
    funext allowed
    rcases allowed with _ | _ | _
    · rfl
    · rfl
    · exact respond_lift _

/-- The token is what follows `Bearer ` in the first `Authorization` header. -/
theorem bearerToken_eq_some {request : Request} {token : String}
    (h : bearerToken request = some token) :
    (∃ value, request.header "authorization" = some value ∧
      value.toStr = some (bearer ++ token)) ∧ token ≠ "" := by
  obtain ⟨hstrip, hne⟩ := Option.filter_eq_some_iff.1 h
  obtain ⟨text, htext, hstrip⟩ := Option.bind_eq_some_iff.1 hstrip
  obtain ⟨value, hvalue, htext⟩ := Option.bind_eq_some_iff.1 htext
  obtain ⟨rest, hrest, rfl⟩ := Option.map_eq_some_iff.1 hstrip
  have happend := List.append_eq_of_isPrefixOf?_eq_some hrest
  have htoken : text = bearer ++ String.ofList rest := by
    apply String.toList_injective
    rw [String.toList_append, String.toList_ofList, happend]
  refine ⟨⟨value, hvalue, htoken ▸ htext⟩, ?_⟩
  rintro hempty
  rw [hempty] at hne
  cases hne

/-! ## Routers -/

/-- The default answer to a method a path does not have. -/
def methodNotAllowed : Endpoint := fun _ => .ret { status := 405, body := .empty }

/-- `get(handler)`, `post(handler)` and the others. -/
def on (method : Method) (handler : Endpoint) : MethodRouter Endpoint :=
  .on methodNotAllowed method handler

end Server

namespace Health

open ApiStarter.Server ApiStarter.Web

def healthcheck : Endpoint := fun _ => .ret (.ok (.health "OK" "0.1.0"))

def routes : Router Endpoint := Router.new.route "/v1/healthcheck" (on .get healthcheck)

end Health

namespace Docs

open ApiStarter.Server ApiStarter.Web

def reference : Endpoint := fun _ => .ret { status := 200, body := .html }

def spec : Endpoint := fun _ => .ret { status := 200, body := .yaml }

def routes : Router Endpoint :=
  Router.new
    |>.route "/docs" (on .get reference)
    |>.route "/openapi.yaml" (on .get spec)

end Docs

namespace Auth

open ApiStarter.Provider ApiStarter.Server ApiStarter.Web

def routes (env : Env) (web : WebLibrary) : Router Endpoint :=
  Router.new
    |>.route "/v1/login" (on .post (Handler.login web))
    |>.route "/v1/refresh-token" (on .post (Handler.refreshToken web))
    |>.route "/v1/forgot-password" (on .post (Handler.passwordRecovery web))
    |>.route "/v1/reset-password" (on .post (Handler.passwordReset env web))

end Auth

namespace Iam

open ApiStarter.Provider ApiStarter.Server ApiStarter.Web

variable (env : Env) (web : WebLibrary)

def viewAll : String := "Users.View All"

def userRoutes : Router Endpoint :=
  let index := Router.new
    |>.route "/v1/users" (on .get (Handler.index web))
    |>.routeLayer (rbacGuard viewAll)
  Router.new
    |>.route "/v1/users" (on .post (Handler.create env web))
    |>.route "/v1/users/my-user" (on .get (Handler.getMyUser))
    |>.route "/v1/users/my-user" (on .patch (Handler.patchMyUser web))
    |>.route "/v1/users/{user-id}" (on .get (Handler.get web))
    |>.route "/v1/users/{user-id}" (on .patch (Handler.patch web))
    |>.route "/v1/users/{user-id}" (on .delete (Handler.delete web))
    |>.merge index

def permissionRoutes : Router Endpoint :=
  Router.new.route "/v1/permissions" (on .get Handler.permissionIndex)

def routes : Router Endpoint :=
  Router.new
    |>.merge (userRoutes env web)
    |>.merge permissionRoutes
    |>.routeLayer authenticate

end Iam

namespace Server

open ApiStarter.Effect ApiStarter.Errdef ApiStarter.Provider ApiStarter.Web

variable (env : Env) (web : WebLibrary)

def mount : Router Endpoint :=
  Router.new
    |>.merge Health.routes
    |>.merge Docs.routes
    |>.merge (Auth.routes env web)
    |>.merge (Iam.routes env web)

def routeNotFound : Response := .ofError (Error.notFound "route not found")

/-- A response to `HEAD` has no body. -/
def stripBody (method : Method) (response : Response) : Response :=
  if method = .head then { response with body := .empty } else response

/-- What lies behind the CORS layer. -/
def routed (request : Request) : Prog Port PortRes Response :=
  match (mount env web).dispatch request.method request.path with
  | some (endpoint, params) =>
    endpoint { request := request, params := params, authUser := none }
  | none => .ret routeNotFound

/-- `server::router` -/
def router (request : Request) : Prog Port PortRes Response :=
  if request.method = .options then .ret { status := 200, body := .empty }
  else (routed env web request).bind fun response => .ret (stripBody request.method response)

end Server

end ApiStarter
