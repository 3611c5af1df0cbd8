import ApiStarter.Effect.Log
import ApiStarter.Module.Auth.Payload
import ApiStarter.Module.Iam.Payload
import ApiStarter.Provider.System
import ApiStarter.Web.Router

/-
  Requests, responses, and what an endpoint may ask for while it serves one.

  An `Endpoint` is a program over two kinds of operations: a call of one of the services
  behind the routes, and a question to the rbac engine. Their answers are left open here;
  `none` is a panic inside the callee, which ends the request.

  `WebLibrary` is the code between the bytes of a request and the values the handlers take:
  the decoders of the bodies and of the path, the query string parser, and the two predicates
  of the `validator` crate.
-/

namespace ApiStarter.Server

open ApiStarter.Auth ApiStarter.Database ApiStarter.Effect ApiStarter.Effect.Fallible
  ApiStarter.Errdef ApiStarter.Iam ApiStarter.Pagination ApiStarter.Provider ApiStarter.Validation
  ApiStarter.Web

/-! ## Requests -/

abbrev HeaderValue := List UInt8

/-- `HeaderValue::to_str`: visible ASCII and tabs only. -/
def HeaderValue.toStr (value : HeaderValue) : Option String :=
  if value.all fun b => (32 ≤ b && b < 127) || b == 9 then
    some (String.ofList (value.map fun b => Char.ofNat b.toNat))
  else none

structure Request where
  method : Method
  path : String
  query : Option String
  /-- Names are lower case; `get` finds the first. -/
  headers : List (String × HeaderValue)
  body : List UInt8
  deriving DecidableEq, Repr

def Request.header (request : Request) (name : String) : Option HeaderValue :=
  request.headers.lookup name

/-! ## Responses -/

/-- The `data` of an envelope. -/
inductive Payload where
  | health (status version : String)
  | message (text : String)
  | tokens (tokens : LoginResponse)
  | userId (id : Uuid)
  | user (user : Handler.User)
  | users (users : List Handler.User)
  | deletedUser (deleted : Handler.DeletedUser)
  | permissions (permissions : List Handler.Permission)
  deriving DecidableEq, Repr

/-- `response::Response` -/
structure Envelope where
  data : Option Payload
  pagination : Option MetaData
  error : Option Error.Rendered
  deriving DecidableEq

inductive Body where
  | empty
  | text (text : String)
  | html
  | yaml
  | json (envelope : Envelope)
  deriving DecidableEq

structure Response where
  status : Nat
  body : Body
  deriving DecidableEq

namespace Response

/-- `response::ok` -/
def ok (data : Payload) : Response :=
  { status := 200, body := .json { data := some data, pagination := none, error := none } }

/-- `response::ok_paginated` -/
def okPaginated (data : Payload) (pagination : MetaData) : Response :=
  { status := 200
    body := .json { data := some data, pagination := some pagination, error := none } }

def ofError (err : Error) : Response :=
  { status := err.intoResponse.status
    body := .json { data := none, pagination := none, error := some err.intoResponse } }

end Response

/-! ## Libraries -/

/-- An extractor of the framework that answers by itself. -/
structure Rejection where
  status : Nat
  text : String
  deriving DecidableEq, Repr

def Rejection.intoResponse (rejection : Rejection) : Response :=
  { status := rejection.status, body := .text rejection.text }

structure WebLibrary where
  /-- `axum::extract::Path<Uuid>` on the parameters of the matched path. -/
  pathUuid : Params → Except Rejection Uuid
  /-- `serde_urlencoded` on a query string. -/
  urldecode : String → Option (List (String × String))
  emailValid : String → Bool
  urlValid : String → Bool
  /-- `axum::Json` at each payload type; the error is the text of its rejection. -/
  createUserRequest : Request → Except String Handler.CreateUserRequest
  updateUser : Request → Except String UpdateUser
  loginRequest : Request → Except String LoginRequest
  refreshRequest : Request → Except String RefreshRequest
  passwordRecoveryRequest : Request → Except String PasswordRecoveryRequest
  passwordResetRequest : Request → Except String PasswordResetRequest

/-! ## Endpoints -/

inductive Port where
  | call (c : Call)
  | can (userId : Uuid) (action : String)

abbrev PortRes : Port → Type
  | .call c => c.Outcome
  | .can _ _ => Option Bool

/-- A request on its way to the handler, with what the router and the layers added to it. -/
structure Incoming where
  request : Request
  params : Params
  authUser : Option Identity

abbrev Endpoint := Incoming → Prog Port PortRes Response

/-- The body of a handler or a layer; `?` answers with the response of the error. -/
abbrev Handling := Fallible Port PortRes Response

def respond (body : Handling Response) : Prog Port PortRes Response :=
  (ExceptT.run body).bind fun result =>
    match result with
    | .ok response => .ret response
    | .error response => .ret response

def invoke (c : Call) : Handling c.Reply := do
  let outcome ← expect (← ask (.call c))
  mapErr Response.ofError outcome

/-- The callee did not panic. -/
def Answered : (o : Port) → PortRes o → Prop
  | .call _, outcome => outcome.isSome
  | .can _ _, outcome => outcome.isSome

section

variable {P : Port → Prop} {body : Handling Response}

@[simp] theorem respond_lift (p : Prog Port PortRes Response) :
    respond (ExceptT.lift p) = p := by
  have hlift : ExceptT.run (ExceptT.lift p : Handling Response) =
      p.bind fun response => .ret (.ok response) := rfl
  rw [respond, hlift, Prog.bind_assoc]
  exact Prog.bind_ret p

theorem safe_respond (h : SafeE Answered body) : (respond body).Safe Answered :=
  Prog.Safe.bind h fun result => by cases result <;> trivial

/-- A handler that calls its service once and answers with what it returned. -/
theorem once_respond (h : Prog.Once P (ExceptT.run body)) : (respond body).Once P :=
  h.bind fun result => by cases result <;> trivial

theorem once_invoke {c : Call} (h : P (.call c)) (reply : c.Reply → Response) :
    Prog.Once P (ExceptT.run (do let r ← invoke c; return reply r : Handling Response)) := by
  refine ⟨h, fun outcome => ?_⟩
  rcases outcome with _ | err | r <;> trivial

/-- The outcome of a call, once it has answered. -/
theorem safeE_expect {α β : Type} {o : Port} {f : PortRes o → Option α} {g : α → Handling β}
    (hf : ∀ r, Answered o r → (f r).isSome) (hg : ∀ a, SafeE Answered (g a)) :
    SafeE Answered (do let a ← expect (f (← ask o)); g a) := by
  intro r hr
  obtain ⟨a, ha⟩ := Option.isSome_iff_exists.1 (hf r hr)
  change SafeE Answered (expect (f r) >>= g)
  rw [ha]
  exact hg a

theorem safeE_invoke (c : Call) : SafeE Answered (invoke c) :=
  safeE_expect (fun _ h => h) fun r => safeE_mapErr _ r

end

/-! ## Extractors -/

/-- `extract::Json` -/
def json {α : Type} (decode : Request → Except String α) (request : Request) : Except Error α :=
  (decode request).mapError fun cause => (Error.badRequest "invalid json body").withCause cause

theorem json_ok {α : Type} {decode : Request → Except String α} {request : Request} {value : α}
    (h : json decode request = .ok value) : decode request = .ok value := by
  unfold json at h
  cases hdecode : decode request with
  | error cause => rw [hdecode] at h; cases h
  | ok a => rw [hdecode] at h; cases h; rfl

/-- `extract::ValidatedJson` -/
def validatedJson {α : Type} (decode : Request → Except String α)
    (validate : α → ValidationErrors) (request : Request) : Except Error α := do
  let value ← json decode request
  match validate value with
  | [] => return value
  | errors => throw (toError errors)

/-- A payload that gets through has passed its rules. -/
theorem validatedJson_ok {α : Type} {decode : Request → Except String α}
    {rules : α → ValidationErrors} {request : Request} {value : α}
    (h : validatedJson decode rules request = .ok value) : rules value = [] := by
  unfold validatedJson at h
  obtain ⟨value', -, h⟩ := ok_of_bind_ok h
  split at h
  next hrules =>
    cases h
    exact hrules
  next => cases h

/-- The `AuthUser` extractor. -/
def authUser (incoming : Incoming) : Except Error Identity :=
  match incoming.authUser with
  | some user => .ok user
  | none => .error (Error.unauthorized "user not found in context")

/-- The `ListRequest` extractor. -/
def listRequest (web : WebLibrary) (request : Request) : ListRequest :=
  ListRequest.fromQuery web.urldecode (request.query.getD "")

end ApiStarter.Server
