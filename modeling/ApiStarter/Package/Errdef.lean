import Mathlib.Data.List.Basic

/-
  `package/errdef.rs`: the error type and how it renders as HTTP.
  `package/response.rs`: the envelope, as far as errors fill it.

  `cause` is carried by the error and printed in the log line only; `Error.intoResponse`
  renders the rest.
-/

namespace ApiStarter.Errdef

namespace Code

def validationFailed : Int := 1000
def notFound : Int := 1001
def unauthorized : Int := 1002
def badRequest : Int := 1003
def resourceConflict : Int := 1004
def unprocessable : Int := 1005
def forbidden : Int := 1006
def unknown : Int := 2000

end Code

/-- `status_for`: anything unmapped falls back to a bad request. -/
def statusFor (code : Int) : Nat :=
  if code = Code.notFound then 404
  else if code = Code.unauthorized then 401
  else if code = Code.badRequest then 400
  else if code = Code.resourceConflict then 409
  else if code = Code.unprocessable then 422
  else if code = Code.forbidden then 403
  else if code = Code.unknown then 500
  else 400

structure AppError where
  code : Int
  message : String
  cause : Option String
  deriving DecidableEq, Repr

/-- The `BTreeMap` of violations, keyed by field path, in key order of insertion. -/
structure ValidationError where
  message : String
  fieldViolations : List (String × List String)
  deriving DecidableEq, Repr

inductive Error where
  | app (err : AppError)
  | validation (err : ValidationError)
  deriving DecidableEq, Repr

namespace Error

def new (code : Int) (message : String) : Error :=
  .app { code := code, message := message, cause := none }

def notFound (message : String) : Error := new Code.notFound message
def unauthorized (message : String) : Error := new Code.unauthorized message
def badRequest (message : String) : Error := new Code.badRequest message
def unprocessable (message : String) : Error := new Code.unprocessable message

/-- `Error::unknown`: the cause is logged but never returned to the caller. -/
def unknown (cause : String) : Error :=
  .app { code := Code.unknown, message := "internal server error", cause := some cause }

/-- `Error::validation`, without violations yet. -/
def invalid (message : String) : Error :=
  .validation { message := message, fieldViolations := [] }

def withCause (cause : String) : Error → Error
  | .app err => .app { err with cause := some cause }
  | .validation err => .validation err

/-- `entry(field).or_default().push(message)` -/
def pushInto (field message : String) :
    List (String × List String) → List (String × List String)
  | [] => [(field, [message])]
  | (key, messages) :: rest =>
    if key = field then (key, messages ++ [message]) :: rest
    else (key, messages) :: pushInto field message rest

def pushViolation (field message : String) : Error → Error
  | .app err => .app err
  | .validation err =>
    .validation { err with fieldViolations := pushInto field message err.fieldViolations }

def addViolation (err : Error) (field message : String) : Error :=
  err.pushViolation field message

/-- `Display`, which is what the log line and a cause made of an error contain. -/
def text : Error → String
  | .app err =>
    match err.cause with
    | some cause => s!"code {err.code}: {err.message} (cause: {cause})"
    | none => s!"code {err.code}: {err.message}"
  | .validation err => s!"code {Code.validationFailed}: {err.message}"

/-- `response::Error` with the status it is sent under. -/
structure Rendered where
  status : Nat
  code : Int
  message : String
  errors : Option (List (String × List String))
  deriving DecidableEq, Repr

def intoResponse : Error → Rendered
  | .validation err => ⟨422, 422, err.message, some err.fieldViolations⟩
  | .app err => ⟨statusFor err.code, statusFor err.code, err.message, none⟩

end Error

end ApiStarter.Errdef
