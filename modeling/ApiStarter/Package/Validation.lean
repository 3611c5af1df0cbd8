import ApiStarter.Package.Errdef
import ApiStarter.Provider.Surroundings

/-
  `package/validation.rs`: the password rules and the flattened validator output.

  `ErrorsKind` is the tree `validator::ValidationErrors` is: a field holds the errors of its
  rules, the errors of a nested struct, or those of the elements of a list.
-/

namespace ApiStarter.Validation

open ApiStarter.Errdef ApiStarter.Provider

/-- `validator::ValidationError`; the parameters are already printed. -/
structure FieldError where
  code : String
  message : Option String
  params : List (String × String)
  deriving DecidableEq, Repr

inductive ErrorsKind where
  | field (errors : List FieldError)
  | struct (fields : List (String × ErrorsKind))
  | list (items : List (Nat × List (String × ErrorsKind)))

abbrev ValidationErrors := List (String × ErrorsKind)

/-! ## Passwords -/

def strongPassword (unicode : UnicodeLibrary) (password : String) : Except FieldError Unit :=
  let chars := password.toList
  let hasMinLen := decide (chars.length ≥ 8)
  let hasUpper := chars.any unicode.isUppercase
  let hasLower := chars.any unicode.isLowercase
  let hasNumber := chars.any Char.isDigit
  let hasSpecial := chars.any fun c => !unicode.isAlphanumeric c && !unicode.isWhitespace c
  if hasMinLen && hasUpper && hasLower && hasNumber && hasSpecial then .ok ()
  else .error { code := "strong-pwd", message := none, params := [] }

def passwordChecker (unicode : UnicodeLibrary) (password : String) : Except String Unit :=
  let chars := password.toList
  if chars.length < 8 then
    .error "password is too short. It should be at least 8 characters long"
  else if !chars.any unicode.isUppercase then
    .error "password should contain at least one uppercase letter"
  else if !chars.any unicode.isLowercase then
    .error "password should contain at least one lowercase letter"
  else if !chars.any Char.isDigit then
    .error "password should contain at least one digit"
  else if !chars.any fun c => !unicode.isAlphanumeric c && !unicode.isWhitespace c then
    .error "password should contain at least one special character"
  else .ok ()

/-! ## Rules of `derive(Validate)` -/

/-- `length(min = 1, message = ..)` -/
def lengthMin1 (message value : String) : List FieldError :=
  if value.length < 1 then
    [{ code := "length", message := some message, params := [("min", "1")] }]
  else []

/-- `range(min = 1)` -/
def rangeMin1 (value : Int) : List FieldError :=
  if value < 1 then [{ code := "range", message := none, params := [("min", "1")] }] else []

/-- A rule without parameters: `email` and `url`. -/
def holds (code : String) (test : Bool) : List FieldError :=
  if test then [] else [{ code := code, message := none, params := [] }]

/-- `custom(function = ..)` -/
def custom : Except FieldError Unit → List FieldError
  | .ok _ => []
  | .error err => [err]

/-- `validate()`: the fields some rule fails on. -/
def validate (fields : List (String × List FieldError)) : ValidationErrors :=
  (fields.filter fun field => field.2 ≠ []).map fun field => (field.1, .field field.2)

theorem validate_eq_nil {fields : List (String × List FieldError)} (h : validate fields = []) :
    ∀ field ∈ fields, field.2 = [] := by
  rw [validate, List.map_eq_nil_iff, List.filter_eq_nil_iff] at h
  intro field hfield
  simpa using h field hfield

theorem lengthMin1_eq_nil {message value : String} (h : lengthMin1 message value = []) :
    value ≠ "" := by
  rintro rfl
  cases h

theorem holds_eq_nil {code : String} {test : Bool} (h : holds code test = []) : test = true := by
  cases test with
  | true => rfl
  | false => cases h

theorem custom_eq_nil {result : Except FieldError Unit} (h : custom result = []) :
    result = .ok () := by
  cases result with
  | ok _ => rfl
  | error err => cases h

/-! ## Flattening -/

/-- `param(key)`: the printed parameter, or the empty text. -/
def param (error : FieldError) (key : String) : String := (error.params.lookup key).getD ""

def messageFor (error : FieldError) : String :=
  if error.code = "required" then "field is required and cannot be empty"
  else if error.code = "email" then "field must be of email format"
  else if error.code = "length" then "field must be a minimum length of " ++ param error "min"
  else if error.code = "url" then "filed must be of URI format"
  else if error.code = "range" then "field is outside of the accepted range"
  else if error.code = "strong-pwd" then
    "field requires at least 8 characters with an uppercase letter, a symbol and a numeric value."
  else "invalid value for field"

def joinPath (base field : String) : String :=
  if base.isEmpty then field else base ++ "." ++ field

mutual

/-- `collect`: every leaf error is pushed under its path. -/
def collect (base : String) (target : Error) : List (String × ErrorsKind) → Error
  | [] => target
  | (field, kind) :: rest => collect base (collectKind (joinPath base field) target kind) rest

def collectKind (path : String) (target : Error) : ErrorsKind → Error
  | .field errors =>
    errors.foldl (fun target error => target.pushViolation path (messageFor error)) target
  | .struct fields => collect path target fields
  | .list items => collectItems path target items

def collectItems (path : String) (target : Error) :
    List (Nat × List (String × ErrorsKind)) → Error
  | [] => target
  | (index, nested) :: rest =>
    collectItems path (collect (path ++ "." ++ toString index) target nested) rest

end

def toError (errors : ValidationErrors) : Error :=
  collect "" (Error.invalid "failed payload validation") errors

end ApiStarter.Validation
