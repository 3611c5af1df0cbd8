import ApiStarter.Module.Iam.Repository
import ApiStarter.Package.Auth.Service
import ApiStarter.Package.Validation

/-
  `module/iam/core/service`: `UserServiceImpl` and `PermissionServiceImpl`, over
  `database::TxManager`.
-/

namespace ApiStarter.Iam

open ApiStarter.Database ApiStarter.Effect.Fallible ApiStarter.Errdef ApiStarter.Pagination
  ApiStarter.Provider
open ApiStarter.Auth (sqlxUnknown)

def DomainError.text : DomainError → String
  | .userNotFound => "user does not exists"
  | .userDuplicateConstraint => "column is taken"
  | .statusNotFound => "invalid user status"
  | .departmentNotFoundConstraint => "invalid department id"
  | .database err => err.text

/-- `trm.begin()`, the body on the transaction, `tx.commit()`. A body that fails leaves the
    function before the commit; dropping the transaction rolls it back. -/
def inTransaction {α : Type} (body : Service Error α) : Service Error α := do
  mapErr sqlxUnknown (← ask .begin)
  let result ← tryCatch body fun err => do
    let _ ← ask .rollback
    throw err
  mapErr sqlxUnknown (← ask .commit)
  return result

namespace UserServiceImpl

def mapDomainError : DomainError → Error
  | .userNotFound => Error.notFound "user does not exists"
  | .userDuplicateConstraint => Error.unprocessable "username or email is already taken"
  | .statusNotFound =>
    (Error.invalid "invalid payload fields").addViolation "status" "field must be of valid type"
  | .departmentNotFoundConstraint =>
    (Error.invalid "invalid payload fields").addViolation "department_id"
      "invalid department id provided"
  | .database err => sqlxUnknown err

variable (env : Env)

def requireUser (userId : Uuid) : Service Error User := do
  let found ← mapErrOf mapDomainError (PgUserRepository.findById userId)
  okOr (Error.notFound "user does not exists") found

def index (request : ListRequest) : Service Error (Data User) := do
  let (data, totalRecords) ← mapErrOf mapDomainError (PgUserRepository.index request)
  return Data.new data totalRecords request.page request.perPage

def create (newUser : CreateUser) : Service Error Uuid := do
  let password ← Crypto.hashPassword env newUser.password
  let interimUser := { newUser with password := password, status := activeUserStatus }
  inTransaction (mapErrOf mapDomainError (PgUserRepository.create interimUser))

def findById (userId : Uuid) : Service Error User := requireUser userId

/-- The payload with its password checked and hashed. -/
def withHashedPassword (fields : UpdateUser) : Service Error UpdateUser :=
  match fields.password with
  | none => return fields
  | some password => do
    mapErr (fun message => (Error.invalid "invalid payload fields").addViolation "password" message)
      (Validation.passwordChecker env.unicode password)
    let hashed ← Crypto.hashPassword env password
    return { fields with password := some hashed }

/-- What `partial_update` does inside its transaction. -/
def applyUpdate (userId : Uuid) (fields : UpdateUser) : Service Error Unit := do
  mapErrOf mapDomainError (PgUserRepository.partialUpdate userId fields)
  if let some roles := fields.addRoles then
    mapErrOf mapDomainError (PgUserRepository.addUserRoles userId roles)
  if let some roles := fields.removeRoles then
    mapErrOf mapDomainError (PgUserRepository.removeUserRoles userId roles)

theorem applyUpdate_eq (userId : Uuid) (fields : UpdateUser) :
    applyUpdate userId fields =
      (mapErrOf mapDomainError (PgUserRepository.partialUpdate userId fields) >>= fun _ =>
        (fields.addRoles.elim (pure ()) fun roles =>
          mapErrOf mapDomainError (PgUserRepository.addUserRoles userId roles)) >>= fun _ =>
        fields.removeRoles.elim (pure ()) fun roles =>
          mapErrOf mapDomainError (PgUserRepository.removeUserRoles userId roles)) := by
  unfold applyUpdate
  cases fields.addRoles <;> cases fields.removeRoles <;> rfl

def partialUpdate (userId : Uuid) (fields : UpdateUser) : Service Error Unit := do
  let _ ← requireUser userId
  let fields ← withHashedPassword env fields
  inTransaction (applyUpdate userId fields)

def delete (userId : Uuid) : Service Error Unit := do
  let _ ← requireUser userId
  inTransaction (mapErrOf mapDomainError (PgUserRepository.delete userId))

end UserServiceImpl

namespace PermissionServiceImpl

def listAll : Service Error (List Permission) :=
  mapErrOf (fun err : DomainError => Error.unknown err.text) PgPermissionRepository.listAll

end PermissionServiceImpl

end ApiStarter.Iam
