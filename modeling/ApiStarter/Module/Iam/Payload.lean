import ApiStarter.Module.Auth.Payload
import ApiStarter.Module.Iam.Domain

/-
  `module/iam/adapter/handler`: the payload of the create route, and the shapes users and
  permissions have in a response. The shape of a user has no password.
-/

namespace ApiStarter.Iam.Handler

open ApiStarter.Auth (requiredMessage)
open ApiStarter.Database ApiStarter.Provider ApiStarter.Validation

/-! ## Users -/

structure CreateUserRequest where
  userName : String
  avatarId : String
  email : String
  password : String
  firstName : String
  lastName : String
  department : Int
  roles : List String
  deriving DecidableEq, Repr

def CreateUserRequest.validate (unicode : UnicodeLibrary) (emailValid : String → Bool)
    (payload : CreateUserRequest) : ValidationErrors :=
  Validation.validate [
    ("user_name", lengthMin1 requiredMessage payload.userName),
    ("email", holds "email" (emailValid payload.email)),
    ("password", custom (strongPassword unicode payload.password)),
    ("first_name", lengthMin1 requiredMessage payload.firstName),
    ("last_name", lengthMin1 requiredMessage payload.lastName),
    ("department", rangeMin1 payload.department)]

/-- The `domain::CreateUser` the create handler builds. -/
def CreateUserRequest.toDomain (payload : CreateUserRequest) : CreateUser :=
  { userName := payload.userName
    avatarId := payload.avatarId
    email := payload.email
    password := payload.password
    firstName := payload.firstName
    lastName := payload.lastName
    status := activeUserStatus
    departmentId := payload.department
    roles := payload.roles }

structure Company where
  companyId : Int
  name : String
  deriving DecidableEq, Repr

structure Department where
  departmentId : Int
  departmentName : String
  company : Company
  deriving DecidableEq, Repr

structure User where
  userId : Uuid
  avatarId : String
  userName : String
  email : String
  firstName : String
  lastName : String
  status : String
  department : Department
  roles : List String
  deriving DecidableEq, Repr

def User.ofDomain (user : Iam.User) : User :=
  { userId := user.id
    avatarId := user.avatarId
    userName := user.userName
    email := user.email
    firstName := user.firstName
    lastName := user.lastName
    status := user.status.status
    department := {
      departmentId := user.department.id
      departmentName := user.department.name
      company := {
        companyId := user.department.company.id
        name := user.department.company.name } }
    roles := user.roles.map (·.name) }

structure DeletedUser where
  message : String
  userId : Uuid
  deriving DecidableEq, Repr

/-! ## Permissions -/

structure Permission where
  name : String
  resource : String
  module : String
  deriving DecidableEq, Repr

def Permission.ofDomain (permission : Iam.Permission) : Permission :=
  { name := permission.name, resource := permission.resource, module := permission.module }

end ApiStarter.Iam.Handler
