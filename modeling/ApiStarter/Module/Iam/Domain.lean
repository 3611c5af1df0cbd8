import ApiStarter.Database.Schema

/-
  `module/iam/core/domain` and the payload types of `module/iam/core/ports.rs`.
-/

namespace ApiStarter.Iam

open ApiStarter.Database

def activeUserStatus : Int := 1
def deletedUserStatus : Int := 2

/-- `UserStatus::id_of` -/
def UserStatus.idOf (status : String) : Option Int :=
  if status = "Active" then some activeUserStatus
  else if status = "Deleted" then some deletedUserStatus
  else none

structure Status where
  id : Int
  status : String
  deriving DecidableEq, Repr

structure Company where
  id : Int
  name : String
  deriving DecidableEq, Repr

structure Department where
  id : Int
  name : String
  company : Company
  deriving DecidableEq, Repr

structure Role where
  roleId : Int
  name : String
  deriving DecidableEq, Repr

structure User where
  id : Uuid
  userName : String
  avatarId : String
  email : String
  password : String
  firstName : String
  lastName : String
  status : Status
  department : Department
  roles : List Role
  deriving DecidableEq, Repr

structure Permission where
  id : Int
  name : String
  resource : String
  module : String
  deriving DecidableEq, Repr

structure CreateUser where
  userName : String
  avatarId : String
  email : String
  password : String
  firstName : String
  lastName : String
  status : Int
  departmentId : Int
  roles : List String
  deriving DecidableEq, Repr

structure UpdateUser where
  avatarId : Option String
  firstName : Option String
  lastName : Option String
  email : Option String
  departmentId : Option Int
  status : Option String
  password : Option String
  addRoles : Option (List String)
  removeRoles : Option (List String)
  deriving DecidableEq, Repr

namespace UpdateUser

def default : UpdateUser :=
  { avatarId := none, firstName := none, lastName := none, email := none,
    departmentId := none, status := none, password := none, addRoles := none,
    removeRoles := none }

def hasNoColumnChanges (fields : UpdateUser) : Bool :=
  fields.avatarId.isNone && fields.firstName.isNone && fields.lastName.isNone &&
    fields.email.isNone && fields.departmentId.isNone && fields.status.isNone &&
    fields.password.isNone

/-- `restricted_to_self`: what is not named here falls back to the default. -/
def restrictedToSelf (fields : UpdateUser) : UpdateUser :=
  { default with
    avatarId := fields.avatarId
    firstName := fields.firstName
    lastName := fields.lastName
    departmentId := fields.departmentId }

end UpdateUser

end ApiStarter.Iam
