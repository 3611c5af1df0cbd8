import ApiStarter.Package.Pagination
import ApiStarter.Provider.Surroundings

/-
  `module/iam/adapter/repository`: `PgUserRepository` and `PgPermissionRepository`.
-/

namespace ApiStarter.Iam

open ApiStarter.Database ApiStarter.Effect.Fallible ApiStarter.Pagination ApiStarter.Provider

inductive DomainError where
  | userNotFound
  | userDuplicateConstraint
  | statusNotFound
  | departmentNotFoundConstraint
  | database (err : SqlxError)
  deriving DecidableEq, Repr

/-! ## Users -/

namespace PgUserRepository

def sortColumn (sortBy : String) : SortColumn :=
  if sortBy = "email" then .email
  else if sortBy = "first_name" then .firstName
  else if sortBy = "last_name" then .lastName
  else if sortBy = "status" then .status
  else if sortBy = "department" then .department
  else .userName

def sortOrder (order : String) : SortOrder := if order = "asc" then .asc else .desc

/-- The conditions a request adds, in the order they are pushed. -/
def pushFilters (request : ListRequest) : List Condition :=
  (((request.filter "status").bind UserStatus.idOf).map Condition.statusIs).toList ++
  (((request.filter "department_id").bind parseI32).map Condition.departmentIs).toList ++
  ((request.filter "role").map Condition.holdsRole).toList ++
  ((request.filter "first_name").map fun name => Condition.firstNameLike ("%" ++ name ++ "%")).toList

/-- `try_get` at `String`: NULL does not decode. -/
def decodeText (column : String) : Option String → Except SqlxError String
  | some text => .ok text
  | none => .error (.columnDecode column)

def mapUser (row : JoinedUser) : Except SqlxError User := do
  return {
    id := row.user.id
    userName := row.user.userName
    avatarId := row.user.avatarId
    email := row.user.email
    password := row.user.password
    firstName := row.user.firstName
    lastName := row.user.lastName
    status := { id := row.status.id, status := ← decodeText "status" row.status.status }
    department := {
      id := row.department.id
      name := ← decodeText "department_name" row.department.name
      company := { id := row.company.id, name := row.company.name } }
    roles := [] }

def getUserRoles (userId : Uuid) : Service DomainError (List Role) := do
  let rows ← mapErr .database (← ask (.selectUserRoles userId))
  return rows.map fun row => { roleId := row.id, name := row.name }

/-- `map_user`, then the roles of the mapped user. -/
def mapUserWithRoles (row : JoinedUser) : Service DomainError User := do
  let user ← mapErr .database (mapUser row)
  let roles ← getUserRoles user.id
  return { user with roles := roles }

def hydrate : Option JoinedUser → Service DomainError (Option User)
  | none => return none
  | some row => return some (← mapUserWithRoles row)

def index (request : ListRequest) : Service DomainError (List User × Int64) := do
  let conditions := pushFilters request
  let totalCount ← mapErr .database (← ask (.countUsers conditions))
  let rows ← mapErr .database (← ask (.selectUsers conditions (sortColumn request.sortBy)
    (sortOrder request.order) request.perPage request.offset))
  let users ← rows.mapM mapUserWithRoles
  return (users, totalCount)

def findById (userId : Uuid) : Service DomainError (Option User) := do
  let row ← mapErr .database (← ask (.selectUserById userId))
  hydrate row

def findByUserName (userName : String) : Service DomainError (Option User) := do
  let row ← mapErr .database (← ask (.selectUserByUserName userName))
  hydrate row

def findByEmail (email : String) : Service DomainError (Option User) := do
  let row ← mapErr .database (← ask (.selectUserByEmail email))
  hydrate row

def addUserRoles (userId : Uuid) (roles : List String) : Service DomainError Unit :=
  if roles.isEmpty then return ()
  else do mapErr .database (← ask (.insertUserRoles userId roles))

def removeUserRoles (userId : Uuid) (roles : List String) : Service DomainError Unit :=
  if roles.isEmpty then return ()
  else do mapErr .database (← ask (.deleteUserRoles userId roles))

def createError (err : SqlxError) : DomainError :=
  if PgError.is err PgError.uniqueViolation then .userDuplicateConstraint
  else if PgError.is err PgError.foreignKeyViolation then .departmentNotFoundConstraint
  else .database err

def create (user : CreateUser) : Service DomainError Uuid := do
  let userId ← mapErr createError (← ask (.insertUser user))
  addUserRoles userId user.roles
  return userId

/-- The assignments `partial_update` pushes; an unknown status ends it before the statement
    is sent. -/
def setClauses (fields : UpdateUser) : Except DomainError (List SetClause) := do
  let status ← match fields.status with
    | none => pure []
    | some status =>
      match UserStatus.idOf status with
      | none => throw .statusNotFound
      | some statusId => pure [SetClause.statusId statusId]
  return (fields.avatarId.map SetClause.avatarId).toList ++
    (fields.firstName.map SetClause.firstName).toList ++
    (fields.lastName.map SetClause.lastName).toList ++
    (fields.email.map SetClause.email).toList ++
    (fields.departmentId.map SetClause.departmentId).toList ++
    status ++
    (fields.password.map SetClause.password).toList

def updateError (err : SqlxError) : DomainError :=
  let code := PgError.codeOf err
  if code = some PgError.notNullViolation then .statusNotFound
  else if code = some PgError.foreignKeyViolation then .departmentNotFoundConstraint
  else if code = some PgError.uniqueViolation then .userDuplicateConstraint
  else .database err

def partialUpdate (userId : Uuid) (fields : UpdateUser) : Service DomainError Unit :=
  if fields.hasNoColumnChanges then return ()
  else do
    let sets ← mapErr id (setClauses fields)
    mapErr updateError (← ask (.updateUser sets userId))

/-- Soft delete: the row is kept and flipped to the `Deleted` status. -/
def delete (userId : Uuid) : Service DomainError Unit := do
  mapErr .database (← ask (.updateUser [.statusId deletedUserStatus] userId))

end PgUserRepository

/-! ## Permissions -/

namespace PgPermissionRepository

def mapPermission (row : JoinedPermission) : Except SqlxError Permission := do
  return {
    id := row.permission.id
    name := ← PgUserRepository.decodeText "name" row.permission.name
    resource := ← PgUserRepository.decodeText "resource" row.permission.resource
    module := row.module.name }

def listAll : Service DomainError (List Permission) := do
  let rows ← mapErr .database (← ask .selectPermissions)
  mapErr .database (rows.mapM mapPermission)

end PgPermissionRepository

end ApiStarter.Iam
