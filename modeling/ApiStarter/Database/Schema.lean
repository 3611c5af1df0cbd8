import ApiStarter.Database.Relational

/-
  `migrations/iam`: the tables, their constraints, and the rows the migrations insert.

  `Db` is the content of the schema, one list of rows a table. `Db.Admissible` says what the
  constraints say: primary and unique keys, and foreign keys (a nullable column is an
  `Option`, and NULL satisfies its foreign key).
-/

namespace ApiStarter.Database

abbrev Uuid := BitVec 128

/-- Microseconds since the epoch, the resolution of `TIMESTAMPTZ`. -/
abbrev Timestamp := Int

structure StatusRow where
  id : Int
  status : Option String
  deriving DecidableEq, Repr

structure CompanyRow where
  id : Int
  name : String
  deriving DecidableEq, Repr

structure DepartmentRow where
  id : Int
  name : Option String
  companyId : Option Int
  deriving DecidableEq, Repr

structure UserRow where
  id : Uuid
  userName : String
  avatarId : String
  email : String
  password : String
  firstName : String
  lastName : String
  statusId : Int
  departmentId : Int
  deriving DecidableEq, Repr

structure ModuleRow where
  id : Int
  name : String
  deriving DecidableEq, Repr

structure PermissionRow where
  id : Int
  name : Option String
  resource : Option String
  moduleId : Option Int
  deriving DecidableEq, Repr

structure RoleRow where
  id : Int
  name : String
  deriving DecidableEq, Repr

structure RoleHasPermissionRow where
  roleId : Int
  permissionId : Int
  deriving DecidableEq, Repr

structure UserHasRoleRow where
  userId : Uuid
  roleId : Int
  deriving DecidableEq, Repr

/-- `iam.password_resets` has no key: its two indexes are not unique. -/
structure PasswordResetRow where
  email : String
  token : String
  createdAt : Timestamp
  deriving DecidableEq, Repr

structure Db where
  userStatuses : List StatusRow
  companies : List CompanyRow
  departments : List DepartmentRow
  users : List UserRow
  modules : List ModuleRow
  permissions : List PermissionRow
  roles : List RoleRow
  roleHasPermissions : List RoleHasPermissionRow
  userHasRoles : List UserHasRoleRow
  passwordResets : List PasswordResetRow
  deriving DecidableEq, Repr

namespace Db

/-- The contents the constraints of the migrations admit. -/
structure Admissible (db : Db) : Prop where
  statusIds : (db.userStatuses.map (·.id)).Nodup
  companyIds : (db.companies.map (·.id)).Nodup
  companyNames : (db.companies.map (·.name)).Nodup
  departmentIds : (db.departments.map (·.id)).Nodup
  departmentCompany : ∀ d ∈ db.departments, ∀ c, d.companyId = some c →
    c ∈ db.companies.map (·.id)
  userIds : (db.users.map (·.id)).Nodup
  userNames : (db.users.map (·.userName)).Nodup
  userEmails : (db.users.map (·.email)).Nodup
  userStatus : ∀ u ∈ db.users, u.statusId ∈ db.userStatuses.map (·.id)
  userDepartment : ∀ u ∈ db.users, u.departmentId ∈ db.departments.map (·.id)
  moduleIds : (db.modules.map (·.id)).Nodup
  permissionIds : (db.permissions.map (·.id)).Nodup
  permissionModule : ∀ p ∈ db.permissions, ∀ m, p.moduleId = some m → m ∈ db.modules.map (·.id)
  roleIds : (db.roles.map (·.id)).Nodup
  roleNames : (db.roles.map (·.name)).Nodup
  rolePermissions : db.roleHasPermissions.Nodup
  rolePermissionRole : ∀ rp ∈ db.roleHasPermissions, rp.roleId ∈ db.roles.map (·.id)
  rolePermissionPermission : ∀ rp ∈ db.roleHasPermissions,
    rp.permissionId ∈ db.permissions.map (·.id)
  userRoles : db.userHasRoles.Nodup
  userRoleUser : ∀ ur ∈ db.userHasRoles, ur.userId ∈ db.users.map (·.id)
  userRoleRole : ∀ ur ∈ db.userHasRoles, ur.roleId ∈ db.roles.map (·.id)

/-- The rows the `up` migrations insert; the id of the seeded administrator is generated. -/
def seed (adminId : Uuid) : Db where
  userStatuses := [⟨1, some "Active"⟩, ⟨2, some "Deleted"⟩]
  companies := [⟨1, "Example Company Ltd"⟩]
  departments := [⟨1, some "Administration", some 1⟩]
  users := [{
    id := adminId
    userName := "admin"
    avatarId := ""
    email := "admin@example.com"
    password := "$2a$10$Mseb73NYJsJ/d8fcD.JZGuJgAeciQXFxaxY7uXdVCtvH2u/muejNy"
    firstName := "App"
    lastName := "Admin"
    statusId := 1
    departmentId := 1 }]
  modules := [⟨1, "IAM Module"⟩, ⟨2, "Catalogues Module"⟩, ⟨3, "Customer Module"⟩]
  permissions := [
    ⟨1, some "View All", some "Users", some 1⟩,
    ⟨2, some "Delete", some "Catalogues", some 2⟩,
    ⟨3, some "Publish", some "Catalogues", some 2⟩,
    ⟨4, some "Add Tags", some "Catalogues", some 2⟩,
    ⟨5, some "Make A Copy", some "Catalogues", some 2⟩,
    ⟨6, some "Restore", some "Catalogues", some 2⟩,
    ⟨7, some "Delete", some "Customers", some 3⟩]
  roles := [⟨1, "Admin"⟩, ⟨2, "Developer"⟩, ⟨3, "Staff"⟩]
  roleHasPermissions := [⟨1, 1⟩, ⟨1, 2⟩, ⟨1, 3⟩, ⟨1, 4⟩, ⟨1, 5⟩, ⟨1, 6⟩, ⟨1, 7⟩,
    ⟨2, 1⟩, ⟨2, 2⟩, ⟨2, 3⟩, ⟨2, 4⟩, ⟨2, 5⟩, ⟨2, 6⟩, ⟨2, 7⟩]
  userHasRoles := [⟨adminId, 1⟩]
  passwordResets := []

theorem admissible_seed (adminId : Uuid) : (seed adminId).Admissible := by
  constructor <;> simp [seed]

end Db

end ApiStarter.Database
