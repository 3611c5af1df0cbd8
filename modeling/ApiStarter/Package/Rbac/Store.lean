import ApiStarter.Database.Postgres
import ApiStarter.Database.Schema

/-
  `package/rbac/permission.rs` and `package/rbac/store.rs`: the three queries of
  `PostgresRbacStore`. A query whose parameter PostgreSQL refuses, for a NUL in it, is one of those
  that fail and does not get here.
-/

namespace ApiStarter.Rbac

open ApiStarter.Database ApiStarter.Relational

/-- One action a user holds, checked as `resource.name`. -/
structure Permission where
  resource : String
  name : String
  deriving DecidableEq, Repr

namespace PostgresRbacStore

/-- `SELECT r.name FROM iam.roles r WHERE r.id IN (SELECT uhr.role_id ..)` -/
def getRoles (db : Db) (userId : Uuid) : List String :=
  (db.roles.filter fun r =>
    (db.userHasRoles.filter fun uhr => uhr.userId == userId).any fun uhr => uhr.roleId == r.id).map
    (·.name)

/-- The joined rows behind both permission queries. -/
def grantedPermissions (db : Db) (userId : Uuid) : List PermissionRow :=
  let withRole := innerJoin db.permissions db.roleHasPermissions fun p rhp =>
    p.id == rhp.permissionId
  let withUser := innerJoin withRole db.userHasRoles fun prhp uhr =>
    uhr.roleId == prhp.2.roleId
  (withUser.filter fun row => row.2.userId == userId).map (·.1.1)

/-- Decoding a selected row: NULL is no `String`. -/
def decodePermission (row : PermissionRow) : Except SqlxError Permission :=
  match row.resource, row.name with
  | none, _ => .error (.columnDecode "resource")
  | some _, none => .error (.columnDecode "name")
  | some resource, some name => .ok { resource := resource, name := name }

def getPermissions (db : Db) (userId : Uuid) : Except SqlxError (List Permission) :=
  (grantedPermissions db userId).mapM decodePermission

/-- `SELECT EXISTS (..)`: a comparison with NULL is not true. -/
def hasPermission (db : Db) (userId : Uuid) (resource permission : String) : Bool :=
  (grantedPermissions db userId).any fun p =>
    p.resource == some resource && p.name == some permission

theorem mem_getRoles {db : Db} {userId : Uuid} {name : String} :
    name ∈ getRoles db userId ↔
      ∃ r ∈ db.roles, r.name = name ∧ ⟨userId, r.id⟩ ∈ db.userHasRoles := by
  simp only [getRoles, List.mem_map, List.mem_filter, List.any_eq_true, beq_iff_eq]
  constructor
  · rintro ⟨r, ⟨hr, ⟨id, roleId⟩, ⟨huhr, rfl⟩, rfl⟩, rfl⟩
    exact ⟨r, hr, rfl, huhr⟩
  · rintro ⟨r, hr, rfl, huhr⟩
    exact ⟨r, ⟨hr, _, ⟨huhr, rfl⟩, rfl⟩, rfl⟩

theorem mem_grantedPermissions {db : Db} {userId : Uuid} {p : PermissionRow} :
    p ∈ grantedPermissions db userId ↔ p ∈ db.permissions ∧
      ∃ roleId, ⟨roleId, p.id⟩ ∈ db.roleHasPermissions ∧ ⟨userId, roleId⟩ ∈ db.userHasRoles := by
  simp only [grantedPermissions, List.mem_map, List.mem_filter, beq_iff_eq]
  constructor
  · rintro ⟨⟨⟨p', roleId, permissionId⟩, id, roleId'⟩, ⟨hmem, rfl⟩, rfl⟩
    obtain ⟨hgrant, huhr, hrole⟩ := mem_innerJoin.1 hmem
    obtain ⟨hp, hrhp, hpermission⟩ := mem_innerJoin.1 hgrant
    cases beq_iff_eq.1 hrole
    cases beq_iff_eq.1 hpermission
    exact ⟨hp, _, hrhp, huhr⟩
  · rintro ⟨hp, roleId, hrhp, huhr⟩
    refine ⟨((p, ⟨roleId, p.id⟩), ⟨userId, roleId⟩), ⟨mem_innerJoin.2 ⟨mem_innerJoin.2 ?_, huhr, ?_⟩,
      rfl⟩, rfl⟩
    · exact ⟨hp, hrhp, beq_self_eq_true _⟩
    · exact beq_self_eq_true _

theorem hasPermission_eq_true {db : Db} {userId : Uuid} {resource permission : String} :
    hasPermission db userId resource permission = true ↔
      ∃ p ∈ grantedPermissions db userId,
        p.resource = some resource ∧ p.name = some permission := by
  simp only [hasPermission, List.any_eq_true, Bool.and_eq_true, beq_iff_eq]

end PostgresRbacStore

end ApiStarter.Rbac
