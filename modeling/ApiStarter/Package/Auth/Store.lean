import ApiStarter.Database.Postgres
import ApiStarter.Database.Schema

/-
  `package/auth/domain.rs` and `package/auth/store.rs`: the six operations of the auth store,
  as `PostgresAuthStore` carries them out on the database.

  None of the statements can violate a constraint: `iam.password_resets` has no key, and a
  password hash or an address of `iam.users` fits the columns it is written to. A statement whose
  parameter PostgreSQL refuses, for a NUL in it, does not get here: it is one of those that fail.
-/

namespace ApiStarter.Auth

open ApiStarter.Database ApiStarter.Relational

structure Identity where
  id : Uuid
  email : String
  userName : String
  password : String
  roles : List String
  deriving DecidableEq, Repr

structure AuthenticationTokens where
  token : String
  refreshToken : String
  deriving DecidableEq, Repr

namespace PostgresAuthStore

/-- `SELECT r.name .. INNER JOIN iam.user_has_roles .. WHERE uhr.user_id = $1` -/
def getUserRoles (db : Db) (userId : Uuid) : List String :=
  (innerJoin db.roles (db.userHasRoles.filter fun uhr => uhr.userId == userId)
    fun r uhr => r.id == uhr.roleId).map fun row => row.1.name

/-- The identity of a row of `iam.users`; the status is not among the selected columns. -/
def enrich (db : Db) (row : UserRow) : Identity :=
  { id := row.id
    email := row.email
    userName := row.userName
    password := row.password
    roles := getUserRoles db row.id }

def findUserById (db : Db) (userId : Uuid) : Option Identity :=
  (db.users.find? fun u => decide (u.id = userId)).map (enrich db)

def findUserByEmail (db : Db) (email : String) : Option Identity :=
  (db.users.find? fun u => decide (u.email = email)).map (enrich db)

/-- `INSERT INTO iam.password_resets .. NOW()` -/
def createPasswordReset (now : Timestamp) (email token : String) (db : Db) : Db :=
  { db with passwordResets := db.passwordResets ++ [⟨email, token, now⟩] }

/-- `UPDATE iam.users SET password = $1 WHERE email = $2` -/
def resetPassword (email newPassword : String) (db : Db) : Db :=
  { db with
    users := updateWhere (fun u => u.email == email) (fun u => { u with password := newPassword })
      db.users }

def findPasswordByToken (db : Db) (token : String) : Option PasswordResetRow :=
  db.passwordResets.find? fun reset => decide (reset.token = token)

/-- `DELETE FROM iam.password_resets WHERE email = $1` -/
def deletePasswordReset (email : String) (db : Db) : Db :=
  { db with passwordResets := deleteWhere (fun reset => reset.email == email) db.passwordResets }

theorem findUserById_of_mem {db : Db} (hdb : db.Admissible) {row : UserRow}
    (hrow : row ∈ db.users) : findUserById db row.id = some (enrich db row) := by
  unfold findUserById
  rw [(find?_key_eq_some hdb.userIds).2 ⟨hrow, rfl⟩, Option.map_some]

theorem findUserByEmail_of_mem {db : Db} (hdb : db.Admissible) {row : UserRow}
    (hrow : row ∈ db.users) : findUserByEmail db row.email = some (enrich db row) := by
  unfold findUserByEmail
  rw [(find?_key_eq_some hdb.userEmails).2 ⟨hrow, rfl⟩, Option.map_some]

end PostgresAuthStore

end ApiStarter.Auth
