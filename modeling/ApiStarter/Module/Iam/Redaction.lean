import ApiStarter.Module.Iam.Statement
import ApiStarter.Package.Auth.Store

/-
  What the queries make of a password: nothing.

  `Db.redacted` is the database with every password blanked. No query selects, filters or sorts by
  a password, so it finds in the redacted database the redacted rows of what it finds in the
  database itself. The constraints do not mention the password either.
-/

namespace ApiStarter.Iam

open ApiStarter.Auth ApiStarter.Database ApiStarter.Relational

def redactedRow (row : UserRow) : UserRow := { row with password := "" }

def redactedDb (db : Db) : Db := { db with users := db.users.map redactedRow }

namespace JoinedUser

def redacted (row : JoinedUser) : JoinedUser := { row with user := redactedRow row.user }

end JoinedUser

namespace User

def redacted (user : User) : User := { user with password := "" }

end User

/-! ## Queries -/

theorem joinedUsers_redacted (db : Db) :
    joinedUsers (redactedDb db) = (joinedUsers db).map JoinedUser.redacted := by
  unfold joinedUsers redactedDb
  dsimp only
  rw [innerJoin_map redactedRow db.users db.userStatuses (fun u us => u.statusId == us.id)
    fun _ _ => rfl]
  rw [innerJoin_map (Prod.map redactedRow id) _ db.departments
    (fun us d => us.1.departmentId == d.id) fun _ _ => rfl]
  rw [innerJoin_map (Prod.map (Prod.map redactedRow id) id) _ db.companies
    (fun usd c => usd.2.companyId == some c.id) fun _ _ => rfl]
  rw [List.map_map, List.map_map]
  rfl

/-- At most one row, found by a column that is not the password. -/
theorem find?_joinedUsers_redacted (db : Db) {p : JoinedUser → Bool}
    (hp : ∀ row, p row.redacted = p row) :
    (joinedUsers (redactedDb db)).find? p =
      ((joinedUsers db).find? p).map JoinedUser.redacted := by
  rw [joinedUsers_redacted, List.find?_map, show p ∘ JoinedUser.redacted = p from funext hp]

theorem matchingUsers_redacted (pg : Postgres) (db : Db) (conditions : List Condition) :
    matchingUsers pg (redactedDb db) conditions =
      (matchingUsers pg db conditions).map JoinedUser.redacted := by
  have hholds : ∀ row : JoinedUser,
      conditions.all (Condition.holds pg (redactedDb db) row.redacted) =
        conditions.all (Condition.holds pg db row) := by
    intro row
    refine congrArg conditions.all (funext fun condition => ?_)
    cases condition <;> rfl
  unfold matchingUsers
  rw [joinedUsers_redacted, List.filter_map]
  exact congrArg _ (congrArg (fun p => (joinedUsers db).filter p) (funext hholds))

theorem countUsers_redacted (pg : Postgres) (db : Db) (conditions : List Condition) :
    countUsers pg (redactedDb db) conditions = countUsers pg db conditions := by
  unfold countUsers
  rw [matchingUsers_redacted, List.length_map]

theorem scanned_map {α β : Type} (pg : Postgres) (n : Nat) (f : α → β) (rows : List α) :
    pg.scanned n (rows.map f) = (pg.scanned n rows).map f := by
  unfold Postgres.scanned
  rw [List.length_map, List.map_filterMap]
  exact List.filterMap_congr fun i _ => List.getElem?_map

theorem selectUsers_redacted (pg : Postgres) (n : Nat) (db : Db) (conditions : List Condition)
    (column : SortColumn) (order : SortOrder) (limit offset : Int64) :
    selectUsers pg n (redactedDb db) conditions column order limit offset =
      (selectUsers pg n db conditions column order limit offset).map
        (List.map JoinedUser.redacted) := by
  have hle : ∀ a b : JoinedUser, rowLe pg column order a.redacted b.redacted =
      rowLe pg column order a b := by
    intro a b
    cases order <;> cases column <;> rfl
  have hsorted : ((pg.scanned n (matchingUsers pg (redactedDb db) conditions)).insertionSort
        fun a b => rowLe pg column order a b = true) =
      ((pg.scanned n (matchingUsers pg db conditions)).insertionSort
        fun a b => rowLe pg column order a b = true).map JoinedUser.redacted := by
    rw [matchingUsers_redacted, scanned_map]
    refine (List.map_insertionSort _ _ _ _ fun a _ b _ => ?_).symm
    rw [hle]
  unfold selectUsers
  cases (conditions.flatMap Condition.bound).forM bindText with
  | error err => rfl
  | ok _ =>
    by_cases hlimit : limit < 0
    · simp only [hlimit]; rfl
    by_cases hoffset : offset < 0
    · simp only [hlimit, hoffset]; rfl
    simp only [hlimit, hoffset, hsorted]
    exact congrArg Except.ok (by rw [List.map_take, List.map_drop])

/-! ## Constraints -/

theorem uniqueUsers_redacted (users : List UserRow) :
    uniqueUsers (users.map redactedRow) = uniqueUsers users := by
  unfold uniqueUsers
  simp only [List.map_map]
  rfl

theorem referencedUsers_redacted (db : Db) (users : List UserRow) :
    referencedUsers (redactedDb db) (users.map redactedRow) = referencedUsers db users := by
  unfold referencedUsers
  rw [List.all_map]
  rfl

end ApiStarter.Iam
