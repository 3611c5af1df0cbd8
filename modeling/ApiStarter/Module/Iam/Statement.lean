import ApiStarter.Database.Postgres
import ApiStarter.Module.Iam.Domain

/-
  The SQL statements of `module/iam/adapter/repository`, as functions on the database.

  A statement that fails returns its error and no database, so a failed statement has no
  effect by construction. Constraints are checked on the rows the statement would leave:
  unique keys while the rows are written, foreign keys at the end of the statement.
-/

namespace ApiStarter.Iam

open ApiStarter.Database ApiStarter.Relational

/-! ## Reading users -/

/-- One row of `SELECT_USER`: a user with its status, department and company. -/
structure JoinedUser where
  user : UserRow
  status : StatusRow
  department : DepartmentRow
  company : CompanyRow
  deriving DecidableEq, Repr

/-- The three inner joins of `SELECT_USER` and `COUNT_USER`. -/
def joinedUsers (db : Db) : List JoinedUser :=
  let withStatus := innerJoin db.users db.userStatuses fun u us => u.statusId == us.id
  let withDepartment := innerJoin withStatus db.departments fun us d =>
    us.1.departmentId == d.id
  let withCompany := innerJoin withDepartment db.companies fun usd c =>
    usd.2.companyId == some c.id
  withCompany.map fun row => ⟨row.1.1.1, row.1.1.2, row.1.2, row.2⟩

/-- `SELECT_USER WHERE u.id = $1`, at most one row fetched. -/
def selectUserById (db : Db) (userId : Uuid) : Option JoinedUser :=
  (joinedUsers db).find? fun row => row.user.id == userId

/-- `SELECT_USER WHERE u.user_name = $1` -/
def selectUserByUserName (db : Db) (userName : String) : Option JoinedUser :=
  (joinedUsers db).find? fun row => row.user.userName == userName

/-- `SELECT_USER WHERE u.email = $1` -/
def selectUserByEmail (db : Db) (email : String) : Option JoinedUser :=
  (joinedUsers db).find? fun row => row.user.email == email

/-- `SELECT r.id, r.name` for the roles of a user. -/
def selectUserRoles (db : Db) (userId : Uuid) : List RoleRow :=
  (innerJoin db.roles (db.userHasRoles.filter fun uhr => uhr.userId == userId)
    fun r uhr => r.id == uhr.roleId).map (·.1)

/-! ## Listing users -/

/-- The conditions `push_filters` can append to the `WHERE` clause. -/
inductive Condition where
  | statusIs (statusId : Int)
  | departmentIs (departmentId : Int)
  | holdsRole (role : String)
  | firstNameLike (pattern : String)
  deriving DecidableEq, Repr

def Condition.bound : Condition → List String
  | statusIs _ => []
  | departmentIs _ => []
  | holdsRole role => [role]
  | firstNameLike pattern => [pattern]

def Condition.holds (pg : Postgres) (db : Db) (row : JoinedUser) : Condition → Bool
  | statusIs statusId => row.status.id == statusId
  | departmentIs departmentId => row.user.departmentId == departmentId
  | holdsRole role => (selectUserRoles db row.user.id).any fun r => r.name == role
  | firstNameLike pattern => pg.ilike row.user.firstName pattern

def matchingUsers (pg : Postgres) (db : Db) (conditions : List Condition) : List JoinedUser :=
  (joinedUsers db).filter fun row => conditions.all (Condition.holds pg db row)

def countUsers (pg : Postgres) (db : Db) (conditions : List Condition) :
    Except SqlxError Int64 := do
  (conditions.flatMap Condition.bound).forM bindText
  return Int64.ofNat (matchingUsers pg db conditions).length

/-- The columns `sort_column` can name. -/
inductive SortColumn where
  | email
  | firstName
  | lastName
  | status
  | department
  | userName
  deriving DecidableEq, Repr

def SortColumn.value (row : JoinedUser) : SortColumn → Option String
  | email => some row.user.email
  | firstName => some row.user.firstName
  | lastName => some row.user.lastName
  | status => row.status.status
  | department => row.department.name
  | userName => some row.user.userName

inductive SortOrder where
  | asc
  | desc
  deriving DecidableEq, Repr

/-- The collation, with NULL above every text. -/
def nullableLe (pg : Postgres) : Option String → Option String → Bool
  | _, none => true
  | none, some _ => false
  | some x, some y => pg.collate x y

def rowLe (pg : Postgres) (column : SortColumn) : SortOrder → JoinedUser → JoinedUser → Bool
  | .asc, a, b => nullableLe pg (column.value a) (column.value b)
  | .desc, a, b => nullableLe pg (column.value b) (column.value a)

/-- The page query of `index`; `n` tells the scans of different statements apart. -/
def selectUsers (pg : Postgres) (n : Nat) (db : Db) (conditions : List Condition)
    (column : SortColumn) (order : SortOrder) (limit offset : Int64) :
    Except SqlxError (List JoinedUser) := do
  (conditions.flatMap Condition.bound).forM bindText
  if limit < 0 then throw (.database "2201W" "LIMIT must not be negative")
  if offset < 0 then throw (.database "2201X" "OFFSET must not be negative")
  let rows := pg.scanned n (matchingUsers pg db conditions)
  let sorted := rows.insertionSort fun a b => rowLe pg column order a b = true
  return (sorted.drop offset.toInt.toNat).take limit.toInt.toNat

/-! ## Reading permissions -/

structure JoinedPermission where
  permission : PermissionRow
  module : ModuleRow
  deriving DecidableEq, Repr

def selectPermissions (db : Db) : List JoinedPermission :=
  (innerJoin db.permissions db.modules fun p m => p.moduleId == some m.id).map
    fun row => ⟨row.1, row.2⟩

/-! ## Writing users -/

def uniqueError : SqlxError :=
  .database PgError.uniqueViolation "duplicate key value violates unique constraint"

def foreignKeyError : SqlxError :=
  .database PgError.foreignKeyViolation "insert or update violates foreign key constraint"

/-- The unique keys of `iam.users`. -/
def uniqueUsers (users : List UserRow) : Bool :=
  decide (users.map (·.id)).Nodup && decide (users.map (·.userName)).Nodup &&
    decide (users.map (·.email)).Nodup

/-- The foreign keys of `iam.users`. -/
def referencedUsers (db : Db) (users : List UserRow) : Bool :=
  users.all fun u =>
    (db.userStatuses.map (·.id)).contains u.statusId &&
      (db.departments.map (·.id)).contains u.departmentId

/-- Replaces the rows of `iam.users`, provided the constraints hold of the new ones. -/
def writeUsers (db : Db) (users : List UserRow) : Except SqlxError Db :=
  if uniqueUsers users then
    if referencedUsers db users then .ok { db with users := users }
    else .error foreignKeyError
  else .error uniqueError

theorem writeUsers_ok {db db' : Db} {users : List UserRow} (h : writeUsers db users = .ok db') :
    uniqueUsers users = true ∧ referencedUsers db users = true ∧
      db' = { db with users := users } := by
  unfold writeUsers at h
  split at h
  · split at h
    · cases h
      exact ⟨‹_›, ‹_›, rfl⟩
    · cases h
  · cases h

/-- The constraints on `iam.users` hold of what a statement leaves there, so the contents stay
    admissible if no user id disappears. -/
theorem admissible_of_writeUsers {db db' : Db} {users : List UserRow} (hdb : db.Admissible)
    (hids : ∀ i ∈ db.users.map (·.id), i ∈ users.map (·.id))
    (h : writeUsers db users = .ok db') : db'.Admissible := by
  obtain ⟨hunique, hrefs, rfl⟩ := writeUsers_ok h
  simp only [uniqueUsers, Bool.and_eq_true, decide_eq_true_eq] at hunique
  have href : ∀ u ∈ users, u.statusId ∈ db.userStatuses.map (·.id) ∧
      u.departmentId ∈ db.departments.map (·.id) := by
    intro u hu
    have hrow := List.all_eq_true.1 hrefs u hu
    simpa only [Bool.and_eq_true, List.contains_iff_mem] using hrow
  exact { hdb with
    userIds := hunique.1.1
    userNames := hunique.1.2
    userEmails := hunique.2
    userStatus := fun u hu => (href u hu).1
    userDepartment := fun u hu => (href u hu).2
    userRoleUser := fun ur hur => hids _ (hdb.userRoleUser ur hur) }

/-- `INSERT INTO iam.users .. RETURNING id`, with the generated id. -/
def insertUser (pg : Postgres) (newId : Uuid) (user : CreateUser) (db : Db) :
    Except SqlxError (Uuid × Db) := do
  let row : UserRow := {
    id := newId
    userName := ← pg.store 100 user.userName
    avatarId := ← pg.store 255 user.avatarId
    email := ← pg.store 100 user.email
    password := ← pg.store 255 user.password
    firstName := ← pg.store 100 user.firstName
    lastName := ← pg.store 100 user.lastName
    statusId := user.status
    departmentId := user.departmentId }
  return (newId, ← writeUsers db (db.users ++ [row]))

/-- The row of an `INSERT`, each text as its column holds it. -/
def insertedRow (newId : Uuid) (user : CreateUser) : UserRow where
  id := newId
  userName := cut 100 user.userName
  avatarId := cut 255 user.avatarId
  email := cut 100 user.email
  password := cut 255 user.password
  firstName := cut 100 user.firstName
  lastName := cut 100 user.lastName
  statusId := user.status
  departmentId := user.departmentId

theorem insertUser_ok {pg : Postgres} (hpg : pg.RejectsLonger) {newId userId : Uuid}
    {user : CreateUser} {db db' : Db} (h : insertUser pg newId user db = .ok (userId, db')) :
    userId = newId ∧ writeUsers db (db.users ++ [insertedRow newId user]) = .ok db' := by
  obtain ⟨userName, hn, h⟩ := ok_of_bind_ok h
  obtain ⟨avatarId, ha, h⟩ := ok_of_bind_ok h
  obtain ⟨email, he, h⟩ := ok_of_bind_ok h
  obtain ⟨password, hp, h⟩ := ok_of_bind_ok h
  obtain ⟨firstName, hf, h⟩ := ok_of_bind_ok h
  obtain ⟨lastName, hl, h⟩ := ok_of_bind_ok h
  obtain ⟨db'', hw, h⟩ := ok_of_bind_ok h
  cases h
  rw [Postgres.store_eq_of_ok hpg hn, Postgres.store_eq_of_ok hpg ha,
    Postgres.store_eq_of_ok hpg he, Postgres.store_eq_of_ok hpg hp,
    Postgres.store_eq_of_ok hpg hf, Postgres.store_eq_of_ok hpg hl] at hw
  exact ⟨rfl, hw⟩

/-- One assignment of the `UPDATE iam.users` statement that `partial_update` builds. -/
inductive SetClause where
  | avatarId (value : String)
  | firstName (value : String)
  | lastName (value : String)
  | email (value : String)
  | departmentId (value : Int)
  | statusId (value : Int)
  | password (value : String)
  deriving DecidableEq, Repr

namespace SetClause

/-- The assignment with its value as the column stores it. -/
def stored (pg : Postgres) : SetClause → Except SqlxError SetClause
  | avatarId value => return avatarId (← pg.store 255 value)
  | firstName value => return firstName (← pg.store 100 value)
  | lastName value => return lastName (← pg.store 100 value)
  | email value => return email (← pg.store 100 value)
  | departmentId value => return departmentId value
  | statusId value => return statusId value
  | password value => return password (← pg.store 255 value)

def apply (row : UserRow) : SetClause → UserRow
  | avatarId value => { row with avatarId := value }
  | firstName value => { row with firstName := value }
  | lastName value => { row with lastName := value }
  | email value => { row with email := value }
  | departmentId value => { row with departmentId := value }
  | statusId value => { row with statusId := value }
  | password value => { row with password := value }

/-- The assignment of what the column holds of the value. -/
def fitted : SetClause → SetClause
  | avatarId value => avatarId (cut 255 value)
  | firstName value => firstName (cut 100 value)
  | lastName value => lastName (cut 100 value)
  | email value => email (cut 100 value)
  | departmentId value => departmentId value
  | statusId value => statusId value
  | password value => password (cut 255 value)

theorem stored_eq_of_ok {pg : Postgres} (hpg : pg.RejectsLonger) {set set' : SetClause}
    (h : set.stored pg = .ok set') : set' = set.fitted := by
  have hstore : ∀ {n : Nat} {s : String} {f : String → SetClause},
      (do return f (← pg.store n s)) = Except.ok set' → set' = f (cut n s) := by
    intro n s f hs
    cases hst : pg.store n s with
    | error e => rw [hst] at hs; cases hs
    | ok s' =>
      rw [hst] at hs
      cases hs
      rw [Postgres.store_eq_of_ok hpg hst]
  cases set with
  | avatarId value => exact hstore h
  | firstName value => exact hstore h
  | lastName value => exact hstore h
  | email value => exact hstore h
  | departmentId value => cases h; rfl
  | statusId value => cases h; rfl
  | password value => exact hstore h

end SetClause

/-- `UPDATE iam.users SET .. WHERE id = $k` -/
def updateUser (pg : Postgres) (sets : List SetClause) (userId : Uuid) (db : Db) :
    Except SqlxError Db := do
  let sets ← sets.mapM (SetClause.stored pg)
  writeUsers db (updateWhere (fun u => u.id == userId) (fun u => sets.foldl SetClause.apply u)
    db.users)

/-- The row after the assignments of an update. -/
def SetClause.applyAll (sets : List SetClause) (row : UserRow) : UserRow :=
  sets.foldl SetClause.apply row

@[simp] theorem SetClause.applyAll_id (sets : List SetClause) (row : UserRow) :
    (SetClause.applyAll sets row).id = row.id := by
  induction sets generalizing row with
  | nil => rfl
  | cons set sets ih =>
    have hset : (SetClause.apply row set).id = row.id := by cases set <;> rfl
    exact (ih _).trans hset

/-- What every assignment of an update keeps of a row, the update keeps. -/
theorem SetClause.applyAll_inv {I : UserRow → Prop} {sets : List SetClause}
    (h : ∀ set ∈ sets, ∀ row, I row → I (SetClause.apply row set)) {row : UserRow} (hrow : I row) :
    I (SetClause.applyAll sets row) := by
  induction sets generalizing row with
  | nil => exact hrow
  | cons set sets ih =>
    have hhead : I (SetClause.apply row set) := h set List.mem_cons_self row hrow
    exact ih (fun set' hset' => h set' (List.mem_cons_of_mem _ hset')) hhead

theorem SetClause.mapM_stored_eq_of_ok {pg : Postgres} (hpg : pg.RejectsLonger)
    {sets sets' : List SetClause} (h : sets.mapM (SetClause.stored pg) = .ok sets') :
    sets' = sets.map SetClause.fitted := by
  induction sets generalizing sets' with
  | nil => cases h; rfl
  | cons set sets ih =>
    rw [List.mapM_cons] at h
    obtain ⟨set', hset, h⟩ := ok_of_bind_ok h
    obtain ⟨rest, hrest, h⟩ := ok_of_bind_ok h
    cases h
    rw [SetClause.stored_eq_of_ok hpg hset, ih hrest, List.map_cons]

theorem updateUser_ok {pg : Postgres} (hpg : pg.RejectsLonger) {sets : List SetClause}
    {userId : Uuid} {db db' : Db} (h : updateUser pg sets userId db = .ok db') :
    writeUsers db (updateWhere (fun u => u.id == userId)
      (SetClause.applyAll (sets.map SetClause.fitted)) db.users) = .ok db' := by
  obtain ⟨sets', hsets, h⟩ := ok_of_bind_ok h
  rw [SetClause.mapM_stored_eq_of_ok hpg hsets] at h
  exact h

/-! ## Writing roles -/

/-- The roles of the database that `names` names. -/
def rolesNamed (db : Db) (names : List String) : List RoleRow :=
  db.roles.filter fun r => names.contains r.name

/-- `INSERT INTO iam.user_has_roles SELECT .. ON CONFLICT (user_id, role_id) DO NOTHING` -/
def insertUserRoles (userId : Uuid) (names : List String) (db : Db) : Except SqlxError Db := do
  names.forM bindText
  let added := ((rolesNamed db names).map fun r => (⟨userId, r.id⟩ : UserHasRoleRow)).filter
    fun uhr => !db.userHasRoles.contains uhr
  if added ≠ [] ∧ ¬ (db.users.map (·.id)).contains userId then throw foreignKeyError
  return { db with userHasRoles := db.userHasRoles ++ added }

/-- `DELETE FROM iam.user_has_roles WHERE user_id = $1 AND role_id IN (..)` -/
def deleteUserRoles (userId : Uuid) (names : List String) (db : Db) : Except SqlxError Db := do
  names.forM bindText
  let removed := (rolesNamed db names).map (·.id)
  return { db with
    userHasRoles := deleteWhere
      (fun uhr => uhr.userId == userId && removed.contains uhr.roleId) db.userHasRoles }

theorem mem_rolesNamed {db : Db} {names : List String} {r : RoleRow} :
    r ∈ rolesNamed db names ↔ r ∈ db.roles ∧ r.name ∈ names := by
  simp [rolesNamed, List.mem_filter]

theorem insertUserRoles_ok {userId : Uuid} {names : List String} {db db' : Db}
    (h : insertUserRoles userId names db = .ok db') :
    ∃ added, db' = { db with userHasRoles := db.userHasRoles ++ added } ∧
      (∀ uhr, uhr ∈ added ↔ uhr ∉ db.userHasRoles ∧ uhr.userId = userId ∧
        ∃ r ∈ rolesNamed db names, r.id = uhr.roleId) ∧
      (added ≠ [] → userId ∈ db.users.map (·.id)) ∧
      (((rolesNamed db names).map (·.id)).Nodup → added.Nodup) := by
  obtain ⟨_, -, h⟩ := ok_of_bind_ok h
  dsimp only at h
  split at h
  · cases h
  next hchecked =>
    cases h
    refine ⟨_, rfl, fun uhr => ?_, fun hne => ?_, fun hnd => ?_⟩
    · obtain ⟨userId', roleId⟩ := uhr
      simp only [List.mem_filter, List.mem_map, Bool.not_eq_true', List.contains_eq_mem,
        decide_eq_false_iff_not, UserHasRoleRow.mk.injEq]
      constructor
      · rintro ⟨⟨r, hr, rfl, hid⟩, hnew⟩
        exact ⟨hnew, rfl, r, hr, hid⟩
      · rintro ⟨hnew, rfl, r, hr, hid⟩
        exact ⟨⟨r, hr, rfl, hid⟩, hnew⟩
    · by_contra hnone
      exact hchecked ⟨hne, by simpa using hnone⟩
    · refine List.Nodup.filter _ (List.Nodup.of_map (·.roleId) ?_)
      rw [List.map_map]
      exact hnd

/-- A role statement whose names can be sent goes through for a user that exists. -/
theorem insertUserRoles_of_bound {userId : Uuid} {names : List String} {db : Db}
    (huser : userId ∈ db.users.map (·.id)) (h : names.forM bindText = .ok ()) :
    ∃ added, insertUserRoles userId names db =
      .ok { db with userHasRoles := db.userHasRoles ++ added } := by
  have hfk : ∀ added : List UserHasRoleRow,
      ¬ (added ≠ [] ∧ ¬ (db.users.map (·.id)).contains userId = true) := fun _ hmissing =>
    hmissing.2 (List.contains_iff_mem.2 huser)
  unfold insertUserRoles
  rw [h]
  exact ⟨_, if_neg (hfk _)⟩

theorem deleteUserRoles_of_bound {userId : Uuid} {names : List String} {db : Db}
    (h : names.forM bindText = .ok ()) :
    ∃ kept, deleteUserRoles userId names db = .ok { db with userHasRoles := kept } := by
  unfold deleteUserRoles
  rw [h]
  exact ⟨_, rfl⟩

theorem deleteUserRoles_ok {userId : Uuid} {names : List String} {db db' : Db}
    (h : deleteUserRoles userId names db = .ok db') :
    ∃ kept, db' = { db with userHasRoles := kept } ∧ kept.Sublist db.userHasRoles ∧
      ∀ uhr, uhr ∈ kept ↔ uhr ∈ db.userHasRoles ∧
        ¬ (uhr.userId = userId ∧ ∃ r ∈ rolesNamed db names, r.id = uhr.roleId) := by
  obtain ⟨_, -, h⟩ := ok_of_bind_ok h
  cases h
  refine ⟨_, rfl, List.filter_sublist, fun uhr => ?_⟩
  simp [mem_deleteWhere]

end ApiStarter.Iam
