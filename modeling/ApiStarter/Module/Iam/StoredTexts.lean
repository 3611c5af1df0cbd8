import ApiStarter.Database.Refusal
import ApiStarter.Module.Iam.Statement

/-
  The texts that `iam.users` takes.

  A statement goes on to the keys of the table only if every text it carries goes into its column,
  as it is or without blanks at its end, and is refused otherwise (`insertUser_refused`,
  `updateUser_refused`). So a statement that went through has lost blanks only.
-/

namespace ApiStarter.Iam

open ApiStarter.Database

/-- Every text of the user goes into its column. -/
structure CreateUser.TextsStore (user : CreateUser) : Prop where
  userName : Stores 100 user.userName
  avatarId : Stores 255 user.avatarId
  email : Stores 100 user.email
  password : Stores 255 user.password
  firstName : Stores 100 user.firstName
  lastName : Stores 100 user.lastName

/-- The texts of the payload that are stored as they come go into their columns. -/
structure UpdateUser.TextsStore (fields : UpdateUser) : Prop where
  avatarId : ∀ value ∈ fields.avatarId, Stores 255 value
  firstName : ∀ value ∈ fields.firstName, Stores 100 value
  lastName : ∀ value ∈ fields.lastName, Stores 100 value
  email : ∀ value ∈ fields.email, Stores 100 value

/-- The text of an assignment goes into its column. -/
def SetClause.TextStores : SetClause → Prop
  | avatarId value => Stores 255 value
  | firstName value => Stores 100 value
  | lastName value => Stores 100 value
  | email value => Stores 100 value
  | departmentId _ => True
  | statusId _ => True
  | password value => Stores 255 value

section

variable {pg : Postgres} {db : Db}

/-! ## `INSERT INTO iam.users` -/

/-- The row an `INSERT` builds, before it is written. -/
def storedRow (pg : Postgres) (newId : Uuid) (user : CreateUser) : Except SqlxError UserRow := do
  return {
    id := newId
    userName := ← pg.store 100 user.userName
    avatarId := ← pg.store 255 user.avatarId
    email := ← pg.store 100 user.email
    password := ← pg.store 255 user.password
    firstName := ← pg.store 100 user.firstName
    lastName := ← pg.store 100 user.lastName
    statusId := user.status
    departmentId := user.departmentId }

theorem insertUser_eq (newId : Uuid) (user : CreateUser) : insertUser pg newId user db =
    storedRow pg newId user >>= fun row =>
      (writeUsers db (db.users ++ [row])).map fun db' => (newId, db') := by
  simp only [insertUser, storedRow, bind_assoc, pure_bind]
  rfl

theorem takes_storedRow (hpg : pg.RejectsLonger) (newId : Uuid) (user : CreateUser) :
    Takes user.TextsStore (storedRow pg newId user) (insertedRow newId user) := by
  have hstore := Postgres.takes_store hpg
  refine Takes.congr ((hstore 100 user.userName).bind ((hstore 255 user.avatarId).bind
    ((hstore 100 user.email).bind ((hstore 255 user.password).bind
      ((hstore 100 user.firstName).bind ((hstore 100 user.lastName).bind (Takes.pure _))))))) ?_
  constructor
  · intro h
    exact ⟨h.1, h.2.1, h.2.2.1, h.2.2.2.1, h.2.2.2.2.1, h.2.2.2.2.2.1⟩
  · intro h
    exact ⟨h.userName, h.avatarId, h.email, h.password, h.firstName, h.lastName, trivial⟩

theorem insertUser_refused (hpg : pg.RejectsLonger) {newId : Uuid} {user : CreateUser}
    (h : ¬ user.TextsStore) : ∃ err, insertUser pg newId user db = .error err ∧ Refused err := by
  obtain ⟨err, herr, hrefused⟩ := (takes_storedRow hpg newId user).refused h
  exact ⟨err, by rw [insertUser_eq, herr]; rfl, hrefused⟩

theorem insertUser_textsStore (hpg : pg.RejectsLonger) {newId userId : Uuid} {user : CreateUser}
    {db' : Db} (h : insertUser pg newId user db = .ok (userId, db')) : user.TextsStore := by
  by_contra hrefused
  obtain ⟨err, herr, -⟩ := insertUser_refused hpg hrefused
  cases herr.symm.trans h

/-! ## `UPDATE iam.users` -/

theorem takes_stored (hpg : pg.RejectsLonger) (set : SetClause) :
    Takes set.TextStores (set.stored pg) set.fitted := by
  have htext : ∀ n s (c : String → SetClause),
      Takes (Stores n s) (do return c (← pg.store n s)) (c (cut n s)) := fun n s c =>
    Takes.congr ((Postgres.takes_store hpg n s).bind (Takes.pure _)) (and_iff_left trivial)
  cases set with
  | avatarId value => exact htext 255 value _
  | firstName value => exact htext 100 value _
  | lastName value => exact htext 100 value _
  | email value => exact htext 100 value _
  | departmentId value => exact Takes.pure _
  | statusId value => exact Takes.pure _
  | password value => exact htext 255 value _

theorem takes_mapM_stored (hpg : pg.RejectsLonger) (sets : List SetClause) :
    Takes (∀ set ∈ sets, set.TextStores) (sets.mapM (SetClause.stored pg))
      (sets.map SetClause.fitted) := by
  induction sets with
  | nil => exact (Takes.pure _).congr (by simp)
  | cons set sets ih =>
    rw [List.mapM_cons]
    refine Takes.congr ((takes_stored hpg set).bind (ih.bind (Takes.pure _))) ?_
    rw [List.forall_mem_cons, and_iff_left trivial]

theorem updateUser_refused (hpg : pg.RejectsLonger) {sets : List SetClause} {userId : Uuid}
    (h : ¬ ∀ set ∈ sets, set.TextStores) :
    ∃ err, updateUser pg sets userId db = .error err ∧ Refused err := by
  obtain ⟨err, herr, hrefused⟩ := (takes_mapM_stored hpg sets).refused h
  exact ⟨err, by rw [updateUser, herr]; rfl, hrefused⟩

theorem updateUser_textStores (hpg : pg.RejectsLonger) {sets : List SetClause} {userId : Uuid}
    {db' : Db} (h : updateUser pg sets userId db = .ok db') : ∀ set ∈ sets, set.TextStores := by
  by_contra hrefused
  obtain ⟨err, herr, -⟩ := updateUser_refused hpg hrefused
  cases herr.symm.trans h

end

end ApiStarter.Iam
