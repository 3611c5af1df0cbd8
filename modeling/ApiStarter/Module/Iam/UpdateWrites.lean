import ApiStarter.Module.Iam.PartialUpdate

/-
  The statements that `partial_update` sends in its transaction.

  `writes` lists the statements of a payload, at most three. `Carried` says what statements do, row
  by row of `iam.users` and key by key of `iam.user_has_roles`, and `Write.carried` that PostgreSQL
  does this. `UsersOk` are the constraints of `iam.users`; where the rows satisfy them after the
  statements, and PostgreSQL can be sent the texts, the statements go through (`foldlM_writes`).
-/

namespace ApiStarter.Iam

open ApiStarter.Auth ApiStarter.Database ApiStarter.Effect ApiStarter.Effect.Fallible
  ApiStarter.Errdef ApiStarter.Provider ApiStarter.Relational

/-! ## The statements of a payload -/

/-- A statement that `partial_update` sends in its transaction. -/
inductive Write where
  | columns (sets : List SetClause)
  | addRoles (names : List String)
  | removeRoles (names : List String)
  deriving DecidableEq, Repr

namespace Write

def run (pg : Postgres) (userId : Uuid) : Write → Db → Except SqlxError Db
  | columns sets => updateUser pg sets userId
  | addRoles names => insertUserRoles userId names
  | removeRoles names => deleteUserRoles userId names

/-- The row of a user after the statement. -/
def row (userId : Uuid) : Write → UserRow → UserRow
  | columns sets, u =>
    if u.id = userId then SetClause.applyAll (sets.map SetClause.fitted) u else u
  | _, u => u

/-- The statement is about this role of this user. -/
def Targets (userId : Uuid) (db : Db) (key : UserHasRoleRow) : Write → Prop
  | columns _ => False
  | addRoles names => key.userId = userId ∧ Named db (some names) key.roleId
  | removeRoles names => key.userId = userId ∧ Named db (some names) key.roleId

/-- The user holds the role after the statement, given that it `held` it before. -/
def holds (userId : Uuid) (db : Db) (key : UserHasRoleRow) (held : Prop) (write : Write) : Prop :=
  match write with
  | columns _ => held
  | addRoles _ => held ∨ write.Targets userId db key
  | removeRoles _ => held ∧ ¬ write.Targets userId db key

/-- A column that no assignment sets stays as it is. -/
theorem column_row {α : Type} {column : UserRow → α}
    (hcolumn : ∀ set u, column (SetClause.apply u set) = column u) (userId : Uuid) (write : Write)
    (u : UserRow) : column (write.row userId u) = column u := by
  cases write with
  | columns sets =>
    simp only [row]
    split
    · exact SetClause.applyAll_inv (fun set _ v hv => (hcolumn set v).trans hv) rfl
    · rfl
  | _ => rfl

theorem row_of_ne {userId : Uuid} {write : Write} {u : UserRow} (h : u.id ≠ userId) :
    write.row userId u = u := by
  cases write with
  | columns sets => exact if_neg h
  | _ => rfl

theorem holds_of_not_targets {userId : Uuid} {db : Db} {key : UserHasRoleRow} {held : Prop}
    {write : Write} (h : ¬ write.Targets userId db key) :
    write.holds userId db key held ↔ held := by
  cases write with
  | columns sets => exact Iff.rfl
  | addRoles names => exact or_iff_left h
  | removeRoles names => exact and_iff_left h

end Write

def rowAfter (userId : Uuid) (ws : List Write) (u : UserRow) : UserRow :=
  ws.foldl (fun u write => write.row userId u) u

def holdsAfter (userId : Uuid) (db : Db) (key : UserHasRoleRow) (ws : List Write) (held : Prop) :
    Prop :=
  ws.foldl (Write.holds userId db key) held

theorem column_rowAfter {α : Type} {column : UserRow → α}
    (hcolumn : ∀ set u, column (SetClause.apply u set) = column u) (userId : Uuid)
    (ws : List Write) (u : UserRow) : column (rowAfter userId ws u) = column u := by
  induction ws generalizing u with
  | nil => rfl
  | cons write ws ih => exact (ih _).trans (write.column_row hcolumn userId u)

@[simp] theorem rowAfter_id (userId : Uuid) (ws : List Write) (u : UserRow) :
    (rowAfter userId ws u).id = u.id :=
  column_rowAfter (fun set _ => by cases set <;> rfl) userId ws u

theorem rowAfter_userName (userId : Uuid) (ws : List Write) (u : UserRow) :
    (rowAfter userId ws u).userName = u.userName :=
  column_rowAfter (fun set _ => by cases set <;> rfl) userId ws u

theorem rowAfter_of_ne {userId : Uuid} (ws : List Write) {u : UserRow} (h : u.id ≠ userId) :
    rowAfter userId ws u = u := by
  induction ws with
  | nil => rfl
  | cons write ws ih =>
    rw [rowAfter, List.foldl_cons, Write.row_of_ne h]
    exact ih

theorem rowAfter_append (userId : Uuid) (ws ws' : List Write) (u : UserRow) :
    rowAfter userId (ws ++ ws') u = rowAfter userId ws' (rowAfter userId ws u) :=
  List.foldl_append

theorem holdsAfter_of_not_targets {userId : Uuid} {db : Db} {key : UserHasRoleRow}
    {ws : List Write} (h : ∀ write ∈ ws, ¬ write.Targets userId db key) {held : Prop} :
    holdsAfter userId db key ws held ↔ held := by
  induction ws generalizing held with
  | nil => exact Iff.rfl
  | cons write ws ih =>
    rw [List.forall_mem_cons] at h
    exact (ih h.2).trans (Write.holds_of_not_targets h.1)

/-- What the statements do for one user, from `db` to `db'`. -/
structure Carried (userId : Uuid) (ws : List Write) (db db' : Db) : Prop where
  users : db'.users = db.users.map (rowAfter userId ws)
  roles : ∀ key, key ∈ db'.userHasRoles ↔ holdsAfter userId db key ws (key ∈ db.userHasRoles)
  rest : db' = { db with users := db'.users, userHasRoles := db'.userHasRoles }

theorem Carried.nil (userId : Uuid) (db : Db) : Carried userId [] db db where
  users := (List.map_id _).symm
  roles _ := Iff.rfl
  rest := rfl

theorem Write.holds_congr {userId : Uuid} {db db' : Db} (h : db'.roles = db.roles)
    (key : UserHasRoleRow) (held : Prop) (write : Write) :
    write.holds userId db' key held ↔ write.holds userId db key held := by
  have hnamed : ∀ names roleId, Named db' names roleId ↔ Named db names roleId := by
    intro names roleId
    rw [Named, h, Named]
  cases write <;> simp only [Write.holds, Write.Targets, hnamed]

theorem holdsAfter_congr {userId : Uuid} {db db' : Db} (h : db'.roles = db.roles)
    {key : UserHasRoleRow} {ws : List Write} {held held' : Prop} (hheld : held ↔ held') :
    holdsAfter userId db' key ws held ↔ holdsAfter userId db key ws held' := by
  rw [propext hheld]
  induction ws generalizing held held' with
  | nil => exact Iff.rfl
  | cons write ws ih =>
    rw [holdsAfter, holdsAfter, List.foldl_cons, List.foldl_cons,
      propext (write.holds_congr h key held')]
    exact ih Iff.rfl

/-- The roles after the statements of one user and then of another, or of the same one. -/
theorem Carried.roles_after {userId userId' : Uuid} {ws ws' : List Write} {db db₁ db₂ : Db}
    (h : Carried userId ws db db₁) (h' : Carried userId' ws' db₁ db₂) (key : UserHasRoleRow) :
    key ∈ db₂.userHasRoles ↔
      holdsAfter userId' db key ws' (holdsAfter userId db key ws (key ∈ db.userHasRoles)) := by
  have hroles : db₁.roles = db.roles := by rw [h.rest]
  rw [h'.roles, holdsAfter_congr hroles (h.roles key)]

theorem Carried.append {userId : Uuid} {ws ws' : List Write} {db db₁ db₂ : Db}
    (h : Carried userId ws db db₁) (h' : Carried userId ws' db₁ db₂) :
    Carried userId (ws ++ ws') db db₂ where
  users := by
    rw [h'.users, h.users, List.map_map]
    exact List.map_congr_left fun u _ => (rowAfter_append userId ws ws' u).symm
  roles key := by
    rw [h.roles_after h', holdsAfter, holdsAfter, holdsAfter, List.foldl_append]
  rest := by rw [h'.rest, h.rest]

/-- What one statement does. -/
theorem Write.carried {pg : Postgres} (hpg : pg.RejectsLonger) {userId : Uuid} {write : Write}
    {db db' : Db} (h : write.run pg userId db = .ok db') : Carried userId [write] db db' := by
  cases write with
  | columns sets =>
    obtain ⟨-, -, rfl⟩ := writeUsers_ok (updateUser_ok hpg h)
    refine ⟨List.map_congr_left fun u _ => ?_, fun _ => Iff.rfl, rfl⟩
    simp only [rowAfter, List.foldl_cons, List.foldl_nil, Write.row, beq_iff_eq]
  | addRoles names =>
    obtain ⟨added, rfl, hadded, -⟩ := insertUserRoles_ok h
    refine ⟨(List.map_id _).symm, fun key => ?_, rfl⟩
    have hmem : key ∈ db.userHasRoles ++ added ↔
        key ∈ db.userHasRoles ∨ key.userId = userId ∧ Named db (some names) key.roleId := by
      rw [List.mem_append, hadded, named_some]
      tauto
    exact hmem
  | removeRoles names =>
    obtain ⟨kept, rfl, -, hkept⟩ := deleteUserRoles_ok h
    refine ⟨(List.map_id _).symm, fun key => ?_, rfl⟩
    have hmem := hkept key
    rw [← named_some] at hmem
    exact hmem

/-! ### From a payload -/

def columnWrites (fields : UpdateUser) : Except DomainError (List Write) :=
  if fields.hasNoColumnChanges then return []
  else return [.columns (← PgUserRepository.setClauses fields)]

/-- No statement is sent for an empty list. -/
def roleWrites (write : List String → Write) : Option (List String) → List Write
  | none => []
  | some names => if names.isEmpty then [] else [write names]

def writes (fields : UpdateUser) : Except DomainError (List Write) := do
  return (← columnWrites fields) ++ roleWrites .addRoles fields.addRoles ++
    roleWrites .removeRoles fields.removeRoles

theorem writes_ok {fields : UpdateUser} {ws : List Write} (h : writes fields = .ok ws) :
    ∃ columns, columnWrites fields = .ok columns ∧ ws = columns ++
      roleWrites .addRoles fields.addRoles ++ roleWrites .removeRoles fields.removeRoles := by
  obtain ⟨columns, hcolumns, h⟩ := ok_of_bind_ok h
  cases h
  exact ⟨columns, hcolumns, rfl⟩

theorem mem_roleWrites {write : Write} {f : List String → Write} {names : Option (List String)}
    (h : write ∈ roleWrites f names) : ∃ list, names = some list ∧ write = f list := by
  cases names with
  | none => cases h
  | some list =>
    simp only [roleWrites] at h
    split at h
    · cases h
    · exact ⟨list, rfl, List.mem_singleton.1 h⟩

/-- The role statements of a payload leave the rows of the users alone. -/
theorem rowAfter_roleWrites {userId : Uuid} {f : List String → Write}
    (hf : ∀ names u, (f names).row userId u = u) (names : Option (List String)) (u : UserRow) :
    rowAfter userId (roleWrites f names) u = u := by
  cases names with
  | none => rfl
  | some list =>
    simp only [roleWrites]
    split
    · rfl
    · exact hf list u

/-- The row of the user after the statements of a payload. -/
theorem rowAfter_writes {fields : UpdateUser} {ws : List Write} (h : writes fields = .ok ws)
    (userId : Uuid) (u : UserRow) :
    rowAfter userId ws u = if u.id = userId then updatedRow (fitted fields) u else u := by
  obtain ⟨columns, hcolumns, rfl⟩ := writes_ok h
  rw [rowAfter_append, rowAfter_append, rowAfter_roleWrites (fun _ _ => rfl),
    rowAfter_roleWrites (fun _ _ => rfl)]
  unfold columnWrites at hcolumns
  split at hcolumns
  next hnone =>
    cases hcolumns
    have hfitted : (fitted fields).hasNoColumnChanges = true := by
      rw [← hnone]
      simp only [UpdateUser.hasNoColumnChanges, fitted, Option.isNone_map]
    rw [updatedRow_of_noColumnChanges hfitted, ite_self]
    rfl
  next =>
    obtain ⟨sets, hsets, hcolumns⟩ := ok_of_bind_ok hcolumns
    cases hcolumns
    rw [← applyAll_setClauses hsets]
    rfl

/-- A role that the statements of a payload are about is named in it. -/
theorem named_of_targets {fields : UpdateUser} {ws : List Write} (h : writes fields = .ok ws)
    {userId : Uuid} {db : Db} {key : UserHasRoleRow} {write : Write} (hwrite : write ∈ ws)
    (htargets : write.Targets userId db key) : key.userId = userId ∧
      ∃ name ∈ fields.addRoles.getD [] ++ fields.removeRoles.getD [],
        ∃ r ∈ db.roles, r.id = key.roleId ∧ r.name = name := by
  obtain ⟨columns, hcolumns, rfl⟩ := writes_ok h
  rw [List.mem_append, List.mem_append] at hwrite
  rcases hwrite with (hcolumn | hadd) | hremove
  · unfold columnWrites at hcolumns
    split at hcolumns
    · cases hcolumns
      cases hcolumn
    · obtain ⟨sets, -, hcolumns⟩ := ok_of_bind_ok hcolumns
      cases hcolumns
      rw [List.mem_singleton.1 hcolumn] at htargets
      exact htargets.elim
  · obtain ⟨names, hnames, rfl⟩ := mem_roleWrites hadd
    obtain ⟨huser, r, hr, hid, hname⟩ := htargets
    exact ⟨huser, r.name, List.mem_append_left _ (by rw [hnames]; exact hname), r, hr, hid, rfl⟩
  · obtain ⟨names, hnames, rfl⟩ := mem_roleWrites hremove
    obtain ⟨huser, r, hr, hid, hname⟩ := htargets
    exact ⟨huser, r.name, List.mem_append_right _ (by rw [hnames]; exact hname), r, hr, hid, rfl⟩

/-! ## The constraints -/

/-- The constraints on `iam.users` hold. -/
structure UsersOk (db : Db) : Prop where
  unique : uniqueUsers db.users = true
  referenced : referencedUsers db db.users = true

theorem usersOk_of_admissible {db : Db} (h : db.Admissible) : UsersOk db where
  unique := by
    simp only [uniqueUsers, Bool.and_eq_true, decide_eq_true_eq]
    exact ⟨⟨h.userIds, h.userNames⟩, h.userEmails⟩
  referenced := by
    refine List.all_eq_true.2 fun u hu => ?_
    simp only [Bool.and_eq_true, List.contains_iff_mem]
    exact ⟨h.userStatus u hu, h.userDepartment u hu⟩

theorem UsersOk.ids {db : Db} (h : UsersOk db) : (db.users.map (·.id)).Nodup := by
  have hunique := h.unique
  simp only [uniqueUsers, Bool.and_eq_true, decide_eq_true_eq] at hunique
  exact hunique.1.1

theorem UsersOk.emails {db : Db} (h : UsersOk db) : (db.users.map (·.email)).Nodup := by
  have hunique := h.unique
  simp only [uniqueUsers, Bool.and_eq_true, decide_eq_true_eq] at hunique
  exact hunique.2

theorem UsersOk.userNames {db : Db} (h : UsersOk db) : (db.users.map (·.userName)).Nodup := by
  have hunique := h.unique
  simp only [uniqueUsers, Bool.and_eq_true, decide_eq_true_eq] at hunique
  exact hunique.1.2

theorem UsersOk.references {db : Db} (h : UsersOk db) {u : UserRow} (hu : u ∈ db.users) :
    u.statusId ∈ db.userStatuses.map (·.id) ∧ u.departmentId ∈ db.departments.map (·.id) := by
  have hu := List.all_eq_true.1 h.referenced u hu
  simpa only [Bool.and_eq_true, List.contains_iff_mem] using hu

theorem usersOk_of {db : Db} (hids : (db.users.map (·.id)).Nodup)
    (huserNames : (db.users.map (·.userName)).Nodup) (hemails : (db.users.map (·.email)).Nodup)
    (hreferences : ∀ u ∈ db.users, u.statusId ∈ db.userStatuses.map (·.id) ∧
      u.departmentId ∈ db.departments.map (·.id)) : UsersOk db where
  unique := by
    simp only [uniqueUsers, Bool.and_eq_true, decide_eq_true_eq]
    exact ⟨⟨hids, huserNames⟩, hemails⟩
  referenced := by
    refine List.all_eq_true.2 fun u hu => ?_
    simpa only [Bool.and_eq_true, List.contains_iff_mem] using hreferences u hu

theorem usersOk_congr {db db' : Db} (h : UsersOk db) (husers : db'.users = db.users)
    (hstatuses : db'.userStatuses = db.userStatuses)
    (hdepartments : db'.departments = db.departments) : UsersOk db' where
  unique := by rw [husers]; exact h.unique
  referenced := by
    unfold referencedUsers
    rw [husers, hstatuses, hdepartments]
    exact h.referenced

theorem usersOk_of_run {pg : Postgres} (hpg : pg.RejectsLonger) {userId : Uuid} {write : Write}
    {db db' : Db} (h : write.run pg userId db = .ok db') (hdb : UsersOk db) : UsersOk db' := by
  cases write with
  | columns sets =>
    obtain ⟨hunique, hreferenced, rfl⟩ := writeUsers_ok (updateUser_ok hpg h)
    exact ⟨hunique, hreferenced⟩
  | addRoles names =>
    obtain ⟨added, rfl, -⟩ := insertUserRoles_ok h
    exact ⟨hdb.unique, hdb.referenced⟩
  | removeRoles names =>
    obtain ⟨kept, rfl, -⟩ := deleteUserRoles_ok h
    exact ⟨hdb.unique, hdb.referenced⟩

/-- PostgreSQL can be sent the statement, and its texts fit their columns. -/
def Write.Sendable (pg : Postgres) : Write → Prop
  | columns sets => ∃ stored, sets.mapM (SetClause.stored pg) = .ok stored
  | addRoles names => names.forM bindText = .ok ()
  | removeRoles names => names.forM bindText = .ok ()

theorem Write.sendable_of_run {pg : Postgres} {userId : Uuid} {write : Write} {db db' : Db}
    (h : write.run pg userId db = .ok db') : write.Sendable pg := by
  cases write with
  | columns sets =>
    obtain ⟨stored, hstored, -⟩ := ok_of_bind_ok h
    exact ⟨stored, hstored⟩
  | addRoles names =>
    obtain ⟨_, hbound, -⟩ := ok_of_bind_ok h
    exact hbound
  | removeRoles names =>
    obtain ⟨_, hbound, -⟩ := ok_of_bind_ok h
    exact hbound

theorem Write.run_of_sendable {pg : Postgres} (hpg : pg.RejectsLonger) {userId : Uuid}
    {write : Write} {db : Db} (h : write.Sendable pg) (huser : userId ∈ db.users.map (·.id))
    (husers : UsersOk { db with users := db.users.map (write.row userId) }) :
    ∃ db', write.run pg userId db = .ok db' := by
  cases write with
  | columns sets =>
    obtain ⟨stored, hstored⟩ := h
    have hrows : updateWhere (fun u => u.id == userId) (fun u => stored.foldl SetClause.apply u)
        db.users = db.users.map (Write.row userId (.columns sets)) := by
      rw [SetClause.mapM_stored_eq_of_ok hpg hstored]
      refine List.map_congr_left fun u _ => ?_
      simp only [Write.row, SetClause.applyAll, beq_iff_eq]
    refine ⟨{ db with users := db.users.map (Write.row userId (.columns sets)) }, ?_⟩
    change updateUser pg sets userId db = _
    unfold updateUser
    rw [hstored]
    change writeUsers db _ = _
    rw [hrows, writeUsers, if_pos husers.unique, if_pos (show referencedUsers db _ = true from
      husers.referenced)]
  | addRoles names =>
    obtain ⟨added, hrun⟩ := insertUserRoles_of_bound huser h
    exact ⟨_, hrun⟩
  | removeRoles names =>
    obtain ⟨kept, hrun⟩ := @deleteUserRoles_of_bound userId _ db h
    exact ⟨_, hrun⟩

/-! ## When the statements go through -/

section

variable {pg : Postgres} {userId : Uuid} {hashed : UpdateUser} {db db' : Db}

theorem ids_of_run (hpg : pg.RejectsLonger) {write : Write}
    (h : write.run pg userId db = .ok db') : db'.users.map (·.id) = db.users.map (·.id) := by
  rw [(Write.carried hpg h).users, List.map_map]
  exact List.map_congr_left fun u _ => rowAfter_id userId [write] u

/-- Statements about roles go through wherever the user exists. -/
theorem foldlM_roleWrites (hpg : pg.RejectsLonger) {ws : List Write}
    (hrow : ∀ write ∈ ws, ∀ u, write.row userId u = u)
    (hsend : ∀ write ∈ ws, write.Sendable pg) (huser : userId ∈ db.users.map (·.id))
    (hdb : UsersOk db) :
    ∃ db', ws.foldlM (fun db write => write.run pg userId db) db = .ok db' := by
  induction ws generalizing db with
  | nil => exact ⟨db, rfl⟩
  | cons write ws ih =>
    rw [List.forall_mem_cons] at hrow hsend
    have hsame : db.users.map (write.row userId) = db.users :=
      (List.map_congr_left fun u _ => hrow.1 u).trans (List.map_id _)
    obtain ⟨db₁, hrun⟩ := Write.run_of_sendable hpg hsend.1 huser (by rw [hsame]; exact hdb)
    obtain ⟨db', hrest⟩ := ih hrow.2 hsend.2 (by rwa [ids_of_run hpg hrun])
      (usersOk_of_run hpg hrun hdb)
    refine ⟨db', ?_⟩
    rw [List.foldlM_cons, hrun]
    exact hrest

/-- The statements of a payload go through where they leave the users in order. -/
theorem foldlM_writes (hpg : pg.RejectsLonger) {ws : List Write}
    (hwrites : writes hashed = .ok ws) (hsend : ∀ write ∈ ws, write.Sendable pg)
    (huser : userId ∈ db.users.map (·.id)) (hdb : UsersOk db)
    (husers : UsersOk { db with users := db.users.map (rowAfter userId ws) }) :
    ∃ db', ws.foldlM (fun db write => write.run pg userId db) db = .ok db' := by
  obtain ⟨columns, hcolumns, rfl⟩ := writes_ok hwrites
  have hroles : ∀ write ∈ roleWrites .addRoles hashed.addRoles ++
      roleWrites .removeRoles hashed.removeRoles, ∀ u, write.row userId u = u := by
    intro write hwrite u
    rcases List.mem_append.1 hwrite with hadd | hremove
    · obtain ⟨names, -, rfl⟩ := mem_roleWrites hadd
      rfl
    · obtain ⟨names, -, rfl⟩ := mem_roleWrites hremove
      rfl
  rw [List.append_assoc] at hsend husers ⊢
  have hsendRoles := fun write hwrite => hsend write (List.mem_append_right columns hwrite)
  unfold columnWrites at hcolumns
  split at hcolumns
  · cases hcolumns
    exact foldlM_roleWrites hpg hroles hsendRoles huser hdb
  · obtain ⟨sets, -, hcolumns⟩ := ok_of_bind_ok hcolumns
    cases hcolumns
    have hrows : ∀ u, rowAfter userId ([Write.columns sets] ++
        (roleWrites .addRoles hashed.addRoles ++ roleWrites .removeRoles hashed.removeRoles)) u =
          Write.row userId (.columns sets) u := by
      intro u
      rw [rowAfter_append, rowAfter_append, rowAfter_roleWrites (fun _ _ => rfl),
        rowAfter_roleWrites (fun _ _ => rfl)]
      rfl
    rw [funext hrows] at husers
    obtain ⟨db₁, hrun⟩ := Write.run_of_sendable hpg (hsend _ (by simp)) huser husers
    obtain ⟨db', hrest⟩ := foldlM_roleWrites hpg hroles hsendRoles
      (by rwa [ids_of_run hpg hrun]) (usersOk_of_run hpg hrun hdb)
    refine ⟨db', ?_⟩
    rw [List.foldlM_append, List.foldlM_cons, hrun]
    exact hrest

end

end ApiStarter.Iam
