import ApiStarter.Database.Refusal
import ApiStarter.Module.Iam.UpdateWrites

/-
  What each statement on users answers, for every input.

  `Takes` covers the texts. What is left are the keys of `iam.users`: a statement that would
  double one is answered with the unique violation, and one that would leave a reference without
  its row with the foreign key violation, in this order.
-/

namespace ApiStarter.Iam

open ApiStarter.Database ApiStarter.Provider ApiStarter.Relational

theorem updateError_of_refused {err : SqlxError} (h : Refused err) :
    PgUserRepository.updateError err = .database err := by
  unfold PgUserRepository.updateError
  obtain hcode | hcode := h <;> rw [hcode] <;> rfl

theorem createError_of_refused {err : SqlxError} (h : Refused err) :
    PgUserRepository.createError err = .database err := by
  unfold PgUserRepository.createError PgError.is
  obtain hcode | hcode := h <;> rw [hcode] <;> rfl

/-! ## `INSERT INTO iam.users` -/

section

variable {pg : Postgres} {db : Db}

/-- Another user has the name or the address, as their columns hold them. -/
def NameTaken (db : Db) (user : CreateUser) : Prop :=
  ∃ u ∈ db.users, u.userName = cut 100 user.userName ∨ u.email = cut 100 user.email

/-- The rows that a user refers to. -/
def Referenced (db : Db) (statusId departmentId : Int) : Prop :=
  statusId ∈ db.userStatuses.map (·.id) ∧ departmentId ∈ db.departments.map (·.id)

/-- What writing the rows answers: the keys are checked first, and the references after them. -/
theorem writeUsers_answer {rows : List UserRow} {Taken Refers : Prop}
    (hunique : uniqueUsers rows = true ↔ ¬ Taken)
    (hreferenced : referencedUsers db rows = true ↔ Refers) :
    (Taken → writeUsers db rows = .error uniqueError) ∧
    (¬ Taken → ¬ Refers → writeUsers db rows = .error foreignKeyError) ∧
    (¬ Taken → Refers → writeUsers db rows = .ok { db with users := rows }) := by
  unfold writeUsers
  refine ⟨fun htaken => ?_, fun hnew hmissing => ?_, fun hnew hrefs => ?_⟩
  · rw [if_neg (fun h => hunique.mp h htaken)]
  · rw [if_pos (hunique.mpr hnew), if_neg (mt hreferenced.mp hmissing)]
  · rw [if_pos (hunique.mpr hnew), if_pos (hreferenced.mpr hrefs)]

theorem uniqueUsers_concat (hdb : db.Admissible) {row : UserRow}
    (hfresh : row.id ∉ db.users.map (·.id)) : uniqueUsers (db.users ++ [row]) = true ↔
      ¬ ∃ u ∈ db.users, u.userName = row.userName ∨ u.email = row.email := by
  simp only [uniqueUsers, Bool.and_eq_true, decide_eq_true_eq, nodup_map_concat hdb.userIds,
    nodup_map_concat hdb.userNames, nodup_map_concat hdb.userEmails]
  constructor
  · intro hall hclash
    obtain ⟨u, hu, hname | hemail⟩ := hclash
    · exact hall.1.2 u hu hname
    · exact hall.2 u hu hemail
  · intro hnone
    exact ⟨⟨fun u hu hid => hfresh (hid ▸ List.mem_map_of_mem hu),
      fun u hu hname => hnone ⟨u, hu, .inl hname⟩⟩, fun u hu hemail => hnone ⟨u, hu, .inr hemail⟩⟩

theorem referencedUsers_concat (hdb : db.Admissible) {row : UserRow} :
    referencedUsers db (db.users ++ [row]) = true ↔
      Referenced db row.statusId row.departmentId := by
  have hall := (usersOk_of_admissible hdb).referenced
  unfold referencedUsers at hall ⊢
  rw [List.all_append, hall, Bool.true_and, List.all_cons, List.all_nil, Bool.and_true,
    Bool.and_eq_true, List.contains_iff_mem, List.contains_iff_mem, Referenced]

/-- What an `INSERT` of texts that store answers. -/
theorem insertUser_stored (hpg : pg.RejectsLonger) (hdb : db.Admissible) {newId : Uuid}
    (hfresh : newId ∉ db.users.map (·.id)) {user : CreateUser} (h : user.TextsStore) :
    (NameTaken db user → insertUser pg newId user db = .error uniqueError) ∧
    (¬ NameTaken db user → ¬ Referenced db user.status user.departmentId →
      insertUser pg newId user db = .error foreignKeyError) ∧
    (¬ NameTaken db user → Referenced db user.status user.departmentId →
      insertUser pg newId user db =
        .ok (newId, { db with users := db.users ++ [insertedRow newId user] })) := by
  obtain ⟨htaken, hmissing, hdone⟩ := writeUsers_answer
    (show uniqueUsers (db.users ++ [insertedRow newId user]) = true ↔ ¬ NameTaken db user from
      uniqueUsers_concat hdb hfresh)
    (show referencedUsers db (db.users ++ [insertedRow newId user]) = true ↔
      Referenced db user.status user.departmentId from referencedUsers_concat hdb)
  rw [insertUser_eq, (takes_storedRow hpg newId user).taken h]
  show (_ → (writeUsers _ _).map _ = _) ∧ (_ → _ → (writeUsers _ _).map _ = _) ∧
    (_ → _ → (writeUsers _ _).map _ = _)
  refine ⟨fun hold => ?_, fun hnew habsent => ?_, fun hnew hrefs => ?_⟩
  · rw [htaken hold]
    rfl
  · rw [hmissing hnew habsent]
    rfl
  · rw [hdone hnew hrefs]
    rfl

/-! ## `UPDATE iam.users` -/

/-- Another user has the address of the payload, as its column holds it. -/
def AddressTaken (db : Db) (userId : Uuid) (fields : UpdateUser) : Prop :=
  ∃ email ∈ fields.email, ∃ u ∈ db.users, u.id ≠ userId ∧ u.email = cut 100 email

/-- The rows that the payload refers to. -/
structure RefersToRows (db : Db) (fields : UpdateUser) : Prop where
  status : ∀ status ∈ fields.status, ∀ id ∈ UserStatus.idOf status,
    id ∈ db.userStatuses.map (·.id)
  department : ∀ id ∈ fields.departmentId, id ∈ db.departments.map (·.id)

theorem uniqueUsers_updated (hdb : db.Admissible) {u : UserRow} (hu : u ∈ db.users)
    (fields : UpdateUser) :
    uniqueUsers (updateWhere (fun row => row.id == u.id) (updatedRow (fitted fields)) db.users) =
      true ↔ ¬ AddressTaken db u.id fields := by
  have hids := @map_updateWhere _ _ (fun row : UserRow => row.id == u.id)
    (updatedRow (fitted fields)) (·.id) (fun _ => rfl) db.users
  have huserNames := @map_updateWhere _ _ (fun row : UserRow => row.id == u.id)
    (updatedRow (fitted fields)) (·.userName) (fun _ => rfl) db.users
  simp only [uniqueUsers, hids, huserNames, hdb.userIds, hdb.userNames, decide_true, Bool.true_and,
    decide_eq_true_eq]
  cases hemail : fields.email with
  | none =>
    have hsame : ∀ row, (updatedRow (fitted fields) row).email = row.email := fun row => by
      simp [updatedRow, fitted, hemail]
    rw [map_updateWhere hsame]
    simp [hdb.userEmails, AddressTaken, hemail]
  | some email =>
    have hmap : (updateWhere (fun row => row.id == u.id) (updatedRow (fitted fields))
        db.users).map (·.email) =
          db.users.map fun row => if row.id = u.id then cut 100 email else row.email := by
      rw [updateWhere, List.map_map]
      refine List.map_congr_left fun row _ => ?_
      by_cases hid : row.id = u.id
      · simp [hid, updatedRow, fitted, hemail]
      · simp [hid]
    rw [hmap, nodup_map_rewritten hdb.userIds hdb.userEmails hu]
    simp [AddressTaken, hemail]

theorem referencedUsers_updated (hdb : db.Admissible) {u : UserRow} (hu : u ∈ db.users)
    (fields : UpdateUser) :
    referencedUsers db
        (updateWhere (fun row => row.id == u.id) (updatedRow (fitted fields)) db.users) = true ↔
      RefersToRows db fields := by
  have hrow : ∀ row, (updatedRow (fitted fields) row).statusId =
      (fields.status.bind UserStatus.idOf).getD row.statusId ∧
        (updatedRow (fitted fields) row).departmentId = fields.departmentId.getD row.departmentId :=
    fun _ => ⟨rfl, rfl⟩
  simp only [referencedUsers, List.all_eq_true, mem_updateWhere, Bool.and_eq_true,
    List.contains_iff_mem]
  constructor
  · intro hall
    have hself := hall (updatedRow (fitted fields) u) ⟨u, hu, by simp⟩
    rw [(hrow u).1, (hrow u).2] at hself
    constructor
    · intro status hstatus id hid
      simpa [Option.mem_def.mp hstatus, Option.mem_def.mp hid] using hself.1
    · intro id hid
      simpa [Option.mem_def.mp hid] using hself.2
  · intro hrefs row hmem
    obtain ⟨old, hold, rfl⟩ := hmem
    have hkept := (usersOk_of_admissible hdb).references hold
    split
    · rw [(hrow old).1, (hrow old).2]
      refine ⟨?_, ?_⟩
      · cases hstatus : fields.status.bind UserStatus.idOf with
        | none => exact hkept.1
        | some id =>
          obtain ⟨status, hsome, hid⟩ := Option.bind_eq_some_iff.mp hstatus
          exact hrefs.status status hsome id hid
      · cases hdepartment : fields.departmentId with
        | none => exact hkept.2
        | some id => exact hrefs.department id hdepartment
    · exact hkept

/-- What an `UPDATE` of texts that store answers. -/
theorem updateUser_stored (hpg : pg.RejectsLonger) (hdb : db.Admissible) {u : UserRow}
    (hu : u ∈ db.users) {fields : UpdateUser} {sets : List SetClause}
    (hsets : PgUserRepository.setClauses fields = .ok sets)
    (h : ∀ set ∈ sets, set.TextStores) :
    (AddressTaken db u.id fields → updateUser pg sets u.id db = .error uniqueError) ∧
    (¬ AddressTaken db u.id fields → ¬ RefersToRows db fields →
      updateUser pg sets u.id db = .error foreignKeyError) ∧
    (¬ AddressTaken db u.id fields → RefersToRows db fields →
      ∃ db', updateUser pg sets u.id db = .ok db') := by
  have hrun : updateUser pg sets u.id db = writeUsers db
      (updateWhere (fun row => row.id == u.id) (updatedRow (fitted fields)) db.users) := by
    rw [updateUser, (takes_mapM_stored hpg sets).taken h, ← applyAll_setClauses hsets]
    rfl
  obtain ⟨htaken, hmissing, hdone⟩ :=
    writeUsers_answer (uniqueUsers_updated hdb hu fields) (referencedUsers_updated hdb hu fields)
  rw [hrun]
  exact ⟨htaken, hmissing, fun hnew hrefs => ⟨_, hdone hnew hrefs⟩⟩

/-! ## Role statements -/

theorem insertUserRoles_bound {userId : Uuid} {names : List String}
    (huser : userId ∈ db.users.map (·.id)) (h : ∀ name ∈ names, NulFree name) :
    ∃ added, insertUserRoles userId names db =
      .ok { db with userHasRoles := db.userHasRoles ++ added } :=
  insertUserRoles_of_bound huser ((takes_forM_bindText names).taken h)

theorem deleteUserRoles_bound {userId : Uuid} {names : List String}
    (h : ∀ name ∈ names, NulFree name) :
    ∃ kept, deleteUserRoles userId names db = .ok { db with userHasRoles := kept } :=
  deleteUserRoles_of_bound ((takes_forM_bindText names).taken h)

theorem insertUserRoles_refused {userId : Uuid} {names : List String}
    (h : ¬ ∀ name ∈ names, NulFree name) :
    ∃ err, insertUserRoles userId names db = .error err := by
  obtain ⟨err, herr, -⟩ := (takes_forM_bindText names).refused h
  exact ⟨err, by rw [insertUserRoles, herr]; rfl⟩

theorem deleteUserRoles_refused {userId : Uuid} {names : List String}
    (h : ¬ ∀ name ∈ names, NulFree name) :
    ∃ err, deleteUserRoles userId names db = .error err := by
  obtain ⟨err, herr, -⟩ := (takes_forM_bindText names).refused h
  exact ⟨err, by rw [deleteUserRoles, herr]; rfl⟩

end

end ApiStarter.Iam
