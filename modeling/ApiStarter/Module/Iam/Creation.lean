import ApiStarter.Module.Iam.PartialUpdate

/-
  What `UserServiceImpl::create` does to the database.

  `UserCreated` states the effect: one new row under an id no user had, the roles of the
  payload for that id, and nothing anywhere else. A call that does not return an id has none.
-/

namespace ApiStarter.Iam

open ApiStarter.Database ApiStarter.Effect ApiStarter.Effect.Fallible ApiStarter.Errdef
  ApiStarter.Provider

/-- The row of a new user, with the password already hashed. -/
def createdRow (userId : Uuid) (newUser : CreateUser) (hash : String) : UserRow :=
  insertedRow userId { newUser with password := hash, status := activeUserStatus }

structure UserCreated (env : Env) (newUser : CreateUser) (userId : Uuid) (db db' : Db) : Prop where
  fresh : userId ∉ db.users.map (·.id)
  /-- Of a text that is too long for its column, only blanks are lost. -/
  users : ∃ salt hash, env.crypto.bcryptHash salt newUser.password = .ok hash ∧
    CreateUser.TextsStore { newUser with password := hash } ∧
    db'.users = db.users ++ [createdRow userId newUser hash]
  roles : ∀ id roleId, ⟨id, roleId⟩ ∈ db'.userHasRoles ↔
    ⟨id, roleId⟩ ∈ db.userHasRoles ∨ id = userId ∧ Named db (some newUser.roles) roleId
  rest : db' = { db with users := db'.users, userHasRoles := db'.userHasRoles }

/-- The role rows are the old ones and one row for each existing role that is named, however
    often it is. -/
def RolesAssigned (userId : Uuid) (names : List String) (db db' : Db) : Prop :=
  ∃ roleIds : List Int, roleIds.Nodup ∧
    (∀ roleId, roleId ∈ roleIds ↔ Named db (some names) roleId) ∧
    db'.userHasRoles = db.userHasRoles ++ roleIds.map (UserHasRoleRow.mk userId)

section

variable {env : Env} {faults : Faults} {w w' : World} {db : Db} {userId : Uuid}

theorem hashPassword_ok {password hash : String}
    (h : runE (exec env faults) (Crypto.hashPassword env password) w = (some (.ok hash), w')) :
    (∃ salt, env.crypto.bcryptHash salt password = .ok hash) ∧ w'.db = w.db := by
  obtain ⟨hok, rfl⟩ := runE_mapErr_ok (runE_ask_ok h)
  exact ⟨⟨_, hok⟩, rfl⟩

/-- The new row is under an id no user had, since the primary key admits it. -/
theorem insertUser_fresh (hpg : env.pg.RejectsLonger) {newId : Uuid} {user : CreateUser}
    {db' : Db} (h : insertUser env.pg newId user db = .ok (userId, db')) :
    userId ∉ db.users.map (·.id) := by
  obtain ⟨rfl, hw⟩ := insertUser_ok hpg h
  obtain ⟨hunique, -, -⟩ := writeUsers_ok hw
  simp only [uniqueUsers, Bool.and_eq_true, decide_eq_true_eq, List.map_append] at hunique
  have hdisjoint := (List.nodup_append'.1 hunique.1.1).2.2
  exact fun hmem => hdisjoint hmem List.mem_cons_self

/-- What the repository leaves in the copy of the transaction. -/
theorem repositoryCreate_ok (hpg : env.pg.RejectsLonger) {user : CreateUser}
    (htx : w.tx = some db)
    (h : runE (exec env faults) (PgUserRepository.create user) w = (some (.ok userId), w')) :
    userId ∉ db.users.map (·.id) ∧ user.TextsStore ∧ ∃ added, w'.tx = some { db with
        users := db.users ++ [insertedRow userId user]
        userHasRoles := db.userHasRoles ++ added } ∧
      (∀ uhr, uhr ∈ added ↔ uhr ∉ db.userHasRoles ∧ uhr.userId = userId ∧
        Named db (some user.roles) uhr.roleId) ∧
      (((rolesNamed db user.roles).map (·.id)).Nodup → added.Nodup) := by
  obtain ⟨newId, w₁, hinsert, hrest⟩ := runE_bind_ok (runE_ask_ok h)
  obtain ⟨hok, rfl⟩ := runE_mapErr_ok hinsert
  obtain ⟨db₁, hdb₁, hw₁⟩ := executeInTx_ok
    (show ({ w with idsDrawn := w.idsDrawn + 1 } : World).tx = some db from htx) hok
  obtain ⟨_, w₂, hadd, hreturn⟩ := runE_bind_ok hrest
  cases hreturn
  have hfresh := insertUser_fresh hpg hdb₁
  obtain ⟨-, hw⟩ := insertUser_ok hpg hdb₁
  obtain ⟨-, -, rfl⟩ := writeUsers_ok hw
  obtain ⟨added, htx₂, hadded, hnodup⟩ := addUserRoles_added (congrArg World.tx hw₁) hadd
  obtain ⟨rfl, -⟩ := insertUser_ok hpg hdb₁
  exact ⟨hfresh, insertUser_textsStore hpg hdb₁, added, htx₂, hadded, hnodup⟩

theorem create_ok (hpg : env.pg.RejectsLonger) {newUser : CreateUser}
    (h : runE (exec env faults) (UserServiceImpl.create env newUser) w =
      (some (.ok userId), w')) : UserCreated env newUser userId w.db w'.db ∧
    (w.db.Admissible → RolesAssigned userId newUser.roles w.db w'.db) := by
  obtain ⟨hash, w₁, hhash, h⟩ := runE_bind_ok h
  obtain ⟨⟨salt, hsalt⟩, hdb₁⟩ := hashPassword_ok hhash
  obtain ⟨w₂, hbody, rfl⟩ := inTransaction_ok h
  have htx : w₁.begun.tx = some w.db := by rw [World.begun, hdb₁]
  obtain ⟨hfresh, htexts, added, htx₂, hadded, hnodup⟩ :=
    repositoryCreate_ok hpg htx (runE_mapErrOf_ok hbody)
  refine ⟨?_, fun hdb => ?_⟩
  · exact {
      fresh := hfresh
      users := ⟨salt, hash, hsalt, { htexts with }, by simp only [htx₂, Option.getD_some]; rfl⟩
      roles := fun id roleId => by
        simp only [htx₂, Option.getD_some, List.mem_append, hadded]
        by_cases hold : (⟨id, roleId⟩ : UserHasRoleRow) ∈ w.db.userHasRoles
        · simp [hold]
        · simp [hold]
      rest := by simp only [htx₂, Option.getD_some] }
  · -- The foreign key keeps role rows of an id without a user away.
    have hnone : ∀ roleId, (⟨userId, roleId⟩ : UserHasRoleRow) ∉ w.db.userHasRoles :=
      fun roleId hold => hfresh (hdb.userRoleUser _ hold)
    have hids : ((rolesNamed w.db newUser.roles).map (·.id)).Nodup :=
      hdb.roleIds.sublist (List.filter_sublist.map _)
    have hown : ∀ uhr ∈ added, UserHasRoleRow.mk userId uhr.roleId = uhr := fun uhr huhr => by
      rw [← ((hadded uhr).1 huhr).2.1]
    have hrows : (added.map (·.roleId)).map (UserHasRoleRow.mk userId) = added := by
      rw [List.map_map]
      exact (List.map_congr_left hown).trans (List.map_id added)
    refine ⟨added.map (·.roleId), ?_, fun roleId => ?_, ?_⟩
    · refine List.Nodup.of_map (UserHasRoleRow.mk userId) ?_
      rw [hrows]
      exact hnodup hids
    · rw [List.mem_map]
      constructor
      · rintro ⟨uhr, huhr, rfl⟩
        exact ((hadded uhr).1 huhr).2.2
      · intro hnamed
        exact ⟨⟨userId, roleId⟩, (hadded _).2 ⟨hnone roleId, rfl, hnamed⟩, rfl⟩
    · simp only [htx₂, Option.getD_some, hrows]

theorem create_failed {newUser : CreateUser} {outcome : Option (Except Error Uuid)}
    (hfailed : Failed outcome)
    (h : runE (exec env faults) (UserServiceImpl.create env newUser) w = (outcome, w')) :
    w'.db = w.db := by
  have hhashed := usesE_hashPassword keepsCommitted_of_reads env newUser.password
  obtain ⟨first, -, hrun⟩ | ⟨hash, w₁, hrun, h⟩ := runE_bind_cases h
  · exact runE_keepsCommitted hhashed hrun
  rw [← show w₁.db = w.db from runE_keepsCommitted hhashed hrun]
  refine inTransaction_failed (UsesE.mapErrOf ?_) hfailed h
  refine (usesE_ask (by trivial)).bind fun _ => (usesE_mapErr _ _).bind fun userId => ?_
  exact (usesE_addUserRoles userId (by trivial)).bind fun _ => usesE_pure _

end

/-- A user is created exactly, or not at all. -/
theorem create_exact {env : Env} (hpg : env.pg.RejectsLonger) (faults : Faults)
    (newUser : CreateUser) {w : World} (hdb : w.db.Admissible) :
    (∀ userId w', runE (exec env faults) (UserServiceImpl.create env newUser) w =
        (some (.ok userId), w') → UserCreated env newUser userId w.db w'.db ∧
          RolesAssigned userId newUser.roles w.db w'.db) ∧
      ∀ e w', runE (exec env faults) (UserServiceImpl.create env newUser) w =
        (some (.error e), w') → w'.db = w.db :=
  ⟨fun _ _ h => ⟨(create_ok hpg h).1, (create_ok hpg h).2 hdb⟩,
    fun e _ h => create_failed (failed_error e) h⟩

/-- A user with a role named twice and one that does not exist. -/
def sampleNewUser : CreateUser :=
  { sampleUser "ada" "ada@example.com" with
    status := deletedUserStatus, roles := ["Staff", "Nobody", "Staff"] }

theorem create_exact_sample :
    UserCreated sampleEnv sampleNewUser 2 sampleWorld.db
      (runE (exec sampleEnv Faults.none)
        (UserServiceImpl.create sampleEnv sampleNewUser) sampleWorld).2.db ∧
    RolesAssigned 2 sampleNewUser.roles sampleWorld.db
      (runE (exec sampleEnv Faults.none)
        (UserServiceImpl.create sampleEnv sampleNewUser) sampleWorld).2.db :=
  (create_exact samplePostgres_rejectsLonger Faults.none sampleNewUser
    (Db.admissible_seed sampleAdmin)).1 2 _ (Prod.ext (by decide) rfl)

/-- A user name with a blank too many is stored without it. -/
theorem padded_user_is_cut : samplePostgres.RejectsLonger ∧ sampleWorld.db.Admissible ∧
    (runE (exec sampleEnv Faults.none)
      (UserServiceImpl.create sampleEnv (sampleUser paddedName "ada@example.com"))
        sampleWorld).1 = some (.ok 2) ∧
    ∀ row ∈ (runE (exec sampleEnv Faults.none)
      (UserServiceImpl.create sampleEnv (sampleUser paddedName "ada@example.com"))
        sampleWorld).2.db.users, row.userName ≠ paddedName :=
  ⟨samplePostgres_rejectsLonger, Db.admissible_seed sampleAdmin, by decide +kernel,
    by decide +kernel⟩

end ApiStarter.Iam
