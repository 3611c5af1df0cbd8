import ApiStarter.Module.Iam.StoredTexts
import ApiStarter.Provider.SampleEnv
import ApiStarter.Provider.Transaction

/-
  What `UserServiceImpl::partial_update` does to the database.

  `PayloadApplied` states the effect of a payload: column by column on the addressed row (each
  text as its `VARCHAR` column holds it), as a set of roles on the role table, and nothing
  anywhere else. The method either ends in a value
  and has exactly this effect, or ends in an error and has none, whichever of its statements
  fails (`partialUpdate_exact`).
-/

namespace ApiStarter.Iam

open ApiStarter.Auth ApiStarter.Database ApiStarter.Effect ApiStarter.Effect.Fallible
  ApiStarter.Errdef ApiStarter.Provider ApiStarter.Relational

/-! ## The effect of a payload -/

/-- `hash` is a hash of the password, and absent exactly when the password is. -/
def Hashed (env : Env) : Option String → Option String → Prop
  | none, hash => hash = none
  | some password, hash => ∃ salt h, env.crypto.bcryptHash salt password = .ok h ∧ hash = some h

/-- The row after the columns of the payload, whose password is already hashed. -/
def updatedRow (fields : UpdateUser) (row : UserRow) : UserRow :=
  { row with
    avatarId := fields.avatarId.getD row.avatarId
    firstName := fields.firstName.getD row.firstName
    lastName := fields.lastName.getD row.lastName
    email := fields.email.getD row.email
    departmentId := fields.departmentId.getD row.departmentId
    statusId := (fields.status.bind UserStatus.idOf).getD row.statusId
    password := fields.password.getD row.password }

/-- The payload with each text as its column holds it. -/
def fitted (fields : UpdateUser) : UpdateUser :=
  { fields with
    avatarId := fields.avatarId.map (cut 255)
    firstName := fields.firstName.map (cut 100)
    lastName := fields.lastName.map (cut 100)
    email := fields.email.map (cut 100)
    password := fields.password.map (cut 255) }

/-- The roles a payload names, to be added or to be removed. -/
def UpdateUser.roleNames (fields : UpdateUser) : List String :=
  fields.addRoles.getD [] ++ fields.removeRoles.getD []

/-- A role of the database that the list names. -/
def Named (db : Db) (names : Option (List String)) (roleId : Int) : Prop :=
  ∃ r ∈ db.roles, r.id = roleId ∧ r.name ∈ names.getD []

theorem named_some {db : Db} {names : List String} {roleId : Int} :
    Named db (some names) roleId ↔ ∃ r ∈ rolesNamed db names, r.id = roleId := by
  constructor
  · rintro ⟨r, hr, hid, hname⟩
    exact ⟨r, mem_rolesNamed.2 ⟨hr, hname⟩, hid⟩
  · rintro ⟨r, hr, hid⟩
    exact ⟨r, (mem_rolesNamed.1 hr).1, hid, (mem_rolesNamed.1 hr).2⟩

structure PayloadApplied (env : Env) (userId : Uuid) (fields : UpdateUser) (db db' : Db) :
    Prop where
  exists_row : ∃ row ∈ db.users, row.id = userId
  /-- A status in the payload has an id, the one that is written. -/
  status_known : ∀ status, fields.status = some status → (UserStatus.idOf status).isSome
  /-- What a column does not hold of its text is blank. -/
  texts : fields.TextsStore
  users : ∃ hash, Hashed env fields.password hash ∧ (∀ value ∈ hash, Stores 255 value) ∧
    db'.users = updateWhere (fun row => row.id == userId)
      (updatedRow (fitted { fields with password := hash })) db.users
  /-- The roles of the user: the old ones and those to add, without those to remove. -/
  roles_self : ∀ roleId, ⟨userId, roleId⟩ ∈ db'.userHasRoles ↔
    (⟨userId, roleId⟩ ∈ db.userHasRoles ∨ Named db fields.addRoles roleId) ∧
      ¬ Named db fields.removeRoles roleId
  roles_other : ∀ id roleId, id ≠ userId →
    (⟨id, roleId⟩ ∈ db'.userHasRoles ↔ ⟨id, roleId⟩ ∈ db.userHasRoles)
  rest : db' = { db with users := db'.users, userHasRoles := db'.userHasRoles }

/-! ## The assignments -/

theorem updatedRow_of_noColumnChanges {fields : UpdateUser}
    (h : fields.hasNoColumnChanges = true) (row : UserRow) : updatedRow fields row = row := by
  simp only [UpdateUser.hasNoColumnChanges, Bool.and_eq_true, Option.isNone_iff_eq_none] at h
  obtain ⟨⟨⟨⟨⟨⟨ha, hf⟩, hl⟩, he⟩, hd⟩, hs⟩, hp⟩ := h
  simp [updatedRow, ha, hf, hl, he, hd, hs, hp]

theorem applyAll_append (sets sets' : List SetClause) (row : UserRow) :
    SetClause.applyAll (sets ++ sets') row =
      SetClause.applyAll sets' (SetClause.applyAll sets row) :=
  List.foldl_append

/-- An optional assignment writes its column, or writes back what was there. -/
theorem applyAll_optional {α : Type} {c : α → SetClause} {g : UserRow → α}
    {p : α → UserRow → UserRow} (hset : ∀ v row, SetClause.apply row (c v) = p v row)
    (hput : ∀ row, p (g row) row = row) (o : Option α) (row : UserRow) :
    SetClause.applyAll (o.map c).toList row = p (o.getD (g row)) row := by
  cases o with
  | none => exact (hput row).symm
  | some v => exact hset v row

/-- The columns of a payload as assignments, in the order they are pushed. -/
def assignments (fields : UpdateUser) : List SetClause :=
  (fields.avatarId.map SetClause.avatarId).toList ++
    (fields.firstName.map SetClause.firstName).toList ++
    (fields.lastName.map SetClause.lastName).toList ++
    (fields.email.map SetClause.email).toList ++
    (fields.departmentId.map SetClause.departmentId).toList ++
    ((fields.status.bind UserStatus.idOf).map SetClause.statusId).toList ++
    (fields.password.map SetClause.password).toList

/-- The password of a payload is its last assignment, and there is no other. -/
theorem password_mem_assignments {fields : UpdateUser} {value : String} :
    SetClause.password value ∈ assignments fields ↔ fields.password = some value := by
  simp only [assignments, List.mem_append, Option.mem_toList, Option.map_eq_some_iff,
    reduceCtorEq, and_false, exists_false, false_or, SetClause.password.injEq, exists_eq_right]

/-- The texts of a payload are those of its assignments. -/
theorem textStores_assignments {fields : UpdateUser} :
    (∀ set ∈ assignments fields, set.TextStores) ↔
      fields.TextsStore ∧ ∀ value ∈ fields.password, Stores 255 value := by
  constructor
  · intro h
    refine ⟨⟨fun value hvalue => ?_, fun value hvalue => ?_, fun value hvalue => ?_,
      fun value hvalue => ?_⟩, fun value hvalue => ?_⟩
    · exact h (.avatarId value) (by simp [assignments, Option.mem_def.mp hvalue])
    · exact h (.firstName value) (by simp [assignments, Option.mem_def.mp hvalue])
    · exact h (.lastName value) (by simp [assignments, Option.mem_def.mp hvalue])
    · exact h (.email value) (by simp [assignments, Option.mem_def.mp hvalue])
    · exact h (.password value) (by simp [assignments, Option.mem_def.mp hvalue])
  · intro h set hset
    simp only [assignments, List.mem_append, Option.mem_toList, Option.map_eq_some_iff] at hset
    obtain (((((⟨value, hvalue, rfl⟩ | ⟨value, hvalue, rfl⟩) | ⟨value, hvalue, rfl⟩) |
      ⟨value, hvalue, rfl⟩) | ⟨_, -, rfl⟩) | ⟨_, -, rfl⟩) | ⟨value, hvalue, rfl⟩ := hset
    · exact h.1.avatarId value hvalue
    · exact h.1.firstName value hvalue
    · exact h.1.lastName value hvalue
    · exact h.1.email value hvalue
    · trivial
    · trivial
    · exact h.2 value hvalue

/-- The status a payload names has an id, and the statement is built from the columns of the
    payload. -/
theorem setClauses_ok {fields : UpdateUser} {sets : List SetClause}
    (h : PgUserRepository.setClauses fields = .ok sets) :
    (∀ status, fields.status = some status → (UserStatus.idOf status).isSome) ∧
      sets = assignments fields := by
  unfold PgUserRepository.setClauses at h
  cases hstatus : fields.status with
  | none =>
    rw [hstatus] at h
    cases h
    refine ⟨by simp, ?_⟩
    simp only [assignments, hstatus, Option.bind_none, Option.map_none, Option.toList_none]
  | some status =>
    simp only [hstatus] at h
    cases hid : UserStatus.idOf status with
    | none => rw [hid] at h; cases h
    | some statusId =>
      rw [hid] at h
      cases h
      refine ⟨fun status' h' => ?_, ?_⟩
      · cases h'
        rw [hid]
        rfl
      · simp only [assignments, hstatus, Option.bind_some, hid, Option.map_some, Option.toList_some]

theorem map_fitted_optional {α : Type} {c : α → SetClause} {f : α → α}
    (hc : ∀ v, (c v).fitted = c (f v)) (o : Option α) :
    (o.map c).toList.map SetClause.fitted = ((o.map f).map c).toList := by
  cases o with
  | none => rfl
  | some v => exact congrArg (fun set => [set]) (hc v)

theorem map_fitted_assignments (fields : UpdateUser) :
    (assignments fields).map SetClause.fitted = assignments (fitted fields) := by
  simp only [assignments, fitted, List.map_append]
  rw [map_fitted_optional (c := .avatarId) (f := cut 255) (fun _ => rfl),
    map_fitted_optional (c := .firstName) (f := cut 100) (fun _ => rfl),
    map_fitted_optional (c := .lastName) (f := cut 100) (fun _ => rfl),
    map_fitted_optional (c := .email) (f := cut 100) (fun _ => rfl),
    map_fitted_optional (c := .departmentId) (f := id) (fun _ => rfl),
    map_fitted_optional (c := .statusId) (f := id) (fun _ => rfl),
    map_fitted_optional (c := .password) (f := cut 255) (fun _ => rfl)]
  simp only [Option.map_id, id_eq]

/-- The assignments the builder emits are the columns of the payload. -/
theorem applyAll_assignments (fields : UpdateUser) (row : UserRow) :
    SetClause.applyAll (assignments fields) row = updatedRow fields row := by
  simp only [assignments, applyAll_append]
  rw [applyAll_optional (c := .avatarId) (g := (·.avatarId))
      (p := fun v row => { row with avatarId := v }) (fun _ _ => rfl) (fun _ => rfl),
    applyAll_optional (c := .firstName) (g := (·.firstName))
      (p := fun v row => { row with firstName := v }) (fun _ _ => rfl) (fun _ => rfl),
    applyAll_optional (c := .lastName) (g := (·.lastName))
      (p := fun v row => { row with lastName := v }) (fun _ _ => rfl) (fun _ => rfl),
    applyAll_optional (c := .email) (g := (·.email))
      (p := fun v row => { row with email := v }) (fun _ _ => rfl) (fun _ => rfl),
    applyAll_optional (c := .departmentId) (g := (·.departmentId))
      (p := fun v row => { row with departmentId := v }) (fun _ _ => rfl) (fun _ => rfl),
    applyAll_optional (c := .statusId) (g := (·.statusId))
      (p := fun v row => { row with statusId := v }) (fun _ _ => rfl) (fun _ => rfl),
    applyAll_optional (c := .password) (g := (·.password))
      (p := fun v row => { row with password := v }) (fun _ _ => rfl) (fun _ => rfl)]
  rfl

/-- What the statement the builder emits stores. -/
theorem applyAll_setClauses {fields : UpdateUser} {sets : List SetClause}
    (h : PgUserRepository.setClauses fields = .ok sets) :
    SetClause.applyAll (sets.map SetClause.fitted) = updatedRow (fitted fields) := by
  rw [(setClauses_ok h).2, map_fitted_assignments]
  exact funext fun row => applyAll_assignments _ row

/-! ## The three statements of the transaction -/

section

variable {env : Env} {faults : Faults} {w w' : World} {db : Db} {userId : Uuid}

theorem updateWhere_self {α : Type} {p : α → Bool} {f : α → α} (hf : ∀ x, f x = x)
    (xs : List α) : updateWhere p f xs = xs := by
  simp [updateWhere, hf]

theorem columns_ok (hpg : env.pg.RejectsLonger) {fields : UpdateUser} (htx : w.tx = some db)
    (h : runE (exec env faults) (PgUserRepository.partialUpdate userId fields) w =
      (some (.ok ()), w')) :
    (∀ status, fields.status = some status → (UserStatus.idOf status).isSome) ∧
      (fields.TextsStore ∧ ∀ value ∈ fields.password, Stores 255 value) ∧
      w'.tx = some { db with
        users := updateWhere (fun row => row.id == userId) (updatedRow (fitted fields)) db.users } := by
  unfold PgUserRepository.partialUpdate at h
  split at h
  next hnone =>
    cases h
    have hfitted : (fitted fields).hasNoColumnChanges = true := by
      rw [← hnone]
      simp only [UpdateUser.hasNoColumnChanges, fitted, Option.isNone_map]
    rw [updateWhere_self (updatedRow_of_noColumnChanges hfitted)]
    simp only [UpdateUser.hasNoColumnChanges, Bool.and_eq_true, Option.isNone_iff_eq_none] at hnone
    exact ⟨by simp [hnone], ⟨by constructor <;> simp [hnone], by simp [hnone]⟩, htx⟩
  next =>
    obtain ⟨sets, w₁, hbuilt, hsent⟩ := runE_bind_ok h
    obtain ⟨hsets, rfl⟩ := runE_mapErr_ok hbuilt
    obtain ⟨hok, rfl⟩ := runE_mapErr_ok (runE_ask_ok hsent)
    obtain ⟨db', hdb', hw'⟩ := executeInTx_ok htx hok
    obtain ⟨db'', hupdate, heq⟩ := ok_of_map_ok hdb'
    cases heq
    obtain ⟨-, -, rfl⟩ := writeUsers_ok (updateUser_ok hpg hupdate)
    refine ⟨(setClauses_ok hsets).1, ?_, ?_⟩
    · rw [← textStores_assignments, ← (setClauses_ok hsets).2]
      exact updateUser_textStores hpg hupdate
    rw [show (exec env faults (.updateUser sets userId) w₁).2 = _ from hw',
      applyAll_setClauses hsets]

/-- The rows that are added: one for each named role the user does not have yet. -/
theorem addUserRoles_added {names : List String} (htx : w.tx = some db)
    (h : runE (exec env faults) (PgUserRepository.addUserRoles userId names) w =
      (some (.ok ()), w')) :
    ∃ added, w'.tx = some { db with userHasRoles := db.userHasRoles ++ added } ∧
      (∀ uhr, uhr ∈ added ↔ uhr ∉ db.userHasRoles ∧ uhr.userId = userId ∧
        Named db (some names) uhr.roleId) ∧
      (((rolesNamed db names).map (·.id)).Nodup → added.Nodup) := by
  unfold PgUserRepository.addUserRoles at h
  split at h
  next hempty =>
    cases h
    rw [List.isEmpty_iff] at hempty
    refine ⟨[], by rw [htx, List.append_nil], ?_, fun _ => List.nodup_nil⟩
    simp [Named, hempty]
  next =>
    obtain ⟨hok, rfl⟩ := runE_mapErr_ok (runE_ask_ok h)
    obtain ⟨db', hdb', hw'⟩ := executeInTx_ok htx hok
    obtain ⟨db'', hinsert, heq⟩ := ok_of_map_ok hdb'
    cases heq
    obtain ⟨added, rfl, hadded, -, hnodup⟩ := insertUserRoles_ok hinsert
    refine ⟨added, congrArg World.tx hw', fun uhr => ?_, hnodup⟩
    rw [hadded, named_some]

theorem addUserRoles_ok {names : List String} (htx : w.tx = some db)
    (h : runE (exec env faults) (PgUserRepository.addUserRoles userId names) w =
      (some (.ok ()), w')) :
    ∃ rows, w'.tx = some { db with userHasRoles := rows } ∧ ∀ id roleId, ⟨id, roleId⟩ ∈ rows ↔
      ⟨id, roleId⟩ ∈ db.userHasRoles ∨ id = userId ∧ Named db (some names) roleId := by
  obtain ⟨added, htx', hadded, -⟩ := addUserRoles_added htx h
  refine ⟨_, htx', fun id roleId => ?_⟩
  rw [List.mem_append, hadded]
  constructor
  · rintro (hold | ⟨-, hnew⟩)
    · exact .inl hold
    · exact .inr hnew
  · rintro (hold | hnew)
    · exact .inl hold
    · by_cases hold : (⟨id, roleId⟩ : UserHasRoleRow) ∈ db.userHasRoles
      · exact .inl hold
      · exact .inr ⟨hold, hnew⟩

theorem removeUserRoles_ok {names : List String} (htx : w.tx = some db)
    (h : runE (exec env faults) (PgUserRepository.removeUserRoles userId names) w =
      (some (.ok ()), w')) :
    ∃ rows, w'.tx = some { db with userHasRoles := rows } ∧ ∀ id roleId, ⟨id, roleId⟩ ∈ rows ↔
      ⟨id, roleId⟩ ∈ db.userHasRoles ∧ ¬ (id = userId ∧ Named db (some names) roleId) := by
  unfold PgUserRepository.removeUserRoles at h
  split at h
  next hempty =>
    cases h
    rw [List.isEmpty_iff] at hempty
    exact ⟨db.userHasRoles, htx, by simp [Named, hempty]⟩
  next =>
    obtain ⟨hok, rfl⟩ := runE_mapErr_ok (runE_ask_ok h)
    obtain ⟨db', hdb', hw'⟩ := executeInTx_ok htx hok
    obtain ⟨db'', hdelete, heq⟩ := ok_of_map_ok hdb'
    cases heq
    obtain ⟨kept, rfl, -, hkept⟩ := deleteUserRoles_ok hdelete
    refine ⟨_, congrArg World.tx hw', fun id roleId => ?_⟩
    rw [hkept, named_some]

/-- What the body of the transaction leaves in its copy of the database. -/
theorem applyUpdate_ok (hpg : env.pg.RejectsLonger) {fields : UpdateUser} (htx : w.tx = some db)
    (h : runE (exec env faults) (UserServiceImpl.applyUpdate userId fields) w =
      (some (.ok ()), w')) :
    (∀ status, fields.status = some status → (UserStatus.idOf status).isSome) ∧
      (fields.TextsStore ∧ ∀ value ∈ fields.password, Stores 255 value) ∧
      ∃ rows, w'.tx = some { db with
          users := updateWhere (fun row => row.id == userId) (updatedRow (fitted fields)) db.users
          userHasRoles := rows } ∧
        ∀ id roleId, ⟨id, roleId⟩ ∈ rows ↔
          (⟨id, roleId⟩ ∈ db.userHasRoles ∨ id = userId ∧ Named db fields.addRoles roleId) ∧
            ¬ (id = userId ∧ Named db fields.removeRoles roleId) := by
  have hnamed : ∀ roleId, ¬ Named db none roleId := by simp [Named]
  rw [UserServiceImpl.applyUpdate_eq] at h
  obtain ⟨_, w₁, hcolumns, hroles⟩ := runE_bind_ok h
  obtain ⟨hstatus, htexts, htx₁⟩ := columns_ok hpg htx (runE_mapErrOf_ok hcolumns)
  refine ⟨hstatus, htexts, ?_⟩
  -- The roles to remove, from any copy that differs from `db` in these two tables.
  have hremove : ∀ {rows w₂}, w₂.tx = some { db with
        users := updateWhere (fun row => row.id == userId) (updatedRow (fitted fields)) db.users
        userHasRoles := rows } →
      runE (exec env faults) (fields.removeRoles.elim (pure ()) fun roles =>
        mapErrOf UserServiceImpl.mapDomainError
          (PgUserRepository.removeUserRoles userId roles)) w₂ =
        (some (.ok ()), w') →
      ∃ rows', w'.tx = some { db with
          users := updateWhere (fun row => row.id == userId) (updatedRow (fitted fields)) db.users
          userHasRoles := rows' } ∧
        ∀ id roleId, ⟨id, roleId⟩ ∈ rows' ↔ ⟨id, roleId⟩ ∈ rows ∧
          ¬ (id = userId ∧ Named db fields.removeRoles roleId) := by
    intro rows w₂ htx₂ hrun
    cases hnames : fields.removeRoles with
    | none =>
      rw [hnames] at hrun
      cases hrun
      exact ⟨rows, htx₂, by simp [hnamed]⟩
    | some names =>
      rw [hnames] at hrun
      exact removeUserRoles_ok htx₂ (runE_mapErrOf_ok hrun)
  cases hnames : fields.addRoles with
  | none =>
    rw [hnames] at hroles
    obtain ⟨rows, htx', hrows⟩ := hremove htx₁ hroles
    exact ⟨rows, htx', by simpa [hnamed] using hrows⟩
  | some names =>
    rw [hnames] at hroles
    obtain ⟨_, w₂, hadd, hrest⟩ := runE_bind_ok hroles
    obtain ⟨added, htx₂, hadded⟩ := addUserRoles_ok htx₁ (runE_mapErrOf_ok hadd)
    obtain ⟨rows, htx', hrows⟩ := hremove htx₂ hrest
    refine ⟨rows, htx', fun id roleId => ?_⟩
    rw [hrows, hadded]
    rfl

/-! ## Before the transaction -/

theorem requireUser_ok {user : User}
    (h : runE (exec env faults) (UserServiceImpl.requireUser userId) w = (some (.ok user), w')) :
    ∃ row ∈ w.db.users, row.id = userId := by
  obtain ⟨found, w₁, hfind, hsome⟩ := runE_bind_ok h
  obtain ⟨rfl, rfl⟩ := runE_okOr_ok hsome
  obtain ⟨row, w₂, hrow, hhydrate⟩ := runE_bind_ok (runE_ask_ok (runE_mapErrOf_ok hfind))
  obtain ⟨hok, rfl⟩ := runE_mapErr_ok hrow
  cases row with
  | none => cases hhydrate
  | some joined =>
    have hjoined : selectUserById w.db userId = some joined := Except.ok.inj (query_ok hok)
    have hmem : joined ∈ joinedUsers w.db := List.mem_of_find?_eq_some hjoined
    have hid : joined.user.id = userId := by simpa using List.find?_some hjoined
    refine ⟨joined.user, ?_, hid⟩
    simp only [joinedUsers, List.mem_map] at hmem
    obtain ⟨⟨⟨⟨u, s⟩, d⟩, c⟩, hmem, rfl⟩ := hmem
    exact (mem_innerJoin.1 (mem_innerJoin.1 (mem_innerJoin.1 hmem).1).1).1

theorem withHashedPassword_ok {fields fields' : UpdateUser}
    (h : runE (exec env faults) (UserServiceImpl.withHashedPassword env fields) w =
      (some (.ok fields'), w')) :
    ∃ hash, Hashed env fields.password hash ∧ fields' = { fields with password := hash } ∧
      w'.db = w.db := by
  unfold UserServiceImpl.withHashedPassword at h
  cases hpassword : fields.password with
  | none =>
    rw [hpassword] at h
    cases h
    exact ⟨none, rfl, by rw [← hpassword], rfl⟩
  | some password =>
    rw [hpassword] at h
    obtain ⟨_, w₁, hchecked, hrest⟩ := runE_bind_ok h
    obtain ⟨-, rfl⟩ := runE_mapErr_ok hchecked
    obtain ⟨hashed, w₂, hhash, hreturn⟩ := runE_bind_ok hrest
    obtain ⟨hok, rfl⟩ := runE_mapErr_ok (runE_ask_ok hhash)
    cases hreturn
    exact ⟨some hashed, ⟨_, hashed, hok, rfl⟩, rfl, rfl⟩

/-! ## The method -/

theorem partialUpdate_ok (hpg : env.pg.RejectsLonger) {fields : UpdateUser}
    (h : runE (exec env faults) (UserServiceImpl.partialUpdate env userId fields) w =
      (some (.ok ()), w')) : PayloadApplied env userId fields w.db w'.db := by
  obtain ⟨user, w₁, hrequire, h₁⟩ := runE_bind_ok h
  have hdb₁ : w₁.db = w.db :=
    runE_keepsCommitted (usesE_requireUser keepsCommitted_of_reads userId) hrequire
  obtain ⟨fields', w₂, hhash, h₂⟩ := runE_bind_ok h₁
  obtain ⟨hash, hhashed, rfl, hdb₂⟩ := withHashedPassword_ok hhash
  obtain ⟨w₃, hbody, rfl⟩ := inTransaction_ok h₂
  have htx : w₂.begun.tx = some w.db := by rw [World.begun, hdb₂, hdb₁]
  obtain ⟨hstatus, ⟨htexts, hstored⟩, rows, htx₃, hrows⟩ := applyUpdate_ok hpg htx hbody
  exact {
    exists_row := requireUser_ok hrequire
    status_known := hstatus
    texts := { htexts with }
    users := ⟨hash, hhashed, hstored, by simp only [htx₃, Option.getD_some]⟩
    roles_self := fun roleId => by simp only [htx₃, Option.getD_some, hrows, true_and]
    roles_other := fun id roleId hne => by
      simp only [htx₃, Option.getD_some, hrows, hne, false_and, or_false, not_false_eq_true,
        and_true]
    rest := by simp only [htx₃, Option.getD_some] }

theorem partialUpdate_failed {fields : UpdateUser} {outcome : Option (Except Error Unit)}
    (hfailed : Failed outcome)
    (h : runE (exec env faults) (UserServiceImpl.partialUpdate env userId fields) w =
      (outcome, w')) : w'.db = w.db := by
  have hrequired := usesE_requireUser keepsCommitted_of_reads userId
  have hhashed := usesE_withHashedPassword keepsCommitted_of_reads env fields
  obtain ⟨first, -, hrun⟩ | ⟨user, w₁, hrun, h⟩ := runE_bind_cases h
  · exact runE_keepsCommitted hrequired hrun
  rw [← show w₁.db = w.db from runE_keepsCommitted hrequired hrun]
  obtain ⟨first, -, hrun⟩ | ⟨fields', w₂, hrun, h⟩ := runE_bind_cases h
  · exact runE_keepsCommitted hhashed hrun
  rw [← show w₂.db = w₁.db from runE_keepsCommitted hhashed hrun]
  exact inTransaction_failed
    (usesE_applyUpdate (fun _ _ => trivial) (fun _ _ => trivial) fun _ _ => trivial) hfailed h

/-- A payload is applied exactly, or not at all. -/
theorem partialUpdate_exact (hpg : env.pg.RejectsLonger) (faults : Faults) (userId : Uuid)
    (fields : UpdateUser) (w : World) :
    (∀ w', runE (exec env faults) (UserServiceImpl.partialUpdate env userId fields) w =
        (some (.ok ()), w') → PayloadApplied env userId fields w.db w'.db) ∧
      ∀ e w', runE (exec env faults) (UserServiceImpl.partialUpdate env userId fields) w =
        (some (.error e), w') → w'.db = w.db :=
  ⟨fun _ h => partialUpdate_ok hpg h, fun e _ h => partialUpdate_failed (failed_error e) h⟩

/-- A soft delete keeps the row and changes its status only. -/
theorem delete_ok (hpg : env.pg.RejectsLonger)
    (h : runE (exec env faults) (UserServiceImpl.delete userId) w = (some (.ok ()), w')) :
    (∃ row ∈ w.db.users, row.id = userId) ∧
      w'.db = { w.db with
        users := updateWhere (fun row => row.id == userId)
          (fun row => { row with statusId := deletedUserStatus }) w.db.users } := by
  obtain ⟨user, w₁, hrequire, htransaction⟩ := runE_bind_ok h
  have hdb₁ : w₁.db = w.db :=
    runE_keepsCommitted (usesE_requireUser keepsCommitted_of_reads userId) hrequire
  obtain ⟨w₂, hbody, rfl⟩ := inTransaction_ok htransaction
  obtain ⟨hok, rfl⟩ := runE_mapErr_ok (runE_ask_ok (runE_mapErrOf_ok hbody))
  have htx : w₁.begun.tx = some w.db := by rw [World.begun, hdb₁]
  obtain ⟨db', hdb', hw₂⟩ := executeInTx_ok htx hok
  obtain ⟨db'', hupdate, heq⟩ := ok_of_map_ok hdb'
  cases heq
  obtain ⟨-, -, rfl⟩ := writeUsers_ok (updateUser_ok hpg hupdate)
  refine ⟨requireUser_ok hrequire, ?_⟩
  rw [show (exec env faults (.updateUser [.statusId deletedUserStatus] userId) w₁.begun).2 = _
    from hw₂]
  rfl

end

/-- Columns and roles at once, with a role that does not exist and one that is both added and
    removed. -/
def samplePayload : UpdateUser :=
  { UpdateUser.default with
    status := some "Deleted"
    password := some "Str0ng-Pass"
    addRoles := some ["Staff", "Nobody", "Developer"]
    removeRoles := some ["Admin", "Developer"] }

theorem partialUpdate_exact_sample :
    PayloadApplied sampleEnv sampleAdmin samplePayload sampleWorld.db
      (runE (exec sampleEnv Faults.none)
        (UserServiceImpl.partialUpdate sampleEnv sampleAdmin samplePayload) sampleWorld).2.db :=
  (partialUpdate_exact samplePostgres_rejectsLonger Faults.none sampleAdmin samplePayload
    sampleWorld).1 _ (Prod.ext (by decide) rfl)

/-- A hundred letters and a blank, one character more than a name column holds. -/
def paddedName : String := String.ofList (List.replicate 100 'a' ++ [' '])

def paddedPayload : UpdateUser := { UpdateUser.default with firstName := some paddedName }

/-- A blank too many is dropped, without an error. -/
theorem padded_name_is_cut : samplePostgres.RejectsLonger ∧
    (runE (exec sampleEnv Faults.none)
      (UserServiceImpl.partialUpdate sampleEnv sampleAdmin paddedPayload) sampleWorld).1 =
        some (.ok ()) ∧
    ∀ row ∈ (runE (exec sampleEnv Faults.none)
      (UserServiceImpl.partialUpdate sampleEnv sampleAdmin paddedPayload) sampleWorld).2.db.users,
        row.id = sampleAdmin → row.firstName ≠ paddedName :=
  ⟨samplePostgres_rejectsLonger, by decide +kernel, by decide +kernel⟩

end ApiStarter.Iam
