import ApiStarter.Module.Iam.Payload
import ApiStarter.Module.Iam.StatementOutcome
import ApiStarter.Module.Iam.UpdateAnswers

/-
  What a create call and a patch call answer, case by case.

  `CreateAnswer` and `PatchAnswer` list every answer of the two calls on a store that responds,
  each with the condition under which it is given (`createAnswer_create`,
  `patchAnswer_partialUpdate`).
-/

namespace ApiStarter.Iam

open ApiStarter.Auth ApiStarter.Database ApiStarter.Effect ApiStarter.Effect.Fallible
  ApiStarter.Errdef ApiStarter.Provider ApiStarter.Relational
open ApiStarter.Iam.Handler (CreateUserRequest)
open UserServiceImpl (mapDomainError)

/-! ## What the create call answers -/

/-- The library hashes every password, into a text for the password column. -/
def HashesStore (env : Env) : Prop :=
  ∀ n password, ∃ hash, env.crypto.bcryptHash (env.salt n) password = .ok hash ∧ Storable 255 hash

/-- The texts of the payload go into their columns. -/
structure Handler.CreateUserRequest.TextsStore (payload : CreateUserRequest) : Prop where
  userName : Stores 100 payload.userName
  avatarId : Stores 255 payload.avatarId
  email : Stores 100 payload.email
  firstName : Stores 100 payload.firstName
  lastName : Stores 100 payload.lastName

/-- What a create call answers, and when. -/
inductive CreateAnswer (db : Db) (payload : CreateUserRequest) : Except Error Uuid → Prop
  | refused (err : SqlxError) (htexts : ¬ payload.TextsStore) :
      CreateAnswer db payload (.error (sqlxUnknown err))
  | taken (htexts : payload.TextsStore) (htaken : NameTaken db payload.toDomain) :
      CreateAnswer db payload (.error (mapDomainError .userDuplicateConstraint))
  | reference (htexts : payload.TextsStore)
      (hnew : ¬ NameTaken db payload.toDomain)
      (hmissing : ¬ Referenced db activeUserStatus payload.department) :
      CreateAnswer db payload (.error (mapDomainError .departmentNotFoundConstraint))
  | roles (err : SqlxError) (hnew : ¬ NameTaken db payload.toDomain)
      (hrefs : Referenced db activeUserStatus payload.department)
      (hroles : ¬ ∀ role ∈ payload.roles, NulFree role) :
      CreateAnswer db payload (.error (sqlxUnknown err))
  | created (id : Uuid) (htexts : payload.TextsStore)
      (hnew : ¬ NameTaken db payload.toDomain)
      (hrefs : Referenced db activeUserStatus payload.department)
      (hroles : ∀ role ∈ payload.roles, NulFree role) : CreateAnswer db payload (.ok id)

section

variable {env : Env} {faults : Faults} {w : World} {db : Db} {userId : Uuid}

/-- The role statement of a payload, which is sent for a list that is not empty. -/
theorem runWrites_roles {f : List String → Write} {names : Option (List String)}
    (hrun : ∀ list, (∀ name ∈ list, NulFree name) → ∃ held,
      (f list).run env.pg userId db = .ok { db with userHasRoles := held })
    (h : ∀ name ∈ names.getD [], NulFree name) : ∃ held,
      runWrites env.pg userId (roleWrites f names) db = .ok { db with userHasRoles := held } := by
  cases names with
  | none => exact ⟨db.userHasRoles, rfl⟩
  | some list =>
    simp only [roleWrites]
    split
    · exact ⟨db.userHasRoles, rfl⟩
    · obtain ⟨held, hlist⟩ := hrun list h
      refine ⟨held, ?_⟩
      rw [runWrites, List.foldlM_cons, hlist]
      rfl

theorem runWrites_roles_refused {f : List String → Write} {names : Option (List String)}
    (hf : ∀ list, (f list).refuse = .database)
    (hrun : ∀ list, (¬ ∀ name ∈ list, NulFree name) → ∃ err,
      (f list).run env.pg userId db = .error err)
    (h : ¬ ∀ name ∈ names.getD [], NulFree name) : ∃ err,
      runWrites env.pg userId (roleWrites f names) db = .error (.database err) := by
  cases names with
  | none => exact absurd (fun _ hmem => nomatch hmem) h
  | some list =>
    simp only [roleWrites]
    split
    next hempty => exact absurd (by simp [List.isEmpty_iff.mp hempty]) h
    next =>
      obtain ⟨err, hlist⟩ := hrun list h
      refine ⟨err, ?_⟩
      rw [runWrites, List.foldlM_cons, hlist, hf]
      rfl

theorem runWrites_addRoles {names : Option (List String)} (huser : userId ∈ db.users.map (·.id))
    (h : ∀ name ∈ names.getD [], NulFree name) : ∃ held,
      runWrites env.pg userId (roleWrites .addRoles names) db =
        .ok { db with userHasRoles := held } :=
  runWrites_roles (fun _ hlist => (insertUserRoles_bound huser hlist).imp' _ fun _ hrun => hrun) h

theorem runWrites_addRoles_refused {names : Option (List String)}
    (h : ¬ ∀ name ∈ names.getD [], NulFree name) : ∃ err,
      runWrites env.pg userId (roleWrites .addRoles names) db = .error (.database err) :=
  runWrites_roles_refused (fun _ => rfl) (fun _ => insertUserRoles_refused) h

theorem runWrites_removeRoles {names : Option (List String)}
    (h : ∀ name ∈ names.getD [], NulFree name) : ∃ held,
      runWrites env.pg userId (roleWrites .removeRoles names) db =
        .ok { db with userHasRoles := held } :=
  runWrites_roles (fun _ => deleteUserRoles_bound) h

theorem runWrites_removeRoles_refused {names : Option (List String)}
    (h : ¬ ∀ name ∈ names.getD [], NulFree name) : ∃ err,
      runWrites env.pg userId (roleWrites .removeRoles names) db = .error (.database err) :=
  runWrites_roles_refused (fun _ => rfl) (fun _ => deleteUserRoles_refused) h

/-- The statements of a new user, one after the other. -/
def createWrites (pg : Postgres) (newId : Uuid) (user : CreateUser) (db : Db) :
    Except DomainError (Uuid × Db) := do
  let inserted ← (insertUser pg newId user db).mapError PgUserRepository.createError
  (runWrites pg inserted.1 (roleWrites .addRoles (some user.roles)) inserted.2).map
    fun db => (inserted.1, db)

theorem yields_create (hup : Faults.StoreUp faults) (user : CreateUser) (htx : w.tx = some db) :
    Yields env faults (PgUserRepository.create user) w
      (createWrites env.pg (env.newId w.idsDrawn) user db) := by
  have hinsert : Yields env faults
      (do mapErr PgUserRepository.createError (← ask (.insertUser user))) w
      ((insertUser env.pg (env.newId w.idsDrawn) user db).mapError
        PgUserRepository.createError) := by
    have hexec : exec env faults (.insertUser user) w =
        executeInTx faults { w with idsDrawn := w.idsDrawn + 1 }
          (insertUser env.pg (env.newId w.idsDrawn) user) := rfl
    have htx' : ({ w with idsDrawn := w.idsDrawn + 1 } : World).tx = some db := htx
    unfold Yields
    rw [runE_ask_bind, hexec, executeInTx_answer hup _ htx']
    cases insertUser env.pg (env.newId w.idsDrawn) user db with
    | error err => exact ⟨_, rfl, fun _ _ hr => nomatch hr⟩
    | ok inserted => exact ⟨_, rfl, fun _ _ hr => by cases hr; rfl⟩
  unfold PgUserRepository.create createWrites
  rw [← bind_assoc]
  exact hinsert.bind fun id db₁ w₁ _ htx₁ => (yields_addUserRoles hup user.roles htx₁).returning id

/-- A create call answers what its transaction does, on the hash of the password. -/
theorem runE_create (hup : Faults.StoreUp faults) (hhashes : HashesStore env)
    (newUser : CreateUser) : ∃ hash w', Storable 255 hash ∧
      runE (exec env faults) (UserServiceImpl.create env newUser) w =
        (some (((createWrites env.pg (env.newId w.idsDrawn)
          { newUser with password := hash, status := activeUserStatus } w.db).mapError
            mapDomainError).map Prod.fst), w') := by
  obtain ⟨hash, hhash, hstore⟩ := hhashes w.saltsDrawn newUser.password
  have htx : ({ w with saltsDrawn := w.saltsDrawn + 1 } : World).begun.tx = some w.db := rfl
  obtain ⟨w', htransaction⟩ := runE_inTransaction hup
    (@yields_create env _ _ _ hup
      { newUser with password := hash, status := activeUserStatus } htx).mapErrOf
  refine ⟨hash, w', hstore, ?_⟩
  unfold UserServiceImpl.create
  rw [runE_bind, Crypto.runE_hashPassword, hhash]
  exact htransaction

/-- What the statements of a new user answer. -/
theorem createAnswer_createWrites (hpg : env.pg.RejectsLonger) (hdb : db.Admissible) {newId : Uuid}
    (hfresh : newId ∉ db.users.map (·.id)) (payload : CreateUserRequest) {hash : String}
    (hhash : Storable 255 hash) : CreateAnswer db payload
      (((createWrites env.pg newId
        { payload.toDomain with password := hash, status := activeUserStatus } db).mapError
          mapDomainError).map Prod.fst) := by
  have htexts : ({ payload.toDomain with password := hash, status := activeUserStatus } :
      CreateUser).TextsStore ↔ payload.TextsStore := by
    constructor
    · intro h
      exact ⟨h.userName, h.avatarId, h.email, h.firstName, h.lastName⟩
    · intro h
      exact ⟨h.userName, h.avatarId, h.email, hhash.stores, h.firstName, h.lastName⟩
  unfold createWrites
  by_cases hstore : payload.TextsStore
  · obtain ⟨htaken, hmissing, hdone⟩ := insertUser_stored hpg hdb hfresh (htexts.mpr hstore)
    by_cases hnew : NameTaken db payload.toDomain
    · rw [htaken hnew]
      exact .taken hstore hnew
    · by_cases hrefs : Referenced db activeUserStatus payload.department
      · rw [hdone hnew hrefs]
        have huser : newId ∈ (db.users ++ [insertedRow newId { payload.toDomain with
            password := hash, status := activeUserStatus }]).map (·.id) :=
          List.mem_map_of_mem (List.mem_append_right _ List.mem_cons_self)
        show CreateAnswer db payload ((((runWrites env.pg newId
          (roleWrites .addRoles (some payload.roles)) _).map fun db => (newId, db)).mapError
            mapDomainError).map Prod.fst)
        by_cases hroles : ∀ role ∈ payload.roles, NulFree role
        · obtain ⟨added, hrun⟩ := @runWrites_addRoles env { db with users := _ } newId
            (some payload.roles) huser hroles
          rw [hrun]
          exact .created newId hstore hnew hrefs hroles
        · obtain ⟨err, hrun⟩ := @runWrites_addRoles_refused env { db with users := _ } newId
            (some payload.roles) hroles
          rw [hrun]
          exact .roles err hnew hrefs hroles
      · rw [hmissing hnew hrefs]
        exact .reference hstore hnew hrefs
  · obtain ⟨err, hrun, hrefused⟩ := @insertUser_refused _ db hpg newId _ (mt htexts.mp hstore)
    rw [hrun]
    have herr := createError_of_refused hrefused
    simp only [Except.mapError, herr]
    exact .refused err hstore

/-- A create call answers as `CreateAnswer` says. -/
theorem createAnswer_create (hpg : env.pg.RejectsLonger) (hup : Faults.StoreUp faults)
    (hhashes : HashesStore env) (hdb : w.db.Admissible)
    (hfresh : env.newId w.idsDrawn ∉ w.db.users.map (·.id)) (payload : CreateUserRequest) :
    ∃ r w', runE (exec env faults) (UserServiceImpl.create env payload.toDomain) w =
      (some r, w') ∧ CreateAnswer w.db payload r := by
  obtain ⟨hash, w', hstore, hrun⟩ := @runE_create env _ w hup hhashes payload.toDomain
  exact ⟨_, w', hrun, createAnswer_createWrites hpg hdb hfresh payload hstore⟩

/-! ## What the patch call answers -/

def passwordError (message : String) : Error :=
  (Error.invalid "invalid payload fields").addViolation "password" message

/-- The password of the payload breaks the policy. -/
def BreaksPolicy (env : Env) (fields : UpdateUser) : Prop :=
  ∃ password ∈ fields.password, Validation.passwordChecker env.unicode password ≠ .ok ()

/-- The payload of a patch gets as far as its statements. -/
structure ReachesStatements (env : Env) (db : Db) (userId : Uuid) (fields : UpdateUser) :
    Prop where
  user : userId ∈ db.users.map (·.id)
  password : ∀ password ∈ fields.password, Validation.passwordChecker env.unicode password = .ok ()
  status : ∀ status ∈ fields.status, (UserStatus.idOf status).isSome

/-- The user, if there is one, can be read. -/
def UserReadable (db : Db) (userId : Uuid) : Prop :=
  ∀ u ∈ db.users, u.id = userId → Readable db u

/-- What a patch call answers, and when. -/
inductive PatchAnswer (env : Env) (db : Db) (userId : Uuid) (fields : UpdateUser) :
    Except Error Unit → Prop
  | missing (huser : userId ∉ db.users.map (·.id)) :
      PatchAnswer env db userId fields (.error (mapDomainError .userNotFound))
  | hidden (huser : userId ∈ db.users.map (·.id)) (hread : ¬ UserReadable db userId) :
      PatchAnswer env db userId fields (.error (mapDomainError .userNotFound))
  | undecoded (err : SqlxError) (hread : ¬ UserReadable db userId) :
      PatchAnswer env db userId fields (.error (sqlxUnknown err))
  | password (message : String) (huser : userId ∈ db.users.map (·.id))
      (hread : UserReadable db userId) (hbreaks : BreaksPolicy env fields) :
      PatchAnswer env db userId fields (.error (passwordError message))
  | status (huser : userId ∈ db.users.map (·.id)) (hread : UserReadable db userId)
      (hpasses : ¬ BreaksPolicy env fields)
      (hunknown : ∃ status ∈ fields.status, UserStatus.idOf status = none) :
      PatchAnswer env db userId fields (.error (mapDomainError .statusNotFound))
  | refused (err : SqlxError) (hreaches : ReachesStatements env db userId fields)
      (htexts : ¬ fields.TextsStore) :
      PatchAnswer env db userId fields (.error (sqlxUnknown err))
  | taken (hread : UserReadable db userId) (hreaches : ReachesStatements env db userId fields)
      (htexts : fields.TextsStore) (htaken : AddressTaken db userId fields) :
      PatchAnswer env db userId fields (.error (mapDomainError .userDuplicateConstraint))
  | reference (hread : UserReadable db userId)
      (hreaches : ReachesStatements env db userId fields) (htexts : fields.TextsStore)
      (hnew : ¬ AddressTaken db userId fields) (hmissing : ¬ RefersToRows db fields) :
      PatchAnswer env db userId fields (.error (mapDomainError .departmentNotFoundConstraint))
  | roles (err : SqlxError) (hreaches : ReachesStatements env db userId fields)
      (hnew : ¬ AddressTaken db userId fields) (hrefs : RefersToRows db fields)
      (hroles : ¬ ∀ role ∈ fields.roleNames, NulFree role) :
      PatchAnswer env db userId fields (.error (sqlxUnknown err))
  | done (hread : UserReadable db userId) (hreaches : ReachesStatements env db userId fields)
      (htexts : fields.TextsStore) (hnew : ¬ AddressTaken db userId fields)
      (hrefs : RefersToRows db fields) (hroles : ∀ role ∈ fields.roleNames, NulFree role) :
      PatchAnswer env db userId fields (.ok ())

/-- A status that has no id ends the call before its statement. -/
theorem columnWrites_unknown {fields : UpdateUser}
    (h : ∃ status ∈ fields.status, UserStatus.idOf status = none) :
    columnWrites fields = .error .statusNotFound := by
  obtain ⟨status, hstatus, hid⟩ := h
  have hsome : fields.status = some status := hstatus
  have hchanges : fields.hasNoColumnChanges = false := by
    simp [UpdateUser.hasNoColumnChanges, hsome]
  unfold columnWrites PgUserRepository.setClauses
  rw [hchanges, hsome]
  simp only [hid]
  rfl

theorem setClauses_known {fields : UpdateUser}
    (h : ∀ status ∈ fields.status, (UserStatus.idOf status).isSome) :
    PgUserRepository.setClauses fields = .ok (assignments fields) := by
  cases hsets : PgUserRepository.setClauses fields with
  | ok sets => rw [(setClauses_ok hsets).2]
  | error e =>
    unfold PgUserRepository.setClauses at hsets
    cases hstatus : fields.status with
    | none => rw [hstatus] at hsets; cases hsets
    | some status =>
      obtain ⟨id, hid⟩ := Option.isSome_iff_exists.mp (h status hstatus)
      simp only [hstatus, hid] at hsets
      cases hsets

/-- The column statement of a payload, which is sent if there is a column to set. -/
theorem runWrites_columnWrites {fields : UpdateUser}
    (h : ∀ status ∈ fields.status, (UserStatus.idOf status).isSome) :
    (columnWrites fields >>= fun ws => runWrites env.pg userId ws db) =
      if fields.hasNoColumnChanges then .ok db
      else (updateUser env.pg (assignments fields) userId db).mapError
        PgUserRepository.updateError := by
  unfold columnWrites
  split
  · rfl
  · rw [setClauses_known h]
    show List.foldlM _ _ _ = _
    rw [List.foldlM_cons, Write.run, Write.refuse]
    cases updateUser env.pg (assignments fields) userId db <;> rfl

/-- A payload without a column has no text to refuse, takes no address and refers to no row. -/
theorem nothing_of_noColumnChanges {fields : UpdateUser} (h : fields.hasNoColumnChanges = true) :
    fields.TextsStore ∧ ¬ AddressTaken db userId fields ∧ RefersToRows db fields := by
  simp only [UpdateUser.hasNoColumnChanges, Bool.and_eq_true, Option.isNone_iff_eq_none] at h
  obtain ⟨⟨⟨⟨⟨⟨havatarId, hfirstName⟩, hlastName⟩, hemail⟩, hdepartmentId⟩, hstatus⟩, -⟩ := h
  have hnone : ∀ {α : Type} {o : Option α} {P : α → Prop}, o = none → ∀ a ∈ o, P a := by
    rintro α _ P rfl a ha
    cases ha
  refine ⟨⟨hnone havatarId, hnone hfirstName, hnone hlastName, hnone hemail⟩, fun htaken => ?_,
    hnone hstatus, hnone hdepartmentId⟩
  obtain ⟨email, hsome, -⟩ := htaken
  rw [hemail] at hsome
  cases hsome

/-- What the column statement of a payload answers, once its password is hashed. -/
theorem runWrites_columns (hpg : env.pg.RejectsLonger) (hdb : db.Admissible) {u : UserRow}
    (hu : u ∈ db.users) {fields : UpdateUser}
    (hstatus : ∀ status ∈ fields.status, (UserStatus.idOf status).isSome)
    (hpassword : ∀ value ∈ fields.password, Stores 255 value) {r : Except DomainError Db}
    (hr : (columnWrites fields >>= fun ws => runWrites env.pg u.id ws db) = r) :
    (¬ fields.TextsStore → ∃ err, r = .error (.database err)) ∧
    (fields.TextsStore → AddressTaken db u.id fields → r = .error .userDuplicateConstraint) ∧
    (fields.TextsStore → ¬ AddressTaken db u.id fields → ¬ RefersToRows db fields →
      r = .error .departmentNotFoundConstraint) ∧
    (fields.TextsStore → ¬ AddressTaken db u.id fields → RefersToRows db fields →
      ∃ db', r = .ok db' ∧ u.id ∈ db'.users.map (·.id)) := by
  have huser : u.id ∈ db.users.map (·.id) := List.mem_map_of_mem hu
  rw [runWrites_columnWrites hstatus] at hr
  split at hr
  next hnone =>
    obtain ⟨htexts, hnew, hrefs⟩ := @nothing_of_noColumnChanges db u.id _ hnone
    subst hr
    exact ⟨fun h => absurd htexts h, fun _ h => absurd h hnew, fun _ _ h => absurd hrefs h,
      fun _ _ _ => ⟨db, rfl, huser⟩⟩
  next =>
    subst hr
    have hanswers := fun htexts => updateUser_stored hpg hdb hu (setClauses_known hstatus)
      (textStores_assignments.mpr ⟨htexts, hpassword⟩)
    refine ⟨fun h => ?_, fun htexts htaken => ?_, fun htexts hnew hmissing => ?_,
      fun htexts hnew hrefs => ?_⟩
    · obtain ⟨err, hrun, hrefused⟩ := @updateUser_refused _ db hpg _ u.id
        (fun hall => h (textStores_assignments.mp hall).1)
      exact ⟨err, by rw [hrun, Except.mapError, updateError_of_refused hrefused]⟩
    · rw [(hanswers htexts).1 htaken]
      rfl
    · rw [(hanswers htexts).2.1 hnew hmissing]
      rfl
    · obtain ⟨db', hrun⟩ := (hanswers htexts).2.2 hnew hrefs
      have hids := @ids_of_run _ _ _ _ hpg (.columns (assignments fields)) hrun
      exact ⟨db', by rw [hrun]; rfl, by rw [hids]; exact huser⟩

/-- What the role statements of a payload answer. -/
theorem runWrites_roleNames (huser : userId ∈ db.users.map (·.id)) (fields : UpdateUser)
    {r : Except Error Db}
    (hr : ((runWrites env.pg userId (roleWrites .addRoles fields.addRoles) db).mapError
      mapDomainError >>= fun db₂ =>
        (runWrites env.pg userId (roleWrites .removeRoles fields.removeRoles) db₂).mapError
          mapDomainError) = r) :
    ((∀ role ∈ fields.roleNames, NulFree role) → ∃ db', r = .ok db') ∧
    ((¬ ∀ role ∈ fields.roleNames, NulFree role) → ∃ err, r = .error (sqlxUnknown err)) := by
  have hnames : (∀ role ∈ fields.roleNames, NulFree role) ↔
      (∀ name ∈ fields.addRoles.getD [], NulFree name) ∧
        ∀ name ∈ fields.removeRoles.getD [], NulFree name := List.forall_mem_append
  rw [hnames]
  by_cases hadded : ∀ name ∈ fields.addRoles.getD [], NulFree name
  · obtain ⟨held, hadd⟩ := @runWrites_addRoles env db _ _ huser hadded
    rw [hadd] at hr
    change (runWrites env.pg userId _ { db with userHasRoles := held }).mapError _ = r at hr
    subst hr
    refine ⟨fun hall => ?_, fun hnot => ?_⟩
    · obtain ⟨kept, hremove⟩ := @runWrites_removeRoles env { db with userHasRoles := held } userId
        _ hall.2
      exact ⟨_, by rw [hremove]; rfl⟩
    · obtain ⟨err, hremove⟩ := @runWrites_removeRoles_refused env
        { db with userHasRoles := held } userId fields.removeRoles (fun h => hnot ⟨hadded, h⟩)
      exact ⟨err, by rw [hremove]; rfl⟩
  · obtain ⟨err, hadd⟩ := @runWrites_addRoles_refused env db userId _ hadded
    rw [hadd] at hr
    exact ⟨fun hall => absurd hall.1 hadded, fun _ => ⟨err, hr.symm⟩⟩

/-- What the statements of a payload answer, once its password is hashed. -/
theorem patchAnswer_writes (hpg : env.pg.RejectsLonger) (hdb : db.Admissible) {u : UserRow}
    (hu : u ∈ db.users) {fields hashed : UpdateUser} (hread : UserReadable db u.id)
    (hpasses : ¬ BreaksPolicy env fields)
    (hhashed : ∃ password, hashed = { fields with password := password } ∧
      ∀ value ∈ password, Stores 255 value) :
    PatchAnswer env db u.id fields (((writes hashed >>= fun ws =>
      runWrites env.pg u.id ws db).mapError mapDomainError).map fun _ => ()) := by
  obtain ⟨password, rfl, hpassword⟩ := hhashed
  have huser : u.id ∈ db.users.map (·.id) := List.mem_map_of_mem hu
  rw [runWrites_writes]
  by_cases hunknown : ∃ status ∈ fields.status, UserStatus.idOf status = none
  · rw [show columnWrites { fields with password := password } = .error .statusNotFound from
      columnWrites_unknown hunknown]
    exact .status huser hread hpasses hunknown
  have hstatus : ∀ status ∈ fields.status, (UserStatus.idOf status).isSome := fun status hmem =>
    Option.isSome_iff_ne_none.mpr fun hid => hunknown ⟨status, hmem, hid⟩
  have hreaches : ReachesStatements env db u.id fields :=
    ⟨huser, fun password hmem => by_contra fun hbreaks => hpasses ⟨password, hmem, hbreaks⟩,
      hstatus⟩
  obtain ⟨hrefused, htaken, hmissing, hdone⟩ := @runWrites_columns env db hpg hdb u hu
    { fields with password := password } hstatus hpassword _ rfl
  have htexts : UpdateUser.TextsStore { fields with password := password } ↔ fields.TextsStore :=
    ⟨fun h => ⟨h.avatarId, h.firstName, h.lastName, h.email⟩,
      fun h => ⟨h.avatarId, h.firstName, h.lastName, h.email⟩⟩
  have hrefs : RefersToRows db { fields with password := password } ↔ RefersToRows db fields :=
    ⟨fun h => ⟨h.status, h.department⟩, fun h => ⟨h.status, h.department⟩⟩
  rw [htexts] at hrefused htaken hmissing hdone
  rw [hrefs] at hmissing hdone
  by_cases hstore : fields.TextsStore
  case neg =>
    obtain ⟨err, hrun⟩ := hrefused hstore
    rw [hrun]
    exact .refused err hreaches hstore
  by_cases hnew : AddressTaken db u.id fields
  case pos =>
    rw [htaken hstore hnew]
    exact .taken hread hreaches hstore hnew
  by_cases hthere : RefersToRows db fields
  case neg =>
    rw [hmissing hstore hnew hthere]
    exact .reference hread hreaches hstore hnew hthere
  obtain ⟨db₁, hcolumns, huser₁⟩ := hdone hstore hnew hthere
  rw [hcolumns]
  obtain ⟨hbound, hunbound⟩ := @runWrites_roleNames env db₁ u.id huser₁ fields _ rfl
  show PatchAnswer env db u.id fields (Except.map _
    ((runWrites env.pg u.id (roleWrites .addRoles fields.addRoles) db₁).mapError _ >>= fun db₂ =>
      (runWrites env.pg u.id (roleWrites .removeRoles fields.removeRoles) db₂).mapError _))
  by_cases hroles : ∀ role ∈ fields.roleNames, NulFree role
  · obtain ⟨db₂, hrun⟩ := hbound hroles
    rw [hrun]
    exact .done hread hreaches hstore hnew hthere hroles
  · obtain ⟨err, hrun⟩ := hunbound hroles
    rw [hrun]
    exact .roles err hreaches hnew hthere hroles

/-! ### Before the statements -/

theorem runE_requireUser_of_none (hup : Faults.StoreUp faults)
    (h : selectUserById w.db userId = none) :
    runE (exec env faults) (UserServiceImpl.requireUser userId) w =
      (some (.error (mapDomainError .userNotFound)), w.counted) := by
  have hfound : runE (exec env faults) (PgUserRepository.findById userId) w =
      (some (.ok none), w.counted) := by
    unfold PgUserRepository.findById
    rw [runE_ask_bind, exec_selectUserById (hup _), h]
    rfl
  exact runE_requireUser hfound

theorem runE_requireUser_of_not_decodes (hup : Faults.StoreUp faults) {row : JoinedUser}
    (h : selectUserById w.db userId = some row) (hdecodes : ¬ Decodes row) : ∃ err,
    runE (exec env faults) (UserServiceImpl.requireUser userId) w =
      (some (.error (sqlxUnknown err)), w.counted) := by
  cases hmap : PgUserRepository.mapUser row with
  | ok user => exact absurd (mapUser_ok_iff.mp ⟨user, hmap⟩) hdecodes
  | error err =>
    have hfound : runE (exec env faults) (PgUserRepository.findById userId) w =
        (some (.error (.database err)), w.counted) := by
      unfold PgUserRepository.findById
      rw [runE_ask_bind, exec_selectUserById (hup _), h]
      show runE (exec env faults) (PgUserRepository.hydrate (some row)) w.counted = _
      unfold PgUserRepository.hydrate PgUserRepository.mapUserWithRoles
      dsimp only
      rw [hmap]
      rfl
    exact ⟨err, runE_requireUser hfound⟩

/-- A user whose row is missing, or cannot be read. -/
theorem patchAnswer_of_unread (hup : Faults.StoreUp faults) (hdb : w.db.Admissible)
    (fields : UpdateUser)
    (h : userId ∉ w.db.users.map (·.id) ∨ ¬ UserReadable w.db userId) : ∃ r w',
    runE (exec env faults) (UserServiceImpl.requireUser userId) w = (some (.error r), w') ∧
      PatchAnswer env w.db userId fields (.error r) := by
  cases hfind : selectUserById w.db userId with
  | none =>
    refine ⟨_, _, runE_requireUser_of_none hup hfind, ?_⟩
    by_cases huser : userId ∈ w.db.users.map (·.id)
    · exact .hidden huser (h.resolve_left fun hmissing => hmissing huser)
    · exact .missing huser
  | some row =>
    have hrow : row ∈ joinedUsers w.db := List.mem_of_find?_eq_some hfind
    have hid : row.user.id = userId := by simpa using List.find?_some hfind
    have hunread : ¬ UserReadable w.db userId := h.resolve_left fun hmissing =>
      hmissing (List.mem_map.2 ⟨row.user, (mem_joinedUsers.1 hrow).1, hid⟩)
    have hdecodes : ¬ Decodes row := by
      intro hdecodes
      refine hunread fun u hu huid => ?_
      rw [eq_of_key_eq hdb.userIds hu (mem_joinedUsers.1 hrow).1 (huid.trans hid.symm)]
      exact readable_of_decodes hrow hdecodes
    obtain ⟨err, hrun⟩ := @runE_requireUser_of_not_decodes env _ _ _ hup _ hfind hdecodes
    exact ⟨_, _, hrun, .undecoded err hunread⟩

/-- A patch call answers as `PatchAnswer` says. -/
theorem patchAnswer_partialUpdate (hpg : env.pg.RejectsLonger) (hup : Faults.StoreUp faults)
    (hhashes : HashesStore env) (hdb : w.db.Admissible) (userId : Uuid) (fields : UpdateUser) :
    ∃ r w', runE (exec env faults) (UserServiceImpl.partialUpdate env userId fields) w =
      (some r, w') ∧ PatchAnswer env w.db userId fields r := by
  by_cases hread : userId ∈ w.db.users.map (·.id) ∧ UserReadable w.db userId
  case neg =>
    obtain ⟨e, w', hrequire, hanswer⟩ := @patchAnswer_of_unread env _ _ userId hup hdb fields
      (not_and_or.mp hread)
    refine ⟨.error e, w', ?_, hanswer⟩
    unfold UserServiceImpl.partialUpdate
    rw [runE_bind, hrequire]
  obtain ⟨huser, hread⟩ := hread
  obtain ⟨u, hu, rfl⟩ := List.mem_map.1 huser
  by_cases hpasses : BreaksPolicy env fields
  · obtain ⟨user, hrequire⟩ :=
      @runE_requireUser_of_readable env _ _ _ hup hdb _ hu rfl (hread u hu rfl)
    obtain ⟨password, hpassword, hchecked⟩ := hpasses
    have hsome : fields.password = some password := hpassword
    cases hcheck : Validation.passwordChecker env.unicode password with
    | ok _ => exact absurd hcheck hchecked
    | error message =>
      refine ⟨.error (passwordError message), w.counted.counted, ?_,
        .password message huser hread ⟨password, hpassword, hchecked⟩⟩
      unfold UserServiceImpl.partialUpdate UserServiceImpl.withHashedPassword
      rw [runE_bind, hrequire, hsome]
      dsimp only
      rw [hcheck]
      rfl
  · obtain ⟨hashed, hhashed, hpassword⟩ : ∃ hashed, HashedAt env w.saltsDrawn fields hashed ∧
        ∃ password, hashed = { fields with password := password } ∧
          ∀ value ∈ password, Stores 255 value := by
      cases hsome : fields.password with
      | none => exact ⟨fields, .inl ⟨hsome, rfl⟩, none, by rw [← hsome], fun _ h => nomatch h⟩
      | some password =>
        obtain ⟨hash, hhash, hstore⟩ := hhashes w.saltsDrawn password
        have hchecked : Validation.passwordChecker env.unicode password = .ok () :=
          by_contra fun hbreaks => hpasses ⟨password, hsome, hbreaks⟩
        refine ⟨_, .inr ⟨password, hash, hsome, hchecked, hhash, rfl⟩, some hash, rfl, ?_⟩
        exact fun value hvalue => Option.some.inj hvalue ▸ hstore.stores
    obtain ⟨w', hcall⟩ := runE_partialUpdate_of_hashedAt hup hdb hu rfl (hread u hu rfl) hhashed
    exact ⟨_, w', hcall, patchAnswer_writes hpg hdb hu hread hpasses hpassword⟩

end

end ApiStarter.Iam
