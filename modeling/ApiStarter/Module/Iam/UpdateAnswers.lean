import ApiStarter.Module.Iam.UpdateStages

/-
  What a call of `partial_update` that runs alone answers.

  `Yields` says what a program does in the open transaction, as a function on its copy of the
  database. A call whose user can be read and whose password passes the check answers what its
  statements answer (`runE_partialUpdate_of_hashedAt`), so it succeeds where they go through
  (`partialUpdate_succeeds`).
-/

namespace ApiStarter.Iam

open ApiStarter.Auth ApiStarter.Database ApiStarter.Effect ApiStarter.Effect.Fallible
  ApiStarter.Errdef ApiStarter.Provider ApiStarter.Relational

section

variable {env : Env} {faults : Faults} {userId : Uuid} {fields hashed : UpdateUser} {w : World}
  {db db' : Db}

/-- In the open transaction the run ends as `r` says, with the database of `r` as the copy. -/
def Yields {ε α : Type} (env : Env) (faults : Faults) (p : Service ε α) (w : World)
    (r : Except ε (α × Db)) : Prop :=
  ∃ w', runE (exec env faults) p w = (some (r.map Prod.fst), w') ∧
    ∀ a db', r = .ok (a, db') → w'.tx = some db'

/-- A program without a value that leaves a database, or fails. -/
def leaving {ε : Type} (r : Except ε Db) : Except ε (Unit × Db) := r.map fun db => ((), db)

theorem Yields.mapErrOf {ε ε' α : Type} {f : ε' → ε} {p : Service ε' α}
    {r : Except ε' (α × Db)} (h : Yields env faults p w r) :
    Yields env faults (mapErrOf f p) w (r.mapError f) := by
  obtain ⟨w', hrun, htx⟩ := h
  refine ⟨w', ?_, fun a db' hr => ?_⟩
  · rw [runE_mapErrOf, hrun]
    cases r <;> rfl
  · cases r with
    | error e => cases hr
    | ok left => exact htx a db' (Except.ok.inj hr ▸ rfl)

theorem Yields.bind {ε α β : Type} {p : Service ε α} {q : α → Service ε β}
    {r : Except ε (α × Db)} {g : α → Db → Except ε (β × Db)} (h : Yields env faults p w r)
    (hq : ∀ a db' w', r = .ok (a, db') → w'.tx = some db' → Yields env faults (q a) w' (g a db')) :
    Yields env faults (p >>= q) w (r >>= fun left => g left.1 left.2) := by
  obtain ⟨w', hrun, htx⟩ := h
  cases r with
  | error e =>
    refine ⟨w', ?_, fun a db' hr => nomatch hr⟩
    rw [runE_bind, hrun]
    rfl
  | ok left =>
    obtain ⟨w'', hrest, htx'⟩ := hq left.1 left.2 w' rfl (htx _ _ rfl)
    refine ⟨w'', ?_, htx'⟩
    rw [runE_bind, hrun]
    exact hrest

theorem Yields.mapErrOf_leaving {ε ε' : Type} {f : ε' → ε} {p : Service ε' Unit}
    {r : Except ε' Db} (h : Yields env faults p w (leaving r)) :
    Yields env faults (Fallible.mapErrOf f p) w (leaving (r.mapError f)) := by
  have hmapped : Yields env faults (Fallible.mapErrOf f p) w ((leaving r).mapError f) := h.mapErrOf
  cases r <;> exact hmapped

/-- Two programs without values, one after the other. -/
theorem Yields.andThen {ε : Type} {p q : Service ε Unit} {r : Except ε Db}
    {g : Db → Except ε Db} (h : Yields env faults p w (leaving r))
    (hq : ∀ w' db', w'.tx = some db' → Yields env faults q w' (leaving (g db'))) :
    Yields env faults (p >>= fun _ => q) w (leaving (r >>= g)) := by
  have hboth : Yields env faults (p >>= fun _ => q) w
      (leaving r >>= fun left => leaving (g left.2)) :=
    h.bind fun _ db' w' _ htx => hq w' db' htx
  cases r <;> exact hboth

/-- A program without a value that is followed by one. -/
theorem Yields.returning {ε α : Type} {p : Service ε Unit} {r : Except ε Db} (a : α)
    (h : Yields env faults p w (leaving r)) :
    Yields env faults (do p; return a) w (r.map fun db => (a, db)) := by
  have hboth : Yields env faults (do p; return a) w
      (leaving r >>= fun left => .ok (a, left.2)) :=
    h.bind (g := fun _ db' => .ok (a, db')) fun _ _ w' _ htx =>
      ⟨w', rfl, fun _ _ hr => by cases hr; exact htx⟩
  cases r <;> exact hboth

theorem yields_pure {ε : Type} (htx : w.tx = some db) :
    Yields env faults (return () : Service ε Unit) w (leaving (.ok db)) :=
  ⟨w, rfl, fun _ _ hr => by cases hr; exact htx⟩

theorem executeInTx_answer (hup : Faults.StoreUp faults) {α : Type}
    (run : Db → Except SqlxError (α × Db)) (htx : w.tx = some db) :
    executeInTx faults w run =
      match run db with
      | .error err => (.error err, w.counted)
      | .ok (a, db') => (.ok a, { w.counted with tx := some db' }) := by
  obtain ⟨committed, tx, _, _, _, _, _, _, _, _⟩ := w
  obtain rfl : tx = some db := htx
  unfold executeInTx statement
  rw [hup]
  dsimp only
  cases run db <;> rfl

/-- How the repository maps the error of a statement. -/
def Write.refuse : Write → SqlxError → DomainError
  | .columns _ => PgUserRepository.updateError
  | .addRoles _ => .database
  | .removeRoles _ => .database

/-- The statements of a payload, one after the other. -/
def runWrites (pg : Postgres) (userId : Uuid) (ws : List Write) (db : Db) :
    Except DomainError Db :=
  ws.foldlM (fun db write => (write.run pg userId db).mapError write.refuse) db

/-- The statement on the copy of a transaction. -/
def Write.inTx (pg : Postgres) (userId : Uuid) (write : Write) (db : Db) :
    Except SqlxError (Unit × Db) :=
  (write.run pg userId db).map fun db => ((), db)

theorem yields_write (hup : Faults.StoreUp faults) (write : Write) (htx : w.tx = some db) {o : Op}
    {k : Res o → Service DomainError Unit}
    (hk : k (exec env faults o w).1 =
      mapErr write.refuse (executeInTx faults w (write.inTx env.pg userId)).1)
    (hw : (exec env faults o w).2 = (executeInTx faults w (write.inTx env.pg userId)).2) :
    Yields env faults (ask o >>= k) w (leaving (runWrites env.pg userId [write] db)) := by
  unfold Yields runWrites
  rw [runE_ask_bind, hk, hw, executeInTx_answer hup _ htx, Write.inTx, List.foldlM_cons]
  cases write.run env.pg userId db with
  | error err => exact ⟨_, rfl, fun _ _ hr => nomatch hr⟩
  | ok db' => exact ⟨_, rfl, fun _ _ hr => by cases hr; rfl⟩

theorem yields_columns (hup : Faults.StoreUp faults) (htx : w.tx = some db) :
    Yields env faults (PgUserRepository.partialUpdate userId hashed) w
      (leaving (columnWrites hashed >>= fun ws => runWrites env.pg userId ws db)) := by
  unfold columnWrites PgUserRepository.partialUpdate
  split
  · exact yields_pure htx
  · cases hsets : PgUserRepository.setClauses hashed with
    | error e => exact ⟨w, rfl, fun _ _ hr => nomatch hr⟩
    | ok sets => exact yields_write hup (.columns sets) htx rfl rfl

/-- No statement is sent for an empty list. -/
theorem yields_addUserRoles (hup : Faults.StoreUp faults) (names : List String)
    (htx : w.tx = some db) :
    Yields env faults (PgUserRepository.addUserRoles userId names) w
      (leaving (runWrites env.pg userId (roleWrites .addRoles (some names)) db)) := by
  unfold PgUserRepository.addUserRoles
  simp only [roleWrites]
  split
  · exact yields_pure htx
  · exact yields_write hup (.addRoles names) htx rfl rfl

theorem yields_removeUserRoles (hup : Faults.StoreUp faults) (names : List String)
    (htx : w.tx = some db) :
    Yields env faults (PgUserRepository.removeUserRoles userId names) w
      (leaving (runWrites env.pg userId (roleWrites .removeRoles (some names)) db)) := by
  unfold PgUserRepository.removeUserRoles
  simp only [roleWrites]
  split
  · exact yields_pure htx
  · exact yields_write hup (.removeRoles names) htx rfl rfl

theorem runWrites_append (pg : Postgres) (ws ws' : List Write) :
    runWrites pg userId (ws ++ ws') db = runWrites pg userId ws db >>= runWrites pg userId ws' := by
  rw [runWrites, List.foldlM_append]
  rfl

/-- The statements of a payload fail with the errors of its parts. -/
theorem runWrites_writes (pg : Postgres) {ε : Type} (f : DomainError → ε) :
    (writes hashed >>= fun ws => runWrites pg userId ws db).mapError f =
      (columnWrites hashed >>= fun ws => runWrites pg userId ws db).mapError f >>= fun db₁ =>
        (runWrites pg userId (roleWrites .addRoles hashed.addRoles) db₁).mapError f >>= fun db₂ =>
          (runWrites pg userId (roleWrites .removeRoles hashed.removeRoles) db₂).mapError f := by
  have hbind : ∀ (r : Except DomainError Db) (g : Db → Except DomainError Db),
      (r >>= g).mapError f = r.mapError f >>= fun db => (g db).mapError f := by
    intro r g
    cases r <;> rfl
  unfold writes
  cases columnWrites hashed with
  | error e => rfl
  | ok columns =>
    show (runWrites pg userId (columns ++ _ ++ _) db).mapError f =
      (runWrites pg userId columns db).mapError f >>= _
    rw [runWrites_append, runWrites_append, hbind, hbind]
    cases (runWrites pg userId columns db).mapError f <;> rfl

/-- What the transaction of a call answers, and what it leaves. -/
theorem yields_applyUpdate (hup : Faults.StoreUp faults) (htx : w.tx = some db) :
    Yields env faults (UserServiceImpl.applyUpdate userId hashed) w (leaving
      ((writes hashed >>= fun ws => runWrites env.pg userId ws db).mapError
        UserServiceImpl.mapDomainError)) := by
  rw [runWrites_writes, UserServiceImpl.applyUpdate_eq]
  refine (yields_columns hup htx).mapErrOf_leaving.andThen fun w₁ db₁ htx₁ => ?_
  have hremoved : ∀ (w₂ : World) db₂, w₂.tx = some db₂ → Yields env faults
      (hashed.removeRoles.elim (pure ()) fun roles =>
        Fallible.mapErrOf UserServiceImpl.mapDomainError
          (PgUserRepository.removeUserRoles userId roles)) w₂ (leaving
            ((runWrites env.pg userId (roleWrites .removeRoles hashed.removeRoles) db₂).mapError
              UserServiceImpl.mapDomainError)) := by
    intro w₂ db₂ htx₂
    cases hashed.removeRoles with
    | none => exact yields_pure htx₂
    | some names => exact (yields_removeUserRoles hup names htx₂).mapErrOf_leaving
  cases hashed.addRoles with
  | none => exact hremoved w₁ db₁ htx₁
  | some names => exact (yields_addUserRoles hup names htx₁).mapErrOf_leaving.andThen hremoved

/-- A transaction whose body answers is committed, or rolled back. -/
theorem runE_inTransaction (hup : Faults.StoreUp faults) {α : Type} {body : Service Error α}
    {r : Except Error (α × Db)} (h : Yields env faults body w.begun r) :
    ∃ w', runE (exec env faults) (inTransaction body) w = (some (r.map Prod.fst), w') := by
  have hbegin : exec env faults .begin w = (.ok (), w.begun) := by
    simp only [exec, statement, hup w.statements, World.begun]
  obtain ⟨w₁, hbody, htx⟩ := h
  unfold inTransaction
  rw [runE_ask_bind, hbegin]
  dsimp only
  rw [mapErr_ok, pure_bind, runE_bind, runE_tryCatch, hbody]
  cases r with
  | error e => exact ⟨_, rfl⟩
  | ok left =>
    have hcommit : (exec env faults .commit w₁).1 = .ok () := by
      simp only [exec, commit, hup w₁.statements]
    refine ⟨(exec env faults .commit w₁).2, ?_⟩
    show runE (exec env faults) (ask .commit >>= _) w₁ = _
    rw [runE_ask_bind, hcommit]
    rfl

/-- `require_user` after its look-up. -/
theorem runE_requireUser {found : Except DomainError (Option User)} {w' : World}
    (h : runE (exec env faults) (PgUserRepository.findById userId) w = (some found, w')) :
    runE (exec env faults) (UserServiceImpl.requireUser userId) w =
      (some (found.mapError UserServiceImpl.mapDomainError >>= fun user =>
        user.elim (.error (Error.notFound "user does not exists")) .ok), w') := by
  unfold UserServiceImpl.requireUser
  rw [runE_bind, runE_mapErrOf, h]
  rcases found with err | _ | user <;> rfl

theorem runE_requireUser_of_readable (hup : Faults.StoreUp faults) (hdb : w.db.Admissible)
    {u : UserRow} (hu : u ∈ w.db.users) (hid : u.id = userId) (hreadable : Readable w.db u) :
    ∃ user, runE (exec env faults) (UserServiceImpl.requireUser userId) w =
      (some (.ok user), w.counted.counted) := by
  obtain ⟨row, hfind, hdecodes⟩ := (find_joinedUsers_iff hdb hdb.userIds).2 ⟨u, hu, hid, hreadable⟩
  obtain ⟨user, hhydrate⟩ := runE_hydrate env (hup w.counted.statements) hdecodes
  refine ⟨user, ?_⟩
  have hfound : runE (exec env faults) (PgUserRepository.findById userId) w =
      (some (.ok (some user)), w.counted.counted) := by
    unfold PgUserRepository.findById
    rw [runE_ask_bind, exec_selectUserById (hup _),
      show selectUserById w.db userId = some row from hfind]
    exact hhydrate
  exact runE_requireUser hfound

theorem runE_withHashedPassword_of_hashedAt (hhashed : HashedAt env w.saltsDrawn fields hashed) :
    ∃ w', runE (exec env faults) (UserServiceImpl.withHashedPassword env fields) w =
      (some (.ok hashed), w') ∧ w'.db = w.db := by
  unfold UserServiceImpl.withHashedPassword
  rcases hhashed with ⟨hnone, rfl⟩ | ⟨password, hash, hsome, hchecked, hhash, rfl⟩
  · rw [hnone]
    exact ⟨w, rfl, rfl⟩
  · rw [hsome]
    refine ⟨{ w with saltsDrawn := w.saltsDrawn + 1 }, ?_, rfl⟩
    dsimp only
    rw [hchecked, mapErr_ok, pure_bind, runE_bind, Crypto.runE_hashPassword, hhash]
    rfl

/-- A call whose user can be read and whose password passes answers what its transaction does. -/
theorem runE_partialUpdate_of_hashedAt (hup : Faults.StoreUp faults) (hdb : w.db.Admissible)
    {u : UserRow} (hu : u ∈ w.db.users) (hid : u.id = userId) (hreadable : Readable w.db u)
    (hhashed : HashedAt env w.saltsDrawn fields hashed) : ∃ w',
      runE (exec env faults) (UserServiceImpl.partialUpdate env userId fields) w =
        (some (((writes hashed >>= fun ws => runWrites env.pg userId ws w.db).mapError
          UserServiceImpl.mapDomainError).map fun _ => ()), w') := by
  obtain ⟨user, hrequire⟩ := @runE_requireUser_of_readable env _ _ _ hup hdb _ hu hid hreadable
  obtain ⟨w₁, hhash, hdb₁⟩ :=
    @runE_withHashedPassword_of_hashedAt env faults _ _ w.counted.counted hhashed
  have htx : w₁.begun.tx = some w.db := by rw [World.begun, hdb₁]; rfl
  obtain ⟨w₂, htransaction⟩ := runE_inTransaction hup
    (@yields_applyUpdate env _ userId hashed _ _ hup htx)
  refine ⟨w₂, ?_⟩
  unfold UserServiceImpl.partialUpdate
  rw [runE_bind, hrequire]
  dsimp only
  rw [runE_bind, hhash]
  dsimp only
  rw [htransaction]
  cases (writes hashed >>= fun ws => runWrites env.pg userId ws w.db) <;> rfl

theorem runWrites_of_foldlM {pg : Postgres} {ws : List Write}
    (h : ws.foldlM (fun db write => write.run pg userId db) db = .ok db') :
    runWrites pg userId ws db = .ok db' := by
  induction ws generalizing db with
  | nil => cases h; rfl
  | cons write ws ih =>
    obtain ⟨db₁, hrun, hrest⟩ := ok_of_bind_ok h
    have hrun : write.run pg userId db = .ok db₁ := hrun
    rw [runWrites, List.foldlM_cons, hrun]
    exact ih hrest

/-- A call returns `Ok` where its user can be read, its password passes, PostgreSQL takes its
    statements and they leave the users in order. -/
theorem partialUpdate_succeeds (hpg : env.pg.RejectsLonger) (hup : Faults.StoreUp faults)
    (hdb : w.db.Admissible) {u : UserRow} (hu : u ∈ w.db.users) (hid : u.id = userId)
    (hreadable : Readable w.db u) {ws : List Write} (hsends : Sends env w.saltsDrawn fields ws)
    (hsend : ∀ write ∈ ws, write.Sendable env.pg)
    (husers : UsersOk { w.db with users := w.db.users.map (rowAfter userId ws) }) :
    ∃ w', runE (exec env faults) (UserServiceImpl.partialUpdate env userId fields) w =
      (some (.ok ()), w') := by
  obtain ⟨hashed, hhashed, hwrites⟩ := hsends
  obtain ⟨db', hrun⟩ := foldlM_writes hpg hwrites hsend (List.mem_map.2 ⟨u, hu, hid⟩)
    (usersOk_of_admissible hdb) husers
  obtain ⟨w', hcall⟩ := runE_partialUpdate_of_hashedAt hup hdb hu hid hreadable hhashed
  refine ⟨w', ?_⟩
  have hleft : (writes hashed >>= fun ws => runWrites env.pg userId ws w.db) = .ok db' := by
    rw [hwrites]
    exact runWrites_of_foldlM hrun
  rw [hcall, hleft]
  rfl

end

end ApiStarter.Iam
