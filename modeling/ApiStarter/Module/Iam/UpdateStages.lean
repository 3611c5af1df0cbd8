import ApiStarter.Effect.Crew
import ApiStarter.Module.Iam.UpdateWrites
import ApiStarter.Module.Iam.Visibility

/-
  `UserServiceImpl::partial_update` as an automaton.

  `follows_partialUpdate` says that the method looks for its user, draws a salt if there is a
  password, and then sends exactly the statements of its payload between `begin` and `commit`.
  `partialUpdate_carried` is what it has done when it ran alone and returned `Ok`.
-/

namespace ApiStarter.Iam

open ApiStarter.Auth ApiStarter.Database ApiStarter.Effect ApiStarter.Effect.Fallible
  ApiStarter.Errdef ApiStarter.Provider ApiStarter.Relational

/-! ## The stages of a call -/

/-- The payload with its password, which passes the check, replaced by its hash. -/
def HashedWith (env : Env) (salt : String) (fields hashed : UpdateUser) : Prop :=
  ∃ password hash, fields.password = some password ∧
    Validation.passwordChecker env.unicode password = .ok () ∧
    env.crypto.bcryptHash salt password = .ok hash ∧
    hashed = { fields with password := some hash }

inductive Stage where
  | looking
  | found
  | salted (salt : String)
  | writing (hashed : UpdateUser) (done todo : List Write)
  | committed (hashed : UpdateUser)
  | failed

/-- The payload that a transaction begun at this stage writes. -/
def Stage.Hashes (env : Env) (fields hashed : UpdateUser) : Stage → Prop
  | found => fields.password = none ∧ hashed = fields
  | salted salt => HashedWith env salt fields hashed
  | _ => False

/-- The operation and its answer take the call from one stage to the next. -/
inductive Moves (env : Env) (userId : Uuid) (fields : UpdateUser) :
    Stage → (o : Op) → Res o → Stage → Prop
  | found {row : JoinedUser} {r : Except SqlxError (Option JoinedUser)} (h : r = .ok (some row))
      (hdecodes : Decodes row) :
      Moves env userId fields .looking (.selectUserById userId) r .found
  | hydrated {id : Uuid} {r : Except SqlxError (List RoleRow)} :
      Moves env userId fields .found (.selectUserRoles id) r .found
  | salted {salt : String} : Moves env userId fields .found .salt salt (.salted salt)
  | begun {q : Stage} {hashed : UpdateUser} {ws : List Write} {r : Except SqlxError Unit}
      (h : r = .ok ()) (hhashed : q.Hashes env fields hashed) (hwrites : writes hashed = .ok ws) :
      Moves env userId fields q .begin r (.writing hashed [] ws)
  | columns {hashed : UpdateUser} {done todo : List Write} {sets : List SetClause}
      {r : Except SqlxError Unit} (h : r = .ok ()) :
      Moves env userId fields (.writing hashed done (.columns sets :: todo))
        (.updateUser sets userId) r (.writing hashed (done ++ [.columns sets]) todo)
  | addRoles {hashed : UpdateUser} {done todo : List Write} {names : List String}
      {r : Except SqlxError Unit} (h : r = .ok ()) :
      Moves env userId fields (.writing hashed done (.addRoles names :: todo))
        (.insertUserRoles userId names) r (.writing hashed (done ++ [.addRoles names]) todo)
  | removeRoles {hashed : UpdateUser} {done todo : List Write} {names : List String}
      {r : Except SqlxError Unit} (h : r = .ok ()) :
      Moves env userId fields (.writing hashed done (.removeRoles names :: todo))
        (.deleteUserRoles userId names) r (.writing hashed (done ++ [.removeRoles names]) todo)
  | committed {hashed : UpdateUser} {done : List Write} {r : Except SqlxError Unit}
      (h : r = .ok ()) :
      Moves env userId fields (.writing hashed done []) .commit r (.committed hashed)
  | failed {q : Stage} {o : Op} {r : Res o} : Moves env userId fields q o r .failed

/-- A call that returns `Ok` has committed. -/
def Ends (q : Stage) (r : Except Error Unit) : Prop := r = .ok () → ∃ hashed, q = .committed hashed

/-! ### The method goes through the stages -/

section

variable {env : Env} {userId : Uuid} {fields : UpdateUser}

theorem follows_requireUser {Post : Stage → Except Error User → Prop}
    (hfound : ∀ user, Post .found (.ok user)) (herror : ∀ q e, Post q (.error e)) :
    FollowsE (Moves env userId fields) Post (UserServiceImpl.requireUser userId) .looking := by
  refine followsE_bind (followsE_mapErrOf (followsE_ask_bind fun r => ?_))
  rcases r with err | _ | row
  · exact ⟨.failed, .failed, herror _ _⟩
  · exact ⟨.failed, .failed, herror _ _⟩
  by_cases hdecodes : Decodes row
  · obtain ⟨user, hmapped⟩ := mapUser_ok_iff.2 hdecodes
    refine ⟨.found, .found rfl hdecodes, followsE_mapErr_bind (fun found hrow => ?_) fun e he => ?_⟩
    · cases hrow
      refine followsE_bind (followsE_mapErr_bind (fun mapped _ => ?_) fun e he => ?_)
      · refine followsE_bind (followsE_ask_bind fun r => ⟨.found, .hydrated, ?_⟩)
        cases r with
        | error err => exact herror _ _
        | ok roles => exact hfound _
      · rw [hmapped] at he
        cases he
    · cases he
  · refine ⟨.failed, .failed, followsE_mapErr_bind (fun found hrow => ?_) fun e he => ?_⟩
    · cases hrow
      refine followsE_bind (followsE_mapErr_bind (fun mapped hmapped => ?_) fun e _ => herror _ _)
      exact absurd (mapUser_ok_iff.1 ⟨mapped, hmapped⟩) hdecodes
    · cases he

theorem follows_withHashedPassword {Post : Stage → Except Error UpdateUser → Prop}
    (hhashed : ∀ q hashed, Stage.Hashes env fields hashed q → Post q (.ok hashed))
    (herror : ∀ q e, Post q (.error e)) :
    FollowsE (Moves env userId fields) Post (UserServiceImpl.withHashedPassword env fields)
      .found := by
  unfold UserServiceImpl.withHashedPassword
  split
  next hnone => exact hhashed _ _ ⟨hnone, rfl⟩
  next password hsome =>
    refine followsE_mapErr_bind (fun _ hchecked => ?_) fun e _ => herror _ _
    refine followsE_bind (followsE_ask_bind fun salt => ⟨.salted salt, .salted, ?_⟩)
    refine followsE_mapErr ?_
    cases hhash : env.crypto.bcryptHash salt password with
    | error cause => exact herror _ _
    | ok hash => exact hhashed _ _ ⟨password, hash, hsome, hchecked, hhash, rfl⟩

variable {hashed : UpdateUser} {done todo : List Write}

theorem follows_columns {Post : Stage → Except DomainError Unit → Prop} {columns : List Write}
    (hcolumns : columnWrites hashed = .ok columns)
    (hok : Post (.writing hashed (done ++ columns) todo) (.ok ()))
    (herror : ∀ e, Post .failed (.error e)) :
    FollowsE (Moves env userId fields) Post (PgUserRepository.partialUpdate userId hashed)
      (.writing hashed done (columns ++ todo)) := by
  unfold columnWrites at hcolumns
  unfold PgUserRepository.partialUpdate
  split at hcolumns
  · cases hcolumns
    rw [List.append_nil] at hok
    rw [if_pos ‹_›]
    exact hok
  · obtain ⟨sets, hsets, hcolumns⟩ := ok_of_bind_ok hcolumns
    cases hcolumns
    rw [if_neg ‹_›, hsets]
    refine followsE_ask_bind fun r => ?_
    cases r with
    | error err => exact ⟨.failed, .failed, herror _⟩
    | ok u => exact ⟨_, .columns rfl, hok⟩

/-- A payload whose status has no id fails before a statement is sent. -/
theorem follows_columns_error {Post : Stage → Except DomainError Unit → Prop} {e : DomainError}
    (hcolumns : columnWrites hashed = .error e) (herror : ∀ e, Post .failed (.error e)) :
    FollowsE (Moves env userId fields) Post (PgUserRepository.partialUpdate userId hashed)
      .failed := by
  unfold columnWrites at hcolumns
  unfold PgUserRepository.partialUpdate
  split at hcolumns
  · cases hcolumns
  · rw [if_neg ‹_›]
    cases hsets : PgUserRepository.setClauses hashed with
    | error e => exact herror _
    | ok sets =>
      rw [hsets] at hcolumns
      cases hcolumns

/-- No statement is sent for an empty list. -/
theorem follows_roleWrites {Post : Stage → Except DomainError Unit → Prop}
    {f : List String → Write} {names : List String} {statement : Service DomainError Unit}
    (hstatement : Post (.writing hashed (done ++ [f names]) todo) (.ok ()) →
      FollowsE (Moves env userId fields) Post statement (.writing hashed done (f names :: todo)))
    (hok : Post (.writing hashed (done ++ roleWrites f (some names)) todo) (.ok ())) :
    FollowsE (Moves env userId fields) Post (if names.isEmpty then return () else statement)
      (.writing hashed done (roleWrites f (some names) ++ todo)) := by
  simp only [roleWrites] at hok ⊢
  split at hok
  next hempty =>
    rw [List.append_nil] at hok
    rw [if_pos hempty, if_pos hempty]
    exact hok
  next hnames =>
    rw [if_neg hnames, if_neg hnames]
    exact hstatement hok

theorem follows_addUserRoles {Post : Stage → Except DomainError Unit → Prop} {names : List String}
    (hok : Post (.writing hashed (done ++ roleWrites .addRoles (some names)) todo) (.ok ()))
    (herror : ∀ e, Post .failed (.error e)) :
    FollowsE (Moves env userId fields) Post (PgUserRepository.addUserRoles userId names)
      (.writing hashed done (roleWrites .addRoles (some names) ++ todo)) := by
  refine follows_roleWrites (fun hok => followsE_ask_bind fun r => ?_) hok
  cases r with
  | error err => exact ⟨.failed, .failed, herror _⟩
  | ok u => exact ⟨_, .addRoles rfl, hok⟩

theorem follows_removeUserRoles {Post : Stage → Except DomainError Unit → Prop}
    {names : List String}
    (hok : Post (.writing hashed (done ++ roleWrites .removeRoles (some names)) todo) (.ok ()))
    (herror : ∀ e, Post .failed (.error e)) :
    FollowsE (Moves env userId fields) Post (PgUserRepository.removeUserRoles userId names)
      (.writing hashed done (roleWrites .removeRoles (some names) ++ todo)) := by
  refine follows_roleWrites (fun hok => followsE_ask_bind fun r => ?_) hok
  cases r with
  | error err => exact ⟨.failed, .failed, herror _⟩
  | ok u => exact ⟨_, .removeRoles rfl, hok⟩

theorem follows_applyUpdate {Post : Stage → Except Error Unit → Prop} {ws : List Write}
    (hwrites : writes hashed = .ok ws) (hok : Post (.writing hashed ws []) (.ok ()))
    (herror : ∀ e, Post .failed (.error e)) :
    FollowsE (Moves env userId fields) Post (UserServiceImpl.applyUpdate userId hashed)
      (.writing hashed [] ws) := by
  obtain ⟨columns, hcolumns, rfl⟩ := writes_ok hwrites
  rw [UserServiceImpl.applyUpdate_eq, List.append_assoc]
  refine followsE_bind (followsE_mapErrOf (follows_columns hcolumns ?_ fun e => herror _))
  rw [List.nil_append]
  have hremove : FollowsE (Moves env userId fields) Post
      (hashed.removeRoles.elim (pure ()) fun roles =>
        mapErrOf UserServiceImpl.mapDomainError (PgUserRepository.removeUserRoles userId roles))
      (.writing hashed (columns ++ roleWrites .addRoles hashed.addRoles)
        (roleWrites .removeRoles hashed.removeRoles)) := by
    cases hnames : hashed.removeRoles with
    | none =>
      rw [hnames, roleWrites, List.append_nil] at hok
      exact hok
    | some names =>
      rw [hnames] at hok
      rw [← List.append_nil (roleWrites .removeRoles (some names))]
      exact followsE_mapErrOf (follows_removeUserRoles hok fun e => herror _)
  cases hnames : hashed.addRoles with
  | none =>
    rw [hnames, roleWrites, List.append_nil] at hremove
    exact hremove
  | some names =>
    rw [hnames] at hremove
    exact followsE_bind (followsE_mapErrOf (follows_addUserRoles hremove fun e => herror _))

theorem follows_applyUpdate_error {Post : Stage → Except Error Unit → Prop} {e : DomainError}
    (hwrites : writes hashed = .error e) (herror : ∀ e, Post .failed (.error e)) :
    FollowsE (Moves env userId fields) Post (UserServiceImpl.applyUpdate userId hashed)
      .failed := by
  cases hcolumns : columnWrites hashed with
  | ok columns =>
    unfold writes at hwrites
    rw [hcolumns] at hwrites
    cases hwrites
  | error e =>
    exact followsE_bind (followsE_mapErrOf (follows_columns_error hcolumns fun e => herror _))

/-- The method goes through the stages, and returns `Ok` only after its commit. -/
theorem follows_partialUpdate (env : Env) (userId : Uuid) (fields : UpdateUser) :
    FollowsE (Moves env userId fields) Ends (UserServiceImpl.partialUpdate env userId fields)
      .looking := by
  have herror : ∀ (q : Stage) (e : Error), Ends q (.error e) := fun _ _ h => nomatch h
  refine followsE_bind (follows_requireUser (fun user => ?_) herror)
  refine followsE_bind (follows_withHashedPassword (fun q hashed hhashed => ?_) herror)
  refine followsE_ask_bind fun r => ?_
  cases r with
  | error err => exact ⟨.failed, .failed, herror _ _⟩
  | ok u =>
    have hrollback : ∀ e, FollowsE (Moves env userId fields) Ends (do
        let _ ← ask .rollback
        throw e : Service Error Unit) .failed := fun e =>
      followsE_ask_bind fun r => ⟨.failed, .failed, herror _ _⟩
    cases hwrites : writes hashed with
    | error e =>
      refine ⟨.failed, .failed, followsE_mapErr_bind (fun _ _ => ?_) fun e he => nomatch he⟩
      exact followsE_bind (followsE_tryCatch
        (follows_applyUpdate_error hwrites fun e => hrollback e))
    | ok ws =>
      refine ⟨_, .begun rfl hhashed hwrites, followsE_mapErr_bind (fun _ _ => ?_) fun e he => ?_⟩
      swap
      · cases he
      refine followsE_bind (followsE_tryCatch ?_)
      refine follows_applyUpdate hwrites (followsE_ask_bind fun r => ?_) fun e => hrollback e
      cases r with
      | error err => exact ⟨.failed, .failed, herror _ _⟩
      | ok u => exact ⟨_, .committed rfl, fun _ => ⟨_, rfl⟩⟩

end

/-! ## A call that runs alone -/

/-- The payload with its password replaced by the hash made with the `n`-th salt. -/
def HashedAt (env : Env) (n : Nat) (fields hashed : UpdateUser) : Prop :=
  fields.password = none ∧ hashed = fields ∨ HashedWith env (env.salt n) fields hashed

theorem HashedAt.unique {env : Env} {n : Nat} {fields hashed hashed' : UpdateUser}
    (h : HashedAt env n fields hashed) (h' : HashedAt env n fields hashed') : hashed = hashed' := by
  rcases h with ⟨hnone, rfl⟩ | ⟨password, hash, hsome, -, hhash, rfl⟩ <;>
    rcases h' with ⟨hnone', rfl⟩ | ⟨password', hash', hsome', -, hhash', rfl⟩
  · rfl
  · rw [hnone] at hsome'
    cases hsome'
  · rw [hsome] at hnone'
    cases hnone'
  · rw [hsome] at hsome'
    cases hsome'
    rw [hhash] at hhash'
    cases hhash'
    rfl

/-- The payload makes the call send these statements, with the `n`-th salt. -/
def Sends (env : Env) (n : Nat) (fields : UpdateUser) (ws : List Write) : Prop :=
  ∃ hashed, HashedAt env n fields hashed ∧ writes hashed = .ok ws

theorem Sends.unique {env : Env} {n : Nat} {fields : UpdateUser} {ws ws' : List Write}
    (h : Sends env n fields ws) (h' : Sends env n fields ws') : ws = ws' := by
  obtain ⟨hashed, hhashed, hwrites⟩ := h
  obtain ⟨hashed', hhashed', hwrites'⟩ := h'
  rw [hhashed.unique hhashed', hwrites'] at hwrites
  exact (Except.ok.inj hwrites).symm

/-- The world of a call at each of its stages, where the call began at `db` and with the `n`-th
    salt to be drawn next. -/
def Alone (env : Env) (userId : Uuid) (fields : UpdateUser) (db : Db) (n : Nat) (w : World) :
    Stage → Prop
  | .looking => w.db = db ∧ w.saltsDrawn = n
  | .found => w.db = db ∧ w.saltsDrawn = n
  | .salted salt => w.db = db ∧ salt = env.salt n
  | .writing hashed done todo => w.db = db ∧ HashedAt env n fields hashed ∧
      writes hashed = .ok (done ++ todo) ∧ ∃ copy, w.tx = some copy ∧ Carried userId done db copy
  | .committed hashed => HashedAt env n fields hashed ∧
      ∃ ws, writes hashed = .ok ws ∧ Carried userId ws db w.db
  | .failed => True

section

variable {env : Env} {faults : Faults} {userId : Uuid} {fields : UpdateUser} {w w' : World}

/-- A statement that went through, from the copy `db`. -/
theorem executeInTx_write_ok {write : Write} {db : Db} (htx : w.tx = some db)
    (h : (executeInTx faults w fun db =>
      (write.run env.pg userId db).map fun db => ((), db)).1 = .ok ()) :
    ∃ db', write.run env.pg userId db = .ok db' ∧
      (executeInTx faults w fun db => (write.run env.pg userId db).map fun db => ((), db)).2 =
        { w with statements := w.statements + 1, tx := some db' } := by
  obtain ⟨db', hrun, hw'⟩ := executeInTx_ok htx h
  obtain ⟨db'', hrun, heq⟩ := ok_of_map_ok hrun
  cases heq
  exact ⟨_, hrun, hw'⟩

theorem alone_write (hpg : env.pg.RejectsLonger) {db : Db} {n : Nat} {hashed : UpdateUser}
    {write : Write} {done todo : List Write}
    (hw : Alone env userId fields db n w (.writing hashed done (write :: todo)))
    (h : (executeInTx faults w fun db =>
      (write.run env.pg userId db).map fun db => ((), db)).1 = .ok ()) :
    Alone env userId fields db n
      (executeInTx faults w fun db => (write.run env.pg userId db).map fun db => ((), db)).2
      (.writing hashed (done ++ [write]) todo) := by
  obtain ⟨hdb, hhashed, hwrites, copy, htx, hcarried⟩ := hw
  obtain ⟨copy', hrun, hw'⟩ := executeInTx_write_ok htx h
  rw [hw']
  exact ⟨hdb, hhashed, by rw [hwrites, List.append_assoc]; rfl, copy', rfl,
    hcarried.append (Write.carried hpg hrun)⟩

theorem alone_step (hpg : env.pg.RejectsLonger) {db : Db} {n : Nat} {q q' : Stage} {o : Op}
    (hw : Alone env userId fields db n w q)
    (hmove : Moves env userId fields q o (exec env faults o w).1 q') :
    Alone env userId fields db n (exec env faults o w).2 q' := by
  generalize hr : (exec env faults o w).1 = r at hmove
  cases hmove with
  | found h hdecodes =>
    rw [show (exec env faults (.selectUserById userId) w).2 = w.counted from query_snd _]
    exact hw
  | hydrated =>
    rw [show (exec env faults (.selectUserRoles _) w).2 = w.counted from query_snd _]
    exact hw
  | salted => exact ⟨hw.1, by rw [← hr, ← hw.2]; rfl⟩
  | begun h hhashed hwrites =>
    subst h
    rw [exec_begin_ok hr]
    have hdb : w.db = db := by
      cases q <;> first | exact hw.1 | exact hhashed.elim
    refine ⟨hdb, ?_, hwrites, w.db, rfl, hdb ▸ .nil userId w.db⟩
    cases q with
    | found => exact .inl hhashed
    | salted salt => exact .inr (hw.2 ▸ hhashed)
    | _ => exact hhashed.elim
  | columns h => exact alone_write hpg hw (hr.trans h)
  | addRoles h => exact alone_write hpg hw (hr.trans h)
  | removeRoles h => exact alone_write hpg hw (hr.trans h)
  | committed h =>
    subst h
    obtain ⟨-, hhashed, hwrites, copy, htx, hcarried⟩ := hw
    rw [List.append_nil] at hwrites
    rw [show (exec env faults .commit w).2 = _ from commit_ok hr]
    exact ⟨hhashed, _, hwrites, by rwa [htx]⟩
  | failed => trivial

/-- What a call that returned `Ok` has done. -/
theorem partialUpdate_carried (hpg : env.pg.RejectsLonger)
    (h : runE (exec env faults) (UserServiceImpl.partialUpdate env userId fields) w =
      (some (.ok ()), w')) :
    ∃ ws, Sends env w.saltsDrawn fields ws ∧ Carried userId ws w.db w'.db := by
  have hstep : ∀ s q o q', Alone env userId fields w.db w.saltsDrawn s q →
      Moves env userId fields q o (exec env faults o s).1 q' →
      Alone env userId fields w.db w.saltsDrawn (exec env faults o s).2 q' :=
    fun _ _ _ _ => alone_step hpg
  have hstart : Alone env userId fields w.db w.saltsDrawn w .looking := ⟨rfl, rfl⟩
  obtain ⟨q, hw', hends⟩ := (follows_partialUpdate env userId fields).run hstep hstart
  rw [h] at hw' hends
  obtain ⟨hashed, rfl⟩ := hends _ rfl rfl
  obtain ⟨hhashed, ws, hwrites, hcarried⟩ := hw'
  exact ⟨ws, ⟨hashed, hhashed, hwrites⟩, hcarried⟩

end

end ApiStarter.Iam
