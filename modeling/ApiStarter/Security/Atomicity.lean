import ApiStarter.Package.Auth.Recovery
import ApiStarter.Package.Auth.Tokens
import ApiStarter.Provider.SampleEnv

/-
  `reset_password` and `password_recovery` when a statement or the mailer fails.

  Each writes in two statements of their own, outside any transaction, with a return after
  each. Between the two writes neither call is undone: a failing `DELETE` leaves a reset with
  the password already written, and a failing `INSERT` or mail leaves a recovery with the old
  rows already gone. `reset_all_or_nothing` and `recovery_keeps_pending` say for which states
  and which faults the calls nevertheless keep to all or nothing.
-/

namespace ApiStarter.Security

open ApiStarter.Auth ApiStarter.Database ApiStarter.Effect ApiStarter.Effect.Fallible
  ApiStarter.Errdef ApiStarter.Provider ApiStarter.Relational

section

variable {env : Env} {faults : Faults} {w : World}

/-! ## Failing statements -/

theorem exec_findUserByEmail_failed {err : SqlxError}
    (h : faults.store w.statements = some err) (email : String) :
    exec env faults (.findUserByEmail email) w = (.error err, w.counted) :=
  Prod.ext (query_fst_of_store_some h _) (query_snd _)

theorem exec_findPasswordByToken_failed {err : SqlxError}
    (h : faults.store w.statements = some err) (token : String) :
    exec env faults (.findPasswordByToken token) w = (.error err, w.counted) :=
  Prod.ext (query_fst_of_store_some h _) (query_snd _)

theorem exec_createPasswordReset_failed {err : SqlxError}
    (h : faults.store w.statements = some err) (email token : String) :
    exec env faults (.createPasswordReset email token) w = (.error err, w.counted) :=
  executeOnPool_of_store_some h _

theorem exec_deletePasswordReset_failed {err : SqlxError}
    (h : faults.store w.statements = some err) (email : String) :
    exec env faults (.deletePasswordReset email) w = (.error err, w.counted) :=
  executeOnPool_of_store_some h _

theorem exec_resetPassword_failed {err : SqlxError}
    (h : faults.store w.statements = some err) (email hash : String) :
    exec env faults (.resetPassword email hash) w = (.error err, w.counted) :=
  executeOnPool_of_store_some h _

/-- An update changes nothing exactly if it changes none of its rows. -/
theorem updateWhere_eq_self_iff {α : Type} {p : α → Bool} {f : α → α} {xs : List α} :
    updateWhere p f xs = xs ↔ ∀ x ∈ xs, p x = true → f x = x := by
  have hid : updateWhere p f xs = xs ↔ updateWhere p f xs = xs.map id := by rw [List.map_id]
  rw [hid, updateWhere, List.map_inj_left]
  refine forall₂_congr fun x _ => ?_
  cases p x <;> simp

/-! ## Reset -/

/-- An error has changed no password and no pending row; a value has set the password of a user
    of the address and left no row that answers to the token. -/
structure AllOrNothing (env : Env) (token newPassword : String)
    (outcome : Option (Except Error Unit)) (db db' : Db) : Prop where
  nothing : ∀ e, outcome = some (.error e) →
    db'.users = db.users ∧ db'.passwordResets = db.passwordResets
  all : outcome = some (.ok ()) →
    (∃ row, PostgresAuthStore.findPasswordByToken db (Crypto.hashToken env token) = some row ∧
      ∃ u ∈ db'.users, u.email = row.email ∧
        ∃ salt, env.crypto.bcryptHash salt newPassword = .ok u.password) ∧
    PostgresAuthStore.findPasswordByToken db' (Crypto.hashToken env token) = none

/-- The `UPDATE` of a reset is reached, with this row and this hash, and goes through. -/
structure PasswordWritten (env : Env) (faults : Faults) (token newPassword : String) (w : World)
    (row : PasswordResetRow) (hash : String) : Prop where
  lookup_up : faults.store w.statements = none
  found : PostgresAuthStore.findPasswordByToken w.db (Crypto.hashToken env token) = some row
  live : ¬ Expired row w.clock
  hashed : env.crypto.bcryptHash (env.salt w.saltsDrawn) newPassword = .ok hash
  update_up : faults.store (w.statements + 1) = none

/-- Once the `UPDATE` has gone through: if the `DELETE` does too, somebody has the address, and
    it is the address of every row under the digest; if it does not, the `UPDATE` has written
    what was there. -/
def ResetCompletes (env : Env) (faults : Faults) (token newPassword : String) (w : World) : Prop :=
  ∀ row hash, PasswordWritten env faults token newPassword w row hash →
    if faults.store (w.statements + 2) = none then
      (∃ u ∈ w.db.users, u.email = row.email) ∧
        ∀ other ∈ w.db.passwordResets, other.token = Crypto.hashToken env token →
          other.email = row.email
    else ∀ u ∈ w.db.users, u.email = row.email → u.password = hash

/-- A reset that does not get as far as its `UPDATE` ends in an error and writes nothing; one
    that does is decided by its `DELETE`. -/
theorem runE_resetPassword_cases (env : Env) (faults : Faults) (w : World)
    (token newPassword : String) :
    (∃ e w', runE (exec env faults) (AuthService.resetPassword env token newPassword) w =
        (some (.error e), w') ∧ w'.db = w.db ∧
      ∀ row hash, ¬ PasswordWritten env faults token newPassword w row hash) ∨
    ∃ row hash, PasswordWritten env faults token newPassword w row hash ∧
      ∃ w', w'.db = PostgresAuthStore.resetPassword row.email hash w.db ∧
        runE (exec env faults) (AuthService.resetPassword env token newPassword) w =
          match faults.store (w.statements + 2) with
          | some err => (some (.error (sqlxUnknown err)), w')
          | none => (some (.ok ()),
              { w' with db := PostgresAuthStore.deletePasswordReset row.email w'.db }) := by
  unfold AuthService.resetPassword
  rw [runE_ask_bind]
  cases hlookup : faults.store w.statements with
  | some err =>
    rw [exec_findPasswordByToken_failed hlookup]
    refine .inl ⟨_, _, rfl, rfl, fun row hash h => ?_⟩
    rw [h.lookup_up] at hlookup
    cases hlookup
  | none =>
    rw [exec_findPasswordByToken hlookup]
    dsimp only
    rw [mapErr_ok, pure_bind]
    cases hfound : PostgresAuthStore.findPasswordByToken w.db (Crypto.hashToken env token) with
    | none =>
      refine .inl ⟨_, _, rfl, rfl, fun row hash h => ?_⟩
      rw [h.found] at hfound
      cases hfound
    | some row =>
      rw [okOr_some, pure_bind, runE_ask_bind, exec_utcNow]
      dsimp only
      by_cases hexpired : Expired row w.clock
      · have hlate : addMinutes row.createdAt passwordResetTtlMinutes < w.counted.clock := hexpired
        rw [if_pos hlate]
        refine .inl ⟨_, _, rfl, rfl, fun row' hash h => ?_⟩
        rw [h.found] at hfound
        cases hfound
        exact h.live hexpired
      · have hlive : ¬ addMinutes row.createdAt passwordResetTtlMinutes < w.counted.clock := hexpired
        rw [if_neg hlive, runE_bind, Crypto.runE_hashPassword]
        dsimp only [World.counted]
        cases hhash : env.crypto.bcryptHash (env.salt w.saltsDrawn) newPassword with
        | error cause =>
          refine .inl ⟨_, _, rfl, rfl, fun row' hash h => ?_⟩
          rw [h.hashed] at hhash
          cases hhash
        | ok hash =>
          dsimp only [Except.mapError]
          rw [runE_ask_bind]
          cases hupdate : faults.store (w.statements + 1) with
          | some err =>
            rw [exec_resetPassword_failed hupdate]
            refine .inl ⟨_, _, rfl, rfl, fun row' hash' h => ?_⟩
            rw [h.update_up] at hupdate
            cases hupdate
          | none =>
            rw [exec_resetPassword hupdate]
            refine .inr ⟨row, hash, ⟨hlookup, hfound, hexpired, hhash, hupdate⟩, ?_⟩
            dsimp only
            rw [mapErr_ok, pure_bind, runE_ask_bind]
            cases hdelete : faults.store (w.statements + 2) with
            | some err =>
              rw [exec_deletePasswordReset_failed hdelete]
              exact ⟨_, rfl, rfl⟩
            | none =>
              rw [exec_deletePasswordReset hdelete]
              refine ⟨{ w with
                db := PostgresAuthStore.resetPassword row.email hash w.db
                statements := w.statements + 3
                saltsDrawn := w.saltsDrawn + 1 }, rfl, rfl⟩

/-- What the `UPDATE` leaves of the users. -/
theorem resetPassword_users_eq_iff {email hash : String} {db : Db} :
    (PostgresAuthStore.resetPassword email hash db).users = db.users ↔
      ∀ u ∈ db.users, u.email = email → u.password = hash := by
  have hrow : ∀ u : UserRow, { u with password := hash } = u ↔ u.password = hash := by
    intro u
    obtain ⟨id, userName, avatarId, address, password, firstName, lastName, status, dep⟩ := u
    simp only [UserRow.mk.injEq, true_and, and_true, eq_comm]
  simp only [PostgresAuthStore.resetPassword, updateWhere_eq_self_iff, beq_iff_eq, hrow]

/-- The `DELETE` takes every row under the digest exactly if they are all for the address. -/
theorem findPasswordByToken_deleted_eq_none_iff (email digest : String) (db : Db) :
    PostgresAuthStore.findPasswordByToken (PostgresAuthStore.deletePasswordReset email db)
        digest = none ↔
      ∀ row ∈ db.passwordResets, row.token = digest → row.email = email := by
  simp only [PostgresAuthStore.findPasswordByToken, PostgresAuthStore.deletePasswordReset,
    List.find?_eq_none, mem_deleteWhere, decide_eq_true_eq]
  constructor
  · intro h row hrow htoken
    by_contra hother
    exact h row ⟨hrow, by simpa using hother⟩ htoken
  · rintro h row ⟨hrow, hkept⟩ htoken
    simp [h row hrow htoken] at hkept

/-- Somebody of the address has a hash of the password after the `UPDATE` exactly if somebody
    has the address. -/
theorem exists_password_written_iff {env : Env} {newPassword salt hash : String}
    (email : String) (db : Db) (hhash : env.crypto.bcryptHash salt newPassword = .ok hash) :
    (∃ u ∈ (PostgresAuthStore.resetPassword email hash db).users, u.email = email ∧
        ∃ salt, env.crypto.bcryptHash salt newPassword = .ok u.password) ↔
      ∃ u ∈ db.users, u.email = email := by
  constructor
  · rintro ⟨u, hu, hemail, -⟩
    obtain ⟨u', hu', rfl⟩ := mem_updateWhere.1 hu
    refine ⟨u', hu', ?_⟩
    split at hemail <;> exact hemail
  · rintro ⟨u, hu, hemail⟩
    refine ⟨{ u with password := hash }, mem_updateWhere.2 ⟨u, hu, ?_⟩, hemail, salt, hhash⟩
    rw [if_pos (by simpa using hemail)]

/-- A reset is all or nothing exactly if what follows its `UPDATE` fits it. -/
theorem reset_all_or_nothing (env : Env) (faults : Faults) (token newPassword : String)
    (w : World) :
    AllOrNothing env token newPassword
        (runE (exec env faults) (AuthService.resetPassword env token newPassword) w).1 w.db
        (runE (exec env faults) (AuthService.resetPassword env token newPassword) w).2.db ↔
      ResetCompletes env faults token newPassword w := by
  obtain ⟨e, w', hrun, hdb, hnot⟩ | ⟨row, hash, hwritten, w', hdb, hrun⟩ :=
    runE_resetPassword_cases env faults w token newPassword
  · rw [hrun]
    constructor
    · intro _ row hash hwritten
      exact (hnot row hash hwritten).elim
    · intro _
      exact ⟨fun _ _ => by rw [hdb]; exact ⟨rfl, rfl⟩, fun hok => by cases hok⟩
  · -- There is one row and one hash, so the condition speaks about these.
    have hone : ResetCompletes env faults token newPassword w ↔
        if faults.store (w.statements + 2) = none then
          (∃ u ∈ w.db.users, u.email = row.email) ∧
            ∀ other ∈ w.db.passwordResets, other.token = Crypto.hashToken env token →
              other.email = row.email
        else ∀ u ∈ w.db.users, u.email = row.email → u.password = hash := by
      refine ⟨fun h => h row hash hwritten, fun h row' hash' hwritten' => ?_⟩
      have hrow : row' = row := Option.some.inj (hwritten'.found.symm.trans hwritten.found)
      have hhash : hash' = hash := Except.ok.inj (hwritten'.hashed.symm.trans hwritten.hashed)
      rw [hrow, hhash]
      exact h
    rw [hone, hrun]
    cases hdelete : faults.store (w.statements + 2) with
    | some err =>
      rw [if_neg (by simp), ← resetPassword_users_eq_iff, ← hdb]
      constructor
      · intro h
        exact (h.nothing _ rfl).1
      · intro h
        exact ⟨fun _ _ => ⟨h, by rw [hdb]; rfl⟩, fun hok => by cases hok⟩
    | none =>
      rw [if_pos rfl]
      have hnone := findPasswordByToken_deleted_eq_none_iff row.email
        (Crypto.hashToken env token) w'.db
      have hresets : w'.db.passwordResets = w.db.passwordResets := by rw [hdb]; rfl
      have hset := exists_password_written_iff row.email w.db hwritten.hashed
      rw [hresets] at hnone
      rw [← hdb] at hset
      constructor
      · intro h
        obtain ⟨⟨row', hfound, u, hu, hemail, hsalt⟩, hgone⟩ := h.all rfl
        have hrow : row' = row := Option.some.inj (hfound.symm.trans hwritten.found)
        rw [hrow] at hemail
        exact ⟨hset.1 ⟨u, hu, hemail, hsalt⟩, hnone.1 hgone⟩
      · rintro ⟨hsome, hall⟩
        refine ⟨fun e he => ?_, fun _ => ⟨⟨row, hwritten.found, hset.2 hsome⟩, hnone.2 hall⟩⟩
        cases he

/-! ## Recovery -/

/-- The `DELETE` of a recovery is reached and goes through. -/
structure PendingCleared (faults : Faults) (email : String) (w : World) (user : Identity) :
    Prop where
  lookup_up : faults.store w.statements = none
  found : PostgresAuthStore.findUserByEmail w.db email = some user
  delete_up : faults.store (w.statements + 1) = none

/-- Once the `DELETE` has gone through: if the `INSERT` does too, the mail is sent, or the only
    row of the address was the one the `INSERT` writes; if it does not, the address had none. -/
def RecoveryReplaces (env : Env) (faults : Faults) (email : String) (w : World) : Prop :=
  ∀ user, PendingCleared faults email w user →
    if faults.store (w.statements + 2) = none then
      faults.mailer w.mailsTried = none ∨
        w.db.passwordResets.filter (fun row => row.email == email) =
          [⟨email, Crypto.hashToken env (env.randomToken w.tokensDrawn), w.clock⟩]
    else ∀ row ∈ w.db.passwordResets, row.email ≠ email

theorem perm_deleted_append_iff (email : String) (resets new : List PasswordResetRow) :
    (deleteWhere (fun row => row.email == email) resets ++ new).Perm resets ↔
      (resets.filter fun row => row.email == email).Perm new := by
  have hsplit : (deleteWhere (fun row => row.email == email) resets ++
      resets.filter fun row => row.email == email).Perm resets :=
    List.perm_append_comm.trans (List.filter_append_perm _ _)
  constructor
  · intro h
    exact (List.perm_append_left_iff _).1 (hsplit.trans h.symm)
  · intro h
    exact ((List.perm_append_left_iff _).2 h.symm).trans hsplit

/-- A recovery that does not get past its `DELETE` ends in an error and writes nothing; one that
    does is decided by its `INSERT` and its mail. -/
theorem runE_passwordRecovery_cases (env : Env) (faults : Faults) (w : World)
    (email callbackUri : String) :
    (∃ e w', runE (exec env faults) (AuthService.passwordRecovery env email callbackUri) w =
        (some (.error e), w') ∧ w'.db = w.db ∧ ∀ user, ¬ PendingCleared faults email w user) ∨
    ∃ user, PendingCleared faults email w user ∧
      match faults.store (w.statements + 2) with
      | some err => ∃ w', w'.db = PostgresAuthStore.deletePasswordReset email w.db ∧
          runE (exec env faults) (AuthService.passwordRecovery env email callbackUri) w =
            (some (.error (sqlxUnknown err)), w')
      | none => ∃ w', w'.db = (recoveredWorld env email w).db ∧
          runE (exec env faults) (AuthService.passwordRecovery env email callbackUri) w =
            (some (match faults.mailer w.mailsTried with
              | some err => .error (Error.unknown err)
              | none => .ok ()), w') := by
  unfold AuthService.passwordRecovery
  rw [runE_ask_bind]
  cases hlookup : faults.store w.statements with
  | some err =>
    rw [exec_findUserByEmail_failed hlookup]
    refine .inl ⟨_, _, rfl, rfl, fun user h => ?_⟩
    rw [h.lookup_up] at hlookup
    cases hlookup
  | none =>
    rw [exec_findUserByEmail hlookup]
    dsimp only
    rw [mapErr_ok, pure_bind]
    cases hfound : PostgresAuthStore.findUserByEmail w.db email with
    | none =>
      refine .inl ⟨_, _, rfl, rfl, fun user h => ?_⟩
      rw [h.found] at hfound
      cases hfound
    | some user =>
      rw [okOr_some, pure_bind, runE_ask_bind]
      cases hdelete : faults.store (w.statements + 1) with
      | some err =>
        have hdelete' : faults.store w.counted.statements = some err := hdelete
        rw [exec_deletePasswordReset_failed hdelete']
        refine .inl ⟨_, _, rfl, rfl, fun user h => ?_⟩
        rw [h.delete_up] at hdelete
        cases hdelete
      | none =>
        have hdelete' : faults.store w.counted.statements = none := hdelete
        rw [exec_deletePasswordReset hdelete']
        refine .inr ⟨user, ⟨hlookup, hfound, hdelete⟩, ?_⟩
        dsimp only
        rw [mapErr_ok, pure_bind, runE_ask_bind, exec_randomToken]
        dsimp only [World.counted]
        rw [runE_ask_bind]
        cases hinsert : faults.store (w.statements + 2) with
        | some err =>
          rw [exec_createPasswordReset_failed hinsert]
          exact ⟨_, rfl, rfl⟩
        | none =>
          rw [exec_createPasswordReset hinsert]
          dsimp only
          rw [mapErr_ok, pure_bind, runE_ask_bind]
          simp only [exec, sendHtml, World.counted]
          cases faults.mailer w.mailsTried with
          | some err =>
            refine ⟨_, ?_, rfl⟩
            rfl
          | none =>
            refine ⟨_, ?_, rfl⟩
            rfl

/-- A failed recovery leaves the pending rows as they were exactly if its replacement of the
    rows of the address is complete or had nothing to replace. -/
theorem recovery_keeps_pending (env : Env) (faults : Faults) (email callbackUri : String)
    (w : World) :
    (∀ e, (runE (exec env faults) (AuthService.passwordRecovery env email callbackUri) w).1 =
        some (.error e) →
      (runE (exec env faults) (AuthService.passwordRecovery env email callbackUri)
        w).2.db.passwordResets.Perm w.db.passwordResets) ↔
      RecoveryReplaces env faults email w := by
  obtain ⟨e, w', hrun, hdb, hnot⟩ | ⟨user, hcleared, hrun⟩ :=
    runE_passwordRecovery_cases env faults w email callbackUri
  · rw [hrun]
    constructor
    · intro _ user hcleared
      exact (hnot user hcleared).elim
    · intro _ _ _
      rw [hdb]
  · have hone : RecoveryReplaces env faults email w ↔
        if faults.store (w.statements + 2) = none then
          faults.mailer w.mailsTried = none ∨
            w.db.passwordResets.filter (fun row => row.email == email) =
              [⟨email, Crypto.hashToken env (env.randomToken w.tokensDrawn), w.clock⟩]
        else ∀ row ∈ w.db.passwordResets, row.email ≠ email :=
      ⟨fun h => h user hcleared, fun h _ _ => h⟩
    rw [hone]
    cases hinsert : faults.store (w.statements + 2) with
    | some err =>
      rw [hinsert] at hrun
      obtain ⟨w', hdb, hrun⟩ := hrun
      rw [hrun, if_neg (by simp), hdb]
      have hperm := perm_deleted_append_iff email w.db.passwordResets []
      rw [List.append_nil, List.perm_nil, List.filter_eq_nil_iff] at hperm
      simp only [beq_iff_eq] at hperm
      constructor
      · intro h
        exact hperm.1 (h _ rfl)
      · intro h _ _
        exact hperm.2 h
    | none =>
      rw [hinsert] at hrun
      obtain ⟨w', hdb, hrun⟩ := hrun
      rw [hrun, if_pos rfl, hdb]
      have hperm := perm_deleted_append_iff email w.db.passwordResets
        [⟨email, Crypto.hashToken env (env.randomToken w.tokensDrawn), w.clock⟩]
      rw [List.perm_singleton] at hperm
      cases hmail : faults.mailer w.mailsTried with
      | none => simp
      | some err =>
        constructor
        · intro h
          exact .inr (hperm.1 (h _ rfl))
        · rintro (h | h) _ _
          · cases h
          · exact hperm.2 h

end

/-! ## Failing calls -/

/-- The administrator has asked for a reset. -/
def adminAsked : World :=
  sampleAfter (.passwordRecovery "admin@example.com" "https://example.com/") sampleWorld

/-- The sixth statement fails, which is the `DELETE` of the reset. -/
def sixthFails : Faults where
  store n := if n = 5 then some (.other "connection reset by peer") else none
  mailer _ := none

/-- The second mail fails. -/
def secondMailFails : Faults where
  store _ := none
  mailer n := if n = 1 then some "connection refused" else none

/-- The caller is told that the reset failed, the password is changed, and the token still
    works. -/
theorem reset_half_done :
    (∃ e, (runE (exec sampleEnv sixthFails)
      (AuthService.resetPassword sampleEnv "t" "N3w-Secret") adminAsked).1 = some (.error e)) ∧
    (runE (exec sampleEnv sixthFails)
      (AuthService.resetPassword sampleEnv "t" "N3w-Secret") adminAsked).2.db.users ≠
        adminAsked.db.users ∧
    (runE (exec sampleEnv Faults.none) (AuthService.resetPassword sampleEnv "t" "An0ther-One")
      (runE (exec sampleEnv sixthFails)
        (AuthService.resetPassword sampleEnv "t" "N3w-Secret") adminAsked).2).1 =
          some (.ok ()) :=
  ⟨⟨sqlxUnknown (.other "connection reset by peer"), by decide +kernel⟩, by decide +kernel,
    by decide +kernel⟩

/-- The second recovery fails, and with it the token of the first one no longer works. -/
theorem recovery_destroys_token :
    (∃ e, (runE (exec sampleEnv secondMailFails) (AuthService.passwordRecovery sampleEnv
      "admin@example.com" "https://example.com/") adminAsked).1 = some (.error e)) ∧
    ¬ (runE (exec sampleEnv secondMailFails) (AuthService.passwordRecovery sampleEnv
      "admin@example.com" "https://example.com/") adminAsked).2.db.passwordResets.Perm
        adminAsked.db.passwordResets ∧
    (runE (exec sampleEnv Faults.none) (AuthService.resetPassword sampleEnv "t" "N3w-Secret")
      adminAsked).1 = some (.ok ()) ∧
    (runE (exec sampleEnv Faults.none) (AuthService.resetPassword sampleEnv "t" "N3w-Secret")
      (runE (exec sampleEnv secondMailFails) (AuthService.passwordRecovery sampleEnv
        "admin@example.com" "https://example.com/") adminAsked).2).1 ≠ some (.ok ()) :=
  ⟨⟨Error.unknown "connection refused", by decide +kernel⟩, by decide +kernel, by decide +kernel,
    by decide +kernel⟩

end ApiStarter.Security
