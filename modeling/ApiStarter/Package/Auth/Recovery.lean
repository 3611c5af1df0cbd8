import ApiStarter.Provider.Transaction

/-
  `password_recovery` and `reset_password` while no statement fails: the outcome and the world
  each leaves, by the rows it finds.
-/

namespace ApiStarter.Auth

open ApiStarter.Database ApiStarter.Effect ApiStarter.Effect.Fallible ApiStarter.Errdef
  ApiStarter.Provider

/-- No statement fails; a mail may. -/
def Faults.StoreUp (faults : Faults) : Prop := ∀ n, faults.store n = none

section

variable {env : Env} {faults : Faults} {w : World}

/-! ## One statement -/

section

variable (h : faults.store w.statements = none)
include h

theorem exec_findUserByEmail (email : String) :
    exec env faults (.findUserByEmail email) w =
      (.ok (PostgresAuthStore.findUserByEmail w.db email), w.counted) :=
  Prod.ext (query_fst_of_store_none h _) (query_snd _)

theorem exec_findPasswordByToken (token : String) :
    exec env faults (.findPasswordByToken token) w =
      (.ok (PostgresAuthStore.findPasswordByToken w.db token), w.counted) :=
  Prod.ext (query_fst_of_store_none h _) (query_snd _)

theorem exec_createPasswordReset (email token : String) :
    exec env faults (.createPasswordReset email token) w =
      (.ok (), { w.counted with
        db := PostgresAuthStore.createPasswordReset w.clock email token w.db }) :=
  executeOnPool_of_store_none h _

theorem exec_deletePasswordReset (email : String) :
    exec env faults (.deletePasswordReset email) w =
      (.ok (), { w.counted with db := PostgresAuthStore.deletePasswordReset email w.db }) :=
  executeOnPool_of_store_none h _

theorem exec_resetPassword (email hash : String) :
    exec env faults (.resetPassword email hash) w =
      (.ok (), { w.counted with db := PostgresAuthStore.resetPassword email hash w.db }) :=
  executeOnPool_of_store_none h _

end

theorem sendHtml_snd (faults : Faults) (w : World) (mail : Mail) :
    ∃ mails, (mails = w.mails ∨ mails = w.mails ++ [mail]) ∧
      (sendHtml faults w mail).2 = { w with mailsTried := w.mailsTried + 1, mails := mails } := by
  unfold sendHtml
  cases faults.mailer w.mailsTried with
  | some err => exact ⟨_, .inl rfl, rfl⟩
  | none => exact ⟨_, .inr rfl, rfl⟩

/-! ## Recovery -/

/-- The world after a recovery reached its mail. -/
def recoveredWorld (env : Env) (email : String) (w : World) : World :=
  { w with
    db := PostgresAuthStore.createPasswordReset w.clock email
      (Crypto.hashToken env (env.randomToken w.tokensDrawn))
      (PostgresAuthStore.deletePasswordReset email w.db)
    statements := w.statements + 3
    tokensDrawn := w.tokensDrawn + 1 }

theorem runE_passwordRecovery (hup : Faults.StoreUp faults) (email callbackUri : String) :
    runE (exec env faults) (AuthService.passwordRecovery env email callbackUri) w =
      match PostgresAuthStore.findUserByEmail w.db email with
      | none => (some (.error (Error.notFound "invalid email address")), w.counted)
      | some user =>
        let sent := sendHtml faults (recoveredWorld env email w)
          (AuthService.recoveryMail user callbackUri (env.randomToken w.tokensDrawn))
        (some (sent.1.mapError Error.unknown), sent.2) := by
  unfold AuthService.passwordRecovery
  rw [runE_ask_bind, exec_findUserByEmail (hup _)]
  dsimp only
  rw [mapErr_ok, pure_bind]
  cases PostgresAuthStore.findUserByEmail w.db email with
  | none => rw [okOr_none, runE_bind, runE_throw]
  | some user =>
    rw [okOr_some, pure_bind, runE_ask_bind, exec_deletePasswordReset (hup _)]
    dsimp only
    rw [mapErr_ok, pure_bind, runE_ask_bind, exec_randomToken]
    dsimp only
    rw [runE_ask_bind, exec_createPasswordReset (hup _)]
    dsimp only
    rw [mapErr_ok, pure_bind, runE_ask_bind]
    -- From here on only the mail is left.
    let mail := AuthService.recoveryMail user callbackUri (env.randomToken w.tokensDrawn)
    change runE _ (mapErr Error.unknown (sendHtml faults (recoveredWorld env email w) mail).1)
      (sendHtml faults (recoveredWorld env email w) mail).2 = _
    rcases sendHtml faults (recoveredWorld env email w) mail with ⟨_ | _, w'⟩
    · rfl
    · rfl

/-! ## Reset -/

/-- The row is past its fifteen minutes at `now`. -/
def Expired (row : PasswordResetRow) (now : Timestamp) : Prop :=
  addMinutes row.createdAt passwordResetTtlMinutes < now

instance (row : PasswordResetRow) (now : Timestamp) : Decidable (Expired row now) :=
  inferInstanceAs (Decidable (_ < _))

/-- The world after a reset that went through. -/
def resetWorld (email hash : String) (w : World) : World :=
  { w with
    db := PostgresAuthStore.deletePasswordReset email
      (PostgresAuthStore.resetPassword email hash w.db)
    statements := w.statements + 3
    saltsDrawn := w.saltsDrawn + 1 }

theorem runE_resetPassword (hup : Faults.StoreUp faults) (token newPassword : String) :
    runE (exec env faults) (AuthService.resetPassword env token newPassword) w =
      match PostgresAuthStore.findPasswordByToken w.db (Crypto.hashToken env token) with
      | none => (some (.error (Error.badRequest "invalid or expired token")), w.counted)
      | some row =>
        if Expired row w.clock then
          (some (.error (Error.badRequest "invalid or expired token")), w.counted)
        else
          match env.crypto.bcryptHash (env.salt w.saltsDrawn) newPassword with
          | .error cause => (some (.error (Error.unknown cause)),
              { w.counted with saltsDrawn := w.saltsDrawn + 1 })
          | .ok hash => (some (.ok ()), resetWorld row.email hash w) := by
  unfold AuthService.resetPassword
  rw [runE_ask_bind, exec_findPasswordByToken (hup _)]
  dsimp only
  rw [mapErr_ok, pure_bind]
  cases PostgresAuthStore.findPasswordByToken w.db (Crypto.hashToken env token) with
  | none => rw [okOr_none, runE_bind, runE_throw]
  | some row =>
    rw [okOr_some, pure_bind, runE_ask_bind, exec_utcNow]
    dsimp only
    by_cases hexpired : Expired row w.clock
    · have hlate : addMinutes row.createdAt passwordResetTtlMinutes < w.counted.clock := hexpired
      rw [if_pos hlate, if_pos hexpired, runE_bind, runE_throw]
    · have hlive : ¬ addMinutes row.createdAt passwordResetTtlMinutes < w.counted.clock := hexpired
      rw [if_neg hlive, if_neg hexpired, runE_bind, Crypto.runE_hashPassword]
      dsimp only [World.counted]
      cases env.crypto.bcryptHash (env.salt w.saltsDrawn) newPassword with
      | error cause => rfl
      | ok hash =>
        dsimp only [Except.mapError]
        rw [runE_ask_bind, exec_resetPassword (hup _)]
        dsimp only
        rw [mapErr_ok, pure_bind, runE_ask_bind, exec_deletePasswordReset (hup _)]
        rfl

end

end ApiStarter.Auth
