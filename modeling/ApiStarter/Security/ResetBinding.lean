import ApiStarter.Package.Auth.Recovery
import ApiStarter.Provider.Integrity
import ApiStarter.Provider.SampleEnv

/-
  What a reset token is bound to.

  The row of a pending reset carries the address the token was mailed to and no user id, and
  `partial_update` may move an address from one user to another in the meantime. In every
  sequential run the token sets the password of the row that has this address when the token
  is used, and of no other row (`reset_acts_on_address`); that row is the user it was mailed
  for exactly if the user still has the address.
-/

namespace ApiStarter.Security

open ApiStarter.Auth ApiStarter.Database ApiStarter.Effect ApiStarter.Effect.Fallible
  ApiStarter.Errdef ApiStarter.Iam ApiStarter.Provider ApiStarter.Relational

section

variable {env : Env} {config : AuthConfig} {faults : Faults} {w w' : World}

/-! ## The table of pending resets, step by step -/

/-- A call other than a recovery adds no row. -/
theorem preservedBy_resets (hpg : env.pg.RejectsLonger) {c : Call}
    (hc : ∀ email uri, c ≠ .passwordRecovery email uri)
    (rows : List PasswordResetRow) :
    PreservedBy env c.MayPerform fun db => ∀ row ∈ db.passwordResets, row ∈ rows where
  createPasswordReset now email token db ho h := by
    rcases ho with ho | ho | ho
    · exact ho.elim
    · exact ho.elim
    cases c with
    | passwordRecovery email uri => exact absurd rfl (hc email uri)
    | _ => exact ho.elim
  resetPassword _ _ _ _ h := h
  deletePasswordReset _ _ _ h := fun row hrow => h row (mem_deleteWhere.1 hrow).1
  insertUser _ _ _ _ _ _ h hok := by
    obtain ⟨-, -, rfl⟩ := writeUsers_ok (insertUser_ok hpg hok).2
    exact h
  updateUser _ _ _ _ _ h hok := by
    obtain ⟨-, -, rfl⟩ := writeUsers_ok (updateUser_ok hpg hok)
    exact h
  insertUserRoles _ _ _ _ _ h hok := by
    obtain ⟨added, rfl, -⟩ := insertUserRoles_ok hok
    exact h
  deleteUserRoles _ _ _ _ _ h hok := by
    obtain ⟨kept, rfl, -⟩ := deleteUserRoles_ok hok
    exact h

theorem mayPerform_randomToken {c : Call} (h : c.MayPerform .randomToken) :
    ∃ email uri, c = .passwordRecovery email uri := by
  rcases h with h | h | h
  · exact h.elim
  · exact h.elim
  cases c with
  | passwordRecovery email uri => exact ⟨email, uri, rfl⟩
  | _ => exact h.elim

/-- The row the next recovery would write. -/
def nextReset (env : Env) (email : String) (w : World) : PasswordResetRow :=
  ⟨email, Crypto.hashToken env (env.randomToken w.tokensDrawn), w.clock⟩

/-- A recovery knows no such address and leaves everything, or it draws one token, leaves one
    row for it, under its digest, and mails it at most. -/
theorem recovery_step (hup : Faults.StoreUp faults) {email uri : String}
    {out : (Call.passwordRecovery email uri).Outcome}
    (h : perform env config faults (.passwordRecovery email uri) w = (out, w')) :
    (w'.tokensDrawn = w.tokensDrawn ∧ w'.db = w.db ∧ w'.mails = w.mails) ∨
    ∃ user, PostgresAuthStore.findUserByEmail w.db email = some user ∧
      w'.tokensDrawn = w.tokensDrawn + 1 ∧
      (∀ row ∈ w'.db.passwordResets,
        (row ∈ w.db.passwordResets ∧ row.email ≠ email) ∨ row = nextReset env email w) ∧
      (w'.mails = w.mails ∨ w'.mails = w.mails ++
        [AuthService.recoveryMail user uri (env.randomToken w.tokensDrawn)]) := by
  obtain ⟨w₁, hrun, rfl⟩ := perform_eq h
  change runE _ (AuthService.passwordRecovery env email uri) w = _ at hrun
  rw [runE_passwordRecovery hup] at hrun
  cases hfind : PostgresAuthStore.findUserByEmail w.db email with
  | none =>
    rw [hfind] at hrun
    cases hrun
    exact .inl ⟨rfl, rfl, rfl⟩
  | some user =>
    rw [hfind] at hrun
    obtain ⟨-, rfl⟩ := Prod.mk.inj hrun
    obtain ⟨mails, hmails, hsent⟩ := sendHtml_snd faults (recoveredWorld env email w)
      (AuthService.recoveryMail user uri (env.randomToken w.tokensDrawn))
    refine .inr ⟨user, rfl, ?_⟩
    rw [hsent]
    refine ⟨rfl, fun row hrow => ?_, hmails⟩
    rcases List.mem_append.1 hrow with hold | hnew
    · obtain ⟨hmem, hemail⟩ := mem_deleteWhere.1 hold
      exact .inl ⟨hmem, by simpa using hemail⟩
    · exact .inr (List.mem_singleton.1 hnew)

/-- A step adds no pending reset, or it is a recovery that draws a token and adds one row,
    under the digest of this token. -/
theorem step_resets (hpg : env.pg.RejectsLonger) (hup : Faults.StoreUp faults) {e : Event}
    (h : Step env config faults w e w') (htx : w.tx = none) :
    (w'.tokensDrawn = w.tokensDrawn ∧ ∀ row ∈ w'.db.passwordResets, row ∈ w.db.passwordResets) ∨
    ∃ email, w'.tokensDrawn = w.tokensDrawn + 1 ∧
      ∀ row ∈ w'.db.passwordResets, row ∈ w.db.passwordResets ∨ row = nextReset env email w := by
  cases h with
  | elapsed micros w => exact .inl ⟨rfl, fun _ h => h⟩
  | @called c out w w' h =>
    by_cases hc : ∃ email uri, c = .passwordRecovery email uri
    · obtain ⟨email, uri, rfl⟩ := hc
      rcases recovery_step hup h with ⟨hdrawn, hdb, -⟩ | ⟨user, -, hdrawn, hrows, -⟩
      · exact .inl ⟨hdrawn, fun row hrow => hdb ▸ hrow⟩
      · exact .inr ⟨email, hdrawn, fun row hrow => (hrows row hrow).imp_left And.left⟩
    · have hc' : ∀ email uri, c ≠ .passwordRecovery email uri :=
        fun email uri heq => hc ⟨email, uri, heq⟩
      refine .inl ⟨?_, ?_⟩
      · refine perform_inv (I := fun w₁ => w₁.tokensDrawn = w.tokensDrawn) ?_ (fun _ h => h) h rfl
        intro o w₁ ho h₁
        rw [exec_tokensDrawn, h₁]
        rintro rfl
        exact hc (mayPerform_randomToken ho)
      · exact (perform_inDb (preservedBy_resets hpg hc' w.db.passwordResets) h
          ⟨fun _ h => h, by simp [htx]⟩).1

/-! ## Which address a digest belongs to -/

/-- Every pending reset carries the digest of a token drawn before. -/
def ResetsDrawn (env : Env) (w : World) : Prop :=
  ∀ row ∈ w.db.passwordResets, ∃ n, n < w.tokensDrawn ∧
    row.token = Crypto.hashToken env (env.randomToken n)

/-- The `n`-th token has been drawn, and pending resets under its digest are for `email`. -/
structure BoundTo (env : Env) (n : Nat) (email : String) (w : World) : Prop where
  drawn : n < w.tokensDrawn
  rows : ∀ row ∈ w.db.passwordResets,
    row.token = Crypto.hashToken env (env.randomToken n) → row.email = email

theorem step_resetsDrawn (hpg : env.pg.RejectsLonger) (hup : Faults.StoreUp faults) {e : Event}
    (h : Step env config faults w e w') (htx : w.tx = none) (hw : ResetsDrawn env w) :
    ResetsDrawn env w' := by
  intro row hrow
  rcases step_resets hpg hup h htx with ⟨hdrawn, hrows⟩ | ⟨email, hdrawn, hrows⟩
  · rw [hdrawn]
    exact hw row (hrows row hrow)
  · rw [hdrawn]
    rcases hrows row hrow with hold | rfl
    · obtain ⟨n, hn, htoken⟩ := hw row hold
      exact ⟨n, Nat.lt_succ_of_lt hn, htoken⟩
    · exact ⟨w.tokensDrawn, Nat.lt_succ_self _, rfl⟩

theorem step_boundTo (hfresh : env.FreshTokens) (hpg : env.pg.RejectsLonger)
    (hup : Faults.StoreUp faults) {e : Event} {n : Nat} {email : String}
    (h : Step env config faults w e w') (htx : w.tx = none) (hw : BoundTo env n email w) :
    BoundTo env n email w' := by
  rcases step_resets hpg hup h htx with ⟨hdrawn, hrows⟩ | ⟨email', hdrawn, hrows⟩
  · exact { drawn := hdrawn ▸ hw.drawn, rows := fun row hrow => hw.rows row (hrows row hrow) }
  · refine { drawn := hdrawn ▸ Nat.lt_succ_of_lt hw.drawn, rows := fun row hrow htoken => ?_ }
    rcases hrows row hrow with hold | rfl
    · exact hw.rows row hold htoken
    · -- The new digest is that of a later token.
      have hsame : w.tokensDrawn = n := hfresh htoken
      have hlt : n < w.tokensDrawn := hw.drawn
      omega

theorem run_resetsDrawn (hpg : env.pg.RejectsLonger) (hup : Faults.StoreUp faults)
    {events : List Event} (h : Run (Step env config faults) w events w') (htx : w.tx = none)
    (hw : ResetsDrawn env w) : ResetsDrawn env w' :=
  run_inv_between (fun _ _ _ hstep htx hw => step_resetsDrawn hpg hup hstep htx hw) h htx hw

theorem run_boundTo (hfresh : env.FreshTokens) (hpg : env.pg.RejectsLonger)
    (hup : Faults.StoreUp faults) {events : List Event} {n : Nat} {email : String}
    (h : Run (Step env config faults) w events w') (htx : w.tx = none)
    (hw : BoundTo env n email w) : BoundTo env n email w' :=
  run_inv_between (fun _ _ _ hstep htx hw => step_boundTo hfresh hpg hup hstep htx hw) h htx hw

/-- The mail of a recovery binds the token in it to the address. -/
theorem boundTo_of_mailed (hfresh : env.FreshTokens) (hup : Faults.StoreUp faults)
    {email uri token : String} {user : Identity}
    {out : (Call.passwordRecovery email uri).Outcome}
    (h : Step env config faults w (.called (.passwordRecovery email uri) out) w')
    (hw : ResetsDrawn env w)
    (hmail : w'.mails = w.mails ++ [AuthService.recoveryMail user uri token]) :
    ∃ n, token = env.randomToken n ∧ BoundTo env n email w' := by
  have hgrew : w'.mails ≠ w.mails := by
    rw [hmail]
    simp
  cases h with
  | called h =>
    rcases recovery_step hup h with ⟨-, -, hsame⟩ | ⟨found, -, hdrawn, hrows, hsame | hsent⟩
    · exact absurd hsame hgrew
    · exact absurd hsame hgrew
    · have hbody : uri ++ token = uri ++ env.randomToken w.tokensDrawn := by
        have hmails := List.append_cancel_left (hmail.symm.trans hsent)
        simp only [AuthService.recoveryMail, List.cons.injEq, Mail.mk.injEq, Prod.mk.injEq] at hmails
        exact hmails.1.2.2.2.2.1.2
      refine ⟨w.tokensDrawn, String.append_right_inj uri |>.1 hbody, ?_⟩
      refine { drawn := by omega, rows := fun row hrow htoken => ?_ }
      rcases hrows row hrow with ⟨hold, -⟩ | rfl
      · obtain ⟨n, hn, hdigest⟩ := hw row hold
        have hsame : n = w.tokensDrawn := hfresh (hdigest.symm.trans htoken)
        omega
      · rfl

/-! ## Using a token -/

/-- A reset that went through set the password of one address, the address of its row. -/
theorem resetPassword_ok (hverifies : env.crypto.Verifies) (hup : Faults.StoreUp faults)
    {token newPassword : String}
    (h : Step env config faults w (.called (.resetPassword token newPassword) (some (.ok ()))) w') :
    ∃ row ∈ w.db.passwordResets, row.token = Crypto.hashToken env token ∧
      ∃ hash, env.crypto.bcryptVerify newPassword hash = .ok true ∧
        w'.db.users = updateWhere (fun u => u.email == row.email)
          (fun u => { u with password := hash }) w.db.users := by
  cases h with
  | called h =>
    obtain ⟨w₁, hrun, rfl⟩ := perform_eq h
    change runE _ (AuthService.resetPassword env token newPassword) w = _ at hrun
    rw [runE_resetPassword hup] at hrun
    cases hfind : PostgresAuthStore.findPasswordByToken w.db (Crypto.hashToken env token) with
    | none => rw [hfind] at hrun; cases hrun
    | some row =>
      rw [hfind] at hrun
      dsimp only at hrun
      split at hrun
      · cases hrun
      cases hhash : env.crypto.bcryptHash (env.salt w.saltsDrawn) newPassword with
      | error cause => rw [hhash] at hrun; cases hrun
      | ok hash =>
        rw [hhash] at hrun
        cases hrun
        refine ⟨row, List.mem_of_find?_eq_some hfind, by simpa using List.find?_some hfind, hash,
          hverifies _ _ _ hhash, rfl⟩

/-- Setting the password of an address, where the addresses of the rows differ: the user who
    has the address is the only one concerned. -/
theorem only_user_of_address {db db' : Db} (hdb : db.Admissible) {email password hash : String}
    (hverify : env.crypto.bcryptVerify password hash = .ok true)
    (husers : db'.users = updateWhere (fun u => u.email == email)
      (fun u => { u with password := hash }) db.users)
    {row : UserRow} (hrow : row ∈ db.users) (hemail : row.email = email) :
    (∃ row' ∈ db'.users, row'.id = row.id ∧
        env.crypto.bcryptVerify password row'.password = .ok true) ∧
      ∀ row' ∈ db'.users, row'.id ≠ row.id → row' ∈ db.users := by
  rw [husers]
  refine ⟨⟨_, mem_updateWhere.2 ⟨row, hrow, rfl⟩, by simp [hemail], by simp [hemail, hverify]⟩,
    fun row' hrow' hne => ?_⟩
  obtain ⟨old, hold, rfl⟩ := mem_updateWhere.1 hrow'
  by_cases haddress : old.email = email
  · have hsame : old = row :=
      eq_of_key_eq hdb.userEmails hold hrow (haddress.trans hemail.symm)
    simp [hsame, hemail] at hne
  · simpa [haddress] using hold

/-- A token mailed to an address acts on the row that has this address when it is used. -/
theorem reset_acts_on_address (hfresh : env.FreshTokens) (hverifies : env.crypto.Verifies)
    (hpg : env.pg.RejectsLonger) (hup : Faults.StoreUp faults) {db : Db} (hdb : db.Admissible)
    (hnone : db.passwordResets = []) {clock : Timestamp} {before between : List Event}
    {email uri token newPassword : String} {user : Identity}
    {out : (Call.passwordRecovery email uri).Outcome} {w₁ w₂ w₃ w₄ : World}
    (hbefore : Run (Step env config faults) (World.init db clock) before w₁)
    (hrecovery : Step env config faults w₁ (.called (.passwordRecovery email uri) out) w₂)
    (hmail : w₂.mails = w₁.mails ++ [AuthService.recoveryMail user uri token])
    (hbetween : Run (Step env config faults) w₂ between w₃)
    (hreset : Step env config faults w₃
      (.called (.resetPassword token newPassword) (some (.ok ()))) w₄) :
    (∃ hash, env.crypto.bcryptVerify newPassword hash = .ok true ∧
      w₄.db.users = updateWhere (fun u => u.email == email)
        (fun u => { u with password := hash }) w₃.db.users) ∧
    ∀ userId, (∃ row ∈ w₃.db.users, row.id = userId ∧ row.email = email) →
      (∃ row ∈ w₄.db.users, row.id = userId ∧
        env.crypto.bcryptVerify newPassword row.password = .ok true) ∧
      ∀ row ∈ w₄.db.users, row.id ≠ userId → row ∈ w₃.db.users := by
  have htx₁ : w₁.tx = none := run_tx hbefore rfl
  have hdrawn : ResetsDrawn env w₁ :=
    run_resetsDrawn hpg hup hbefore rfl (by simp [ResetsDrawn, World.init, hnone])
  obtain ⟨n, rfl, hbound⟩ := boundTo_of_mailed hfresh hup hrecovery hdrawn hmail
  have htx₂ : w₂.tx = none := step_tx hrecovery htx₁
  have hbound₃ : BoundTo env n email w₃ := run_boundTo hfresh hpg hup hbetween htx₂ hbound
  obtain ⟨row, hrow, htoken, hash, hverify, husers⟩ := resetPassword_ok hverifies hup hreset
  have hemail : row.email = email := hbound₃.rows row hrow htoken
  rw [hemail] at husers
  refine ⟨⟨hash, hverify, husers⟩, ?_⟩
  rintro userId ⟨mine, hmine, hid, haddress⟩
  have hrun : Run (Step env config faults) (World.init db clock) _ w₃ :=
    hbefore.append (.cons hrecovery hbetween)
  have hadmissible : w₃.db.Admissible :=
    (run_admissible hpg hrun ⟨hdb, by simp [World.init]⟩).1
  rw [← hid]
  exact only_user_of_address hadmissible hverify husers hmine haddress

end

/-! ## An address that moves -/

/-- Ada asks for a reset. -/
def asked : World :=
  sampleAfter (.passwordRecovery "ada@example.com" "https://example.com/") signedUp

def newAddress : UpdateUser := { UpdateUser.default with email := some "ada@home.example" }

/-- She moves to another address, and Bob signs up under the one she left. -/
def moved : World :=
  sampleAfter (.createUser (sampleUser "bob" "ada@example.com"))
    (sampleAfter (.partialUpdate 2 newAddress) asked)

/-- Her token is used. -/
def used : World := sampleAfter (.resetPassword "t" "N3w-Secret") moved

theorem asked_step : Step sampleEnv sampleConfig Faults.none signedUp
    (.called (.passwordRecovery "ada@example.com" "https://example.com/") (some (.ok ()))) asked :=
  step_sampleAfter (by decide)

theorem asked_mail : ∃ user,
    PostgresAuthStore.findUserByEmail signedUp.db "ada@example.com" = some user ∧ user.id = 2 ∧
      asked.mails = signedUp.mails ++
        [AuthService.recoveryMail user "https://example.com/" "t"] :=
  ⟨_, rfl, by decide, by decide⟩

theorem moved_run : ∃ between,
    Run (Step sampleEnv sampleConfig Faults.none) asked between moved :=
  ⟨_, .cons (.called (c := .partialUpdate 2 newAddress) rfl)
    (.cons (.called (c := .createUser (sampleUser "bob" "ada@example.com")) rfl) (.nil _))⟩

theorem used_step : Step sampleEnv sampleConfig Faults.none moved
    (.called (.resetPassword "t" "N3w-Secret") (some (.ok ()))) used :=
  step_sampleAfter (by decide +kernel)

theorem reset_acts_on_address_sample : ∃ hash,
    sampleCrypto.bcryptVerify "N3w-Secret" hash = .ok true ∧
      used.db.users = updateWhere (fun u => u.email == "ada@example.com")
        (fun u => { u with password := hash }) moved.db.users := by
  obtain ⟨before, hbefore⟩ := signedUp_run
  obtain ⟨user, -, -, hmail⟩ := asked_mail
  obtain ⟨between, hbetween⟩ := moved_run
  exact (reset_acts_on_address sampleEnv_freshTokens sampleCrypto_verifies
    samplePostgres_rejectsLonger (fun _ => rfl) (Db.admissible_seed sampleAdmin) rfl hbefore
    asked_step hmail hbetween used_step).1

/-- Ada's token leaves her password alone and sets Bob's. -/
theorem token_resets_another_user :
    (∃ before, Run (Step sampleEnv sampleConfig Faults.none) sampleWorld before signedUp) ∧
    Step sampleEnv sampleConfig Faults.none signedUp
      (.called (.passwordRecovery "ada@example.com" "https://example.com/") (some (.ok ())))
      asked ∧
    (∃ user, PostgresAuthStore.findUserByEmail signedUp.db "ada@example.com" = some user ∧
      user.id = 2 ∧ asked.mails = signedUp.mails ++
        [AuthService.recoveryMail user "https://example.com/" "t"]) ∧
    (∃ between, Run (Step sampleEnv sampleConfig Faults.none) asked between moved) ∧
    Step sampleEnv sampleConfig Faults.none moved
      (.called (.resetPassword "t" "N3w-Secret") (some (.ok ()))) used ∧
    (∀ row ∈ used.db.users, row.id = 2 →
      sampleCrypto.bcryptVerify "N3w-Secret" row.password = .ok false) ∧
    ∃ row ∈ used.db.users, row.id = 3 ∧ row ∉ moved.db.users ∧
      sampleCrypto.bcryptVerify "N3w-Secret" row.password = .ok true :=
  ⟨signedUp_run, asked_step, asked_mail, moved_run, used_step, by decide +kernel,
    by decide +kernel⟩

end ApiStarter.Security
