import ApiStarter.Effect.Twin
import ApiStarter.Security.AuthFailures
import ApiStarter.Server.Serving

/-
  Causes of failures reach no response.

  `FailAlike` relates two patterns of failures: the same statements and mails fail, the statements
  with the same SQLSTATE, but with any texts. The services look at nothing else: `service_blurred`
  follows each call along answers that differ so, and finds the same result, up to the cause of an
  error. The router does not tell causes apart (`router_blind`), so a whole run of requests is
  answered the same, and leaves the same world.
-/

namespace ApiStarter.Security

open ApiStarter.Auth ApiStarter.Database ApiStarter.Effect ApiStarter.Effect.Fallible
  ApiStarter.Errdef ApiStarter.Iam ApiStarter.Pagination ApiStarter.Provider ApiStarter.Rbac
  ApiStarter.Server
open UserServiceImpl (mapDomainError)

/-! ## Alike failures -/

structure FailAlike (faults faults' : Faults) : Prop where
  store : ∀ n, (faults.store n).map PgError.codeOf = (faults'.store n).map PgError.codeOf
  mailer : ∀ n, (faults.mailer n).isSome = (faults'.mailer n).isSome

/-- The same result of a statement, up to what an error has beside its SQLSTATE. -/
def SameCode {α : Type} (r r' : Except SqlxError α) : Prop :=
  r.mapError PgError.codeOf = r'.mapError PgError.codeOf

def FailureAlike : (o : Op) → Res o → Res o → Prop
  | .findUserById _, r, r' => SameCode r r'
  | .findUserByEmail _, r, r' => SameCode r r'
  | .createPasswordReset _ _, r, r' => SameCode r r'
  | .resetPassword _ _, r, r' => SameCode r r'
  | .findPasswordByToken _, r, r' => SameCode r r'
  | .deletePasswordReset _, r, r' => SameCode r r'
  | .getRoles _, r, r' => SameCode r r'
  | .getPermissions _, r, r' => SameCode r r'
  | .hasPermission _ _ _, r, r' => SameCode r r'
  | .selectUserById _, r, r' => SameCode r r'
  | .selectUserByUserName _, r, r' => SameCode r r'
  | .selectUserByEmail _, r, r' => SameCode r r'
  | .selectUserRoles _, r, r' => SameCode r r'
  | .countUsers _, r, r' => SameCode r r'
  | .selectUsers _ _ _ _ _, r, r' => SameCode r r'
  | .selectPermissions, r, r' => SameCode r r'
  | .begin, r, r' => SameCode r r'
  | .insertUser _, r, r' => SameCode r r'
  | .updateUser _ _, r, r' => SameCode r r'
  | .insertUserRoles _ _, r, r' => SameCode r r'
  | .deleteUserRoles _ _, r, r' => SameCode r r'
  | .commit, r, r' => SameCode r r'
  | .sendHtml _, r, r' => r.toBool = r'.toBool
  | .rollback, r, r' => r = r'
  | .utcNow, r, r' => r = r'
  | .randomToken, r, r' => r = r'
  | .salt, r, r' => r = r'
  | .jwtGenerate _ _, r, r' => r = r'
  | .jwtValidate _, r, r' => r = r'

section

variable {env : Env} {faults faults' : Faults} (h : FailAlike faults faults')
include h

theorem statement_failAlike {α : Type} (w : World)
    (f : World → Except SqlxError (α × World)) :
    SameCode (statement faults w f).1 (statement faults' w f).1 ∧
      (statement faults w f).2 = (statement faults' w f).2 := by
  have hstore := h.store w.statements
  unfold statement
  dsimp only
  generalize faults.store w.statements = failure, faults'.store w.statements = failure' at hstore
  cases failure with
  | none =>
    cases failure' with
    | none => exact ⟨rfl, rfl⟩
    | some err' => cases hstore
  | some err =>
    cases failure' with
    | none => cases hstore
    | some err' => exact ⟨congrArg Except.error (Option.some.inj hstore), rfl⟩

theorem exec_failAlike (o : Op) (w : World) :
    FailureAlike o (exec env faults o w).1 (exec env faults' o w).1 ∧
      (exec env faults o w).2 = (exec env faults' o w).2 := by
  cases o with
  | commit =>
    have hstore := h.store w.statements
    simp only [exec, commit]
    generalize faults.store w.statements = failure, faults'.store w.statements = failure' at hstore
    cases failure with
    | none =>
      cases failure' with
      | none => exact ⟨rfl, rfl⟩
      | some err' => cases hstore
    | some err =>
      cases failure' with
      | none => cases hstore
      | some err' => exact ⟨congrArg Except.error (Option.some.inj hstore), rfl⟩
  | sendHtml mail =>
    have hmailer := h.mailer w.mailsTried
    simp only [exec, sendHtml]
    generalize faults.mailer w.mailsTried = failure, faults'.mailer w.mailsTried = failure'
      at hmailer
    cases failure with
    | none =>
      cases failure' with
      | none => exact ⟨rfl, rfl⟩
      | some err' => cases hmailer
    | some err =>
      cases failure' with
      | none => cases hmailer
      | some err' => exact ⟨rfl, rfl⟩
  | rollback => exact ⟨rfl, rfl⟩
  | utcNow => exact ⟨rfl, rfl⟩
  | randomToken => exact ⟨rfl, rfl⟩
  | salt => exact ⟨rfl, rfl⟩
  | jwtGenerate claims expiresAt => exact ⟨rfl, rfl⟩
  | jwtValidate token => exact ⟨rfl, rfl⟩
  | _ => exact statement_failAlike h _ _

end

/-! ## Calls -/

/-- What is left of an error of the repositories in a response. -/
def shown (err : DomainError) : Error := uncaused (mapDomainError err)

/-- The program ends alike, up to a view of its errors, whatever the causes it is told. -/
abbrev Blurred {α ε δ : Type} (view : ε → δ) (p q : Service ε α) : Prop :=
  TwinUpTo (fun _ => True) FailureAlike view p q

section

variable {α β ε δ : Type} {view : ε → δ}

theorem blurred_mapErr {f : SqlxError → ε} {r r' : Except SqlxError α} (h : SameCode r r')
    (hf : ∀ e e', PgError.codeOf e = PgError.codeOf e' → view (f e) = view (f e')) :
    Blurred view (mapErr f r) (mapErr f r') := upTo_mapErr h hf

/-- What is computed from the same values. -/
theorem blurred_same {p : Service ε α} (hp : UsesE (fun _ => False) p) : Blurred view p p :=
  upTo_refl (hp.mono fun _ h => h.elim)

theorem blurred_getUserRoles (userId : Uuid) :
    Blurred shown (PgUserRepository.getUserRoles userId) (PgUserRepository.getUserRoles userId) :=
  upTo_ask_bind trivial fun _ _ hr =>
    (blurred_mapErr hr fun _ _ _ => rfl).bind fun _ => blurred_same (usesE_pure _)

theorem blurred_mapUserWithRoles (row : JoinedUser) :
    Blurred shown (PgUserRepository.mapUserWithRoles row)
      (PgUserRepository.mapUserWithRoles row) :=
  (blurred_same (usesE_mapErr _ _)).bind fun _ =>
    (blurred_getUserRoles _).bind fun _ => blurred_same (usesE_pure _)

theorem blurred_requireUser (userId : Uuid) :
    Blurred uncaused (UserServiceImpl.requireUser userId) (UserServiceImpl.requireUser userId) := by
  have hfind : Blurred shown (PgUserRepository.findById userId)
      (PgUserRepository.findById userId) := by
    refine upTo_ask_bind trivial fun _ _ hr =>
      (blurred_mapErr hr fun _ _ _ => rfl).bind fun row => ?_
    cases row with
    | none => exact blurred_same (usesE_pure _)
    | some row => exact (blurred_mapUserWithRoles row).bind fun _ => blurred_same (usesE_pure _)
  have hfound : Blurred uncaused (mapErrOf mapDomainError (PgUserRepository.findById userId))
      (mapErrOf mapDomainError (PgUserRepository.findById userId)) :=
    hfind.mapErrOf fun _ _ h => h
  exact hfound.bind fun _ => blurred_same (usesE_okOr _ _)

theorem blurred_inTransaction {body : Service Error α} (hbody : Blurred uncaused body body) :
    Blurred uncaused (inTransaction body) (inTransaction body) := by
  refine upTo_ask_bind trivial fun _ _ hr => (blurred_mapErr hr fun _ _ _ => rfl).bind fun _ => ?_
  refine (hbody.tryCatch fun _ _ he => ?_).bind fun _ => ?_
  · exact upTo_ask_bind trivial fun _ _ _ => upTo_throw he
  · refine upTo_ask_bind trivial fun _ _ hr => ?_
    exact (blurred_mapErr hr fun _ _ _ => rfl).bind fun _ => blurred_same (usesE_pure _)

theorem shown_createError {e e' : SqlxError} (h : PgError.codeOf e = PgError.codeOf e') :
    shown (PgUserRepository.createError e) = shown (PgUserRepository.createError e') := by
  unfold PgUserRepository.createError PgError.is
  rw [h]
  split
  · rfl
  · split <;> rfl

theorem shown_updateError {e e' : SqlxError} (h : PgError.codeOf e = PgError.codeOf e') :
    shown (PgUserRepository.updateError e) = shown (PgUserRepository.updateError e') := by
  unfold PgUserRepository.updateError
  dsimp only
  rw [h]
  split
  · rfl
  · split
    · rfl
    · split <;> rfl

theorem blurred_addUserRoles (userId : Uuid) (roles : List String) :
    Blurred shown (PgUserRepository.addUserRoles userId roles)
      (PgUserRepository.addUserRoles userId roles) := by
  unfold PgUserRepository.addUserRoles
  split
  · exact blurred_same (usesE_pure _)
  · exact upTo_ask_bind trivial fun _ _ hr => blurred_mapErr hr fun _ _ _ => rfl

theorem blurred_removeUserRoles (userId : Uuid) (roles : List String) :
    Blurred shown (PgUserRepository.removeUserRoles userId roles)
      (PgUserRepository.removeUserRoles userId roles) := by
  unfold PgUserRepository.removeUserRoles
  split
  · exact blurred_same (usesE_pure _)
  · exact upTo_ask_bind trivial fun _ _ hr => blurred_mapErr hr fun _ _ _ => rfl

theorem blurred_mapDomainError {p : Service DomainError α} (hp : Blurred shown p p) :
    Blurred uncaused (mapErrOf mapDomainError p) (mapErrOf mapDomainError p) :=
  hp.mapErrOf fun _ _ h => h

theorem blurred_hashPassword (env : Env) (password : String) :
    Blurred uncaused (Crypto.hashPassword env password) (Crypto.hashPassword env password) := by
  refine upTo_ask_bind trivial fun salt salt' hsalt => ?_
  rw [show salt = salt' from hsalt]
  exact blurred_same (usesE_mapErr _ _)

theorem blurred_withHashedPassword (env : Env) (fields : UpdateUser) :
    Blurred uncaused (UserServiceImpl.withHashedPassword env fields)
      (UserServiceImpl.withHashedPassword env fields) := by
  unfold UserServiceImpl.withHashedPassword
  split
  · exact blurred_same (usesE_pure _)
  · refine (blurred_same (usesE_mapErr _ _)).bind fun _ => ?_
    exact (blurred_hashPassword env _).bind fun _ => blurred_same (usesE_pure _)

theorem blurred_applyUpdate (userId : Uuid) (fields : UpdateUser) :
    Blurred uncaused (UserServiceImpl.applyUpdate userId fields)
      (UserServiceImpl.applyUpdate userId fields) := by
  have hcolumns : Blurred shown (PgUserRepository.partialUpdate userId fields)
      (PgUserRepository.partialUpdate userId fields) := by
    unfold PgUserRepository.partialUpdate
    split
    · exact blurred_same (usesE_pure _)
    · refine (blurred_same (usesE_mapErr _ _)).bind fun sets => ?_
      exact upTo_ask_bind trivial fun _ _ hr => blurred_mapErr hr fun _ _ => shown_updateError
  rw [UserServiceImpl.applyUpdate_eq]
  refine (blurred_mapDomainError hcolumns).bind fun _ => TwinUpTo.bind ?_ fun _ => ?_
  · cases fields.addRoles with
    | none => exact blurred_same (usesE_pure _)
    | some roles => exact blurred_mapDomainError (blurred_addUserRoles userId roles)
  · cases fields.removeRoles with
    | none => exact blurred_same (usesE_pure _)
    | some roles => exact blurred_mapDomainError (blurred_removeUserRoles userId roles)

theorem blurred_index (request : ListRequest) :
    Blurred uncaused (UserServiceImpl.index request) (UserServiceImpl.index request) := by
  refine (blurred_mapDomainError ?_).bind fun _ => blurred_same (usesE_pure _)
  refine upTo_ask_bind trivial fun _ _ hr => (blurred_mapErr hr fun _ _ _ => rfl).bind fun _ => ?_
  refine upTo_ask_bind trivial fun _ _ hr =>
    (blurred_mapErr hr fun _ _ _ => rfl).bind fun rows => ?_
  exact (upTo_listMapM blurred_mapUserWithRoles rows).bind fun _ => blurred_same (usesE_pure _)

theorem blurred_generateTokens (env : Env) (config : AuthConfig) (user : Identity) :
    Blurred uncaused (AuthService.generateTokens env config user)
      (AuthService.generateTokens env config user) := by
  refine upTo_refl ((usesE_ask ⟨trivial, fun _ _ h => h⟩).bind fun _ => ?_)
  refine (usesE_expect _).bind fun _ => (usesE_ask ⟨trivial, fun _ _ h => h⟩).bind fun _ => ?_
  refine (usesE_mapErr _ _).bind fun _ => (usesE_expect _).bind fun _ => ?_
  refine (usesE_ask ⟨trivial, fun _ _ h => h⟩).bind fun _ => ?_
  exact (usesE_mapErr _ _).bind fun _ => usesE_pure _

theorem blurred_userIdFrom (env : Env) (token : String) :
    Blurred uncaused (AuthService.userIdFrom env token) (AuthService.userIdFrom env token) := by
  refine upTo_refl ((usesE_ask ⟨trivial, fun _ _ h => h⟩).bind fun _ => ?_)
  exact (usesE_mapErr _ _).bind fun _ => usesE_okOr _ _

theorem blurred_requireUserById (userId : Uuid) :
    Blurred uncaused (AuthService.requireUserById userId) (AuthService.requireUserById userId) :=
  upTo_ask_bind trivial fun _ _ hr =>
    (blurred_mapErr hr fun _ _ _ => rfl).bind fun _ => blurred_same (usesE_okOr _ _)

theorem blurred_passwordRecovery (env : Env) (email callbackUri : String) :
    Blurred uncaused (AuthService.passwordRecovery env email callbackUri)
      (AuthService.passwordRecovery env email callbackUri) := by
  refine upTo_ask_bind trivial fun _ _ hr => (blurred_mapErr hr fun _ _ _ => rfl).bind fun _ => ?_
  refine (blurred_same (usesE_okOr _ _)).bind fun user => ?_
  refine upTo_ask_bind trivial fun _ _ hr => (blurred_mapErr hr fun _ _ _ => rfl).bind fun _ => ?_
  refine upTo_ask_bind trivial fun token token' htoken => ?_
  rw [show token = token' from htoken]
  refine upTo_ask_bind trivial fun _ _ hr => (blurred_mapErr hr fun _ _ _ => rfl).bind fun _ => ?_
  refine upTo_ask_bind trivial fun sent sent' hsent => ?_
  have hsame : sent.mapError (fun _ => ()) = sent'.mapError fun _ => () := by
    have hbool : sent.toBool = sent'.toBool := hsent
    cases sent <;> cases sent' <;> first | rfl | cases hbool
  exact upTo_mapErr hsame fun _ _ _ => rfl

theorem blurred_resetPassword (env : Env) (token newPassword : String) :
    Blurred uncaused (AuthService.resetPassword env token newPassword)
      (AuthService.resetPassword env token newPassword) := by
  refine upTo_ask_bind trivial fun _ _ hr => (blurred_mapErr hr fun _ _ _ => rfl).bind fun _ => ?_
  refine (blurred_same (usesE_okOr _ _)).bind fun reset => ?_
  refine upTo_ask_bind trivial fun now now' hnow => ?_
  rw [show now = now' from hnow]
  have hwrites : Blurred uncaused (do
        let hashed ← Crypto.hashPassword env newPassword
        mapErr sqlxUnknown (← ask (.resetPassword reset.email hashed))
        mapErr sqlxUnknown (← ask (.deletePasswordReset reset.email)) : Service Error Unit)
      (do
        let hashed ← Crypto.hashPassword env newPassword
        mapErr sqlxUnknown (← ask (.resetPassword reset.email hashed))
        mapErr sqlxUnknown (← ask (.deletePasswordReset reset.email))) := by
    refine (blurred_hashPassword env newPassword).bind fun _ => ?_
    refine upTo_ask_bind trivial fun _ _ hr => (blurred_mapErr hr fun _ _ _ => rfl).bind fun _ => ?_
    exact upTo_ask_bind trivial fun _ _ hr => blurred_mapErr hr fun _ _ _ => rfl
  dsimp only
  split
  · exact (upTo_throw rfl).bind fun _ => hwrites
  · exact hwrites

/-- Every call ends alike, up to the cause of its error. -/
theorem service_blurred (env : Env) (config : AuthConfig) (c : Call) :
    Blurred uncaused (c.service env config) (c.service env config) := by
  cases c with
  | createUser newUser =>
    refine (blurred_hashPassword env _).bind fun _ => blurred_inTransaction ?_
    refine blurred_mapDomainError (upTo_ask_bind trivial fun _ _ hr => ?_)
    refine (blurred_mapErr hr fun _ _ => shown_createError).bind fun userId => ?_
    exact (blurred_addUserRoles userId _).bind fun _ => blurred_same (usesE_pure _)
  | partialUpdate userId fields =>
    refine (blurred_requireUser userId).bind fun _ => ?_
    refine (blurred_withHashedPassword env fields).bind fun fields => ?_
    exact blurred_inTransaction (blurred_applyUpdate userId fields)
  | deleteUser userId =>
    refine (blurred_requireUser userId).bind fun _ => blurred_inTransaction ?_
    refine blurred_mapDomainError (upTo_ask_bind trivial fun _ _ hr => ?_)
    exact blurred_mapErr hr fun _ _ _ => rfl
  | findUser userId => exact blurred_requireUser userId
  | listUsers request => exact blurred_index request
  | listPermissions =>
    have hlist : Blurred shown PgPermissionRepository.listAll PgPermissionRepository.listAll :=
      upTo_ask_bind trivial fun _ _ hr =>
        (blurred_mapErr hr fun _ _ _ => rfl).bind fun _ => blurred_same (usesE_mapErr _ _)
    exact hlist.mapErrOf fun _ _ _ => rfl
  | generateToken email password =>
    refine upTo_ask_bind trivial fun _ _ hr => (blurred_mapErr hr fun _ _ _ => rfl).bind fun _ => ?_
    refine (blurred_same (usesE_okOr _ _)).bind fun user => ?_
    split
    · exact upTo_throw rfl
    · exact blurred_generateTokens env config user
  | refreshToken token =>
    refine (blurred_userIdFrom env token).bind fun userId => ?_
    refine (blurred_requireUserById userId).bind fun user => ?_
    exact blurred_generateTokens env config user
  | getIdentity accessToken =>
    exact (blurred_userIdFrom env accessToken).bind fun userId => blurred_requireUserById userId
  | passwordRecovery email callbackUri => exact blurred_passwordRecovery env email callbackUri
  | resetPassword token newPassword => exact blurred_resetPassword env token newPassword

end

/-! ## The server -/

theorem eq_map_of_rel {α : Type} {f : Except Error α → Except Error α}
    {a b : Option (Except Error α)} (h : Option.Rel (fun r r' => f r = f r') a b) :
    a.map f = b.map f := by
  cases h with
  | some h => exact congrArg some h
  | none => rfl

section

variable {env : Env} {config : AuthConfig} {web : WebLibrary} {faults faults' : Faults}
  (h : FailAlike faults faults')
include h

theorem perform_failAlike (c : Call) (w : World) :
    Alike (.call c) (perform env config faults c w).1 (perform env config faults' c w).1 ∧
      (perform env config faults c w).2 = (perform env config faults' c w).2 := by
  have hexec : ∀ (o : Op) (s t : World), True → s = t →
      FailureAlike o (exec env faults o s).1 (exec env faults' o t).1 ∧
        (exec env faults o s).2 = (exec env faults' o t).2 := by
    intro o s t _ hst
    subst hst
    exact exec_failAlike h o s
  obtain ⟨houtcome, hleft⟩ := Prog.Twin.run (R := fun s t : World => s = t) hexec
    (service_blurred env config c) (rfl : w = w)
  exact ⟨eq_map_of_rel houtcome, congrArg World.dropTx hleft⟩

/-- The engine denies, whatever the cause. -/
theorem can_failAlike (userId : Uuid) (action : String) (w : World) :
    can env faults userId action w = can env faults' userId action w := by
  refine Prog.Blind.run_eq (fun o s => exec_failAlike h o s) ?_ w
  refine Prog.Blind.bind ⟨fun r r' hr => ?_, fun r => by cases r <;> trivial⟩ fun bypass => ?_
  · obtain ⟨a, rfl, rfl⟩ | ⟨e, e', rfl, rfl, -⟩ := mapError_eq_cases hr
    · rfl
    · rfl
  · cases bypass with
    | true => trivial
    | false =>
      cases splitAction action with
      | none => trivial
      | some parts =>
        refine ⟨fun r r' hr => ?_, fun r => by cases r <;> trivial⟩
        obtain ⟨a, rfl, rfl⟩ | ⟨e, e', rfl, rfl, -⟩ := mapError_eq_cases hr
        · rfl
        · rfl

theorem serve_failAlike (request : Request) (w : World) :
    serve env config web faults request w = serve env config web faults' request w := by
  refine (router_blind env web request).run_eq (fun o s => ?_) w
  cases o with
  | call c => exact perform_failAlike h c s
  | can userId action =>
    have hcan : can env faults userId action s = can env faults' userId action s :=
      can_failAlike h userId action s
    exact ⟨congrArg Prod.fst hcan, congrArg Prod.snd hcan⟩

/-- What a failure says beside its SQLSTATE is seen by nobody: neither the responses of a run of
    requests nor what it leaves depend on it. -/
theorem run_blind_to_causes {events : List HttpEvent} {w w' : World}
    (hrun : Run (HttpStep env config web faults) w events w') :
    Run (HttpStep env config web faults') w events w' := by
  refine hrun.mono fun w e w' hstep => ?_
  cases hstep with
  | served hserve =>
    rw [serve_failAlike h] at hserve
    exact .served hserve
  | elapsed micros => exact .elapsed micros _

end

/-- No statement goes through, for a cause that names the text. -/
def broken (text : String) : Faults where
  store _ := some (.other text)
  mailer _ := none

theorem failAlike_broken (text text' : String) : FailAlike (broken text) (broken text') where
  store _ := rfl
  mailer _ := rfl

/-- A login on a broken store is told that the server failed. -/
theorem login_broken_run : Run (HttpStep sampleEnv sampleConfig loginWeb (broken "no route to db-7"))
    signedUp
    [.served (loggingIn guessBody).request
      (some (.ofError (Error.unknown "no route to db-7")))]
    (serve sampleEnv sampleConfig loginWeb (broken "no route to db-7") (loggingIn guessBody).request
      signedUp).2 :=
  .cons (.served (Prod.ext (by decide +kernel) rfl)) (.nil _)

theorem run_blind_to_causes_sample :
    Run (HttpStep sampleEnv sampleConfig loginWeb (broken "password of root rejected")) signedUp
      [.served (loggingIn guessBody).request
        (some (.ofError (Error.unknown "no route to db-7")))]
      (serve sampleEnv sampleConfig loginWeb (broken "no route to db-7")
        (loggingIn guessBody).request signedUp).2 :=
  run_blind_to_causes (failAlike_broken _ _) login_broken_run

end ApiStarter.Security
