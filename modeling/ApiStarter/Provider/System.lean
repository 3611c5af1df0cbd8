import ApiStarter.Effect.Run
import ApiStarter.Module.Iam.Service
import ApiStarter.Provider.Invariant

/-
  The services as one system.

  A `Call` is one invocation of a public method of `AuthService`, `UserServiceImpl` or
  `PermissionServiceImpl`. A sequential run is a `Run` of `Step`: calls one after another, in
  any order and with any outcomes, with time passing between them.

  `service_uses` says once which operations each call may perform; what a call leaves alone
  follows from it by the rule `perform_inDb`.
-/

namespace ApiStarter.Provider

open ApiStarter.Auth ApiStarter.Database ApiStarter.Effect ApiStarter.Effect.Fallible
  ApiStarter.Errdef ApiStarter.Iam ApiStarter.Pagination

/-! ## Calls -/

inductive Call where
  | createUser (newUser : CreateUser)
  | partialUpdate (userId : Uuid) (fields : UpdateUser)
  | deleteUser (userId : Uuid)
  | findUser (userId : Uuid)
  | listUsers (request : ListRequest)
  | listPermissions
  | generateToken (email password : String)
  | refreshToken (token : String)
  | getIdentity (accessToken : String)
  | passwordRecovery (email callbackUri : String)
  | resetPassword (token newPassword : String)
  deriving DecidableEq

namespace Call

abbrev Reply : Call → Type
  | createUser _ => Uuid
  | partialUpdate _ _ => Unit
  | deleteUser _ => Unit
  | findUser _ => User
  | listUsers _ => Data User
  | listPermissions => List Permission
  | generateToken _ _ => AuthenticationTokens
  | refreshToken _ => AuthenticationTokens
  | getIdentity _ => Identity
  | passwordRecovery _ _ => Unit
  | resetPassword _ _ => Unit

/-- What the caller sees; `none` is a panic. -/
abbrev Outcome (c : Call) := Option (Except Error c.Reply)

def service (env : Env) (config : AuthConfig) : (c : Call) → Service Error c.Reply
  | createUser newUser => UserServiceImpl.create env newUser
  | partialUpdate userId fields => UserServiceImpl.partialUpdate env userId fields
  | deleteUser userId => UserServiceImpl.delete userId
  | findUser userId => UserServiceImpl.findById userId
  | listUsers request => UserServiceImpl.index request
  | listPermissions => PermissionServiceImpl.listAll
  | generateToken email password => AuthService.generateToken env config email password
  | refreshToken token => AuthService.refreshToken env config token
  | getIdentity accessToken => AuthService.getIdentity env accessToken
  | passwordRecovery email callbackUri => AuthService.passwordRecovery env email callbackUri
  | resetPassword token newPassword => AuthService.resetPassword env token newPassword

end Call

def World.dropTx (w : World) : World := { w with tx := none }

/-- One call, run to its end. A transaction it leaves open, which takes a panic, is dropped. -/
def perform (env : Env) (config : AuthConfig) (faults : Faults) (c : Call) (w : World) :
    c.Outcome × World :=
  let (outcome, w') := runE (exec env faults) (c.service env config) w
  (outcome, w'.dropTx)

theorem perform_eq {env : Env} {config : AuthConfig} {faults : Faults} {c : Call}
    {outcome : c.Outcome} {w w' : World}
    (h : perform env config faults c w = (outcome, w')) :
    ∃ w₁, runE (exec env faults) (c.service env config) w = (outcome, w₁) ∧
      w' = w₁.dropTx := by
  obtain ⟨rfl, rfl⟩ := Prod.mk.inj h
  exact ⟨_, rfl, rfl⟩

/-! ## Sequential runs -/

inductive Event where
  | called (c : Call) (outcome : c.Outcome)
  | elapsed (micros : Nat)

inductive Step (env : Env) (config : AuthConfig) (faults : Faults) :
    World → Event → World → Prop
  | called {c : Call} {outcome : c.Outcome} {w w' : World}
      (h : perform env config faults c w = (outcome, w')) :
      Step env config faults w (.called c outcome) w'
  | elapsed (micros : Nat) (w : World) :
      Step env config faults w (.elapsed micros) { w with clock := w.clock + micros }

/-! ## What a call may do -/

/-- Operations that write nothing. -/
def Op.Reads : Op → Prop
  | .createPasswordReset _ _ => False
  | .resetPassword _ _ => False
  | .deletePasswordReset _ => False
  | .begin => False
  | .insertUser _ => False
  | .updateUser _ _ => False
  | .insertUserRoles _ _ => False
  | .deleteUserRoles _ _ => False
  | .commit => False
  | .rollback => False
  | .randomToken => False
  | .jwtGenerate _ _ => False
  | .sendHtml _ => False
  | _ => True

/-- Operations that only open or close the transaction. -/
def Op.Brackets : Op → Prop
  | .begin => True
  | .commit => True
  | .rollback => True
  | _ => False

/-- The other operations a call may perform, with the arguments it may give them. -/
def Call.Writes : Call → Op → Prop
  | createUser newUser, .insertUser user =>
    ∃ password, user = { newUser with password := password, status := activeUserStatus }
  | createUser newUser, .insertUserRoles _ names => names = newUser.roles
  | partialUpdate userId fields, .updateUser sets id =>
    id = userId ∧ ∃ password,
      PgUserRepository.setClauses { fields with password := password } = .ok sets
  | partialUpdate userId fields, .insertUserRoles id names =>
    id = userId ∧ fields.addRoles = some names
  | partialUpdate userId fields, .deleteUserRoles id names =>
    id = userId ∧ fields.removeRoles = some names
  | deleteUser userId, .updateUser sets id =>
    id = userId ∧ sets = [.statusId deletedUserStatus]
  | generateToken _ _, .jwtGenerate _ _ => True
  | refreshToken _, .jwtGenerate _ _ => True
  | passwordRecovery email _, .deletePasswordReset e => e = email
  | passwordRecovery _ _, .randomToken => True
  | passwordRecovery email _, .createPasswordReset e _ => e = email
  | passwordRecovery _ _, .sendHtml _ => True
  | resetPassword _ _, .resetPassword _ _ => True
  | resetPassword _ _, .deletePasswordReset _ => True
  | _, _ => False

def Call.MayPerform (c : Call) (o : Op) : Prop := o.Reads ∨ o.Brackets ∨ c.Writes o

section

variable {P : Op → Prop} (hR : ∀ o : Op, o.Reads → P o)
include hR

theorem usesE_hashPassword (env : Env) (password : String) :
    UsesE P (Crypto.hashPassword env password) :=
  (usesE_ask (hR _ (by trivial))).bind fun _ => usesE_mapErr _ _

theorem usesE_withHashedPassword (env : Env) (fields : UpdateUser) :
    UsesE P (UserServiceImpl.withHashedPassword env fields) := by
  unfold UserServiceImpl.withHashedPassword
  split
  · exact usesE_pure _
  · refine (usesE_mapErr _ _).bind fun _ => ?_
    exact (usesE_hashPassword hR env _).bind fun _ => usesE_pure _

/-- What follows the hashing of a password gets a hash of it. -/
theorem usesE_hashPassword_bind {env : Env} {α : Type} {password : String}
    {f : String → Service Error α}
    (hf : ∀ salt hash, env.crypto.bcryptHash salt password = .ok hash → UsesE P (f hash)) :
    UsesE P (Crypto.hashPassword env password >>= f) := by
  unfold Crypto.hashPassword
  rw [bind_assoc]
  refine (usesE_ask (hR _ (by trivial))).bind fun salt => ?_
  cases hhash : env.crypto.bcryptHash salt password with
  | error cause => exact usesE_throw _
  | ok hash =>
    rw [mapErr_ok, pure_bind]
    exact hf salt hash hhash

theorem usesE_mapUserWithRoles (row : JoinedUser) :
    UsesE P (PgUserRepository.mapUserWithRoles row) := by
  refine (usesE_mapErr _ _).bind fun _ => UsesE.bind ?_ fun _ => usesE_pure _
  exact (usesE_ask (hR _ (by trivial))).bind fun _ => (usesE_mapErr _ _).bind fun _ => usesE_pure _

theorem usesE_findById (userId : Uuid) : UsesE P (PgUserRepository.findById userId) := by
  refine (usesE_ask (hR _ (by trivial))).bind fun _ => (usesE_mapErr _ _).bind fun row => ?_
  cases row with
  | none => exact usesE_pure _
  | some row => exact (usesE_mapUserWithRoles hR row).bind fun _ => usesE_pure _

theorem usesE_requireUser (userId : Uuid) : UsesE P (UserServiceImpl.requireUser userId) :=
  (usesE_findById hR userId).mapErrOf.bind fun _ => usesE_okOr _ _

theorem usesE_generateTokens (env : Env) (config : AuthConfig) (user : Identity)
    (hsign : ∀ claims expiresAt, P (.jwtGenerate claims expiresAt)) :
    UsesE P (AuthService.generateTokens env config user) := by
  refine (usesE_ask (hR _ (by trivial))).bind fun _ => (usesE_expect _).bind fun _ => ?_
  refine (usesE_ask (hsign _ _)).bind fun _ => (usesE_mapErr _ _).bind fun _ => ?_
  refine (usesE_expect _).bind fun _ => (usesE_ask (hsign _ _)).bind fun _ => ?_
  exact (usesE_mapErr _ _).bind fun _ => usesE_pure _

theorem usesE_userIdFrom (env : Env) (token : String) :
    UsesE P (AuthService.userIdFrom env token) :=
  (usesE_ask (hR _ (by trivial))).bind fun _ => (usesE_mapErr _ _).bind fun _ => usesE_okOr _ _

theorem usesE_requireUserById (userId : Uuid) : UsesE P (AuthService.requireUserById userId) :=
  (usesE_ask (hR _ (by trivial))).bind fun _ => (usesE_mapErr _ _).bind fun _ => usesE_okOr _ _

end

theorem usesE_inTransaction {P : Op → Prop} (hB : ∀ o : Op, o.Brackets → P o) {α : Type}
    {body : Service Error α} (hbody : UsesE P body) : UsesE P (inTransaction body) := by
  refine (usesE_ask (hB _ (by trivial))).bind fun _ => (usesE_mapErr _ _).bind fun _ => ?_
  refine UsesE.bind ?_ fun _ => ?_
  · exact hbody.tryCatch fun _ => (usesE_ask (hB _ (by trivial))).bind fun _ => usesE_throw _
  · exact (usesE_ask (hB _ (by trivial))).bind fun _ => (usesE_mapErr _ _).bind fun _ => usesE_pure _

theorem usesE_addUserRoles {P : Op → Prop} (userId : Uuid) {roles : List String}
    (h : P (.insertUserRoles userId roles)) :
    UsesE P (PgUserRepository.addUserRoles userId roles) := by
  unfold PgUserRepository.addUserRoles
  split
  · exact usesE_pure _
  · exact (usesE_ask h).bind fun _ => usesE_mapErr _ _

theorem usesE_removeUserRoles {P : Op → Prop} (userId : Uuid) {roles : List String}
    (h : P (.deleteUserRoles userId roles)) :
    UsesE P (PgUserRepository.removeUserRoles userId roles) := by
  unfold PgUserRepository.removeUserRoles
  split
  · exact usesE_pure _
  · exact (usesE_ask h).bind fun _ => usesE_mapErr _ _

/-- `create` inserts a user with a hash of the password, and then its roles. -/
theorem usesE_create {P : Op → Prop} (hR : ∀ o : Op, o.Reads → P o)
    (hB : ∀ o : Op, o.Brackets → P o) {env : Env} {newUser : CreateUser}
    (hinsert : ∀ salt hash, env.crypto.bcryptHash salt newUser.password = .ok hash →
      P (.insertUser { newUser with password := hash, status := activeUserStatus }))
    (hroles : ∀ userId, P (.insertUserRoles userId newUser.roles)) :
    UsesE P (UserServiceImpl.create env newUser) := by
  refine usesE_hashPassword_bind hR fun salt hash hhash => ?_
  refine usesE_inTransaction hB (UsesE.mapErrOf ?_)
  refine (usesE_ask (hinsert salt hash hhash)).bind fun _ => (usesE_mapErr _ _).bind fun userId => ?_
  exact (usesE_addUserRoles userId (hroles userId)).bind fun _ => usesE_pure _

/-- The statements `partial_update` may send inside its transaction. -/
theorem usesE_applyUpdate {P : Op → Prop} {userId : Uuid} {fields : UpdateUser}
    (hsets : ∀ sets, PgUserRepository.setClauses fields = .ok sets → P (.updateUser sets userId))
    (hadd : ∀ names, fields.addRoles = some names → P (.insertUserRoles userId names))
    (hremove : ∀ names, fields.removeRoles = some names → P (.deleteUserRoles userId names)) :
    UsesE P (UserServiceImpl.applyUpdate userId fields) := by
  have hcolumns : UsesE P (PgUserRepository.partialUpdate userId fields) := by
    unfold PgUserRepository.partialUpdate
    split
    · exact usesE_pure _
    · cases hbuilt : PgUserRepository.setClauses fields with
      | error err => exact usesE_throw err
      | ok sets => exact (usesE_ask (hsets sets hbuilt)).bind fun _ => usesE_mapErr _ _
  have hrest : UsesE P (fields.removeRoles.elim (pure ()) fun roles =>
      mapErrOf UserServiceImpl.mapDomainError
        (PgUserRepository.removeUserRoles userId roles) : Service Error Unit) := by
    cases hroles : fields.removeRoles with
    | none => exact usesE_pure _
    | some roles => exact (usesE_removeUserRoles userId (hremove roles hroles)).mapErrOf
  rw [UserServiceImpl.applyUpdate_eq]
  refine hcolumns.mapErrOf.bind fun _ => ?_
  cases hroles : fields.addRoles with
  | none => exact hrest
  | some roles => exact (usesE_addUserRoles userId (hadd roles hroles)).mapErrOf.bind fun _ => hrest

/-- `partial_update` writes the columns of the payload, with a hash of a password that passes the
    check, and its roles. -/
theorem usesE_partialUpdate {P : Op → Prop} (hR : ∀ o : Op, o.Reads → P o)
    (hB : ∀ o : Op, o.Brackets → P o) {env : Env} {userId : Uuid} {fields : UpdateUser}
    (hkept : fields.password = none → ∀ sets, PgUserRepository.setClauses fields = .ok sets →
      P (.updateUser sets userId))
    (hhashed : ∀ password salt hash, fields.password = some password →
      Validation.passwordChecker env.unicode password = .ok () →
      env.crypto.bcryptHash salt password = .ok hash →
      ∀ sets, PgUserRepository.setClauses { fields with password := some hash } = .ok sets →
        P (.updateUser sets userId))
    (hadd : ∀ names, fields.addRoles = some names → P (.insertUserRoles userId names))
    (hremove : ∀ names, fields.removeRoles = some names → P (.deleteUserRoles userId names)) :
    UsesE P (UserServiceImpl.partialUpdate env userId fields) := by
  refine (usesE_requireUser hR userId).bind fun _ => ?_
  unfold UserServiceImpl.withHashedPassword
  cases hpassword : fields.password with
  | none => exact usesE_inTransaction hB (usesE_applyUpdate (hkept hpassword) hadd hremove)
  | some password =>
    simp only [bind_assoc]
    cases hchecked : Validation.passwordChecker env.unicode password with
    | error message => exact usesE_throw _
    | ok _ =>
      rw [mapErr_ok, pure_bind]
      refine usesE_hashPassword_bind hR fun salt hash hhash => ?_
      rw [pure_bind]
      exact usesE_inTransaction hB (usesE_applyUpdate
        (hhashed password salt hash hpassword hchecked hhash) hadd hremove)

theorem usesE_delete (userId : Uuid) :
    UsesE (Call.deleteUser userId).MayPerform (UserServiceImpl.delete userId) := by
  refine (usesE_requireUser (fun _ => .inl) userId).bind fun _ => ?_
  refine usesE_inTransaction (fun _ h => .inr (.inl h)) (UsesE.mapErrOf ?_)
  exact (usesE_ask (.inr (.inr ⟨rfl, rfl⟩))).bind fun _ => usesE_mapErr _ _

theorem usesE_index {P : Op → Prop} (hR : ∀ o : Op, o.Reads → P o) (request : ListRequest) :
    UsesE P (UserServiceImpl.index request) := by
  refine UsesE.bind (UsesE.mapErrOf ?_) fun _ => usesE_pure _
  refine (usesE_ask (hR _ (by trivial))).bind fun _ => (usesE_mapErr _ _).bind fun _ => ?_
  refine (usesE_ask (hR _ (by trivial))).bind fun _ => (usesE_mapErr _ _).bind fun rows => ?_
  exact (UsesE.listMapM (usesE_mapUserWithRoles hR) rows).bind fun _ => usesE_pure _

theorem usesE_passwordRecovery (env : Env) (email callbackUri : String) :
    UsesE (Call.passwordRecovery email callbackUri).MayPerform
      (AuthService.passwordRecovery env email callbackUri) := by
  refine (usesE_ask (.inl (by trivial))).bind fun _ => (usesE_mapErr _ _).bind fun _ => ?_
  refine (usesE_okOr _ _).bind fun user => ?_
  refine (usesE_ask (.inr (.inr rfl))).bind fun _ => (usesE_mapErr _ _).bind fun _ => ?_
  refine (usesE_ask (.inr (.inr (by trivial)))).bind fun token => ?_
  refine (usesE_ask (.inr (.inr rfl))).bind fun _ => (usesE_mapErr _ _).bind fun _ => ?_
  exact (usesE_ask (.inr (.inr (by trivial)))).bind fun _ => usesE_mapErr _ _

/-- `reset_password` writes a hash of the new password, and deletes the pending reset. -/
theorem usesE_resetPassword {P : Op → Prop} (hR : ∀ o : Op, o.Reads → P o) {env : Env}
    {token newPassword : String}
    (hwrite : ∀ email salt hash, env.crypto.bcryptHash salt newPassword = .ok hash →
      P (.resetPassword email hash))
    (hdelete : ∀ email, P (.deletePasswordReset email)) :
    UsesE P (AuthService.resetPassword env token newPassword) := by
  refine (usesE_ask (hR _ (by trivial))).bind fun _ => (usesE_mapErr _ _).bind fun _ => ?_
  refine (usesE_okOr _ _).bind fun reset => (usesE_ask (hR _ (by trivial))).bind fun now => ?_
  have hwrites : UsesE P (do
      let hashed ← Crypto.hashPassword env newPassword
      mapErr sqlxUnknown (← ask (.resetPassword reset.email hashed))
      mapErr sqlxUnknown (← ask (.deletePasswordReset reset.email)) : Service Error Unit) := by
    refine usesE_hashPassword_bind hR fun salt hash hhash => ?_
    refine (usesE_ask (hwrite _ salt hash hhash)).bind fun _ => (usesE_mapErr _ _).bind fun _ => ?_
    exact (usesE_ask (hdelete _)).bind fun _ => usesE_mapErr _ _
  dsimp only
  split
  · exact (usesE_throw _).bind fun _ => hwrites
  · exact hwrites

/-- A call reads, opens and closes transactions, and performs its own writes, nothing else. -/
theorem service_uses (env : Env) (config : AuthConfig) (c : Call) :
    UsesE c.MayPerform (c.service env config) := by
  cases c with
  | createUser newUser =>
    exact usesE_create (fun _ => .inl) (fun _ h => .inr (.inl h))
      (fun _ hash _ => .inr (.inr ⟨hash, rfl⟩)) fun _ => .inr (.inr rfl)
  | partialUpdate userId fields =>
    exact usesE_partialUpdate (fun _ => .inl) (fun _ h => .inr (.inl h))
      (fun _ _ hsets => .inr (.inr ⟨rfl, _, hsets⟩))
      (fun _ _ hash _ _ _ _ hsets => .inr (.inr ⟨rfl, some hash, hsets⟩))
      (fun _ h => .inr (.inr ⟨rfl, h⟩)) fun _ h => .inr (.inr ⟨rfl, h⟩)
  | deleteUser userId => exact usesE_delete userId
  | findUser userId => exact usesE_requireUser (fun _ => .inl) userId
  | listUsers request => exact usesE_index (fun _ => .inl) request
  | listPermissions =>
    refine UsesE.mapErrOf ((usesE_ask (.inl (by trivial))).bind fun _ => ?_)
    exact (usesE_mapErr _ _).bind fun _ => usesE_mapErr _ _
  | generateToken email password =>
    refine (usesE_ask (.inl (by trivial))).bind fun _ => (usesE_mapErr _ _).bind fun _ => ?_
    refine (usesE_okOr _ _).bind fun user => ?_
    split
    · exact usesE_throw _
    · exact usesE_generateTokens (fun _ => .inl) env config user fun _ _ => .inr (.inr (by trivial))
  | refreshToken token =>
    refine (usesE_userIdFrom (fun _ => .inl) env token).bind fun userId => ?_
    refine (usesE_requireUserById (fun _ => .inl) userId).bind fun user => ?_
    exact usesE_generateTokens (fun _ => .inl) env config user fun _ _ => .inr (.inr (by trivial))
  | getIdentity accessToken =>
    refine (usesE_userIdFrom (fun _ => .inl) env accessToken).bind fun userId => ?_
    exact usesE_requireUserById (fun _ => .inl) userId
  | passwordRecovery email callbackUri => exact usesE_passwordRecovery env email callbackUri
  | resetPassword token newPassword =>
    exact usesE_resetPassword (fun _ => .inl) (fun _ _ _ _ => .inr (.inr (by trivial)))
      fun _ => .inr (.inr (by trivial))

/-- What every operation a call may perform keeps, the call keeps. -/
theorem perform_inv {env : Env} {config : AuthConfig} {faults : Faults} {c : Call}
    {outcome : c.Outcome} {w w' : World} {I : World → Prop}
    (hI : ∀ o w, c.MayPerform o → I w → I (exec env faults o w).2)
    (hdrop : ∀ w, I w → I w.dropTx)
    (h : perform env config faults c w = (outcome, w')) (hw : I w) : I w' := by
  obtain ⟨w₁, hrun, rfl⟩ := perform_eq h
  have hI₁ : I (runE (exec env faults) (c.service env config) w).2 :=
    runE_inv_of_uses hI (service_uses env config c) hw
  rw [hrun] at hI₁
  exact hdrop w₁ hI₁

theorem perform_inDb {env : Env} {config : AuthConfig} {faults : Faults} {c : Call}
    {outcome : c.Outcome} {w w' : World} {D : Db → Prop}
    (hD : PreservedBy env c.MayPerform D)
    (h : perform env config faults c w = (outcome, w')) (hw : InDb D w) : InDb D w' :=
  perform_inv (exec_inDb hD faults) (fun _ h₁ => ⟨h₁.1, by simp [World.dropTx]⟩) h hw

/-! ## Between calls -/

section

variable {env : Env} {config : AuthConfig} {faults : Faults} {w w' : World}

/-- No transaction stays open between calls. -/
theorem step_tx {e : Event} (h : Step env config faults w e w') (hw : w.tx = none) :
    w'.tx = none := by
  cases h with
  | called h =>
    obtain ⟨w₁, -, rfl⟩ := perform_eq h
    rfl
  | elapsed n w => exact hw

theorem run_tx {events : List Event} (h : Run (Step env config faults) w events w')
    (hw : w.tx = none) : w'.tx = none :=
  h.inv (I := fun w => w.tx = none) (fun _ _ _ hw hstep => step_tx hstep hw) hw

/-- The invariant rule, where a step starts with no transaction open. -/
theorem run_inv_between {I : World → Prop}
    (hI : ∀ w₁ e w₂, Step env config faults w₁ e w₂ → w₁.tx = none → I w₁ → I w₂)
    {events : List Event} (h : Run (Step env config faults) w events w') (htx : w.tx = none)
    (hw : I w) : I w' := by
  have hboth : w'.tx = none ∧ I w' := by
    refine h.inv (I := fun w => w.tx = none ∧ I w) (fun w₁ e w₂ h₁ hstep => ?_) ⟨htx, hw⟩
    exact ⟨step_tx hstep h₁.1, hI w₁ e w₂ hstep h₁.1 h₁.2⟩
  exact hboth.2

end

end ApiStarter.Provider
