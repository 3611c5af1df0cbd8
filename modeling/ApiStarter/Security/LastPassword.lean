import ApiStarter.Module.Iam.Creation
import ApiStarter.Provider.HashedWrites
import ApiStarter.Provider.Integrity
import ApiStarter.Security.Atomicity
import ApiStarter.Server.Journal

/-
  Which passwords a login accepts.

  Three calls set a password, each with a hash of its own, and nothing else writes the column:
  after the last of them the stored hash is still one of the password it was given
  (`holds_after_sets`, `perform_holds`). A login with the user's current address then accepts
  what `bcrypt` reads as that password, which is its first 72 bytes
  (`login_accepts_last_password`).
-/

namespace ApiStarter.Security

open ApiStarter.Auth ApiStarter.Database ApiStarter.Effect ApiStarter.Effect.Fallible
  ApiStarter.Errdef ApiStarter.Iam ApiStarter.Provider ApiStarter.Relational ApiStarter.Server
  ApiStarter.Web
open ApiStarter.Text (utf8 utf8_length utf8_injective zero_notMem_utf8 repeated_take
  takeWhile_repeated)

section

variable (env : Env) (config : AuthConfig) (faults : Faults) (userId : Uuid)

/-- The token is that of a pending reset for the address of the user. -/
def ResetsUser (token : String) (w : World) : Prop :=
  ∃ reset, PostgresAuthStore.findPasswordByToken w.db (Crypto.hashToken env token) = some reset ∧
    ∃ row ∈ w.db.users, row.id = userId ∧ row.email = reset.email

/-- The call sets the password of the user, and says so. -/
def Sets (password : String) : Call × World → Prop
  | (.createUser newUser, w) =>
    (perform env config faults (.createUser newUser) w).1 = some (.ok userId) ∧
      newUser.password = password
  | (.partialUpdate id fields, w) =>
    (perform env config faults (.partialUpdate id fields) w).1 = some (.ok ()) ∧
      id = userId ∧ fields.password = some password
  | (.resetPassword token newPassword, w) =>
    (perform env config faults (.resetPassword token newPassword) w).1 = some (.ok ()) ∧
      newPassword = password ∧ ResetsUser env userId token w
  | _ => False

/-- A reset for the user that fails between its `UPDATE` and its `DELETE`. -/
def HalfReset : Call × World → Prop
  | (.resetPassword token newPassword, w) =>
    (∃ reset hash, PasswordWritten env faults token newPassword w reset hash) ∧
      faults.store (w.statements + 2) ≠ none ∧ ResetsUser env userId token w
  | _ => False

end

/-- The hash is what the user's row holds. -/
def Holds (userId : Uuid) (hash : String) (db : Db) : Prop :=
  ∃ row ∈ db.users, row.id = userId ∧ row.password = hash

section

variable {env : Env} {config : AuthConfig} {web : WebLibrary} {faults : Faults} {w w' : World}
  {userId : Uuid} {password hash : String}

/-! ## Setting a password -/

theorem holds_after_create (hpg : env.pg.RejectsLonger) (hfits : env.crypto.Fits)
    {newUser : CreateUser}
    (h : (runE (exec env faults) (UserServiceImpl.create env newUser) w).1 =
      some (.ok userId)) :
    ∃ salt hash, env.crypto.bcryptHash salt newUser.password = .ok hash ∧
      Holds userId hash
        (runE (exec env faults) (UserServiceImpl.create env newUser) w).2.db := by
  obtain ⟨salt, hash, hhash, -, husers⟩ := (create_ok hpg (Prod.ext h rfl)).1.users
  refine ⟨salt, hash, hhash, createdRow userId newUser hash, ?_, rfl, ?_⟩
  · rw [husers]
    exact List.mem_append_right _ List.mem_cons_self
  · exact cut_of_length_le (hfits _ _ _ hhash)

theorem holds_after_update (hpg : env.pg.RejectsLonger) (hfits : env.crypto.Fits)
    {fields : UpdateUser} (hpassword : fields.password = some password)
    (h : (runE (exec env faults) (UserServiceImpl.partialUpdate env userId fields) w).1 =
      some (.ok ())) :
    ∃ salt hash, env.crypto.bcryptHash salt password = .ok hash ∧
      Holds userId hash
        (runE (exec env faults) (UserServiceImpl.partialUpdate env userId fields) w).2.db := by
  have happlied := partialUpdate_ok hpg (Prod.ext h rfl)
  obtain ⟨stored, hhashed, -, husers⟩ := happlied.users
  obtain ⟨row, hrow, hid⟩ := happlied.exists_row
  rw [hpassword] at hhashed
  obtain ⟨salt, hash, hhash, rfl⟩ := hhashed
  refine ⟨salt, hash, hhash, _, husers ▸ mem_updateWhere.2 ⟨row, hrow, rfl⟩, ?_⟩
  rw [if_pos (by simpa using hid)]
  exact ⟨hid, cut_of_length_le (hfits _ _ _ hhash)⟩

theorem holds_after_reset {token newPassword : String} (huser : ResetsUser env userId token w)
    (h : (runE (exec env faults) (AuthService.resetPassword env token newPassword) w).1 =
      some (.ok ())) :
    ∃ salt hash, env.crypto.bcryptHash salt newPassword = .ok hash ∧
      Holds userId hash
        (runE (exec env faults) (AuthService.resetPassword env token newPassword) w).2.db := by
  obtain ⟨e, w₁, hrun, -⟩ | ⟨reset, hash, hwritten, w₁, hdb, hrun⟩ :=
    runE_resetPassword_cases env faults w token newPassword
  · rw [hrun] at h
    cases h
  obtain ⟨reset', hfound, row, hrow, hid, hemail⟩ := huser
  obtain rfl : reset' = reset := Option.some.inj (hfound.symm.trans hwritten.found)
  have hheld : Holds userId hash w₁.db := by
    rw [hdb]
    refine ⟨_, mem_updateWhere.2 ⟨row, hrow, rfl⟩, ?_⟩
    rw [if_pos (by simpa using hemail)]
    exact ⟨hid, rfl⟩
  refine ⟨_, hash, hwritten.hashed, ?_⟩
  rw [hrun]
  cases faults.store (w.statements + 2) with
  | some err => exact hheld
  | none => exact hheld

/-- Whoever sets a password leaves a hash of it. -/
theorem holds_after_sets (hpg : env.pg.RejectsLonger) (hfits : env.crypto.Fits) {c : Call}
    (h : Sets env config faults userId password (c, w)) :
    ∃ salt hash, env.crypto.bcryptHash salt password = .ok hash ∧
      Holds userId hash (perform env config faults c w).2.db := by
  cases c with
  | createUser newUser =>
    obtain ⟨hok, rfl⟩ := h
    exact holds_after_create hpg hfits hok
  | partialUpdate id fields =>
    obtain ⟨hok, rfl, hpassword⟩ := h
    exact holds_after_update hpg hfits hpassword hok
  | resetPassword token newPassword =>
    obtain ⟨hok, rfl, huser⟩ := h
    exact holds_after_reset huser hok
  | _ => exact h.elim

/-! ## Everything else leaves it alone -/

/-- The operation does not write the password of the user. -/
def LeavesPassword (userId : Uuid) : Op → Prop
  | .updateUser sets id => id = userId → ∀ value, SetClause.password value ∉ sets
  | .resetPassword _ _ => False
  | _ => True

theorem preservedBy_holds (hpg : env.pg.RejectsLonger) {P : Op → Prop}
    (hP : ∀ o, P o → LeavesPassword userId o) : PreservedBy env P (Holds userId hash) := by
  refine preservedBy_of_users hpg ?frame (fun _ _ _ ho _ => (hP _ ho).elim) ?insert ?update
  case frame =>
    intro db db' h husers
    unfold Holds
    rw [husers]
    exact h
  case insert =>
    intro _ _ _ _ _ _ h _
    obtain ⟨row, hrow, hrest⟩ := h
    exact ⟨row, List.mem_append_left _ hrow, hrest⟩
  case update =>
    intro sets id db _ ho h _
    obtain ⟨row, hrow, hid, hpassword⟩ := h
    refine ⟨_, mem_updateWhere.2 ⟨row, hrow, rfl⟩, ?_⟩
    split
    next hself =>
      have hnone := hP _ ho (by rw [← hid]; exact (by simpa using hself : row.id = id).symm)
      refine SetClause.applyAll_inv (I := fun row => row.id = userId ∧ row.password = hash)
        (fun set hset row hrow => ?_) ⟨hid, hpassword⟩
      obtain ⟨set, hmem, rfl⟩ := List.mem_map.1 hset
      cases set with
      | password value => exact (hnone value hmem).elim
      | _ => exact hrow
    next => exact ⟨hid, hpassword⟩

/-- A call that is no reset and gives the user no password. -/
theorem leavesPassword_of_sends {c : Call} (hreset : ∀ token newPassword,
      c ≠ .resetPassword token newPassword)
    (hupdate : ∀ fields, c = .partialUpdate userId fields → fields.password = none)
    {o : Op} (ho : c.Sends env o) : LeavesPassword userId o := by
  obtain ⟨hmay, hhashed⟩ := ho
  cases o with
  | updateUser sets id =>
    rintro rfl value hvalue
    rcases hmay with hmay | hmay | hmay
    · exact hmay.elim
    · exact hmay.elim
    cases c with
    | partialUpdate id' fields =>
      obtain ⟨rfl, -⟩ := hmay
      obtain ⟨hash, hash_of, -, hsets⟩ := hhashed
      rw [(setClauses_ok hsets).2, password_mem_assignments] at hvalue
      rw [hupdate fields rfl] at hash_of
      rw [show hash = none from hash_of] at hvalue
      cases hvalue
    | deleteUser id' =>
      obtain ⟨-, rfl⟩ := hmay
      simp at hvalue
    | _ => exact hmay.elim
  | resetPassword email hash =>
    rcases hmay with hmay | hmay | hmay
    · exact hmay.elim
    · exact hmay.elim
    cases c with
    | resetPassword token newPassword => exact hreset token newPassword rfl
    | _ => exact hmay.elim
  | _ => trivial

/-- A reset that does not go through for the user leaves the user's row alone. -/
theorem holds_of_reset {token newPassword : String} (hw : Holds userId hash w.db)
    (hset : ¬ Sets env config faults userId newPassword (.resetPassword token newPassword, w))
    (hhalf : ¬ HalfReset env faults userId (.resetPassword token newPassword, w)) :
    Holds userId hash (perform env config faults (.resetPassword token newPassword) w).2.db := by
  obtain ⟨e, w₁, hrun, hdb, -⟩ | ⟨reset, written, hwritten, w₁, hdb, hrun⟩ :=
    runE_resetPassword_cases env faults w token newPassword
  · have hworld : perform env config faults (.resetPassword token newPassword) w =
        (some (.error e), w₁.dropTx) := by
      unfold perform
      rw [show runE (exec env faults) (Call.service env config
        (.resetPassword token newPassword)) w = _ from hrun]
    rw [hworld]
    change Holds userId hash w₁.db
    rw [hdb]
    exact hw
  obtain ⟨row, hrow, hid, hpassword⟩ := hw
  -- Were the address the user's, the call would have set the password or broken off.
  have hother : row.email ≠ reset.email := by
    intro hemail
    have huser : ResetsUser env userId token w := ⟨reset, hwritten.found, row, hrow, hid, hemail⟩
    cases hdelete : faults.store (w.statements + 2) with
    | some err => exact hhalf ⟨⟨reset, written, hwritten⟩, by simp [hdelete], huser⟩
    | none =>
      refine hset ⟨?_, rfl, huser⟩
      change (runE (exec env faults) (AuthService.resetPassword env token newPassword) w).1 = _
      rw [hrun, hdelete]
  have hheld : Holds userId hash w₁.db := by
    rw [hdb]
    refine ⟨_, mem_updateWhere.2 ⟨row, hrow, rfl⟩, ?_⟩
    rw [if_neg (by simpa using hother)]
    exact ⟨hid, hpassword⟩
  change Holds userId hash
    (runE (exec env faults) (AuthService.resetPassword env token newPassword) w).2.db
  rw [hrun]
  cases faults.store (w.statements + 2) with
  | some err => exact hheld
  | none => exact hheld

theorem perform_holds (hpg : env.pg.RejectsLonger) {c : Call} (hw : Holds userId hash w.db)
    (htx : w.tx = none) (hset : ∀ password, ¬ Sets env config faults userId password (c, w))
    (hhalf : ¬ HalfReset env faults userId (c, w)) :
    Holds userId hash (perform env config faults c w).2.db := by
  by_cases hreset : ∃ token newPassword, c = .resetPassword token newPassword
  · obtain ⟨token, newPassword, rfl⟩ := hreset
    exact holds_of_reset hw (hset newPassword) hhalf
  by_cases hupdate : ∀ fields, c = .partialUpdate userId fields → fields.password = none
  · refine (perform_inDb_of_sends (preservedBy_holds hpg fun o ho => ?_) ⟨hw, by simp [htx]⟩).1
    exact leavesPassword_of_sends (fun token newPassword heq => hreset ⟨token, newPassword, heq⟩)
      hupdate ho
  -- A failed update changes nothing, and another would have set the password.
  obtain ⟨fields, rfl, hpassword⟩ : ∃ fields, c = .partialUpdate userId fields ∧
      fields.password ≠ none := by simpa using hupdate
  obtain ⟨password, hpassword⟩ := Option.ne_none_iff_exists'.1 hpassword
  have hfailed : Failed
      (runE (exec env faults) (UserServiceImpl.partialUpdate env userId fields) w).1 :=
    fun _ hok => hset password ⟨hok, rfl, hpassword⟩
  have hdb : (runE (exec env faults) (UserServiceImpl.partialUpdate env userId fields) w).2.db =
      w.db := partialUpdate_failed hfailed rfl
  change Holds userId hash
    (runE (exec env faults) (UserServiceImpl.partialUpdate env userId fields) w).2.db
  rw [hdb]
  exact hw

/-! ## Runs -/

theorem moments_hold (hpg : env.pg.RejectsLonger) {moments : List (Option (Call × World))}
    (hrun : Run (Moment env config faults) w moments w')
    (hset : ∀ x ∈ moments.filterMap id, ∀ password,
      ¬ Sets env config faults userId password x)
    (hhalf : ∀ x ∈ moments.filterMap id, ¬ HalfReset env faults userId x)
    (htx : w.tx = none) (hw : Holds userId hash w.db) : Holds userId hash w'.db := by
  have hboth : w'.tx = none ∧ Holds userId hash w'.db := by
    refine hrun.inv_of_labels (P := fun l => l ∈ moments)
      (I := fun w => w.tx = none ∧ Holds userId hash w.db) (fun w₁ l w₂ hl h₁ hmoment => ?_)
      (fun l hl => hl) ⟨htx, hw⟩
    cases hmoment with
    | called c v =>
      have hmem : (c, w₁) ∈ moments.filterMap id := List.mem_filterMap.2 ⟨_, hl, rfl⟩
      exact ⟨rfl, perform_holds hpg h₁.2 h₁.1 (hset _ hmem) (hhalf _ hmem)⟩
    | quiet hdb htx => rw [hdb, htx]; exact h₁
  exact hboth.2

theorem run_http_admissible (hpg : env.pg.RejectsLonger) {events : List HttpEvent}
    (hrun : Run (HttpStep env config web faults) w events w') (hw : InDb Db.Admissible w) :
    InDb Db.Admissible w' := by
  obtain ⟨moments, -, hmoments⟩ := journal_run hrun
  refine hmoments.inv (fun w₁ l w₂ h₁ hmoment => ?_) hw
  cases hmoment with
  | called c v => exact perform_inDb_of_sends (preservedBy_admissible hpg _) h₁
  | quiet hdb htx => exact inDb_of_eq hdb htx h₁

/-! ## Logging in -/

/-- Of passwords without NUL, `bcrypt` reads the first 72 bytes. -/
theorem bcryptKey_eq_iff {attempt : String} (hattempt : NulFree attempt)
    (hpassword : NulFree password) : bcryptKey attempt = bcryptKey password ↔
      (utf8 attempt.toList).take 72 = (utf8 password.toList).take 72 := by
  unfold bcryptKey
  constructor
  · intro h
    rw [← takeWhile_repeated (zero_notMem_utf8 hattempt), h,
      takeWhile_repeated (zero_notMem_utf8 hpassword)]
  · intro h
    have hlength := congrArg List.length h
    rw [List.length_take, List.length_take] at hlength
    have hzero : 72 - (utf8 attempt.toList).length = 72 - (utf8 password.toList).length := by omega
    rw [← repeated_take, ← repeated_take (l := utf8 password.toList ++ [0]), List.take_append,
      List.take_append, h, hzero]

/-- A password of fewer bytes is read whole. -/
theorem utf8_take_eq_iff {attempt : String} (hshort : password.utf8ByteSize ≤ 71) :
    (utf8 attempt.toList).take 72 = (utf8 password.toList).take 72 ↔ attempt = password := by
  refine ⟨fun h => utf8_injective ?_, fun h => by rw [h]⟩
  rw [← utf8_length] at hshort
  have hlength := congrArg List.length h
  rw [List.length_take, List.length_take] at hlength
  rwa [List.take_of_length_le (by omega), List.take_of_length_le (by omega)] at h

/-- The login is turned down for its password, or for an address nobody has. -/
def TurnedDown (outcome : Option (Except Error AuthenticationTokens)) : Prop :=
  outcome = some (.error (Error.unauthorized invalidCredentials))

/-- Signing has an error of its own. -/
theorem generateTokens_not_turnedDown {user : Identity} :
    ¬ TurnedDown (runE (exec env faults) (AuthService.generateTokens env config user) w).1 := by
  have hunknown : ∀ cause, Error.unknown cause ≠ Error.unauthorized invalidCredentials := by
    intro cause h
    cases h
  unfold AuthService.generateTokens TurnedDown
  rw [runE_ask_bind, exec_utcNow]
  cases addSeconds w.clock config.tokenTtl with
  | none =>
    rw [runE_bind, runE_expect_none]
    exact fun h => by cases h
  | some t₁ =>
    rw [expect_some, pure_bind, runE_ask_bind]
    rcases exec env faults (.jwtGenerate (AuthService.accessClaims env user) (unixSeconds t₁)) w
      with ⟨_ | token, w₁⟩
    · rw [mapErr_error, runE_bind, runE_throw]
      exact fun h => hunknown _ (Except.error.inj (Option.some.inj h))
    rw [mapErr_ok, pure_bind]
    cases addSeconds w.clock config.refreshTokenTtl with
    | none =>
      rw [runE_bind, runE_expect_none]
      exact fun h => by cases h
    | some t₂ =>
      rw [expect_some, pure_bind, runE_ask_bind]
      dsimp only
      rcases exec env faults (.jwtGenerate (AuthService.refreshClaims env user)
        (unixSeconds t₂)) w₁ with ⟨_ | refreshToken, w₂⟩
      · rw [mapErr_error, runE_bind, runE_throw]
        exact fun h => hunknown _ (Except.error.inj (Option.some.inj h))
      · rw [mapErr_ok, pure_bind, runE_pure]
        exact fun h => by cases h

theorem turnedDown_iff (hreads : env.crypto.ReadsKey) {email attempt salt : String}
    {user : Identity} (huser : PostgresAuthStore.findUserByEmail w.db email = some user)
    (hhash : env.crypto.bcryptHash salt password = .ok user.password)
    (hup : faults.store w.statements = none) :
    TurnedDown (perform env config faults (.generateToken email attempt) w).1 ↔
      bcryptKey attempt ≠ bcryptKey password := by
  have hverify := hreads salt password user.password hhash attempt
  change TurnedDown
    (runE (exec env faults) (AuthService.generateToken env config email attempt) w).1 ↔ _
  unfold AuthService.generateToken
  rw [runE_ask_bind, exec_findUserByEmail hup, huser]
  dsimp only
  rw [mapErr_ok, pure_bind, okOr_some, pure_bind]
  unfold Crypto.compareHashAndPassword
  rw [hverify]
  by_cases hkey : bcryptKey attempt = bcryptKey password
  · rw [beq_iff_eq.2 hkey]
    simpa [hkey] using generateTokens_not_turnedDown
  · rw [beq_eq_false_iff_ne.2 hkey]
    simp [hkey, TurnedDown]

/-- After the last call that set the user's password, a login with the user's address is turned
    down exactly for what `bcrypt` does not read as that password. Without NUL these are the texts
    that differ from it in their first 72 bytes, so a password of up to 71 bytes is the only one
    accepted. -/
theorem login_accepts_last_password (hpg : env.pg.RejectsLonger) (hreads : env.crypto.ReadsKey)
    (hfits : env.crypto.Fits) {db : Db} (hdb : db.Admissible) {clock : Timestamp}
    {events : List HttpEvent}
    (hrun : Run (HttpStep env config web faults) (World.init db clock) events w)
    {before after : List (Call × World)} {x : Call × World}
    (hjournal : journal env config web faults events (World.init db clock) =
      before ++ x :: after)
    (hset : Sets env config faults userId password x)
    (hlast : ∀ y ∈ after, ∀ other, ¬ Sets env config faults userId other y)
    (hhalf : ∀ y ∈ after, ¬ HalfReset env faults userId y)
    (hup : faults.store w.statements = none) :
    ∃ row ∈ w.db.users, row.id = userId ∧ ∀ attempt,
      (¬ TurnedDown (perform env config faults (.generateToken row.email attempt) w).1 ↔
        bcryptKey attempt = bcryptKey password) ∧
      (NulFree password → NulFree attempt →
        (¬ TurnedDown (perform env config faults (.generateToken row.email attempt) w).1 ↔
          (utf8 attempt.toList).take 72 = (utf8 password.toList).take 72) ∧
        (password.utf8ByteSize ≤ 71 →
          (¬ TurnedDown (perform env config faults (.generateToken row.email attempt) w).1 ↔
            attempt = password))) := by
  obtain ⟨c, v⟩ := x
  obtain ⟨moments, hcalls, hmoments⟩ := journal_split hrun hjournal
  obtain ⟨salt, hash, hhash, hheld⟩ := holds_after_sets hpg hfits hset
  obtain ⟨row, hrow, hid, hstored⟩ := moments_hold hpg hmoments (by rw [hcalls]; exact hlast)
    (by rw [hcalls]; exact hhalf) rfl hheld
  have hadmissible : w.db.Admissible :=
    (run_http_admissible hpg hrun ⟨hdb, by simp [World.init]⟩).1
  have hfind := PostgresAuthStore.findUserByEmail_of_mem hadmissible hrow
  refine ⟨row, hrow, hid, fun attempt => ?_⟩
  rw [turnedDown_iff hreads hfind (hstored ▸ hhash) hup, not_ne_iff]
  refine ⟨Iff.rfl, fun hpassword hattempt => ?_⟩
  have hread := bcryptKey_eq_iff hattempt hpassword
  exact ⟨hread, fun hshort => hread.trans (utf8_take_eq_iff hshort)⟩

end

/-! ## A password of more than 72 bytes -/

def longPassword : String := "Str0ng-Pass" ++ String.ofList (List.replicate 70 'a')

/-- Another password that starts with the same 72 bytes. -/
def otherPassword : String := longPassword ++ "b"

def recoveryBody : List UInt8 :=
  ascii "\x7b\"email\":\"admin@example.com\",\"callback_uri\":\"https://example.com/\"\x7d"

def resetBody : List UInt8 :=
  ascii ("\x7b\"token\":\"t\",\"password\":\"" ++ longPassword ++ "\"\x7d")

/-- The libraries on these two bodies. -/
def resetWeb : WebLibrary :=
  { sampleWeb with
    passwordRecoveryRequest := fun request =>
      if request.body = recoveryBody then .ok ⟨"admin@example.com", "https://example.com/"⟩
      else .error "expected value at line 1 column 1"
    passwordResetRequest := fun request =>
      if request.body = resetBody then .ok ⟨"t", longPassword⟩
      else .error "expected value at line 1 column 1" }

def serveSample (request : Request) (w : World) : Option Response × World :=
  serve sampleEnv sampleConfig resetWeb Faults.none request w

/-- The administrator has asked for a reset, and has used it. -/
def longAsked : World := (serveSample (posting "/v1/forgot-password" recoveryBody) sampleWorld).2

def longReset : World := (serveSample (posting "/v1/reset-password" resetBody) longAsked).2

def longEvents : List HttpEvent :=
  [.served (posting "/v1/forgot-password" recoveryBody)
      (serveSample (posting "/v1/forgot-password" recoveryBody) sampleWorld).1,
    .served (posting "/v1/reset-password" resetBody)
      (serveSample (posting "/v1/reset-password" resetBody) longAsked).1]

theorem serveSample_step (request : Request) (w : World) :
    HttpStep sampleEnv sampleConfig resetWeb Faults.none w
      (.served request (serveSample request w).1) (serveSample request w).2 :=
  httpStep_serve _ _ _ _ _ _

theorem longReset_run :
    Run (HttpStep sampleEnv sampleConfig resetWeb Faults.none) sampleWorld longEvents longReset :=
  .cons (serveSample_step _ _) (.cons (serveSample_step _ _) (.nil _))

theorem journal_longEvents :
    journal sampleEnv sampleConfig resetWeb Faults.none longEvents sampleWorld =
      [(.passwordRecovery "admin@example.com" "https://example.com/", sampleWorld)] ++
        (.resetPassword "t" longPassword, longAsked) :: [] := by
  decide +kernel

theorem longReset_sets : Sets sampleEnv sampleConfig Faults.none sampleAdmin longPassword
    (.resetPassword "t" longPassword, longAsked) :=
  ⟨by decide +kernel, rfl, ⟨"admin@example.com", "sha256:t", 0⟩, by decide +kernel,
    by decide +kernel⟩

/-- The reset password, and any other text with the same first 72 bytes, but not a shorter one. -/
theorem login_accepts_last_password_sample : ∃ row ∈ longReset.db.users, row.id = sampleAdmin ∧
    ¬ TurnedDown (perform sampleEnv sampleConfig Faults.none
      (.generateToken row.email otherPassword) longReset).1 ∧
    TurnedDown (perform sampleEnv sampleConfig Faults.none
      (.generateToken row.email "Str0ng-Pass") longReset).1 := by
  obtain ⟨row, hrow, hid, hlogin⟩ := login_accepts_last_password samplePostgres_rejectsLonger
    sampleCrypto_readsKey sampleCrypto_fits (Db.admissible_seed sampleAdmin) longReset_run
    journal_longEvents longReset_sets (by simp) (by simp) rfl
  have hlong : NulFree longPassword := by decide +kernel
  refine ⟨row, hrow, hid, ?_, ?_⟩
  · exact ((hlogin otherPassword).2 hlong (by decide +kernel)).1.2 (by decide +kernel)
  · exact not_not.1 (mt ((hlogin "Str0ng-Pass").2 hlong (by decide +kernel)).1.1
      (by decide +kernel))

/-- A password that was never set is accepted. -/
theorem other_password_is_accepted : sampleCrypto.ReadsKey ∧
    Run (HttpStep sampleEnv sampleConfig resetWeb Faults.none) sampleWorld longEvents
      longReset ∧
    journal sampleEnv sampleConfig resetWeb Faults.none longEvents sampleWorld =
      [(.passwordRecovery "admin@example.com" "https://example.com/", sampleWorld)] ++
        (.resetPassword "t" longPassword, longAsked) :: [] ∧
    Sets sampleEnv sampleConfig Faults.none sampleAdmin longPassword
      (.resetPassword "t" longPassword, longAsked) ∧
    otherPassword ≠ longPassword ∧
    ∃ row ∈ longReset.db.users, row.id = sampleAdmin ∧
      ∃ tokens, (perform sampleEnv sampleConfig Faults.none
        (.generateToken row.email otherPassword) longReset).1 = some (.ok tokens) := by
  refine ⟨sampleCrypto_readsKey, longReset_run, journal_longEvents, longReset_sets,
    by decide +kernel, ?_⟩
  obtain ⟨row, hrow, hid, hok⟩ : ∃ row ∈ longReset.db.users, row.id = sampleAdmin ∧
      ((perform sampleEnv sampleConfig Faults.none (.generateToken row.email otherPassword)
        longReset).1.bind Except.toOption).isSome := by decide +kernel
  refine ⟨row, hrow, hid, ?_⟩
  obtain ⟨tokens, htokens⟩ := Option.isSome_iff_exists.1 hok
  obtain ⟨outcome, houtcome, htokens⟩ := Option.bind_eq_some_iff.1 htokens
  refine ⟨tokens, houtcome.trans (congrArg some ?_)⟩
  cases outcome with
  | error e => cases htokens
  | ok tokens' => exact congrArg Except.ok (Option.some.inj htokens)

end ApiStarter.Security
