import ApiStarter.Module.Iam.PartialUpdate
import ApiStarter.Package.Auth.Tokens
import ApiStarter.Provider.Integrity
import ApiStarter.Provider.SampleEnv

/-
  A soft-deleted account and the three ways to authenticate.

  The deletion flips `status_id` and no query of the auth store reads it, so what happens to a
  login, a refresh or a bearer token of a deleted account is what would happen to it without
  the deletion. `deleted_rejected_iff` says so for every run: between the deletion and a
  reactivation an attempt is rejected exactly when its password does not verify, its token has
  expired, or its query fails.
-/

namespace ApiStarter.Security

open ApiStarter.Auth ApiStarter.Database ApiStarter.Effect ApiStarter.Effect.Fallible
  ApiStarter.Errdef ApiStarter.Iam ApiStarter.Provider ApiStarter.Relational

/-- The row of the user is there and carries the deleted status. -/
def SoftDeleted (userId : Uuid) (db : Db) : Prop :=
  ∃ row ∈ db.users, row.id = userId ∧ row.statusId = deletedUserStatus

/-- The calls that soft-delete a user. -/
def Deletes (userId : Uuid) : Call → Prop
  | .deleteUser id => id = userId
  | .partialUpdate id fields => id = userId ∧ fields.status = some "Deleted"
  | _ => False

/-- The calls that set the status of a user back. -/
def Activates (userId : Uuid) : Call → Prop
  | .partialUpdate id fields => id = userId ∧ fields.status = some "Active"
  | _ => False

/-- One of them has succeeded. -/
def Reactivates (userId : Uuid) (e : Event) : Prop :=
  ∃ c reply, e = .called c (some (.ok reply)) ∧ Activates userId c

/-! ## The deleted row stays -/

/-- An update in place keeps the deleted row, if it leaves the status of that row alone or
    writes the same one. -/
theorem SoftDeleted.updateWhere {userId : Uuid} {db : Db} {p : UserRow → Bool}
    {f : UserRow → UserRow} (h : SoftDeleted userId db) (hid : ∀ row, (f row).id = row.id)
    (hstatus : ∀ row, row.id = userId → p row = true → row.statusId = deletedUserStatus →
      (f row).statusId = deletedUserStatus) :
    SoftDeleted userId { db with users := updateWhere p f db.users } := by
  obtain ⟨row, hrow, hrowId, hdeleted⟩ := h
  refine ⟨_, mem_updateWhere.2 ⟨row, hrow, rfl⟩, ?_⟩
  split
  next hp => exact ⟨(hid row).trans hrowId, hstatus row hrowId hp hdeleted⟩
  next => exact ⟨hrowId, hdeleted⟩

/-- Of the two statuses, only the active one takes a row out of the deleted status. -/
theorem updatedRow_deleted {fields : UpdateUser} {row : UserRow}
    (hactive : fields.status ≠ some "Active") (hdeleted : row.statusId = deletedUserStatus) :
    (updatedRow fields row).statusId = deletedUserStatus := by
  simp only [updatedRow]
  cases hstatus : fields.status with
  | none => exact hdeleted
  | some status =>
    have hne : status ≠ "Active" := fun h => hactive (by rw [hstatus, h])
    by_cases h : status = "Deleted"
    · simp [UserStatus.idOf, h]
    · simpa [UserStatus.idOf, hne, h] using hdeleted

theorem preservedBy_softDeleted {env : Env} (hpg : env.pg.RejectsLonger) {userId : Uuid}
    {c : Call} (hc : ¬ Activates userId c) :
    PreservedBy env c.MayPerform (SoftDeleted userId) := by
  refine preservedBy_of_users hpg ?frame ?reset ?insert ?update
  case frame =>
    intro db db' h husers
    unfold SoftDeleted
    rw [husers]
    exact h
  case reset =>
    intro email hash db _ h
    exact h.updateWhere (fun _ => rfl) fun _ _ _ hdeleted => hdeleted
  case insert =>
    intro newId user db id db' _ h _
    obtain ⟨row, hrow, hrest⟩ := h
    exact ⟨row, List.mem_append_left _ hrow, hrest⟩
  case update =>
    intro sets id db db' ho h _
    refine h.updateWhere (fun row => SetClause.applyAll_id _ row)
      fun row hrow hp hdeleted => ?_
    have hid : row.id = id := by simpa using hp
    rcases ho with ho | ho | ho
    · exact ho.elim
    · exact ho.elim
    cases c with
    | partialUpdate id' fields =>
      obtain ⟨rfl, password, hsets⟩ := ho
      rw [applyAll_setClauses hsets]
      exact updatedRow_deleted (fun hactive => hc ⟨hid.symm.trans hrow, hactive⟩) hdeleted
    | deleteUser id' =>
      obtain ⟨-, rfl⟩ := ho
      rfl
    | _ => exact ho.elim

/-- The deletion itself. -/
theorem softDeleted_of_deletes {env : Env} {config : AuthConfig} {faults : Faults}
    (hpg : env.pg.RejectsLonger) {userId : Uuid} {c : Call} (hc : Deletes userId c)
    {w w' : World} {reply : c.Reply}
    (h : perform env config faults c w = (some (.ok reply), w')) :
    InDb (SoftDeleted userId) w' := by
  obtain ⟨w₁, hrun, rfl⟩ := perform_eq h
  refine ⟨?_, by simp [World.dropTx]⟩
  cases c with
  | deleteUser id =>
    obtain rfl : id = userId := hc
    obtain ⟨⟨row, hrow, hid⟩, hdb⟩ := delete_ok hpg hrun
    rw [World.dropTx, hdb]
    exact ⟨_, mem_updateWhere.2 ⟨row, hrow, rfl⟩, by simp [hid]⟩
  | partialUpdate id fields =>
    obtain ⟨rfl, hstatus⟩ := hc
    have happlied := partialUpdate_ok hpg hrun
    obtain ⟨row, hrow, hid⟩ := happlied.exists_row
    obtain ⟨hash, -, -, husers⟩ := happlied.users
    refine ⟨_, husers ▸ mem_updateWhere.2 ⟨row, hrow, rfl⟩, ?_⟩
    simp [hid, updatedRow, fitted, hstatus, UserStatus.idOf]
  | _ => exact hc.elim

/-- A reactivation that fails leaves the row deleted. -/
theorem softDeleted_of_failed {env : Env} {config : AuthConfig} {faults : Faults} {userId : Uuid}
    {c : Call} (hc : Activates userId c) {outcome : c.Outcome} (hfailed : Failed outcome)
    {w w' : World} (h : perform env config faults c w = (outcome, w'))
    (hw : InDb (SoftDeleted userId) w) : InDb (SoftDeleted userId) w' := by
  obtain ⟨w₁, hrun, rfl⟩ := perform_eq h
  cases c with
  | partialUpdate id fields =>
    have hdb : w₁.db = w.db := partialUpdate_failed hfailed hrun
    refine ⟨?_, by simp [World.dropTx]⟩
    rw [World.dropTx, hdb]
    exact hw.1
  | _ => exact hc.elim

theorem run_softDeleted {env : Env} {config : AuthConfig} {faults : Faults}
    (hpg : env.pg.RejectsLonger) {userId : Uuid} {w w' : World} {events : List Event}
    (h : Run (Step env config faults) w events w') (hevents : ∀ e ∈ events, ¬ Reactivates userId e)
    (hw : InDb (SoftDeleted userId) w) : InDb (SoftDeleted userId) w' := by
  refine h.inv_of_labels (fun w₁ e w₂ he h₁ hstep => ?_) hevents hw
  cases hstep with
  | @called c outcome _ _ h =>
    by_cases hc : Activates userId c
    · exact softDeleted_of_failed hc (fun reply hok => he ⟨c, reply, by rw [hok], hc⟩) h h₁
    · exact perform_inDb (preservedBy_softDeleted hpg hc) h h₁
  | elapsed n w => exact inDb_of_eq rfl rfl h₁

/-! ## Attempts to authenticate -/

theorem deleted_rejected_iff {env : Env} {config : AuthConfig} {faults : Faults}
    (hpg : env.pg.RejectsLonger) (hjwt : env.jwt.RoundTrips) {db : Db} (hdb : db.Admissible)
    {clock : Timestamp} {userId : Uuid} {c : Call} (hc : Deletes userId c) {reply : c.Reply}
    {before after : List Event} (hafter : ∀ e ∈ after, ¬ Reactivates userId e) {w : World}
    (hrun : Run (Step env config faults) (World.init db clock)
      (before ++ .called c (some (.ok reply)) :: after) w) :
    ∃ row ∈ w.db.users, row.id = userId ∧ row.statusId = deletedUserStatus ∧
      (∀ password,
        Rejected (perform env config faults (.generateToken row.email password) w).1 ↔
          Crypto.compareHashAndPassword env row.password password ≠ .ok () ∨
            faults.store w.statements ≠ none) ∧
      ∀ s ∈ w.signed, AuthService.subjectOf env s.claims = some userId →
        (Rejected (perform env config faults (.refreshToken s.token) w).1 ↔
          s.expiresAt < unixSeconds w.clock ∨ faults.store w.statements ≠ none) ∧
        (Rejected (perform env config faults (.getIdentity s.token) w).1 ↔
          s.expiresAt < unixSeconds w.clock ∨ faults.store w.statements ≠ none) := by
  have hadmissible : w.db.Admissible :=
    (run_admissible hpg hrun ⟨hdb, by simp [World.init]⟩).1
  have hauthentic : ∀ s ∈ w.signed, Signed.Authentic env s :=
    run_authentic hjwt hrun (by simp [World.init])
  obtain ⟨w₁, -, hrest⟩ := hrun.append_inv
  obtain ⟨w₂, hdelete, hrest⟩ := hrest.cons_inv
  have hdeleted₂ : InDb (SoftDeleted userId) w₂ := by
    cases hdelete with
    | called h => exact softDeleted_of_deletes hpg hc h
  obtain ⟨row, hrow, hid, hstatus⟩ := (run_softDeleted hpg hrest hafter hdeleted₂).1
  have hfind : PostgresAuthStore.findUserById w.db userId =
      some (PostgresAuthStore.enrich w.db row) :=
    hid ▸ PostgresAuthStore.findUserById_of_mem hadmissible hrow
  refine ⟨row, hrow, hid, hstatus, fun password => ?_, fun s hs hsubject => ⟨?_, ?_⟩⟩
  · exact generateToken_rejected_iff hjwt
      (PostgresAuthStore.findUserByEmail_of_mem hadmissible hrow)
  · exact refreshToken_rejected_iff hjwt (hauthentic s hs) hsubject hfind
  · exact getIdentity_rejected_iff (hauthentic s hs) hsubject hfind

/-! ## A login after the deletion -/

/-- Ada logs in and is deleted. -/
def lockedOutWorld : World :=
  sampleAfter (.deleteUser 2) (sampleAfter (.generateToken "ada@example.com" "Str0ng-Pass")
    signedUp)

theorem lockedOutWorld_run : ∃ before,
    Run (Step sampleEnv sampleConfig Faults.none) sampleWorld
      (before ++ [.called (.deleteUser 2) (some (.ok ()))]) lockedOutWorld := by
  obtain ⟨before, hrun⟩ := signedUp_run
  have hdeleted : Run (Step sampleEnv sampleConfig Faults.none) signedUp
      [.called (.generateToken "ada@example.com" "Str0ng-Pass") _,
        .called (.deleteUser 2) (some (.ok ()))] lockedOutWorld :=
    .cons (.called rfl) (.cons (.called (Prod.ext (by decide) rfl)) (.nil _))
  exact ⟨before ++ [_], by simpa using hrun.append hdeleted⟩

/-- A reactivation whose new password is turned down. -/
def weakReactivation : UpdateUser :=
  { UpdateUser.default with status := some "Active", password := some "weak" }

/-- The reactivation fails, and three seconds pass: Ada's access token expires, her refresh token
    does not. -/
def laterEvents : List Event :=
  [.called (.partialUpdate 2 weakReactivation) (perform sampleEnv sampleConfig Faults.none
      (.partialUpdate 2 weakReactivation) lockedOutWorld).1, .elapsed 3000000]

def laterLockedOut : World :=
  { sampleAfter (.partialUpdate 2 weakReactivation) lockedOutWorld with
    clock := (sampleAfter (.partialUpdate 2 weakReactivation) lockedOutWorld).clock + 3000000 }

theorem laterLockedOut_run : ∃ before,
    Run (Step sampleEnv sampleConfig Faults.none) (World.init (Db.seed sampleAdmin) 0)
      (before ++ .called (.deleteUser 2) (some (.ok ())) :: laterEvents) laterLockedOut := by
  obtain ⟨before, hrun⟩ := lockedOutWorld_run
  have hlater : Run (Step sampleEnv sampleConfig Faults.none) lockedOutWorld laterEvents
      laterLockedOut := .cons (.called rfl) (.cons (.elapsed 3000000 _) (.nil _))
  have hall := hrun.append hlater
  rw [List.append_assoc] at hall
  exact ⟨before, hall⟩

theorem not_reactivates_later : ∀ e ∈ laterEvents, ¬ Reactivates 2 e := by
  have hrejected : Rejected (perform sampleEnv sampleConfig Faults.none
      (.partialUpdate 2 weakReactivation) lockedOutWorld).1 := by decide
  obtain ⟨err, herr⟩ := hrejected
  rintro e he ⟨c, reply, heq, -⟩
  rcases List.mem_cons.1 he with rfl | he
  · obtain ⟨rfl, hok⟩ := Event.called.inj heq
    cases herr.symm.trans (eq_of_heq hok)
  · rw [List.mem_singleton.1 he] at heq
    cases heq

theorem deleted_rejected_iff_sample : ∃ row ∈ laterLockedOut.db.users, row.id = 2 ∧
    row.statusId = deletedUserStatus ∧
    (∀ password, Rejected (perform sampleEnv sampleConfig Faults.none
        (.generateToken row.email password) laterLockedOut).1 ↔
      Crypto.compareHashAndPassword sampleEnv row.password password ≠ .ok ()) ∧
    (∃ s ∈ laterLockedOut.signed,
      Rejected (perform sampleEnv sampleConfig Faults.none (.refreshToken s.token)
        laterLockedOut).1 ∧
      Rejected (perform sampleEnv sampleConfig Faults.none (.getIdentity s.token)
        laterLockedOut).1) ∧
    ∃ s ∈ laterLockedOut.signed,
      ¬ Rejected (perform sampleEnv sampleConfig Faults.none (.refreshToken s.token)
        laterLockedOut).1 ∧
      ¬ Rejected (perform sampleEnv sampleConfig Faults.none (.getIdentity s.token)
        laterLockedOut).1 := by
  obtain ⟨before, hrun⟩ := laterLockedOut_run
  obtain ⟨row, hrow, hid, hstatus, hlogin, htokens⟩ := deleted_rejected_iff
    samplePostgres_rejectsLonger sampleJwt_roundTrips (Db.admissible_seed sampleAdmin)
    (c := .deleteUser 2) rfl not_reactivates_later hrun
  have hup : ¬ Faults.none.store laterLockedOut.statements ≠ none := not_not.2 rfl
  refine ⟨row, hrow, hid, hstatus, fun password => ?_, ?_, ?_⟩
  · rw [hlogin password, or_iff_left hup]
  · obtain ⟨s, hs, hsubject, hexpired⟩ : ∃ s ∈ laterLockedOut.signed,
        AuthService.subjectOf sampleEnv s.claims = some 2 ∧
          s.expiresAt < unixSeconds laterLockedOut.clock := by decide
    exact ⟨s, hs, (htokens s hs hsubject).1.2 (.inl hexpired),
      (htokens s hs hsubject).2.2 (.inl hexpired)⟩
  · obtain ⟨s, hs, hsubject, hlive⟩ : ∃ s ∈ laterLockedOut.signed,
        AuthService.subjectOf sampleEnv s.claims = some 2 ∧
          ¬ s.expiresAt < unixSeconds laterLockedOut.clock := by decide
    exact ⟨s, hs, fun hrejected => ((htokens s hs hsubject).1.1 hrejected).elim hlive hup,
      fun hrejected => ((htokens s hs hsubject).2.1 hrejected).elim hlive hup⟩

theorem deleted_account_authenticates :
    (∃ before, Run (Step sampleEnv sampleConfig Faults.none) sampleWorld
      (before ++ [.called (.deleteUser 2) (some (.ok ()))]) lockedOutWorld) ∧
    ¬ Rejected (perform sampleEnv sampleConfig Faults.none
      (.generateToken "ada@example.com" "Str0ng-Pass") lockedOutWorld).1 ∧
    ∃ s ∈ lockedOutWorld.signed, AuthService.subjectOf sampleEnv s.claims = some 2 ∧
      ¬ Rejected (perform sampleEnv sampleConfig Faults.none (.refreshToken s.token)
        lockedOutWorld).1 ∧
      ¬ Rejected (perform sampleEnv sampleConfig Faults.none (.getIdentity s.token)
        lockedOutWorld).1 :=
  ⟨lockedOutWorld_run, by decide, by decide⟩

end ApiStarter.Security
