import ApiStarter.Effect.Keyed
import ApiStarter.Module.Iam.Creation
import ApiStarter.Module.Iam.Redaction

/-
  The users as a directory.

  A `Directory` gives each id an account: the profile, if there is one, and the roles. Three kinds
  of changes act on it, each on the account of one user: a registration, an amendment and a
  retirement. `makes_step` is the step of the refinement: a call that returned `Ok` has made its
  change, every other call, however it ended, has made none. `run_makes` takes it to runs, where
  only the changes count that were made, and `run_changes` says what they amount to.
-/

namespace ApiStarter.Iam

open ApiStarter.Auth ApiStarter.Database ApiStarter.Effect ApiStarter.Effect.Fallible
  ApiStarter.Errdef ApiStarter.Provider ApiStarter.Relational

/-! ## The directory -/

/-- What is stored of a user, without the password. -/
structure Profile where
  userName : String
  avatarId : String
  email : String
  firstName : String
  lastName : String
  statusId : Int
  departmentId : Int
  deriving DecidableEq, Repr

structure Account where
  profile : Option Profile
  roles : Int → Prop

abbrev Directory := Uuid → Account

inductive Change where
  | registered (userId : Uuid) (newUser : CreateUser)
  | amended (userId : Uuid) (fields : UpdateUser)
  | retired (userId : Uuid)
  deriving DecidableEq

def Change.user : Change → Uuid
  | registered userId _ => userId
  | amended userId _ => userId
  | retired userId => userId

namespace Profile

/-- A new user is active, whatever status was asked for. -/
def ofNew (newUser : CreateUser) : Profile where
  userName := cut 100 newUser.userName
  avatarId := cut 255 newUser.avatarId
  email := cut 100 newUser.email
  firstName := cut 100 newUser.firstName
  lastName := cut 100 newUser.lastName
  statusId := activeUserStatus
  departmentId := newUser.departmentId

def amend (fields : UpdateUser) (profile : Profile) : Profile where
  userName := profile.userName
  avatarId := (fields.avatarId.map (cut 255)).getD profile.avatarId
  email := (fields.email.map (cut 100)).getD profile.email
  firstName := (fields.firstName.map (cut 100)).getD profile.firstName
  lastName := (fields.lastName.map (cut 100)).getD profile.lastName
  statusId := (fields.status.bind UserStatus.idOf).getD profile.statusId
  departmentId := fields.departmentId.getD profile.departmentId

def retire (profile : Profile) : Profile := { profile with statusId := deletedUserStatus }

theorem amend_amend (fields : UpdateUser) (profile : Profile) :
    amend fields (amend fields profile) = amend fields profile := by
  have hgetD : ∀ {α : Type} (o : Option α) (a : α), o.getD (o.getD a) = o.getD a := by
    intro α o a
    cases o <;> rfl
  simp only [amend, hgetD]

end Profile

/-- A role of the catalogue that is named. -/
def Listed (catalogue : List RoleRow) (names : List String) (roleId : Int) : Prop :=
  ∃ r ∈ catalogue, r.id = roleId ∧ r.name ∈ names

/-- What a change makes of the account it is about. Of a role that is both to add and to remove,
    the removal wins. -/
def Change.act (catalogue : List RoleRow) : Change → Account → Account
  | registered _ newUser, account => {
      profile := some (Profile.ofNew newUser)
      roles := fun roleId => account.roles roleId ∨ Listed catalogue newUser.roles roleId }
  | amended _ fields, account => {
      profile := account.profile.map (Profile.amend fields)
      roles := fun roleId =>
        (account.roles roleId ∨ Listed catalogue (fields.addRoles.getD []) roleId) ∧
          ¬ Listed catalogue (fields.removeRoles.getD []) roleId }
  | retired _, account => { account with profile := account.profile.map Profile.retire }

/-- A registration takes an id that is free; the others need a user. -/
def Change.Fits : Change → Account → Prop
  | registered _ _, account => account.profile = none
  | amended _ _, account => account.profile.isSome
  | retired _, account => account.profile.isSome

/-- A change is made, to the account of its user alone. -/
structure Changes (catalogue : List RoleRow) (d : Directory) (change : Change) (d' : Directory) :
    Prop where
  fits : change.Fits (d change.user)
  applied : d' = Keyed.apply Change.user (Change.act catalogue) d change

/-- All of a run: the changes one after the other. -/
theorem run_changes {catalogue : List RoleRow} {d d' : Directory} {changes : List Change}
    (h : Run (Changes catalogue) d changes d') :
    d' = Keyed.applyAll Change.user (Change.act catalogue) changes d := by
  induction h with
  | nil d => rfl
  | cons hstep _ ih =>
    rw [ih, hstep.applied]
    rfl

/-- An update or a deletion that has been made is not made again. -/
theorem Change.act_act {catalogue : List RoleRow} {change : Change}
    (hnew : ∀ userId newUser, change ≠ .registered userId newUser) (account : Account) :
    change.act catalogue (change.act catalogue account) = change.act catalogue account := by
  cases change with
  | registered userId newUser => exact absurd rfl (hnew userId newUser)
  | amended userId fields =>
    have hroles : ∀ p add remove : Prop,
        ((((p ∨ add) ∧ ¬ remove) ∨ add) ∧ ¬ remove) = ((p ∨ add) ∧ ¬ remove) := by
      intro p add remove
      exact propext (by tauto)
    simp only [Change.act, Option.map_map, hroles]
    exact congrArg (Account.mk · _)
      (congrArg (fun f => account.profile.map f) (funext (Profile.amend_amend fields)))
  | retired userId =>
    simp only [Change.act, Option.map_map]
    rfl

/-! ## The directory in the database -/

def profileOf (row : UserRow) : Profile where
  userName := row.userName
  avatarId := row.avatarId
  email := row.email
  firstName := row.firstName
  lastName := row.lastName
  statusId := row.statusId
  departmentId := row.departmentId

def directoryOf (db : Db) : Directory := fun userId => {
  profile := (db.users.find? fun row => row.id == userId).map profileOf
  roles := fun roleId => ⟨userId, roleId⟩ ∈ db.userHasRoles }

theorem account_ext {account account' : Account} (hprofile : account.profile = account'.profile)
    (hroles : ∀ roleId, account.roles roleId ↔ account'.roles roleId) : account = account' := by
  obtain ⟨profile, roles⟩ := account
  obtain ⟨profile', roles'⟩ := account'
  cases hprofile
  exact congrArg _ (funext fun roleId => propext (hroles roleId))

theorem find?_updateWhere {f : UserRow → UserRow} (hid : ∀ row, (f row).id = row.id)
    (userId id : Uuid) (users : List UserRow) :
    (updateWhere (fun row => row.id == userId) f users).find? (fun row => row.id == id) =
      (users.find? fun row => row.id == id).map fun row => if id = userId then f row else row := by
  unfold updateWhere
  rw [List.find?_map]
  have hkey : (fun row : UserRow => row.id == id) ∘
      (fun row => if (row.id == userId) = true then f row else row) =
        fun row => row.id == id := by
    funext row
    simp only [Function.comp_apply]
    split
    · rw [hid]
    · rfl
  rw [hkey]
  cases hfound : users.find? fun row => row.id == id with
  | none => rfl
  | some row =>
    have hrow : row.id = id := by simpa using List.find?_some hfound
    simp only [Option.map_some, hrow, beq_iff_eq]

/-- The profile under an id after an update of the row of `userId`. -/
theorem profile_updateWhere {f : UserRow → UserRow} {g : Profile → Profile} {db db' : Db}
    {userId : Uuid} (husers : db'.users = updateWhere (fun row => row.id == userId) f db.users)
    (hid : ∀ row, (f row).id = row.id) (hg : ∀ row, profileOf (f row) = g (profileOf row))
    (id : Uuid) :
    (directoryOf db' id).profile = if id = userId then (directoryOf db id).profile.map g
      else (directoryOf db id).profile := by
  simp only [directoryOf, husers, find?_updateWhere hid, Option.map_map]
  split
  · exact congrArg (fun f => Option.map f _) (funext hg)
  · rfl

theorem isSome_profile_of_mem {db : Db} {row : UserRow} (hrow : row ∈ db.users) :
    (directoryOf db row.id).profile.isSome := by
  simp only [directoryOf, Option.isSome_map, List.find?_isSome]
  exact ⟨row, hrow, by simp⟩

theorem profile_none_of_not_mem {db : Db} {userId : Uuid} (h : userId ∉ db.users.map (·.id)) :
    (directoryOf db userId).profile = none := by
  simp only [directoryOf, Option.map_eq_none_iff, List.find?_eq_none, beq_iff_eq]
  exact fun row hrow heq => h (List.mem_map.2 ⟨row, hrow, heq⟩)

/-- A change in the database is one in the directory: the user's profile and roles are as it says,
    and those of the others as they were. -/
theorem changes_of {db db' : Db} {change : Change}
    (hfits : change.Fits (directoryOf db change.user))
    (hself : directoryOf db' change.user =
      change.act db.roles (directoryOf db change.user))
    (hothers : ∀ id, id ≠ change.user → directoryOf db' id = directoryOf db id) :
    Changes db.roles (directoryOf db) change (directoryOf db') where
  fits := hfits
  applied := by
    funext id
    by_cases hid : id = change.user
    · rw [hid, hself, Keyed.apply_self]
    · rw [hothers id hid, Keyed.apply_of_ne _ (Ne.symm hid)]

section

variable {env : Env} {db db' : Db} {userId : Uuid}

theorem changes_registered {newUser : CreateUser} (h : UserCreated env newUser userId db db') :
    Changes db.roles (directoryOf db) (.registered userId newUser) (directoryOf db') := by
  obtain ⟨salt, hash, -, -, husers⟩ := h.users
  have hnone := profile_none_of_not_mem h.fresh
  refine changes_of hnone (account_ext ?_ fun roleId => ?_) fun id hid =>
    account_ext ?_ fun roleId => ?_
  · have hfree : (db.users.find? fun row => row.id == userId) = none :=
      Option.map_eq_none_iff.1 hnone
    have hfind : (db'.users.find? fun row => row.id == userId) =
        some (createdRow userId newUser hash) := by
      rw [husers, List.find?_append, hfree, Option.none_or]
      exact List.find?_cons_of_pos (beq_self_eq_true userId)
    exact congrArg (Option.map profileOf) hfind
  · exact (h.roles userId roleId).trans (or_congr_right (and_iff_right rfl))
  · have hfind : (db'.users.find? fun row => row.id == id) =
        db.users.find? fun row => row.id == id := by
      have hother : (createdRow userId newUser hash).id ≠ id := Ne.symm hid
      rw [husers, List.find?_append, List.find?_singleton, if_neg (by simpa using hother),
        Option.or_none]
    exact congrArg (Option.map profileOf) hfind
  · exact (h.roles id roleId).trans (or_iff_left fun hself => hid hself.1)

theorem changes_amended {fields : UpdateUser} (h : PayloadApplied env userId fields db db') :
    Changes db.roles (directoryOf db) (.amended userId fields) (directoryOf db') := by
  obtain ⟨hash, -, -, husers⟩ := h.users
  obtain ⟨row, hrow, rfl⟩ := h.exists_row
  have hprofile := profile_updateWhere (g := Profile.amend fields) husers (fun _ => rfl)
    fun _ => rfl
  refine changes_of (isSome_profile_of_mem hrow) (account_ext ?_ h.roles_self)
    fun id hid => account_ext ?_ fun roleId => h.roles_other id roleId hid
  · exact (hprofile row.id).trans (if_pos rfl)
  · exact (hprofile id).trans (if_neg hid)

theorem changes_retired (hexists : ∃ row ∈ db.users, row.id = userId)
    (h : db' = { db with
      users := updateWhere (fun row => row.id == userId)
        (fun row => { row with statusId := deletedUserStatus }) db.users }) :
    Changes db.roles (directoryOf db) (.retired userId) (directoryOf db') := by
  obtain ⟨row, hrow, rfl⟩ := hexists
  have husers : db'.users = updateWhere (fun u => u.id == row.id)
      (fun u => { u with statusId := deletedUserStatus }) db.users := congrArg Db.users h
  have hprofile := profile_updateWhere (g := Profile.retire) husers (fun _ => rfl) fun _ => rfl
  have hroles : db'.userHasRoles = db.userHasRoles := by rw [h]
  refine changes_of (isSome_profile_of_mem hrow) (account_ext ?_ fun roleId => ?_)
    fun id hid => account_ext ?_ fun roleId => ?_
  · exact (hprofile row.id).trans (if_pos rfl)
  · exact iff_of_eq (congrArg (⟨row.id, roleId⟩ ∈ ·) hroles)
  · exact (hprofile id).trans (if_neg hid)
  · exact iff_of_eq (congrArg (⟨id, roleId⟩ ∈ ·) hroles)

end

/-! ## Everything but the secrets -/

/-- Everything but the pending resets and the passwords. -/
def withoutSecrets (db : Db) : Db := { redactedDb db with passwordResets := [] }

theorem directoryOf_withoutSecrets (db : Db) :
    directoryOf (withoutSecrets db) = directoryOf db := by
  funext id
  refine account_ext ?_ fun _ => Iff.rfl
  simp only [directoryOf, withoutSecrets, redactedDb, List.find?_map, Option.map_map]
  rfl

theorem withoutSecrets_resetPassword (email hash : String) (db : Db) :
    withoutSecrets (PostgresAuthStore.resetPassword email hash db) = withoutSecrets db := by
  have hrows : (updateWhere (fun u : UserRow => u.email == email)
      (fun u => { u with password := hash }) db.users).map redactedRow =
      db.users.map redactedRow := by
    unfold updateWhere
    rw [List.map_map]
    refine List.map_congr_left fun u _ => ?_
    dsimp only [Function.comp_apply]
    split <;> rfl
  simp only [withoutSecrets, redactedDb, PostgresAuthStore.resetPassword, hrows]

/-- The statements of the user repository that write. -/
def Edits : Op → Prop
  | .insertUser _ => True
  | .updateUser _ _ => True
  | .insertUserRoles _ _ => True
  | .deleteUserRoles _ _ => True
  | _ => False

/-- The calls that send such statements. -/
def EditsUsers : Call → Prop
  | .createUser _ => True
  | .partialUpdate _ _ => True
  | .deleteUser _ => True
  | _ => False

section

variable {env : Env} {config : AuthConfig} {faults : Faults} {w w' : World}

theorem not_edits {c : Call} (hc : ¬ EditsUsers c) {o : Op} (ho : c.MayPerform o) : ¬ Edits o := by
  intro hedits
  obtain h | h | h := ho
  · cases o <;> first | exact hedits | exact h
  · cases o <;> first | exact hedits | exact h
  · cases c <;> first
      | exact hc trivial
      | (cases o <;> first | exact hedits | exact h)

/-- The other calls change nothing but passwords and pending resets. -/
theorem preservedBy_withoutSecrets (d : Db) {c : Call} (hc : ¬ EditsUsers c) :
    PreservedBy env c.MayPerform fun db => withoutSecrets db = d where
  createPasswordReset _ _ _ _ _ h := h
  resetPassword email hash db _ h := (withoutSecrets_resetPassword email hash db).trans h
  deletePasswordReset _ _ _ h := h
  insertUser _ _ _ _ _ ho := absurd trivial (not_edits hc ho)
  updateUser _ _ _ _ ho := absurd trivial (not_edits hc ho)
  insertUserRoles _ _ _ _ ho := absurd trivial (not_edits hc ho)
  deleteUserRoles _ _ _ _ ho := absurd trivial (not_edits hc ho)

/-! ## One call -/

/-- The change a call has made, by what it returned. -/
def changeOf : Event → Option Change
  | .called (.createUser newUser) (some (.ok userId)) => some (.registered userId newUser)
  | .called (.partialUpdate userId fields) (some (.ok _)) => some (.amended userId fields)
  | .called (.deleteUser userId) (some (.ok _)) => some (.retired userId)
  | _ => none

theorem delete_failed {userId : Uuid} {outcome : Option (Except Error Unit)}
    (hfailed : Failed outcome)
    (h : runE (exec env faults) (UserServiceImpl.delete userId) w = (outcome, w')) :
    w'.db = w.db := by
  have hrequired := usesE_requireUser keepsCommitted_of_reads userId
  obtain ⟨first, -, hrun⟩ | ⟨user, w₁, hrun, h⟩ := runE_bind_cases h
  · exact runE_keepsCommitted hrequired hrun
  rw [← show w₁.db = w.db from runE_keepsCommitted hrequired hrun]
  refine inTransaction_failed (UsesE.mapErrOf ?_) hfailed h
  exact (usesE_ask (by trivial)).bind fun _ => usesE_mapErr _ _

/-- A call makes its change, or no change, and leaves the roles there are. -/
def Makes (w : World) (change : Option Change) (w' : World) : Prop :=
  w'.db.roles = w.db.roles ∧ change.elim (directoryOf w'.db = directoryOf w.db) fun change =>
    Changes w.db.roles (directoryOf w.db) change (directoryOf w'.db)

theorem makes_none (h : w'.db = w.db) : Makes w none w' := by
  refine ⟨by rw [h], ?_⟩
  exact congrArg directoryOf h

theorem makes_none_dropTx (h : w'.db = w.db) : Makes w none w'.dropTx :=
  makes_none (show w'.dropTx.db = w.db from h)

theorem makes_perform (hpg : env.pg.RejectsLonger) {c : Call} {outcome : c.Outcome}
    (h : perform env config faults c w = (outcome, w')) (htx : w.tx = none) :
    Makes w (changeOf (.called c outcome)) w' := by
  by_cases hc : EditsUsers c
  · obtain ⟨w₁, hrun, rfl⟩ := perform_eq h
    cases c with
    | createUser newUser =>
      rcases outcome with _ | err | userId
      · exact makes_none_dropTx (create_failed failed_panic hrun)
      · exact makes_none_dropTx (create_failed (failed_error err) hrun)
      · obtain ⟨hcreated, -⟩ := create_ok hpg hrun
        exact ⟨by rw [show w₁.dropTx.db = w₁.db from rfl, hcreated.rest],
          changes_registered hcreated⟩
    | partialUpdate userId fields =>
      rcases outcome with _ | err | _
      · exact makes_none_dropTx (partialUpdate_failed failed_panic hrun)
      · exact makes_none_dropTx (partialUpdate_failed (failed_error err) hrun)
      · have happlied := partialUpdate_ok hpg hrun
        exact ⟨by rw [show w₁.dropTx.db = w₁.db from rfl, happlied.rest],
          changes_amended happlied⟩
    | deleteUser userId =>
      rcases outcome with _ | err | _
      · exact makes_none_dropTx (delete_failed failed_panic hrun)
      · exact makes_none_dropTx (delete_failed (failed_error err) hrun)
      · obtain ⟨hexists, hdb⟩ := delete_ok hpg hrun
        exact ⟨by rw [show w₁.dropTx.db = w₁.db from rfl, hdb], changes_retired hexists hdb⟩
    | _ => exact hc.elim
  · have hkept : InDb (withoutSecrets · = withoutSecrets w.db) w' :=
      perform_inDb (preservedBy_withoutSecrets _ hc) h ⟨rfl, fun db hdb => by simp [htx] at hdb⟩
    have hnone : changeOf (.called c outcome) = none := by
      cases c <;> first | rfl | exact absurd trivial hc
    have hsame : withoutSecrets w'.db = withoutSecrets w.db := hkept.1
    rw [hnone]
    refine ⟨?_, ?_⟩
    · exact show (withoutSecrets w'.db).roles = (withoutSecrets w.db).roles from
        congrArg Db.roles hsame
    · have hdirectory := congrArg directoryOf hsame
      rwa [directoryOf_withoutSecrets, directoryOf_withoutSecrets] at hdirectory

theorem makes_step (hpg : env.pg.RejectsLonger) {e : Event} (h : Step env config faults w e w')
    (htx : w.tx = none) : Makes w (changeOf e) w' := by
  cases h with
  | called h => exact makes_perform hpg h htx
  | elapsed micros => exact makes_none rfl

/-- A run makes the changes of the calls in it that returned `Ok`, in their order. -/
theorem run_makes (hpg : env.pg.RejectsLonger) {events : List Event}
    (h : Run (Step env config faults) w events w') (htx : w.tx = none) :
    Run (Changes w.db.roles) (directoryOf w.db) (events.filterMap changeOf)
      (directoryOf w'.db) := by
  refine h.abstracts (I := fun w₁ => w₁.tx = none ∧ w₁.db.roles = w.db.roles)
    (g := fun w₁ => directoryOf w₁.db) (fun w₁ e w₂ h₁ hstep => ?_) (fun w₁ e w₂ h₁ hstep => ?_)
    ⟨htx, rfl⟩
  · exact ⟨step_tx hstep h₁.1, (makes_step hpg hstep h₁.1).1.trans h₁.2⟩
  · have hmakes := (makes_step hpg hstep h₁.1).2
    rwa [h₁.2] at hmakes

/-! ## Runs -/

/-- Whatever fails, and however the calls end: a run of calls does to the directory what the
    successful ones among them do, one after the other, and leaves the roles there are. -/
theorem run_refines_directory (hpg : env.pg.RejectsLonger) {events : List Event}
    (h : Run (Step env config faults) w events w') (htx : w.tx = none) :
    Run (Changes w.db.roles) (directoryOf w.db) (events.filterMap changeOf) (directoryOf w'.db) ∧
      directoryOf w'.db = Keyed.applyAll Change.user (Change.act w.db.roles)
        (events.filterMap changeOf) (directoryOf w.db) ∧
      w'.db.roles = w.db.roles := by
  refine ⟨run_makes hpg h htx, run_changes (run_makes hpg h htx), ?_⟩
  exact h.inv (I := fun w₁ => w₁.db.roles = w.db.roles ∧ w₁.tx = none)
    (fun w₁ e w₂ h₁ hstep =>
      ⟨(makes_step hpg hstep h₁.2).1.trans h₁.1, step_tx hstep h₁.2⟩) ⟨rfl, htx⟩ |>.1

/-- The successful changes of the account of `userId` in a run. -/
def changesAbout (userId : Uuid) (events : List Event) : List Change :=
  Keyed.about Change.user userId (events.filterMap changeOf)

/-- Only the successful changes of each account count, in their order: runs on different servers,
    with different failures, readings, logins and interleavings of the calls about different users,
    lead to the same directory. -/
theorem same_changes_same_directory {env' : Env} {config' : AuthConfig} {faults' : Faults}
    {v v' : World} (hpg : env.pg.RejectsLonger) (hpg' : env'.pg.RejectsLonger)
    {events events' : List Event} (h : Run (Step env config faults) w events w')
    (h' : Run (Step env' config' faults') v events' v') (htx : w.tx = none) (htx' : v.tx = none)
    (hroles : w.db.roles = v.db.roles) (hstart : directoryOf w.db = directoryOf v.db)
    (hchanges : ∀ userId, changesAbout userId events = changesAbout userId events') :
    directoryOf w'.db = directoryOf v'.db := by
  have hw := run_changes (run_makes hpg h htx)
  have hv := run_changes (run_makes hpg' h' htx')
  rw [hw, hv, hroles, hstart]
  exact Keyed.applyAll_congr hchanges _

/-- A client may repeat an update or a deletion until it is answered `Ok`, and again, whatever
    happens to other users meanwhile: the account ends up as after one success. -/
theorem retries_settle (hpg : env.pg.RejectsLonger) {events : List Event}
    (h : Run (Step env config faults) w events w') (htx : w.tx = none) (change : Change)
    (hnew : ∀ userId newUser, change ≠ .registered userId newUser)
    (honly : ∀ other ∈ events.filterMap changeOf, other.user = change.user → other = change) :
    (change ∈ events.filterMap changeOf → directoryOf w'.db change.user =
      change.act w.db.roles (directoryOf w.db change.user)) ∧
    (change ∉ events.filterMap changeOf →
      directoryOf w'.db change.user = directoryOf w.db change.user) := by
  rw [run_changes (run_makes hpg h htx)]
  exact Keyed.applyAll_apply_of_idempotent (Change.act_act hnew) honly _

end

/-! ## Sample runs -/

def sixthStatementFails : Faults where
  store n := if n = 5 then some (.other "connection reset by peer") else none
  mailer _ := none

/-- The first deletion of Ada cannot begin its transaction, the other two go through. -/
def sampleDeletions : List Event := [
  .called (.deleteUser 2) (some (.error (sqlxUnknown (.other "connection reset by peer")))),
  .called (.deleteUser 2) (some (.ok ())),
  .called (.deleteUser 2) (some (.ok ()))]

/-- After `n` deletions. -/
def afterDeletions : Nat → World
  | 0 => signedUp
  | n + 1 => (perform sampleEnv sampleConfig sixthStatementFails (.deleteUser 2)
      (afterDeletions n)).2

theorem step_deletion (n : Nat) {outcome : Option (Except Error Unit)}
    (h : (perform sampleEnv sampleConfig sixthStatementFails (.deleteUser 2)
      (afterDeletions n)).1 = outcome) :
    Step sampleEnv sampleConfig sixthStatementFails (afterDeletions n)
      (.called (.deleteUser 2) outcome) (afterDeletions (n + 1)) :=
  .called (Prod.ext h rfl)

theorem sampleDeletions_run :
    Run (Step sampleEnv sampleConfig sixthStatementFails) (afterDeletions 0) sampleDeletions
      (afterDeletions 3) :=
  .cons (step_deletion 0 (by decide +kernel)) (.cons (step_deletion 1 (by decide +kernel))
    (.cons (step_deletion 2 (by decide +kernel)) (.nil _)))

theorem run_refines_directory_sample :
    Run (Changes signedUp.db.roles) (directoryOf signedUp.db) [.retired 2, .retired 2]
      (directoryOf (afterDeletions 3).db) ∧
    directoryOf (afterDeletions 3).db =
      Keyed.applyAll Change.user (Change.act signedUp.db.roles) [.retired 2, .retired 2]
        (directoryOf signedUp.db) ∧
    (afterDeletions 3).db.roles = signedUp.db.roles :=
  run_refines_directory samplePostgres_rejectsLonger sampleDeletions_run rfl

theorem retries_settle_sample :
    directoryOf (afterDeletions 3).db 2 =
      Change.act signedUp.db.roles (.retired 2) (directoryOf signedUp.db 2) :=
  (retries_settle samplePostgres_rejectsLonger sampleDeletions_run rfl (.retired 2) nofun
    (by decide)).1 (by decide)

/-! ### The same changes -/

def adaSignsUp : Call := .createUser (sampleUser "ada" "ada@example.com")

def adminIsRenamed : Call := .partialUpdate sampleAdmin paddedPayload

/-- Ada signs up, and the administrator is renamed. -/
def signUpFirst : List Event := [
  .called (.createUser (sampleUser "ada" "ada@example.com")) (some (.ok 2)),
  .called (.partialUpdate sampleAdmin paddedPayload) (some (.ok ()))]

/-- The other way round, after an attempt to rename somebody who is not there. -/
def signUpLast : List Event := [
  .called (.partialUpdate 9 paddedPayload)
    (some (.error (Error.notFound "user does not exists"))),
  .called (.partialUpdate sampleAdmin paddedPayload) (some (.ok ())),
  .called (.createUser (sampleUser "ada" "ada@example.com")) (some (.ok 2))]

theorem signUpFirst_run : Run (Step sampleEnv sampleConfig Faults.none) sampleWorld signUpFirst
    (sampleAfter adminIsRenamed (sampleAfter adaSignsUp sampleWorld)) :=
  .cons (step_sampleAfter (by decide +kernel)) (.cons (step_sampleAfter (by decide +kernel))
    (.nil _))

theorem signUpLast_run : Run (Step sampleEnv sampleConfig Faults.none) sampleWorld signUpLast
    (sampleAfter adaSignsUp (sampleAfter adminIsRenamed
      (sampleAfter (.partialUpdate 9 paddedPayload) sampleWorld))) :=
  .cons (step_sampleAfter (by decide +kernel)) (.cons (step_sampleAfter (by decide +kernel))
    (.cons (step_sampleAfter (by decide +kernel)) (.nil _)))

theorem same_changes_same_directory_sample :
    directoryOf (sampleAfter adminIsRenamed (sampleAfter adaSignsUp sampleWorld)).db =
      directoryOf (sampleAfter adaSignsUp (sampleAfter adminIsRenamed
        (sampleAfter (.partialUpdate 9 paddedPayload) sampleWorld))).db :=
  same_changes_same_directory samplePostgres_rejectsLonger samplePostgres_rejectsLonger
    signUpFirst_run signUpLast_run rfl rfl rfl rfl
    fun userId => Keyed.about_swap (by decide) userId []

end ApiStarter.Iam
