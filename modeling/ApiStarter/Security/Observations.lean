import ApiStarter.Module.Iam.CallAnswers
import ApiStarter.Module.Iam.Directory
import ApiStarter.Module.Iam.Listing
import ApiStarter.Module.Iam.RoleReadings
import ApiStarter.Package.Auth.Tokens
import ApiStarter.Provider.Integrity
import ApiStarter.Server.Serving

/-
  What the API shows of the directory.

  `tables` are the tables no call writes to (`run_tables`). Beside them, what `find_by_id` answers
  and what the engine decides is a matter of one account: `Answers` and `Permits` say so of the
  directory, `findUser_answers` and `can_permits` of a database that satisfies the constraints.
  With `run_makes` both are known after any run of calls.
-/

namespace ApiStarter.Security

open ApiStarter.Auth ApiStarter.Database ApiStarter.Effect ApiStarter.Effect.Fallible
  ApiStarter.Errdef ApiStarter.Iam ApiStarter.Provider ApiStarter.Rbac ApiStarter.Relational
  ApiStarter.Server

/-! ## The tables no call writes to -/

def tables (db : Db) : Db := { db with users := [], userHasRoles := [], passwordResets := [] }

section

variable {env : Env} {config : AuthConfig} {faults : Faults} {w w' : World}

theorem preservedBy_tables (hpg : env.pg.RejectsLonger) (P : Op → Prop) (t : Db) :
    PreservedBy env P fun db => tables db = t where
  createPasswordReset _ _ _ _ _ h := h
  resetPassword _ _ _ _ h := h
  deletePasswordReset _ _ _ h := h
  insertUser _ _ _ _ _ _ h hok := by
    obtain ⟨-, -, rfl⟩ := writeUsers_ok (insertUser_ok hpg hok).2
    exact h
  updateUser _ _ _ _ _ h hok := by
    obtain ⟨-, -, rfl⟩ := writeUsers_ok (updateUser_ok hpg hok)
    exact h
  insertUserRoles _ _ _ _ _ h hok := by
    obtain ⟨added, rfl, -⟩ := insertUserRoles_ok hok
    exact h
  deleteUserRoles _ _ _ _ _ h hok := by
    obtain ⟨kept, rfl, -⟩ := deleteUserRoles_ok hok
    exact h

theorem run_tables (hpg : env.pg.RejectsLonger) {events : List Event}
    (h : Run (Step env config faults) w events w') (htx : w.tx = none) :
    tables w'.db = tables w.db := by
  have hkept : InDb (tables · = tables w.db) w' := by
    refine h.inv (fun w₁ e w₂ h₁ hstep => ?_) ⟨rfl, fun db hdb => by simp [htx] at hdb⟩
    cases hstep with
    | called h => exact perform_inDb (preservedBy_tables hpg _ _) h h₁
    | elapsed micros => exact inDb_of_eq rfl rfl h₁
  exact hkept.1

end

/-! ## Reading a user -/

/-- The status and the department of the profile have names, and the department a company. -/
structure Presentable (tables : Db) (profile : Profile) : Prop where
  status : ∃ s ∈ tables.userStatuses, s.id = profile.statusId ∧ s.status.isSome
  department : ∃ d ∈ tables.departments,
    d.id = profile.departmentId ∧ d.name.isSome ∧ d.companyId.isSome

/-- The user shown for an account: its profile with the names it refers to, and each role it holds
    once. -/
structure Shows (tables : Db) (userId : Uuid) (account : Account) (user : User) : Prop where
  id : user.id = userId
  profile : account.profile = some {
    userName := user.userName
    avatarId := user.avatarId
    email := user.email
    firstName := user.firstName
    lastName := user.lastName
    statusId := user.status.id
    departmentId := user.department.id }
  status : ⟨user.status.id, some user.status.status⟩ ∈ tables.userStatuses
  department : ⟨user.department.id, some user.department.name,
    some user.department.company.id⟩ ∈ tables.departments
  company : ⟨user.department.company.id, user.department.company.name⟩ ∈ tables.companies
  roles : ∀ role, role ∈ user.roles ↔
    account.roles role.roleId ∧ ⟨role.roleId, role.name⟩ ∈ tables.roles
  roles_nodup : (user.roles.map (·.roleId)).Nodup

/-- What a reader of the account is answered. -/
inductive Answers (tables : Db) (userId : Uuid) (account : Account) : Except Error User → Prop
  | shown {profile : Profile} {user : User} (hprofile : account.profile = some profile)
      (h : Presentable tables profile) (hshows : Shows tables userId account user) :
      Answers tables userId account (.ok user)
  | missing (h : account.profile = none) :
      Answers tables userId account (.error (Error.notFound "user does not exists"))
  | hidden {profile : Profile} {err : Error} (hprofile : account.profile = some profile)
      (h : ¬ Presentable tables profile)
      (herr : err = Error.notFound "user does not exists" ∨ ∃ cause, err = sqlxUnknown cause) :
      Answers tables userId account (.error err)

section

variable {env : Env} {config : AuthConfig} {faults : Faults} {w w' : World} {db : Db}

theorem profile_of_mem (hdb : db.Admissible) {u : UserRow} (hu : u ∈ db.users) :
    (directoryOf db u.id).profile = some (profileOf u) := by
  have hfind : (db.users.find? fun row => decide (row.id = u.id)) = some u :=
    (find?_key_eq_some hdb.userIds).2 ⟨hu, rfl⟩
  exact congrArg (Option.map profileOf) hfind

theorem mem_of_profile {userId : Uuid} {profile : Profile}
    (h : (directoryOf db userId).profile = some profile) :
    ∃ u ∈ db.users, u.id = userId ∧ profileOf u = profile := by
  obtain ⟨u, hfind, hprofile⟩ := Option.map_eq_some_iff.1 h
  exact ⟨u, List.mem_of_find?_eq_some hfind, by simpa using List.find?_some hfind, hprofile⟩

theorem readable_iff_presentable (u : UserRow) :
    Readable db u ↔ Presentable (tables db) (profileOf u) :=
  ⟨fun h => ⟨h.status, h.department⟩, fun h => ⟨h.status, h.department⟩⟩

theorem mem_shown_roles (hdb : db.Admissible) (userId : Uuid) (role : Role) :
    role ∈ (selectUserRoles db userId).map (fun r => { roleId := r.id, name := r.name : Role }) ↔
      ⟨userId, role.roleId⟩ ∈ db.userHasRoles ∧ ⟨role.roleId, role.name⟩ ∈ db.roles := by
  rw [selectUserRoles_eq hdb, List.mem_map]
  constructor
  · rintro ⟨r, hr, rfl⟩
    exact (mem_heldRoles.1 hr).symm
  · rintro ⟨hheld, hrole⟩
    exact ⟨⟨role.roleId, role.name⟩, mem_heldRoles.2 ⟨hrole, hheld⟩, rfl⟩

/-- A joined row that decodes is shown as the account it belongs to. -/
theorem shows_of_decodes (hdb : db.Admissible) {row : JoinedUser} (hrow : row ∈ joinedUsers db)
    (hdecodes : Decodes row) :
    Shows (tables db) row.user.id (directoryOf db row.user.id) (readUser db row) := by
  obtain ⟨hu, ⟨hs, hstat⟩, ⟨hd, hdep⟩, hc, hcompany⟩ := mem_joinedUsers.1 hrow
  obtain ⟨hstatus, hname⟩ := hdecodes
  obtain ⟨u, ⟨statusId, status⟩, ⟨departmentId, name, companyId⟩, c⟩ := row
  obtain ⟨status, rfl⟩ := Option.isSome_iff_exists.1 hstatus
  obtain ⟨name, rfl⟩ := Option.isSome_iff_exists.1 hname
  obtain rfl : companyId = some c.id := hcompany
  obtain rfl : u.statusId = statusId := hstat
  obtain rfl : u.departmentId = departmentId := hdep
  exact {
    id := rfl
    profile := profile_of_mem hdb hu
    status := hs
    department := hd
    company := hc
    roles := mem_shown_roles hdb u.id
    roles_nodup := by
      rw [readUser, selectUserRoles_eq hdb, List.map_map]
      exact hdb.roleIds.sublist (List.filter_sublist.map _) }

theorem runE_requireUser_of_decodes (hup : Faults.StoreUp faults) {userId : Uuid}
    {row : JoinedUser} (hfind : selectUserById w.db userId = some row) (hdecodes : Decodes row) :
    runE (exec env faults) (UserServiceImpl.requireUser userId) w =
      (some (.ok (readUser w.db row)), w.counted.counted) := by
  have hfound : runE (exec env faults) (PgUserRepository.findById userId) w =
      (some (.ok (some (readUser w.db row))), w.counted.counted) := by
    unfold PgUserRepository.findById
    rw [runE_ask_bind, exec_selectUserById (hup _), hfind]
    show runE (exec env faults) (PgUserRepository.hydrate (some row)) w.counted = _
    unfold PgUserRepository.hydrate
    rw [runE_bind, runE_mapUserWithRoles_of_decodes hup hdecodes]
    rfl
  exact runE_requireUser hfound

/-- `require_user` answers from the account alone. -/
theorem requireUser_answers (hup : Faults.StoreUp faults) (hdb : w.db.Admissible)
    (userId : Uuid) : ∃ r w₁,
      runE (exec env faults) (UserServiceImpl.requireUser userId) w = (some r, w₁) ∧
        Answers (tables w.db) userId (directoryOf w.db userId) r := by
  cases hfind : selectUserById w.db userId with
  | some row =>
    have hrow : row ∈ joinedUsers w.db := List.mem_of_find?_eq_some hfind
    have hu : row.user ∈ w.db.users := (mem_joinedUsers.1 hrow).1
    obtain rfl : row.user.id = userId := by simpa using List.find?_some hfind
    have hprofile := profile_of_mem hdb hu
    by_cases hdecodes : Decodes row
    · have hreadable := readable_of_decodes hrow hdecodes
      exact ⟨_, _, runE_requireUser_of_decodes hup hfind hdecodes, .shown hprofile
        ((readable_iff_presentable _).1 hreadable) (shows_of_decodes hdb hrow hdecodes)⟩
    · obtain ⟨cause, hrun⟩ :=
        @runE_requireUser_of_not_decodes env _ _ _ hup _ hfind hdecodes
      refine ⟨_, _, hrun, .hidden hprofile (fun hpresentable => ?_) (.inr ⟨cause, rfl⟩)⟩
      obtain ⟨row', hfind', hdecodes'⟩ := (find_joinedUsers_iff hdb hdb.userIds).2
        ⟨row.user, hu, rfl, (readable_iff_presentable _).2 hpresentable⟩
      obtain rfl : row = row' := Option.some.inj (hfind.symm.trans hfind')
      exact hdecodes hdecodes'
  | none =>
    refine ⟨_, _, runE_requireUser_of_none hup hfind, ?_⟩
    cases hprofile : (directoryOf w.db userId).profile with
    | none => exact .missing hprofile
    | some profile =>
      obtain ⟨u, hu, rfl, rfl⟩ := mem_of_profile hprofile
      refine .hidden hprofile (fun hpresentable => ?_) (.inl rfl)
      obtain ⟨row, hrow, -⟩ := (find_joinedUsers_iff hdb hdb.userIds).2
        ⟨u, hu, rfl, (readable_iff_presentable u).2 hpresentable⟩
      exact absurd (hfind.symm.trans hrow) (by simp)

end

/-! ## Every view of a user -/

/-- The identity of a token, for the account it belongs to. -/
structure Identifies (tables : Db) (account : Account) (identity : Identity) : Prop where
  profile : ∃ profile, account.profile = some profile ∧ identity.userName = profile.userName ∧
    identity.email = profile.email
  roles : ∀ name, name ∈ identity.roles ↔
    ∃ roleId, account.roles roleId ∧ ⟨roleId, name⟩ ∈ tables.roles
  roles_nodup : identity.roles.Nodup

/-- What a call that shows users has returned is what the directory says. -/
def Reveals (tables : Db) (d : Directory) : (c : Call) → c.Reply → Prop
  | .findUser userId, user => Shows tables userId (d userId) user
  | .listUsers _, data => ∀ user ∈ data.data, Shows tables user.id (d user.id) user
  | .getIdentity _, identity => Identifies tables (d identity.id) identity
  | _, _ => True

section

variable {env : Env} {config : AuthConfig} {faults : Faults} {w w' : World} {db : Db}

theorem runE_mapUserWithRoles_reads {row : JoinedUser} {user : User}
    (h : runE (exec env faults) (PgUserRepository.mapUserWithRoles row) w =
      (some (.ok user), w')) : (Decodes row ∧ user = readUser w.db row) ∧ w'.db = w.db := by
  have hdecodes := (runE_mapUserWithRoles_ok h).1
  obtain ⟨mapped, w₁, hmapped, h⟩ := runE_bind_ok h
  obtain ⟨hmapped, hw₁⟩ := runE_mapErr_ok hmapped
  obtain ⟨roles, w₂, hroles, h⟩ := runE_bind_ok h
  cases h
  cases hw₁
  have hroles := runE_ask_ok hroles
  obtain ⟨rows, w₃, hrows, hroles⟩ := runE_bind_ok hroles
  cases hroles
  obtain ⟨hselected, rfl⟩ := runE_mapErr_ok hrows
  have hanswer : Except.ok (selectUserRoles w.db mapped.id) = Except.ok rows :=
    query_ok hselected
  refine ⟨⟨hdecodes, ?_⟩, query_db _⟩
  obtain ⟨status, hstatus⟩ := Option.isSome_iff_exists.1 hdecodes.1
  obtain ⟨name, hname⟩ := Option.isSome_iff_exists.1 hdecodes.2
  unfold PgUserRepository.mapUser at hmapped
  rw [hstatus, hname] at hmapped
  cases hmapped
  rw [← Except.ok.inj hanswer, readUser, hstatus, hname]
  rfl

/-- A page shows rows of the join. -/
theorem index_reads (hscan : Permutes env.pg.scan) {request : Pagination.ListRequest}
    {data : Pagination.Data User}
    (h : runE (exec env faults) (UserServiceImpl.index request) w = (some (.ok data), w')) :
    ∀ user ∈ data.data, ∃ row ∈ joinedUsers w.db, Decodes row ∧ user = readUser w.db row := by
  unfold UserServiceImpl.index PgUserRepository.index at h
  obtain ⟨⟨users, count⟩, w₁, hrepository, h⟩ := runE_bind_ok h
  cases h
  have hrepository := runE_ask_ok (runE_mapErrOf_ok hrepository)
  obtain ⟨count', w₂, hcount, hrepository⟩ := runE_bind_ok hrepository
  obtain ⟨-, rfl⟩ := runE_mapErr_ok hcount
  have hrepository := runE_ask_ok hrepository
  obtain ⟨rows, w₃, hselect, hrepository⟩ := runE_bind_ok hrepository
  obtain ⟨hselected, rfl⟩ := runE_mapErr_ok hselect
  obtain ⟨users', w₄, husers, hrepository⟩ := runE_bind_ok hrepository
  cases hrepository
  have hcounted : (exec env faults (.countUsers (PgUserRepository.pushFilters request)) w).2.db =
      w.db := query_db _
  have hrows := query_ok hselected
  rw [hcounted] at hrows
  intro user huser
  obtain ⟨row, hrow, hread⟩ := runE_listMapM_ok_of_inv (I := fun w₁ => w₁.db = w.db)
    (P := fun row user => Decodes row ∧ user = readUser w.db row)
    (fun hw₁ h => by
      obtain ⟨hread, hdb⟩ := runE_mapUserWithRoles_reads h
      rw [hw₁] at hread hdb
      exact ⟨hread, hdb⟩)
    ((query_db _).trans hcounted) husers user huser
  exact ⟨row, List.mem_of_mem_filter (selectUsers_subset hscan hrows row hrow), hread⟩

theorem findById_reads {userId : Uuid} {user : User}
    (h : runE (exec env faults) (UserServiceImpl.requireUser userId) w = (some (.ok user), w')) :
    ∃ row ∈ joinedUsers w.db, row.user.id = userId ∧ Decodes row ∧ user = readUser w.db row := by
  unfold UserServiceImpl.requireUser at h
  obtain ⟨found, w₁, hfound, h⟩ := runE_bind_ok h
  obtain ⟨rfl, -⟩ := runE_okOr_ok h
  have hfound := runE_ask_ok (runE_mapErrOf_ok hfound)
  obtain ⟨selected, w₂, hselect, hfound⟩ := runE_bind_ok hfound
  obtain ⟨hselected, rfl⟩ := runE_mapErr_ok hselect
  have hanswer : Except.ok (selectUserById w.db userId) = Except.ok selected := query_ok hselected
  cases selected with
  | none => cases hfound
  | some row =>
    obtain ⟨read, w₃, hread, hfound⟩ := runE_bind_ok hfound
    cases hfound
    have hfind : selectUserById w.db userId = some row := Except.ok.inj hanswer
    obtain ⟨⟨hdecodes, rfl⟩, -⟩ := runE_mapUserWithRoles_reads hread
    have hdb : (exec env faults (.selectUserById userId) w).2.db = w.db := query_db _
    rw [hdb]
    exact ⟨row, List.mem_of_find?_eq_some hfind, by simpa using List.find?_some hfind, hdecodes,
      rfl⟩

theorem identifies_enrich (hdb : db.Admissible) {u : UserRow} (hu : u ∈ db.users) :
    Identifies (tables db) (directoryOf db u.id) (PostgresAuthStore.enrich db u) where
  profile := ⟨_, profile_of_mem hdb hu, rfl, rfl⟩
  roles name := by
    rw [PostgresAuthStore.enrich, getUserRoles_eq_map, selectUserRoles_eq hdb, List.mem_map]
    constructor
    · rintro ⟨r, hr, rfl⟩
      obtain ⟨hrole, hheld⟩ := mem_heldRoles.1 hr
      exact ⟨r.id, hheld, hrole⟩
    · rintro ⟨roleId, hheld, hrole⟩
      exact ⟨⟨roleId, name⟩, mem_heldRoles.2 ⟨hrole, hheld⟩, rfl⟩
  roles_nodup := by
    rw [PostgresAuthStore.enrich, getUserRoles_eq_map, selectUserRoles_eq hdb]
    exact nodup_heldRoles hdb u.id

theorem getIdentity_reads {token : String} {identity : Identity}
    (h : runE (exec env faults) (AuthService.getIdentity env token) w =
      (some (.ok identity), w')) :
    ∃ u ∈ w.db.users, identity = PostgresAuthStore.enrich w.db u := by
  unfold AuthService.getIdentity at h
  obtain ⟨userId, w₁, hsubject, h⟩ := runE_bind_ok h
  have hdb : w₁.db = w.db :=
    runE_keepsCommitted (usesE_userIdFrom keepsCommitted_of_reads env token) hsubject
  rw [runE_requireUserById, hdb] at h
  cases hstore : faults.store w₁.statements with
  | some err => rw [hstore] at h; cases h
  | none =>
    cases hfind : PostgresAuthStore.findUserById w.db userId with
    | none => rw [hstore, hfind] at h; cases h
    | some found =>
      rw [hstore, hfind] at h
      cases h
      obtain ⟨u, hu, rfl⟩ := Option.map_eq_some_iff.1 hfind
      exact ⟨u, List.mem_of_find?_eq_some hu, rfl⟩

/-- Whatever fails: what a call has returned about a user is what the directory says of it. -/
theorem reveals_perform (hscan : Permutes env.pg.scan) (hdb : w.db.Admissible) {c : Call}
    {reply : c.Reply} (h : perform env config faults c w = (some (.ok reply), w')) :
    Reveals (tables w.db) (directoryOf w.db) c reply := by
  obtain ⟨w₁, hrun, -⟩ := perform_eq h
  cases c with
  | findUser userId =>
    obtain ⟨row, hrow, rfl, hdecodes, rfl⟩ := findById_reads hrun
    exact shows_of_decodes hdb hrow hdecodes
  | listUsers request =>
    intro user huser
    obtain ⟨row, hrow, hdecodes, rfl⟩ := index_reads hscan hrun user huser
    exact shows_of_decodes hdb hrow hdecodes
  | getIdentity token =>
    obtain ⟨u, hu, rfl⟩ := getIdentity_reads hrun
    exact identifies_enrich hdb hu
  | _ => trivial

end

/-! ## Being permitted -/

/-- The account holds the super role, or a role that is granted the two parts of the action. -/
def Permits (tables : Db) (account : Account) (action : String) : Prop :=
  ∃ roleId, account.roles roleId ∧ (⟨roleId, superRole⟩ ∈ tables.roles ∨
    ∃ resource permission, splitAction action = some (resource, permission) ∧
      ∃ p ∈ tables.permissions, p.resource = some resource ∧ p.name = some permission ∧
        ⟨roleId, p.id⟩ ∈ tables.roleHasPermissions)

theorem allows_eq_true {db : Db} {userId : Uuid} {action : String} :
    allows db userId action = true ↔ superRole ∈ PostgresRbacStore.getRoles db userId ∨
      ∃ resource permission, splitAction action = some (resource, permission) ∧
        PostgresRbacStore.hasPermission db userId resource permission = true := by
  rw [allows, Bool.or_eq_true, List.contains_iff_mem]
  refine or_congr_right ?_
  cases splitAction action with
  | none => simp
  | some parts =>
    obtain ⟨resource, permission⟩ := parts
    simp

theorem allows_iff_permits (db : Db) (userId : Uuid) (action : String) :
    allows db userId action = true ↔ Permits (tables db) (directoryOf db userId) action := by
  rw [allows_eq_true, PostgresRbacStore.mem_getRoles]
  simp only [PostgresRbacStore.hasPermission_eq_true, PostgresRbacStore.mem_grantedPermissions]
  constructor
  · rintro (⟨⟨roleId, name⟩, hr, rfl, hheld⟩ | ⟨resource, permission, hsplit, p, hgranted, hnames⟩)
    · exact ⟨roleId, hheld, .inl hr⟩
    · obtain ⟨hp, roleId, hgrants, hheld⟩ := hgranted
      exact ⟨roleId, hheld, .inr ⟨resource, permission, hsplit, p, hp, hnames.1, hnames.2, hgrants⟩⟩
  · rintro ⟨roleId, hheld, hr | ⟨resource, permission, hsplit, p, hp, hresource, hname, hgrants⟩⟩
    · exact .inl ⟨⟨roleId, superRole⟩, hr, rfl, hheld⟩
    · exact .inr ⟨resource, permission, hsplit, p, ⟨hp, roleId, hgrants, hheld⟩, hresource, hname⟩

section

variable {env : Env} {config : AuthConfig} {faults faults' : Faults} {w w' : World}

/-- The bypass is for holders of the super role, if the query fails for nobody. -/
theorem run_bypass (env : Env) (faults : Faults) (userId : Uuid) (w : World) : ∃ bypass,
    (RbacEngine.roleBypass superRole userId).run (exec env faults) w = (some bypass, w.counted) ∧
      (bypass = true → superRole ∈ PostgresRbacStore.getRoles w.db userId) := by
  change ∃ bypass, Prog.run _ (Prog.call _ _) w = _ ∧ _
  rw [Prog.run_call, show (exec env faults (.getRoles userId) w).2 = w.counted from query_snd _]
  cases hroles : (exec env faults (.getRoles userId) w).1 with
  | error err => exact ⟨false, rfl, fun h => absurd h Bool.false_ne_true⟩
  | ok roles =>
    have hanswer : Except.ok (PostgresRbacStore.getRoles w.db userId) = Except.ok roles :=
      query_ok hroles
    rw [Except.ok.inj hanswer]
    exact ⟨roles.contains superRole, rfl, List.contains_iff_mem.1⟩

/-- The engine fails closed: what it lets through the contents of the store allow. -/
theorem allows_of_can {userId : Uuid} {action : String}
    (h : (can env faults userId action w).1 = some true) : allows w.db userId action = true := by
  obtain ⟨bypass, hrun, hsuper⟩ := run_bypass env faults userId w
  rw [allows_eq_true]
  unfold can RbacEngine.can at h
  rw [Prog.bind_eq, Prog.run_bind, hrun] at h
  cases bypass with
  | true => exact .inl (hsuper rfl)
  | false =>
    cases hsplit : splitAction action with
    | none =>
      rw [hsplit] at h
      cases h
    | some parts =>
      obtain ⟨resource, permission⟩ := parts
      refine .inr ⟨resource, permission, rfl, ?_⟩
      rw [hsplit] at h
      change (Prog.run _ (Prog.call _ _) _).1 = _ at h
      rw [Prog.run_call] at h
      cases hasked : (exec env faults (.hasPermission userId resource permission) w.counted).1 with
      | error err =>
        rw [hasked] at h
        cases h
      | ok allowed =>
        rw [hasked] at h
        have hanswer : Except.ok (PostgresRbacStore.hasPermission w.db userId resource permission) =
            Except.ok allowed := query_ok hasked
        rw [Except.ok.inj hanswer]
        exact Option.some.inj h

end

/-! ## After any run -/

/-- The directory `w` has, changed by the successful calls of the run. -/
def directoryAfter (w : World) (events : List Event) : Directory :=
  Keyed.applyAll Change.user (Change.act w.db.roles) (events.filterMap changeOf) (directoryOf w.db)

section

variable {env : Env} {config : AuthConfig} {faults faults' : Faults} {w w' : World}
  {events : List Event}

theorem directoryOf_run (hpg : env.pg.RejectsLonger)
    (h : Run (Step env config faults) w events w') (htx : w.tx = none) :
    directoryOf w'.db = directoryAfter w events := run_changes (run_makes hpg h htx)

theorem admissible_run (hpg : env.pg.RejectsLonger)
    (h : Run (Step env config faults) w events w') (htx : w.tx = none)
    (hdb : w.db.Admissible) : w'.db.Admissible :=
  (run_admissible hpg h ⟨hdb, fun db hopen => by simp [htx] at hopen⟩).1

/-- Every reading of a user is answered as the directory of the successful calls so far says, and
    from nothing else: the failed calls have left no trace, and none of the successful ones is
    missing. -/
theorem readings_show_directory (hpg : env.pg.RejectsLonger)
    (h : Run (Step env config faults) w events w') (htx : w.tx = none) (hdb : w.db.Admissible)
    (hup : Faults.StoreUp faults') (userId : Uuid) :
    ∃ r w₁, perform env config faults' (.findUser userId) w' = (some r, w₁) ∧
      Answers (tables w.db) userId (directoryAfter w events userId) r := by
  obtain ⟨r, w₁, hrun, hanswers⟩ :=
    @requireUser_answers env _ _ hup (admissible_run hpg h htx hdb) userId
  rw [run_tables hpg h htx, directoryOf_run hpg h htx] at hanswers
  refine ⟨r, w₁.dropTx, ?_, hanswers⟩
  exact congrArg (fun p => (p.1, p.2.dropTx)) hrun

/-- Whatever fails, in the run and at the end of it: what a call then returns about a user, alone,
    in a page or for a token, is what the directory of the successful calls so far says. -/
theorem views_show_directory (hpg : env.pg.RejectsLonger) (hscan : Permutes env.pg.scan)
    (h : Run (Step env config faults) w events w') (htx : w.tx = none) (hdb : w.db.Admissible)
    {c : Call} {reply : c.Reply} {v : World}
    (hreply : perform env config faults' c w' = (some (.ok reply), v)) :
    Reveals (tables w.db) (directoryAfter w events) c reply := by
  rw [← run_tables hpg h htx, ← directoryOf_run hpg h htx]
  exact reveals_perform hscan (admissible_run hpg h htx hdb) hreply

/-- After any run the engine permits an action exactly if the directory of the successful calls
    so far does; a failing store may only deny. -/
theorem permissions_follow_directory (hpg : env.pg.RejectsLonger)
    (h : Run (Step env config faults) w events w') (htx : w.tx = none) (userId : Uuid)
    (action : String) :
    ((can env faults' userId action w').1 = some true →
      Permits (tables w.db) (directoryAfter w events userId) action) ∧
    (Faults.StoreUp faults' → Permits (tables w.db) (directoryAfter w events userId) action →
      (can env faults' userId action w').1 = some true) := by
  have hpermits : allows w'.db userId action = true ↔
      Permits (tables w.db) (directoryAfter w events userId) action := by
    rw [allows_iff_permits, run_tables hpg h htx, directoryOf_run hpg h htx]
  refine ⟨fun hcan => hpermits.1 (allows_of_can hcan), fun hup hpermitted => ?_⟩
  rw [can_of_store_none (hup _) (hup _), hpermits.2 hpermitted]

theorem readings_show_directory_sample : ∃ r w₁,
    perform sampleEnv sampleConfig Faults.none (.findUser 2)
      (sampleAfter adminIsRenamed (sampleAfter adaSignsUp sampleWorld)) = (some r, w₁) ∧
    Answers (tables sampleWorld.db) 2 (directoryAfter sampleWorld signUpFirst 2) r :=
  readings_show_directory samplePostgres_rejectsLonger signUpFirst_run rfl
    (Db.admissible_seed sampleAdmin) (fun _ => rfl) 2

def shownAda : User where
  id := 2
  userName := "ada"
  avatarId := ""
  email := "ada@example.com"
  password := (sampleCrypto.bcryptHash (sampleEnv.salt 0) "Str0ng-Pass").toOption.getD ""
  firstName := "Ada"
  lastName := "Byron"
  status := ⟨1, "Active"⟩
  department := ⟨1, "Administration", ⟨1, "Example Company Ltd"⟩⟩
  roles := []

theorem perform_sampleAfter {c : Call} {w : World} {outcome : c.Outcome}
    (h : (perform sampleEnv sampleConfig Faults.none c w).1 = outcome) :
    perform sampleEnv sampleConfig Faults.none c w = (outcome, sampleAfter c w) :=
  Prod.ext h rfl

theorem views_show_directory_sample :
    Reveals (tables sampleWorld.db) (directoryAfter sampleWorld signUpFirst) (.findUser 2)
      shownAda :=
  views_show_directory samplePostgres_rejectsLonger (fun _ _ => List.Perm.refl _)
    signUpFirst_run rfl (Db.admissible_seed sampleAdmin)
    (perform_sampleAfter (c := .findUser 2) (by decide +kernel))

theorem sampleAdmin_super :
    Permits (tables sampleWorld.db) (directoryAfter sampleWorld signUpFirst sampleAdmin)
      "Users.Create" := by
  refine ⟨1, ?_, .inl (by decide +kernel)⟩
  rw [← directoryOf_run samplePostgres_rejectsLonger signUpFirst_run rfl]
  show (⟨sampleAdmin, 1⟩ : UserHasRoleRow) ∈ _
  decide +kernel

theorem permissions_follow_directory_sample :
    (can sampleEnv Faults.none sampleAdmin "Users.Create"
      (sampleAfter adminIsRenamed (sampleAfter adaSignsUp sampleWorld))).1 = some true :=
  (permissions_follow_directory samplePostgres_rejectsLonger signUpFirst_run rfl sampleAdmin
    "Users.Create").2 (fun _ => rfl) sampleAdmin_super

/-! ### Names -/

/-- A profile that is there stays there, under its user name. -/
theorem profile_kept {catalogue : List RoleRow} {d d' : Directory} {changes : List Change}
    (h : Run (Changes catalogue) d changes d') {userId : Uuid} {profile : Profile}
    (hprofile : (d userId).profile = some profile) : ∃ profile',
      (d' userId).profile = some profile' ∧ profile'.userName = profile.userName := by
  refine h.inv (I := fun d : Directory => ∃ profile', (d userId).profile = some profile' ∧
    profile'.userName = profile.userName) (fun d change d' hd hstep => ?_) ⟨profile, hprofile, rfl⟩
  obtain ⟨profile', hthere, hname⟩ := hd
  rw [hstep.applied]
  by_cases hid : change.user = userId
  · subst hid
    rw [Keyed.apply_self]
    have hfits := hstep.fits
    cases change with
    | registered userId newUser => exact absurd (hthere.symm.trans hfits) (by simp)
    | amended userId fields =>
      exact ⟨profile'.amend fields, congrArg (Option.map _) hthere, hname⟩
    | retired userId => exact ⟨profile'.retire, congrArg (Option.map _) hthere, hname⟩
  · rw [Keyed.apply_of_ne _ hid]
    exact ⟨profile', hthere, hname⟩

/-- A user name is given away once: whoever had it, deleted since or not, has it still, and no one
    else will. -/
theorem names_given_once (hpg : env.pg.RejectsLonger)
    (h : Run (Step env config faults) w events w') (htx : w.tx = none) (hdb : w.db.Admissible)
    {userId : Uuid} {profile : Profile} (hprofile : (directoryOf w.db userId).profile = some profile)
    (id : Uuid) :
    (∃ profile', (directoryOf w'.db id).profile = some profile' ∧
      profile'.userName = profile.userName) ↔ id = userId := by
  obtain ⟨kept, hkept, hname⟩ := profile_kept (run_makes hpg h htx) hprofile
  constructor
  · rintro ⟨profile', hprofile', hname'⟩
    obtain ⟨u, hu, rfl, rfl⟩ := mem_of_profile hprofile'
    obtain ⟨v, hv, rfl, rfl⟩ := mem_of_profile hkept
    have huv : u = v := eq_of_key_eq (admissible_run hpg h htx hdb).userNames hu hv
      (hname'.trans hname.symm)
    rw [huv]
  · rintro rfl
    exact ⟨kept, hkept, hname⟩

theorem profile_sampleAdmin : ∃ profile,
    (directoryOf sampleWorld.db sampleAdmin).profile = some profile ∧ profile.userName = "admin" :=
  ⟨_, rfl, rfl⟩

/-- Ada has not got the name of the administrator. -/
theorem names_given_once_sample : ¬ ∃ profile,
    (directoryOf (sampleAfter adminIsRenamed (sampleAfter adaSignsUp sampleWorld)).db 2).profile =
        some profile ∧ profile.userName = "admin" := by
  obtain ⟨profile, hprofile, hname⟩ := profile_sampleAdmin
  rw [← hname]
  exact fun h => absurd ((names_given_once samplePostgres_rejectsLonger signUpFirst_run rfl
    (Db.admissible_seed sampleAdmin) hprofile 2).1 h) (by decide)

end

end ApiStarter.Security
