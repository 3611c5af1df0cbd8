import ApiStarter.Package.Auth.Recovery
import ApiStarter.Provider.SampleEnv

/-
  Which users the two stores see.

  `PostgresAuthStore` selects from `iam.users` alone. `PgUserRepository` selects through three
  inner joins and decodes the joined texts, so a user whose department has no company is not
  there for it, and a user whose status or department has no name cannot be read. `Readable`
  says which users pass; `stores_see_same_users` says that these are the users on which the
  stores agree.
-/

namespace ApiStarter.Iam

open ApiStarter.Auth ApiStarter.Database ApiStarter.Effect ApiStarter.Effect.Fallible
  ApiStarter.Pagination ApiStarter.Provider ApiStarter.Relational

/-! ## The joined rows -/

theorem mem_joinedUsers {db : Db} {row : JoinedUser} :
    row ∈ joinedUsers db ↔ row.user ∈ db.users ∧
      (row.status ∈ db.userStatuses ∧ row.user.statusId = row.status.id) ∧
      (row.department ∈ db.departments ∧ row.user.departmentId = row.department.id) ∧
      row.company ∈ db.companies ∧ row.department.companyId = some row.company.id := by
  obtain ⟨u, s, d, c⟩ := row
  simp only [joinedUsers, List.mem_map]
  constructor
  · rintro ⟨⟨⟨⟨u, s⟩, d⟩, c⟩, hmem, heq⟩
    cases heq
    obtain ⟨hdepartment, hc, hcompany⟩ := mem_innerJoin.1 hmem
    obtain ⟨hstatus, hd, hdep⟩ := mem_innerJoin.1 hdepartment
    obtain ⟨hu, hs, hstat⟩ := mem_innerJoin.1 hstatus
    exact ⟨hu, ⟨hs, beq_iff_eq.1 hstat⟩, ⟨hd, beq_iff_eq.1 hdep⟩, hc, beq_iff_eq.1 hcompany⟩
  · rintro ⟨hu, ⟨hs, hstat⟩, ⟨hd, hdep⟩, hc, hcompany⟩
    refine ⟨(((u, s), d), c), mem_innerJoin.2 ⟨mem_innerJoin.2 ⟨mem_innerJoin.2 ?_, hd, ?_⟩, hc, ?_⟩,
      rfl⟩
    · exact ⟨hu, hs, beq_iff_eq.2 hstat⟩
    · exact beq_iff_eq.2 hdep
    · exact beq_iff_eq.2 hcompany

/-- A user is joined once, or not at all. -/
theorem joinedUsers_users_sublist {db : Db} (hdb : db.Admissible) :
    ((joinedUsers db).map (·.user)).Sublist db.users := by
  have hcompanies : (db.companies.map fun c => some c.id).Nodup := by
    have h := hdb.companyIds.map (Option.some_injective Int)
    rwa [List.map_map] at h
  simp only [joinedUsers, List.map_map]
  have hstatus := map_fst_innerJoin_sublist db.users db.userStatuses
    (fun u us => u.statusId == us.id) fun u => length_filter_key_le_one hdb.statusIds u.statusId
  have hdepartment := map_fst_innerJoin_sublist
    (innerJoin db.users db.userStatuses fun u us => u.statusId == us.id) db.departments
    (fun us d => us.1.departmentId == d.id)
    fun us => length_filter_key_le_one hdb.departmentIds us.1.departmentId
  have hcompany := map_fst_innerJoin_sublist
    (innerJoin (innerJoin db.users db.userStatuses fun u us => u.statusId == us.id)
      db.departments fun us d => us.1.departmentId == d.id) db.companies
    (fun usd c => usd.2.companyId == some c.id)
    fun usd => length_filter_key_le_one hcompanies usd.2.companyId
  have h := ((hcompany.map Prod.fst).trans hdepartment).map Prod.fst
  rw [List.map_map, List.map_map] at h
  exact h.trans hstatus

/-- The user has a named status, and a named department with a company. -/
structure Readable (db : Db) (u : UserRow) : Prop where
  status : ∃ s ∈ db.userStatuses, s.id = u.statusId ∧ s.status.isSome
  department : ∃ d ∈ db.departments, d.id = u.departmentId ∧ d.name.isSome ∧ d.companyId.isSome

instance (db : Db) (u : UserRow) : Decidable (Readable db u) :=
  decidable_of_iff ((∃ s ∈ db.userStatuses, s.id = u.statusId ∧ s.status.isSome) ∧
    ∃ d ∈ db.departments, d.id = u.departmentId ∧ d.name.isSome ∧ d.companyId.isSome)
    ⟨fun h => ⟨h.1, h.2⟩, fun h => ⟨h.1, h.2⟩⟩

/-- The columns of the row decode. -/
def Decodes (row : JoinedUser) : Prop := row.status.status.isSome ∧ row.department.name.isSome

theorem readable_of_decodes {db : Db} {row : JoinedUser} (hrow : row ∈ joinedUsers db)
    (h : Decodes row) : Readable db row.user := by
  obtain ⟨-, ⟨hs, hstat⟩, ⟨hd, hdep⟩, -, hcompany⟩ := mem_joinedUsers.1 hrow
  exact ⟨⟨row.status, hs, hstat.symm, h.1⟩,
    row.department, hd, hdep.symm, h.2, by rw [hcompany]; rfl⟩

/-- On a column without duplicates, the only row a query by that column can return is a row of
    the user, which decodes exactly if the user is readable. -/
theorem find_joinedUsers_iff {κ : Type} [DecidableEq κ] {db : Db} (hdb : db.Admissible)
    {key : UserRow → κ} (hkey : (db.users.map key).Nodup) {k : κ} :
    (∃ row, (joinedUsers db).find? (fun row => key row.user == k) = some row ∧ Decodes row) ↔
      ∃ u ∈ db.users, key u = k ∧ Readable db u := by
  constructor
  · rintro ⟨row, hfind, hdecodes⟩
    have hrow := List.mem_of_find?_eq_some hfind
    exact ⟨row.user, (mem_joinedUsers.1 hrow).1, by simpa using List.find?_some hfind,
      readable_of_decodes hrow hdecodes⟩
  · rintro ⟨u, hu, rfl, ⟨s, hs, hstat, hstatus⟩, d, hd, hdep, hdepartment, hcompany⟩
    obtain ⟨companyId, hcompany⟩ := Option.isSome_iff_exists.1 hcompany
    obtain ⟨c, hc, rfl⟩ := List.mem_map.1 (hdb.departmentCompany d hd companyId hcompany)
    have hmem : (⟨u, s, d, c⟩ : JoinedUser) ∈ joinedUsers db :=
      mem_joinedUsers.2 ⟨hu, ⟨hs, hstat.symm⟩, ⟨hd, hdep.symm⟩, hc, hcompany⟩
    cases hfind : (joinedUsers db).find? (fun row => key row.user == key u) with
    | none =>
      have hnone := List.find?_eq_none.1 hfind _ hmem
      simp at hnone
    | some row =>
      obtain ⟨hu', ⟨hs', hstat'⟩, ⟨hd', hdep'⟩, -⟩ :=
        mem_joinedUsers.1 (List.mem_of_find?_eq_some hfind)
      have hrowKey : key row.user = key u := by simpa using List.find?_some hfind
      have hrow : row.user = u := eq_of_key_eq hkey hu' hu hrowKey
      have hrowStatus : row.status = s :=
        eq_of_key_eq hdb.statusIds hs' hs (by rw [← hstat', hrow, hstat])
      have hrowDepartment : row.department = d :=
        eq_of_key_eq hdb.departmentIds hd' hd (by rw [← hdep', hrow, hdep])
      refine ⟨row, rfl, ?_, ?_⟩
      · rw [hrowStatus]
        exact hstatus
      · rw [hrowDepartment]
        exact hdepartment

/-! ## The two stores -/

section

variable {env : Env} {faults : Faults} {w : World}

/-- The look-up ends in a user. -/
def Returns (env : Env) (faults : Faults) (find : Service DomainError (Option User)) (w : World) :
    Prop :=
  ∃ user w', runE (exec env faults) find w = (some (.ok (some user)), w')

theorem mapUser_ok_iff {row : JoinedUser} :
    (∃ user, PgUserRepository.mapUser row = .ok user) ↔ Decodes row := by
  unfold PgUserRepository.mapUser Decodes
  cases row.status.status with
  | none => exact ⟨(fun ⟨_, h⟩ => nomatch h), (fun h => nomatch h.1)⟩
  | some status =>
    cases row.department.name with
    | none => exact ⟨(fun ⟨_, h⟩ => nomatch h), (fun h => nomatch h.2)⟩
    | some name => exact ⟨fun _ => ⟨rfl, rfl⟩, fun _ => ⟨_, rfl⟩⟩

theorem exec_selectUserRoles (h : faults.store w.statements = none) (userId : Uuid) :
    exec env faults (.selectUserRoles userId) w = (.ok (selectUserRoles w.db userId), w.counted) :=
  Prod.ext (query_fst_of_store_none h _) (query_snd _)

theorem runE_mapUserWithRoles (h : faults.store w.statements = none) {row : JoinedUser}
    {user : User} (hmap : PgUserRepository.mapUser row = .ok user) :
    runE (exec env faults) (PgUserRepository.mapUserWithRoles row) w =
      (some (.ok { user with
        roles := (selectUserRoles w.db user.id).map fun r => { roleId := r.id, name := r.name } }),
        w.counted) := by
  unfold PgUserRepository.mapUserWithRoles PgUserRepository.getUserRoles
  rw [hmap, mapErr_ok, pure_bind, runE_bind, runE_ask_bind, exec_selectUserRoles h]
  rfl

theorem runE_hydrate (env : Env) (h : faults.store w.statements = none) {row : JoinedUser}
    (hdecodes : Decodes row) :
    ∃ user, runE (exec env faults) (PgUserRepository.hydrate (some row)) w =
      (some (.ok (some user)), w.counted) := by
  obtain ⟨user, hmap⟩ := mapUser_ok_iff.2 hdecodes
  refine ⟨{ user with
    roles := (selectUserRoles w.db user.id).map fun r => { roleId := r.id, name := r.name } }, ?_⟩
  unfold PgUserRepository.hydrate
  rw [runE_bind, runE_mapUserWithRoles h hmap]
  rfl

theorem returns_hydrate_iff (env : Env) (w : World) (hup : Faults.StoreUp faults)
    {found : Option JoinedUser} :
    Returns env faults (PgUserRepository.hydrate found) w ↔
      ∃ row, found = some row ∧ Decodes row := by
  cases found with
  | none =>
    constructor
    · rintro ⟨user, w', h⟩
      cases h
    · rintro ⟨row, h, -⟩
      cases h
  | some row =>
    constructor
    · rintro ⟨user, w', h⟩
      refine ⟨row, rfl, mapUser_ok_iff.1 ?_⟩
      obtain ⟨user', w₁, hmapped, -⟩ := runE_bind_ok h
      obtain ⟨user, w₂, hmap, -⟩ := runE_bind_ok hmapped
      exact ⟨user, (runE_mapErr_ok hmap).1⟩
    · rintro ⟨row', hrow, hdecodes⟩
      obtain rfl : row = row' := Option.some.inj hrow
      obtain ⟨user, hrun⟩ := runE_hydrate env (hup w.statements) hdecodes
      exact ⟨user, w.counted, hrun⟩

theorem exec_selectUserById (h : faults.store w.statements = none) (userId : Uuid) :
    exec env faults (.selectUserById userId) w =
      (.ok (selectUserById w.db userId), w.counted) :=
  Prod.ext (query_fst_of_store_none h _) (query_snd _)

theorem returns_findById_iff (hup : Faults.StoreUp faults) {userId : Uuid} :
    Returns env faults (PgUserRepository.findById userId) w ↔
      ∃ row, selectUserById w.db userId = some row ∧ Decodes row := by
  rw [← returns_hydrate_iff env w.counted hup]
  unfold Returns PgUserRepository.findById
  rw [runE_ask_bind, exec_selectUserById (hup _)]
  rfl

theorem returns_findByEmail_iff (hup : Faults.StoreUp faults) {email : String} :
    Returns env faults (PgUserRepository.findByEmail email) w ↔
      ∃ row, selectUserByEmail w.db email = some row ∧ Decodes row := by
  have hexec : exec env faults (.selectUserByEmail email) w =
      (.ok (selectUserByEmail w.db email), w.counted) :=
    Prod.ext (query_fst_of_store_none (hup _) _) (query_snd _)
  rw [← returns_hydrate_iff env w.counted hup]
  unfold Returns PgUserRepository.findByEmail
  rw [runE_ask_bind, hexec]
  rfl

/-- The user is among the rows that an unfiltered index counts. -/
def Counted (pg : Postgres) (db : Db) (userId : Uuid) : Prop :=
  ∀ request : ListRequest, PgUserRepository.pushFilters request = [] →
    userId ∈ (matchingUsers pg db (PgUserRepository.pushFilters request)).map (·.user.id)

/-- The auth store finds a user where the repository returns one, and the index counts it. -/
structure SeenAlike (env : Env) (faults : Faults) (w : World)
    (found : Except SqlxError (Option Identity)) (find : Service DomainError (Option User)) :
    Prop where
  same : (∃ identity, found = .ok (some identity)) ↔ Returns env faults find w
  counted : ∀ identity, found = .ok (some identity) → Counted env.pg w.db identity.id

theorem counted_of_readable (hdb : w.db.Admissible) {u : UserRow} (hu : u ∈ w.db.users)
    (hreadable : Readable w.db u) : Counted env.pg w.db u.id := by
  intro request hnone
  obtain ⟨row, hfind, -⟩ :=
    (find_joinedUsers_iff hdb hdb.userIds (k := u.id)).2 ⟨u, hu, rfl, hreadable⟩
  have hid : row.user.id = u.id := by simpa using List.find?_some hfind
  rw [hnone, ← hid]
  refine List.mem_map.2 ⟨row, List.mem_filter.2 ⟨List.mem_of_find?_eq_some hfind, rfl⟩, rfl⟩

/-- The rule for a look-up by a unique column. -/
theorem seenAlike_iff {κ : Type} [DecidableEq κ] (hdb : w.db.Admissible) {key : UserRow → κ}
    (hkey : (w.db.users.map key).Nodup) {k : κ} {found : Except SqlxError (Option Identity)}
    {find : Service DomainError (Option User)}
    (hfound : found = .ok ((w.db.users.find? fun u => decide (key u = k)).map
      (PostgresAuthStore.enrich w.db)))
    (hreturns : Returns env faults find w ↔ ∃ row,
      (joinedUsers w.db).find? (fun row => key row.user == k) = some row ∧ Decodes row) :
    SeenAlike env faults w found find ↔ ∀ u ∈ w.db.users, key u = k → Readable w.db u := by
  have hreads : Returns env faults find w ↔ ∃ u ∈ w.db.users, key u = k ∧ Readable w.db u :=
    hreturns.trans (find_joinedUsers_iff hdb hkey)
  have hfinds : ∀ u ∈ w.db.users, key u = k →
      found = .ok (some (PostgresAuthStore.enrich w.db u)) := by
    intro u hu hk
    rw [hfound, (find?_key_eq_some hkey).2 ⟨hu, hk⟩, Option.map_some]
  have hfinder : ∀ identity, found = .ok (some identity) → ∃ u ∈ w.db.users, key u = k ∧
      identity.id = u.id := by
    intro identity h
    rw [hfound, Except.ok.injEq, Option.map_eq_some_iff] at h
    obtain ⟨u, hu, rfl⟩ := h
    exact ⟨u, ((find?_key_eq_some hkey).1 hu).1, ((find?_key_eq_some hkey).1 hu).2, rfl⟩
  constructor
  · intro h u hu hk
    obtain ⟨u', hu', hk', hreadable⟩ := hreads.1 (h.same.1 ⟨_, hfinds u hu hk⟩)
    rwa [eq_of_key_eq hkey hu hu' (hk.trans hk'.symm)]
  · intro h
    refine ⟨⟨?_, ?_⟩, ?_⟩
    · rintro ⟨identity, hok⟩
      obtain ⟨u, hu, hk, -⟩ := hfinder identity hok
      exact hreads.2 ⟨u, hu, hk, h u hu hk⟩
    · intro hok
      obtain ⟨u, hu, hk, -⟩ := hreads.1 hok
      exact ⟨_, hfinds u hu hk⟩
    · intro identity hok
      obtain ⟨u, hu, hk, hid⟩ := hfinder identity hok
      rw [hid]
      exact counted_of_readable hdb hu (h u hu hk)

/-- The stores agree on an id, and on an address, exactly if the user who has it is readable. -/
theorem stores_see_same_users (hup : Faults.StoreUp faults) (hdb : w.db.Admissible) :
    (∀ userId, SeenAlike env faults w (exec env faults (.findUserById userId) w).1
        (PgUserRepository.findById userId) ↔
      ∀ u ∈ w.db.users, u.id = userId → Readable w.db u) ∧
    ∀ email, SeenAlike env faults w (exec env faults (.findUserByEmail email) w).1
        (PgUserRepository.findByEmail email) ↔
      ∀ u ∈ w.db.users, u.email = email → Readable w.db u :=
  ⟨fun _ => seenAlike_iff hdb hdb.userIds (query_fst_of_store_none (hup _) _)
      (returns_findById_iff hup),
    fun _ => seenAlike_iff hdb hdb.userEmails (query_fst_of_store_none (hup _) _)
      (returns_findByEmail_iff hup)⟩

end

theorem stores_see_same_users_sample :
    SeenAlike sampleEnv Faults.none sampleWorld
      (exec sampleEnv Faults.none (.findUserByEmail "admin@example.com") sampleWorld).1
      (PgUserRepository.findByEmail "admin@example.com") := by
  refine ((stores_see_same_users (fun _ => rfl) (Db.admissible_seed sampleAdmin)).2 _).2
    fun u hu _ => ?_
  rw [List.mem_singleton.1 hu]
  exact ⟨by decide, by decide⟩

/-- The seeded contents with a department of no company, which the administrator is moved to. -/
def outsideDb : Db :=
  { Db.seed sampleAdmin with
    departments := [⟨1, some "Administration", some 1⟩, ⟨2, some "Contractors", none⟩]
    users := (Db.seed sampleAdmin).users.map fun u => { u with departmentId := 2 } }

/-- The administrator of these contents can log in, and is nobody to the user routes. -/
theorem user_outside_company : outsideDb.Admissible ∧
    (∃ identity, (exec sampleEnv Faults.none (.findUserById sampleAdmin)
      (World.init outsideDb 0)).1 = .ok (some identity)) ∧
    (runE (exec sampleEnv Faults.none) (PgUserRepository.findById sampleAdmin)
      (World.init outsideDb 0)).1 = some (.ok none) ∧
    ¬ Counted samplePostgres outsideDb sampleAdmin := by
  refine ⟨?_, ⟨_, rfl⟩, by decide, fun h => ?_⟩
  · constructor <;> simp [outsideDb, Db.seed]
  · have hmem := h ListRequest.default (by decide)
    revert hmem
    decide

end ApiStarter.Iam
