import ApiStarter.Database.Like
import ApiStarter.Module.Iam.Visibility

/-
  What the index filters select.

  `NamedBy` says what the filters of a request name. The clause `push_filters` builds selects just
  that, except for a `first_name` with a character that is special in a pattern
  (`filters_select_named_iff`).
-/

namespace ApiStarter.Iam

open ApiStarter.Database ApiStarter.Pagination ApiStarter.Provider ApiStarter.Relational

/-- The user is one that every filter of the request names. An absent, empty, unknown or
    unparseable filter names everyone. -/
structure NamedBy (pg : Postgres) (db : Db) (request : ListRequest) (row : JoinedUser) : Prop where
  status : ∀ statusId, (request.filter "status").bind UserStatus.idOf = some statusId →
    row.user.statusId = statusId
  department : ∀ departmentId, (request.filter "department_id").bind parseI32 = some departmentId →
    row.user.departmentId = departmentId
  role : ∀ name, request.filter "role" = some name →
    ∃ r ∈ db.roles, r.name = name ∧ ⟨row.user.id, r.id⟩ ∈ db.userHasRoles
  firstName : ∀ text, request.filter "first_name" = some text →
    (pg.lower text).toList <:+: (pg.lower row.user.firstName).toList

/-- The clause selects the named users, whatever the tables hold. -/
def SelectsNamed (pg : Postgres) (request : ListRequest) : Prop :=
  ∀ db : Db, db.Admissible → db.TextsFit → ∀ row ∈ joinedUsers db,
    (row ∈ matchingUsers pg db (PgUserRepository.pushFilters request) ↔ NamedBy pg db request row)

theorem all_map_toList {α β : Type} (o : Option α) (f : α → β) (p : β → Bool) :
    (o.map f).toList.all p = true ↔ ∀ a, o = some a → p (f a) = true := by
  cases o with
  | none => simp
  | some a => simp

theorem any_selectUserRoles (db : Db) (userId : Uuid) (name : String) :
    ((selectUserRoles db userId).any fun r => r.name == name) = true ↔
      ∃ r ∈ db.roles, r.name = name ∧ ⟨userId, r.id⟩ ∈ db.userHasRoles := by
  simp only [List.any_eq_true, beq_iff_eq, selectUserRoles, List.mem_map]
  constructor
  · rintro ⟨r, ⟨⟨r', uhr⟩, hjoin, rfl⟩, hname⟩
    obtain ⟨hr, huhr, hid⟩ := mem_innerJoin.1 hjoin
    obtain ⟨hmem, huser⟩ := List.mem_filter.1 huhr
    refine ⟨r', hr, hname, ?_⟩
    rwa [show (⟨userId, r'.id⟩ : UserHasRoleRow) = uhr by
      rw [beq_iff_eq.1 hid, ← beq_iff_eq.1 huser]]
  · rintro ⟨r, hr, hname, huhr⟩
    exact ⟨r, ⟨(r, ⟨userId, r.id⟩), mem_innerJoin.2
      ⟨hr, List.mem_filter.2 ⟨huhr, beq_self_eq_true _⟩, beq_self_eq_true _⟩, rfl⟩, hname⟩

theorem mem_matchingUsers_pushFilters {pg : Postgres} {db : Db} {request : ListRequest}
    {row : JoinedUser} (hrow : row ∈ joinedUsers db) :
    row ∈ matchingUsers pg db (PgUserRepository.pushFilters request) ↔
      (∀ statusId, (request.filter "status").bind UserStatus.idOf = some statusId →
        row.user.statusId = statusId) ∧
      (∀ departmentId, (request.filter "department_id").bind parseI32 = some departmentId →
        row.user.departmentId = departmentId) ∧
      (∀ name, request.filter "role" = some name →
        ∃ r ∈ db.roles, r.name = name ∧ ⟨row.user.id, r.id⟩ ∈ db.userHasRoles) ∧
      ∀ text, request.filter "first_name" = some text →
        pg.ilike row.user.firstName ("%" ++ text ++ "%") = true := by
  have hstatus : row.status.id = row.user.statusId := (mem_joinedUsers.1 hrow).2.1.2.symm
  rw [matchingUsers, List.mem_filter, PgUserRepository.pushFilters, List.all_append,
    List.all_append, List.all_append, Bool.and_eq_true, Bool.and_eq_true, Bool.and_eq_true,
    all_map_toList, all_map_toList, all_map_toList, all_map_toList]
  simp only [Condition.holds, any_selectUserRoles, beq_iff_eq, hstatus, hrow, true_and, and_assoc]

/-! ## A table with one user -/

/-- The only user of the table has that first name, and everything else the request names. -/
def tableNaming (request : ListRequest) (firstName : String) : Db :=
  { Db.seed 0 with
    departments := [⟨((request.filter "department_id").bind parseI32).getD 1,
      some "Administration", some 1⟩]
    users := [{
      id := 0
      userName := "admin"
      avatarId := ""
      email := "admin@example.com"
      password := ""
      firstName := firstName
      lastName := "Admin"
      statusId := ((request.filter "status").bind UserStatus.idOf).getD activeUserStatus
      departmentId := ((request.filter "department_id").bind parseI32).getD 1 }]
    roles := [⟨1, (request.filter "role").getD "Admin"⟩]
    roleHasPermissions := []
    userHasRoles := [⟨0, 1⟩] }

theorem idOf_eq_some {status : String} {statusId : Int}
    (h : UserStatus.idOf status = some statusId) : statusId = 1 ∨ statusId = 2 := by
  unfold UserStatus.idOf at h
  split at h
  · exact .inl (Option.some.inj h).symm
  · split at h
    · exact .inr (Option.some.inj h).symm
    · cases h

section

variable (request : ListRequest) (firstName : String)

theorem admissible_tableNaming : (tableNaming request firstName).Admissible := by
  have hstatus : ((request.filter "status").bind UserStatus.idOf).getD activeUserStatus = 1 ∨
      ((request.filter "status").bind UserStatus.idOf).getD activeUserStatus = 2 := by
    cases h : (request.filter "status").bind UserStatus.idOf with
    | none => exact .inl rfl
    | some statusId =>
      obtain ⟨status, -, hid⟩ := Option.bind_eq_some_iff.1 h
      exact idOf_eq_some hid
  constructor <;> simp [tableNaming, Db.seed, hstatus]

theorem textsFit_tableNaming (hname : Storable 100 firstName)
    (hrole : ∀ name, request.filter "role" = some name → Storable 100 name) :
    (tableNaming request firstName).TextsFit := by
  have hrole' : Storable 100 ((request.filter "role").getD "Admin") := by
    cases h : request.filter "role" with
    | none => decide +kernel
    | some name => exact hrole name h
  exact { Db.textsFit_seed 0 with
    departments := List.forall_mem_singleton.2
      (show ∀ text ∈ some "Administration", Storable 100 text by decide +kernel)
    userNames := List.forall_mem_singleton.2 (show Storable 100 "admin" by decide +kernel)
    avatarIds := List.forall_mem_singleton.2 (show Storable 255 "" by decide +kernel)
    emails := List.forall_mem_singleton.2 (show Storable 100 "admin@example.com" by decide +kernel)
    passwords := List.forall_mem_singleton.2 (show Storable 255 "" by decide +kernel)
    firstNames := List.forall_mem_singleton.2 hname
    lastNames := List.forall_mem_singleton.2 (show Storable 100 "Admin" by decide +kernel)
    roles := List.forall_mem_singleton.2 hrole' }

/-- The user is one the joins keep. -/
theorem exists_row_tableNaming : ∃ row ∈ joinedUsers (tableNaming request firstName),
    row.user.id = 0 ∧ row.user.firstName = firstName ∧
      row.user.statusId =
        ((request.filter "status").bind UserStatus.idOf).getD activeUserStatus ∧
      row.user.departmentId = ((request.filter "department_id").bind parseI32).getD 1 := by
  have hdb := admissible_tableNaming request firstName
  obtain ⟨s, hs, hid⟩ := List.mem_map.1 (hdb.userStatus _ List.mem_cons_self)
  refine ⟨⟨_, s, _, ⟨1, "Example Company Ltd"⟩⟩, mem_joinedUsers.2 ⟨List.mem_cons_self,
    ⟨hs, hid.symm⟩, ⟨List.mem_cons_self, rfl⟩, List.mem_cons_self, rfl⟩, rfl, rfl, rfl, rfl⟩

end

theorem getD_of_eq_some {α : Type} {o : Option α} {a b : α} (h : o = some a) : o.getD b = a := by
  rw [h, Option.getD_some]

/-! ## The filters -/

/-- The other filters select what they name, so only the pattern can differ. -/
theorem selectsNamed_of_firstName {pg : Postgres} {request : ListRequest}
    (h : ∀ db : Db, db.TextsFit → ∀ u ∈ db.users, ∀ text,
      request.filter "first_name" = some text →
      (∀ name, request.filter "role" = some name → ∃ r ∈ db.roles, r.name = name) →
      (pg.ilike u.firstName ("%" ++ text ++ "%") = true ↔
        (pg.lower text).toList <:+: (pg.lower u.firstName).toList)) :
    SelectsNamed pg request := by
  intro db _ hfit row hrow
  have huser := (mem_joinedUsers.1 hrow).1
  rw [mem_matchingUsers_pushFilters hrow]
  constructor
  · rintro ⟨hstatus, hdepartment, hrole, hname⟩
    refine ⟨hstatus, hdepartment, hrole, fun text htext => ?_⟩
    refine (h db hfit _ huser text htext fun name hn => ?_).1 (hname text htext)
    obtain ⟨r, hr, heq, -⟩ := hrole name hn
    exact ⟨r, hr, heq⟩
  · rintro ⟨hstatus, hdepartment, hrole, hname⟩
    refine ⟨hstatus, hdepartment, hrole, fun text htext => ?_⟩
    refine (h db hfit _ huser text htext fun name hn => ?_).2 (hname text htext)
    obtain ⟨r, hr, heq, -⟩ := hrole name hn
    exact ⟨r, hr, heq⟩

/-- The filters select the users they name exactly where the text of `first_name` is plain, or
    where no table holds a user that could tell: its shortest match or the role's name does not
    fit the column. -/
theorem filters_select_named_iff {pg : Postgres} (hpg : pg.FoldsCharacters)
    (request : ListRequest) :
    SelectsNamed pg request ↔ ∀ text, request.filter "first_name" = some text →
      Plain text.toList ∨ ¬ Storable 100 (shortestMatch text) ∨
        ∃ name, request.filter "role" = some name ∧ ¬ Storable 100 name := by
  constructor
  · intro h text htext
    by_contra hdiffers
    push Not at hdiffers
    obtain ⟨hspecial, hname, hrole⟩ := hdiffers
    obtain ⟨row, hrow, hid, hfirst, hstatus, hdepartment⟩ :=
      exists_row_tableNaming request (shortestMatch text)
    have hselects := h _ (admissible_tableNaming request (shortestMatch text))
      (textsFit_tableNaming request _ hname hrole) row hrow
    refine shortestMatch_not_contains hpg hspecial ?_
    rw [← hfirst]
    have hmatches := (@mem_matchingUsers_pushFilters pg _ request _ hrow).2 ⟨?_, ?_, ?_, ?_⟩
    · exact (hselects.1 hmatches).firstName text htext
    · intro statusId hs
      rw [hstatus, getD_of_eq_some hs]
    · intro departmentId hd
      rw [hdepartment, getD_of_eq_some hd]
    · intro name hn
      refine ⟨⟨1, (request.filter "role").getD "Admin"⟩, List.mem_cons_self, getD_of_eq_some hn, ?_⟩
      rw [hid]
      exact List.mem_cons_self
    · intro text' htext'
      cases htext.symm.trans htext'
      rw [hfirst]
      exact ilike_shortestMatch hpg text
  · intro h
    refine selectsNamed_of_firstName fun db hfit u hu text htext hrole => ?_
    rcases h text htext with hplain | hlong | ⟨name, hn, hlong⟩
    · exact ilike_contains hpg hplain
    · exact ⟨fun hlike => absurd (storable_of_ilike hpg (hfit.firstNames u hu) hlike) hlong,
        fun hin => absurd (storable_of_contains hpg (hfit.firstNames u hu) hin) hlong⟩
    · obtain ⟨r, hr, rfl⟩ := hrole name hn
      exact absurd (hfit.roles r hr) hlong

theorem reserved_range : ∀ c ∈ Database.reserved, c.toNat < 65 ∨ 90 < c.toNat ∧ c.toNat < 97 := by
  simp only [Database.reserved, List.forall_mem_cons, List.not_mem_nil, false_imp_iff, implies_true]
  decide

theorem samplePostgres_foldsCharacters : samplePostgres.FoldsCharacters := by
  refine ⟨Char.toLower, fun s => String.toList_ofList, fun c hc d => ?_⟩
  have hrange := reserved_range c hc
  unfold Char.toLower
  split
  next h =>
    have hlow : 65 ≤ d.toNat := h.1
    have hhigh : d.toNat ≤ 90 := h.2
    constructor
    · intro heq
      have hvalue : (d.val + 32).toNat = c.toNat := congrArg Char.toNat heq
      rw [UInt32.toNat_add] at hvalue
      change (d.toNat + 32) % 2 ^ 32 = c.toNat at hvalue
      omega
    · rintro rfl
      omega
  next => exact Iff.rfl

/-- `first_name=_` -/
def anyCharacter : ListRequest :=
  ListRequest.fromQuery (fun _ => some [("first_name", "_")]) "first_name=_"

theorem filters_select_named_iff_sample : samplePostgres.FoldsCharacters ∧
    (SelectsNamed samplePostgres anyCharacter ↔
      ∀ text, anyCharacter.filter "first_name" = some text →
        Plain text.toList ∨ ¬ Storable 100 (shortestMatch text) ∨
          ∃ name, anyCharacter.filter "role" = some name ∧ ¬ Storable 100 name) :=
  ⟨samplePostgres_foldsCharacters, filters_select_named_iff samplePostgres_foldsCharacters _⟩

/-- `first_name=_` lists the administrator of the migrations, whose name has no underscore. -/
theorem underscore_selects_all : ¬ SelectsNamed samplePostgres anyCharacter := by
  intro h
  have hall : ∀ row ∈ joinedUsers (Db.seed 0), row ∈ matchingUsers samplePostgres (Db.seed 0)
      (PgUserRepository.pushFilters anyCharacter) := by
    decide +kernel
  have hnone : ∀ row ∈ joinedUsers (Db.seed 0), ¬ (samplePostgres.lower "_").toList <:+:
      (samplePostgres.lower row.user.firstName).toList := by
    decide +kernel
  obtain ⟨row, hrow⟩ : ∃ row, row ∈ joinedUsers (Db.seed 0) :=
    List.exists_mem_of_ne_nil _ (by decide +kernel)
  have hnamed := (h _ (Db.admissible_seed 0) (Db.textsFit_seed 0) row hrow).1 (hall row hrow)
  exact hnone row hrow (hnamed.firstName "_" (by decide +kernel))

end ApiStarter.Iam
