import ApiStarter.Database.Migrations

/-
  The contents of the migrated schema.

  `Db` is what the services work on. Its constraints are those the migrations declare
  (`valid_iff_admissible`), and its seed is what they make of an empty database
  (`migrated_seed`). Reverting the last two migrations and applying them again makes everyone an
  administrator (`remigrated_promotes`).
-/

namespace ApiStarter.Database

open ApiStarter.Ddl ApiStarter.Effect ApiStarter.Entries

/-! ## Rows -/

def StatusRow.row (r : StatusRow) : Row Datum := [int r.id, r.status.map .text]

def CompanyRow.row (r : CompanyRow) : Row Datum := [int r.id, text r.name]

def DepartmentRow.row (r : DepartmentRow) : Row Datum :=
  [int r.id, r.name.map .text, r.companyId.map .int]

def UserRow.row (r : UserRow) : Row Datum := [
  some (.uuid r.id), text r.userName, text r.avatarId, text r.email, text r.password,
  text r.firstName, text r.lastName, int r.statusId, int r.departmentId]

def ModuleRow.row (r : ModuleRow) : Row Datum := [int r.id, text r.name]

def PermissionRow.row (r : PermissionRow) : Row Datum :=
  [int r.id, r.name.map .text, r.resource.map .text, r.moduleId.map .int]

def RoleRow.row (r : RoleRow) : Row Datum := [int r.id, text r.name]

def RoleHasPermissionRow.row (r : RoleHasPermissionRow) : Row Datum :=
  [int r.roleId, int r.permissionId]

def UserHasRoleRow.row (r : UserHasRoleRow) : Row Datum := [some (.uuid r.userId), int r.roleId]

def PasswordResetRow.row (r : PasswordResetRow) : Row Datum :=
  [text r.email, text r.token, some (.time r.createdAt)]

def Db.rows (db : Db) : String → List (Row Datum)
  | "iam.user_statuses" => db.userStatuses.map StatusRow.row
  | "iam.companies" => db.companies.map CompanyRow.row
  | "iam.departments" => db.departments.map DepartmentRow.row
  | "iam.users" => db.users.map UserRow.row
  | "iam.modules" => db.modules.map ModuleRow.row
  | "iam.permissions" => db.permissions.map PermissionRow.row
  | "iam.roles" => db.roles.map RoleRow.row
  | "iam.role_has_permissions" => db.roleHasPermissions.map RoleHasPermissionRow.row
  | "iam.user_has_roles" => db.userHasRoles.map UserHasRoleRow.row
  | "iam.password_resets" => db.passwordResets.map PasswordResetRow.row
  | _ => []

section

variable {db : Db}

theorem int_injective : Function.Injective fun n : Int => [Datum.int n] := by
  intro m n h
  cases h
  rfl

theorem text_injective : Function.Injective fun s : String => [Datum.text s] := by
  intro s t h
  cases h
  rfl

theorem uuid_injective : Function.Injective fun u : Uuid => [Datum.uuid u] := by
  intro u v h
  cases h
  rfl

theorem satisfied_userStatuses :
    Satisfied db.rows "iam.user_statuses" Tables.userStatuses ↔
      (db.userStatuses.map (·.id)).Nodup := by
  rw [satisfied_iff]
  refine (and_iff_right ?_).trans ((and_iff_left ?_).trans ?_)
  · exact notNull_map (fun r => by simp [StatusRow.row, Tables.userStatuses, int]) db.userStatuses
  · simp [Tables.userStatuses]
  · simp only [Tables.userStatuses, List.forall_mem_singleton]
    exact nodup_cells_iff int_injective (fun _ => rfl) db.userStatuses

theorem satisfied_companies :
    Satisfied db.rows "iam.companies" Tables.companies ↔
      (db.companies.map (·.id)).Nodup ∧ (db.companies.map (·.name)).Nodup := by
  rw [satisfied_iff]
  refine (and_iff_right ?_).trans ((and_iff_left ?_).trans ?_)
  · exact notNull_map (fun r => by simp [CompanyRow.row, Tables.companies, int, text]) db.companies
  · simp [Tables.companies]
  · simp only [Tables.companies, List.forall_mem_cons, List.not_mem_nil, false_imp_iff,
      implies_true, and_true]
    exact and_congr (nodup_cells_iff int_injective (fun _ => rfl) db.companies)
      (nodup_cells_iff text_injective (fun _ => rfl) db.companies)

theorem satisfied_departments :
    Satisfied db.rows "iam.departments" Tables.departments ↔
      (db.departments.map (·.id)).Nodup ∧
        ∀ d ∈ db.departments, ∀ c, d.companyId = some c → c ∈ db.companies.map (·.id) := by
  have hcompany (d : DepartmentRow) :
      cells [2] d.row = d.companyId.map fun c => [Datum.int c] := by
    cases hc : d.companyId <;> simp [DepartmentRow.row, cells, hc]
  rw [satisfied_iff]
  refine (and_iff_right ?_).trans (and_congr ?_ ?_)
  · exact notNull_map (fun r => by simp [DepartmentRow.row, Tables.departments, int]) db.departments
  · simp only [Tables.departments, List.forall_mem_singleton]
    exact nodup_cells_iff int_injective (fun _ => rfl) db.departments
  · simp only [Tables.departments, List.forall_mem_singleton]
    exact refers_iff int_injective hcompany (fun _ => rfl) db.departments db.companies

theorem satisfied_users :
    Satisfied db.rows "iam.users" Tables.users ↔
      ((db.users.map (·.id)).Nodup ∧ (db.users.map (·.userName)).Nodup ∧
        (db.users.map (·.email)).Nodup) ∧
      (∀ u ∈ db.users, u.departmentId ∈ db.departments.map (·.id)) ∧
        ∀ u ∈ db.users, u.statusId ∈ db.userStatuses.map (·.id) := by
  rw [satisfied_iff]
  refine (and_iff_right ?_).trans (and_congr ?_ ?_)
  · exact notNull_map (fun r => by simp [UserRow.row, Tables.users, int, text]) db.users
  · simp only [Tables.users, List.forall_mem_cons, List.not_mem_nil, false_imp_iff,
      implies_true, and_true]
    exact and_congr (nodup_cells_iff uuid_injective (fun _ => rfl) db.users)
      (and_congr (nodup_cells_iff text_injective (fun _ => rfl) db.users)
        (nodup_cells_iff text_injective (fun _ => rfl) db.users))
  · simp only [Tables.users, List.forall_mem_cons, List.not_mem_nil, false_imp_iff,
      implies_true, and_true]
    exact and_congr
      (refers_some_iff int_injective (fun _ => rfl) (fun _ => rfl) db.users db.departments)
      (refers_some_iff int_injective (fun _ => rfl) (fun _ => rfl) db.users db.userStatuses)

theorem satisfied_modules :
    Satisfied db.rows "iam.modules" Tables.modules ↔ (db.modules.map (·.id)).Nodup := by
  rw [satisfied_iff]
  refine (and_iff_right ?_).trans ((and_iff_left ?_).trans ?_)
  · exact notNull_map (fun r => by simp [ModuleRow.row, Tables.modules, int, text]) db.modules
  · simp [Tables.modules]
  · simp only [Tables.modules, List.forall_mem_singleton]
    exact nodup_cells_iff int_injective (fun _ => rfl) db.modules

theorem satisfied_permissions :
    Satisfied db.rows "iam.permissions" Tables.permissions ↔
      (db.permissions.map (·.id)).Nodup ∧
        ∀ p ∈ db.permissions, ∀ m, p.moduleId = some m → m ∈ db.modules.map (·.id) := by
  have hmodule (p : PermissionRow) :
      cells [3] p.row = p.moduleId.map fun m => [Datum.int m] := by
    cases hm : p.moduleId <;> simp [PermissionRow.row, cells, hm]
  rw [satisfied_iff]
  refine (and_iff_right ?_).trans (and_congr ?_ ?_)
  · exact notNull_map (fun r => by simp [PermissionRow.row, Tables.permissions, int]) db.permissions
  · simp only [Tables.permissions, List.forall_mem_singleton]
    exact nodup_cells_iff int_injective (fun _ => rfl) db.permissions
  · simp only [Tables.permissions, List.forall_mem_singleton]
    exact refers_iff int_injective hmodule (fun _ => rfl) db.permissions db.modules

theorem satisfied_roles :
    Satisfied db.rows "iam.roles" Tables.roles ↔
      (db.roles.map (·.id)).Nodup ∧ (db.roles.map (·.name)).Nodup := by
  rw [satisfied_iff]
  refine (and_iff_right ?_).trans ((and_iff_left ?_).trans ?_)
  · exact notNull_map (fun r => by simp [RoleRow.row, Tables.roles, int, text]) db.roles
  · simp [Tables.roles]
  · simp only [Tables.roles, List.forall_mem_cons, List.not_mem_nil, false_imp_iff,
      implies_true, and_true]
    exact and_congr (nodup_cells_iff int_injective (fun _ => rfl) db.roles)
      (nodup_cells_iff text_injective (fun _ => rfl) db.roles)

theorem satisfied_roleHasPermissions :
    Satisfied db.rows "iam.role_has_permissions" Tables.roleHasPermissions ↔
      db.roleHasPermissions.Nodup ∧
      (∀ rp ∈ db.roleHasPermissions, rp.roleId ∈ db.roles.map (·.id)) ∧
        ∀ rp ∈ db.roleHasPermissions, rp.permissionId ∈ db.permissions.map (·.id) := by
  have hinjective : Function.Injective fun rp : RoleHasPermissionRow =>
      [Datum.int rp.roleId, Datum.int rp.permissionId] := by
    rintro ⟨r, p⟩ ⟨r', p'⟩ h
    cases h
    rfl
  rw [satisfied_iff]
  refine (and_iff_right ?_).trans (and_congr ?_ ?_)
  · exact notNull_map
      (fun r => by simp [RoleHasPermissionRow.row, Tables.roleHasPermissions, int])
      db.roleHasPermissions
  · simp only [Tables.roleHasPermissions, List.forall_mem_singleton]
    have hkeys : ((db.roleHasPermissions.map RoleHasPermissionRow.row).filterMap
        (cells [0, 1])).Nodup ↔ (db.roleHasPermissions.map id).Nodup :=
      nodup_cells_iff hinjective (fun _ => rfl) _
    rwa [List.map_id] at hkeys
  · simp only [Tables.roleHasPermissions, List.forall_mem_cons, List.not_mem_nil, false_imp_iff,
      implies_true, and_true]
    exact and_congr
      (refers_some_iff int_injective (fun _ => rfl) (fun _ => rfl) db.roleHasPermissions db.roles)
      (refers_some_iff int_injective (fun _ => rfl) (fun _ => rfl) db.roleHasPermissions
        db.permissions)

theorem satisfied_userHasRoles :
    Satisfied db.rows "iam.user_has_roles" Tables.userHasRoles ↔
      db.userHasRoles.Nodup ∧
      (∀ ur ∈ db.userHasRoles, ur.userId ∈ db.users.map (·.id)) ∧
        ∀ ur ∈ db.userHasRoles, ur.roleId ∈ db.roles.map (·.id) := by
  have hinjective : Function.Injective fun ur : UserHasRoleRow =>
      [Datum.uuid ur.userId, Datum.int ur.roleId] := by
    rintro ⟨u, r⟩ ⟨u', r'⟩ h
    cases h
    rfl
  rw [satisfied_iff]
  refine (and_iff_right ?_).trans (and_congr ?_ ?_)
  · exact notNull_map (fun r => by simp [UserHasRoleRow.row, Tables.userHasRoles, int])
      db.userHasRoles
  · simp only [Tables.userHasRoles, List.forall_mem_singleton]
    have hkeys : ((db.userHasRoles.map UserHasRoleRow.row).filterMap (cells [0, 1])).Nodup ↔
        (db.userHasRoles.map id).Nodup := nodup_cells_iff hinjective (fun _ => rfl) _
    rwa [List.map_id] at hkeys
  · simp only [Tables.userHasRoles, List.forall_mem_cons, List.not_mem_nil, false_imp_iff,
      implies_true, and_true]
    exact and_congr
      (refers_some_iff uuid_injective (fun _ => rfl) (fun _ => rfl) db.userHasRoles db.users)
      (refers_some_iff int_injective (fun _ => rfl) (fun _ => rfl) db.userHasRoles db.roles)

theorem satisfied_passwordResets (indexes : List String) :
    Satisfied db.rows "iam.password_resets" { Tables.passwordResets with indexes := indexes } := by
  refine ⟨?_, by simp [Tables.passwordResets], by simp [Tables.passwordResets]⟩
  exact notNull_map (fun r => by simp [PasswordResetRow.row, Tables.passwordResets, text])
    db.passwordResets

theorem wellFormed_iamLayout : Layout.WellFormed iamLayout where
  keyed := by
    unfold Keyed
    simp [iamLayout]
  closed := by decide +kernel

theorem rows_of_not_mem {name : String} (h : name ∉ iamLayout.names) : db.rows name = [] := by
  unfold Db.rows
  split
  case h_11 => rfl
  all_goals exact absurd (by simp [iamLayout, Layout.names]) h

/-- The schema with this content. -/
def Db.catalog (db : Db) (extensions : List String) (next : String → Nat) : Catalog Datum where
  layout := iamLayout
  extensions := extensions
  contents := { rows := db.rows, next := next }

theorem sound_iff (extensions : List String) (next : String → Nat) :
    (db.catalog extensions next).Sound ↔ db.Admissible := by
  unfold Catalog.Sound Db.catalog
  simp only [iamLayout, List.forall_mem_cons, satisfied_userStatuses,
    satisfied_companies, satisfied_departments, satisfied_users, satisfied_modules,
    satisfied_permissions, satisfied_roles, satisfied_roleHasPermissions, satisfied_userHasRoles]
  constructor
  · rintro ⟨-, hstatuses, ⟨hcompanyIds, hcompanyNames⟩, ⟨hdepartmentIds, hcompany⟩,
      ⟨⟨huserIds, huserNames, hemails⟩, hdepartment, hstatus⟩, hmodules,
      ⟨hpermissionIds, hmodule⟩, ⟨hroleIds, hroleNames⟩, ⟨hrolePermissions, hrole, hpermission⟩,
      ⟨huserRoles, huser, huserRole⟩, -⟩
    exact {
      statusIds := hstatuses
      companyIds := hcompanyIds
      companyNames := hcompanyNames
      departmentIds := hdepartmentIds
      departmentCompany := hcompany
      userIds := huserIds
      userNames := huserNames
      userEmails := hemails
      userStatus := hstatus
      userDepartment := hdepartment
      moduleIds := hmodules
      permissionIds := hpermissionIds
      permissionModule := hmodule
      roleIds := hroleIds
      roleNames := hroleNames
      rolePermissions := hrolePermissions
      rolePermissionRole := hrole
      rolePermissionPermission := hpermission
      userRoles := huserRoles
      userRoleUser := huser
      userRoleRole := huserRole }
  · intro h
    exact ⟨satisfied_of_empty rfl _, h.statusIds, ⟨h.companyIds, h.companyNames⟩,
      ⟨h.departmentIds, h.departmentCompany⟩,
      ⟨⟨h.userIds, h.userNames, h.userEmails⟩, h.userDepartment, h.userStatus⟩, h.moduleIds,
      ⟨h.permissionIds, h.permissionModule⟩, ⟨h.roleIds, h.roleNames⟩,
      ⟨h.rolePermissions, h.rolePermissionRole, h.rolePermissionPermission⟩,
      ⟨h.userRoles, h.userRoleUser, h.userRoleRole⟩, satisfied_passwordResets _,
      fun _ h => nomatch h⟩

theorem valid_of_admissible (h : db.Admissible) (extensions : List String) (next : String → Nat) :
    (db.catalog extensions next).Valid :=
  ⟨wellFormed_iamLayout, (sound_iff extensions next).2 h, fun _ hname => rows_of_not_mem hname⟩

/-- What the tables declare is what `Db.Admissible` says, of every content. -/
theorem valid_iff_admissible (db : Db) (extensions : List String) (next : String → Nat) :
    (db.catalog extensions next).Valid ↔ db.Admissible :=
  ⟨fun h => (sound_iff extensions next).1 h.sound,
    fun h => valid_of_admissible h extensions next⟩

end

/-! ## Migrating a fresh database -/

theorem script_of_drawless {done : List (Migration Uuid Datum × Uuid)}
    (h : ∀ m ∈ done.map Prod.fst, ∀ g g', m.up g = m.up g') (g : Uuid) :
    script done = (done.map Prod.fst).flatMap (·.up g) := by
  unfold script
  rw [List.flatMap_map]
  exact List.flatMap_congr fun m hm => h m.1 (List.mem_map_of_mem hm) m.2 g

/-- Only the migration of the users draws. -/
theorem script_iam {done : List (Migration Uuid Datum × Uuid)}
    (h : done.map Prod.fst = iamMigrations) :
    ∃ adminId, script done = iamMigrations.flatMap (·.up adminId) := by
  have hsplit : done.map Prod.fst =
      iamMigrations.take 4 ++ ([iamMigrations[4]] ++ iamMigrations.drop 5) := h
  obtain ⟨before, after, rfl, hbefore, hafter⟩ := List.map_eq_append_iff.1 hsplit
  obtain ⟨⟨m, adminId⟩, after, rfl, hm, hafter⟩ := List.map_eq_cons_iff.1 hafter
  refine ⟨adminId, ?_⟩
  have hbefore' : script before = (iamMigrations.take 4).flatMap (·.up adminId) := by
    rw [script_of_drawless _ adminId, hbefore]
    rw [hbefore]
    simp [iamMigrations]
  have hafter' : script after = (iamMigrations.drop 5).flatMap (·.up adminId) := by
    have hafter : after.map Prod.fst = iamMigrations.drop 5 := hafter
    rw [script_of_drawless _ adminId, hafter]
    rw [hafter]
    simp [iamMigrations]
  have hm : m = iamMigrations[4] := hm
  have hscript : script (before ++ (m, adminId) :: after) =
      script before ++ (m.up adminId ++ script after) := by
    simp [script]
  rw [hscript, hbefore', hafter', hm]
  rfl

theorem rows_migrating (adminId : Uuid) :
    ((iamMigrations.flatMap (·.up adminId)).foldl Contents.after Catalog.empty.contents).rows =
      (Db.seed adminId).rows := by
  funext name
  unfold Db.rows
  split <;> try rfl
  next =>
    refine Contents.rows_foldl_after fun s hs hchanges => ?_
    have hmem : name ∈ (iamMigrations.flatMap (·.up adminId)).filterMap Statement.changes :=
      List.mem_filterMap.2 ⟨s, hs, hchanges⟩
    have htables : (iamMigrations.flatMap (·.up adminId)).filterMap Statement.changes =
        ["iam.user_statuses", "iam.companies", "iam.departments", "iam.users", "iam.modules",
          "iam.permissions", "iam.roles", "iam.role_has_permissions", "iam.user_has_roles"] := rfl
    rw [htables] at hmem
    simp only [List.mem_cons, List.not_mem_nil, or_false] at hmem
    rcases hmem with h | h | h | h | h | h | h | h | h <;> contradiction

/-- However often migrating an empty database fails and is begun again: once all is applied, the
    contents are the seeded ones, which the constraints admit. -/
theorem migrated_seed {events : List MigrationEvent} {s : Store Datum}
    (hrun : Run (MigrationStep iamMigrations) .empty events s)
    (hevents : ∀ e ∈ events, e = .applied ∨ e = .failed)
    (hcomplete : s.ledger = iamMigrations.map (·.version)) :
    ∃ adminId, s.catalog.contents.rows = (Db.seed adminId).rows := by
  obtain ⟨done, rest, hsplit, hat, hcontents⟩ := run_scripted stacks_iam hrun hevents
  have hdone : done.map Prod.fst = iamMigrations := by
    have hlength := congrArg List.length (hat.ledger.symm.trans hcomplete)
    have htotal := congrArg List.length hsplit
    simp only [List.length_map, List.length_append] at hlength htotal
    have hrest : rest = [] := List.eq_nil_of_length_eq_zero (by omega)
    rw [hsplit, hrest, List.append_nil]
  obtain ⟨adminId, hscript⟩ := script_iam hdone
  refine ⟨adminId, ?_⟩
  rw [hcontents, hscript, rows_migrating]

theorem allMigrations_run : ∃ s, Run (MigrationStep iamMigrations) .empty
    (List.replicate 11 .applied) s ∧ s.ledger = iamMigrations.map (·.version) :=
  ⟨_, .cons (.applied (g := 2) rfl rfl) (.cons (.applied (g := 2) rfl rfl)
    (.cons (.applied (g := 2) rfl rfl) (.cons (.applied (g := 2) rfl rfl)
    (.cons (.applied (g := 2) rfl rfl) (.cons (.applied (g := 2) rfl rfl)
    (.cons (.applied (g := 2) rfl rfl) (.cons (.applied (g := 2) rfl rfl)
    (.cons (.applied (g := 2) rfl rfl) (.cons (.applied (g := 2) rfl rfl)
    (.cons (.applied (g := 2) rfl rfl) (.nil _))))))))))), rfl⟩

theorem migrated_seed_sample : ∃ s : Store Datum, s.ledger = iamMigrations.map (·.version) ∧
    ∃ adminId, s.catalog.contents.rows = (Db.seed adminId).rows :=
  allMigrations_run.elim fun s ⟨hrun, hledger⟩ =>
    ⟨s, hledger, migrated_seed hrun (by decide) hledger⟩

/-! ## Migrating again -/

/-- Every user with every role named `Admin`. -/
def Db.everyoneAdmin (db : Db) : List UserHasRoleRow :=
  db.users.flatMap fun u => (db.roles.filter (·.name = "Admin")).map fun r => ⟨u.id, r.id⟩

theorem mem_everyoneAdmin {db : Db} {ur : UserHasRoleRow} :
    ur ∈ db.everyoneAdmin ↔
      ∃ u ∈ db.users, ∃ r ∈ db.roles, r.name = "Admin" ∧ ur = ⟨u.id, r.id⟩ := by
  unfold Db.everyoneAdmin
  rw [List.mem_flatMap]
  refine exists_congr fun u => and_congr_right fun _ => ?_
  rw [List.mem_map]
  refine exists_congr fun r => ?_
  rw [List.mem_filter, decide_eq_true_eq, and_assoc]
  exact and_congr_right fun _ => and_congr_right fun _ => eq_comm

theorem admissible_everyoneAdmin {db : Db} (h : db.Admissible) :
    Db.Admissible { db with userHasRoles := db.everyoneAdmin, passwordResets := [] } :=
  { h with
    userRoles := by
      refine List.nodup_flatMap.2 ⟨fun u _ => ?_, ?_⟩
      · have hids : ((db.roles.filter (·.name = "Admin")).map (·.id)).Nodup :=
          h.roleIds.sublist (List.filter_sublist.map _)
        refine List.Nodup.of_map (·.roleId) ?_
        rwa [List.map_map]
      · refine (List.pairwise_map.1 h.userIds).imp fun hne => ?_
        simp only [Function.onFun, List.disjoint_left, List.mem_map]
        rintro ur ⟨r, -, rfl⟩ ⟨r', -, heq⟩
        exact hne (congrArg UserHasRoleRow.userId heq).symm
    userRoleUser := by
      intro ur hur
      obtain ⟨u, hu, r, -, -, rfl⟩ := mem_everyoneAdmin.1 hur
      exact List.mem_map_of_mem hu
    userRoleRole := by
      intro ur hur
      obtain ⟨u, -, r, hr, -, rfl⟩ := mem_everyoneAdmin.1 hur
      exact List.mem_map_of_mem hr }

theorem named_row (name : String) (r : RoleRow) : named name r.row = decide (r.name = name) := by
  simp [named, RoleRow.row, text]

theorem rows_everyoneAdmin (db : Db) :
    ((db.rows "iam.users").flatMap fun u =>
        ((db.rows "iam.roles").filter (named "Admin")).map fun r =>
          [u.getD 0 none, r.getD 0 none]) =
      db.everyoneAdmin.map UserHasRoleRow.row := by
  have hnamed : named "Admin" ∘ RoleRow.row = fun r => decide (r.name = "Admin") :=
    funext (named_row "Admin")
  simp only [Db.rows, Db.everyoneAdmin, List.map_flatMap, List.flatMap_map, List.filter_map, hnamed,
    List.map_map]
  rfl

/-- The rows after the two tables are dropped and the assignments are inserted again. -/
theorem rows_remigrated {db : Db} {contents : Contents Datum}
    (h : contents.rows = Function.update (Function.update db.rows "iam.password_resets" [])
      "iam.user_has_roles" []) :
    (contents.after assignAdmin).rows =
      Db.rows { db with userHasRoles := db.everyoneAdmin, passwordResets := [] } := by
  have husers : contents.rows "iam.users" = db.rows "iam.users" := by rw [h]; rfl
  have hroles : contents.rows "iam.roles" = db.rows "iam.roles" := by rw [h]; rfl
  have hassigned : contents.rows "iam.user_has_roles" = [] := by rw [h]; rfl
  dsimp only [Contents.after, assignAdmin]
  rw [husers, hroles, hassigned, List.nil_append, rows_everyoneAdmin]
  funext name
  by_cases hname : name = "iam.user_has_roles"
  · subst hname
    exact Function.update_self _ _ _
  · rw [Function.update_of_ne hname, h, Function.update_of_ne hname]
    by_cases hresets : name = "iam.password_resets"
    · subst hresets
      exact Function.update_self _ _ _
    · rw [Function.update_of_ne hresets]
      unfold Db.rows
      split <;> first | rfl | contradiction

section

variable {db : Db} {s s' : Store Datum} {g : Uuid}

/-- Its tables and constraints are those of the first ten, with those of `user_has_roles` last. -/
theorem stacks_userHasRoles :
    Stacks (iamMigrations.take 9 ++ iamMigrations[9] :: [iamMigrations[10]]) iamLayout :=
  stacks_iam

theorem stacks_passwordResets :
    Stacks (iamMigrations.take 10 ++ [iamMigrations[10]]) iamLayout :=
  stacks_iam

theorem reverted_twice (hat : StackedAt iamLayout iamMigrations s)
    (hrun : Run (MigrationStep iamMigrations) s [.reverted, .reverted] s') :
    StackedAt iamLayout (iamMigrations.take 9) s' ∧
      s'.catalog.contents.rows =
        Function.update (Function.update s.catalog.contents.rows "iam.password_resets" [])
          "iam.user_has_roles" [] := by
  obtain ⟨s₁, h₁, hrun⟩ := hrun.cons_inv
  obtain ⟨s₂, h₂, hrun⟩ := hrun.cons_inv
  cases hrun
  obtain ⟨hat₁, hdown₁⟩ := reverted_inv stacks_passwordResets hat h₁
  obtain ⟨hat₂, hdown₂⟩ := reverted_inv stacks_userHasRoles hat₁ h₂
  refine ⟨hat₂, ?_⟩
  rw [Catalog.execAll_contents hdown₂, Catalog.execAll_contents hdown₁]
  rfl

theorem applied_twice (hat : StackedAt iamLayout (iamMigrations.take 9) s)
    (hrun : Run (MigrationStep iamMigrations) s [.applied, .applied] s') :
    s'.catalog.contents.rows = (s.catalog.contents.after assignAdmin).rows := by
  obtain ⟨s₁, h₁, hrun⟩ := hrun.cons_inv
  obtain ⟨s₂, h₂, hrun⟩ := hrun.cons_inv
  cases hrun
  obtain ⟨hat₁, g, hup⟩ := applied_inv stacks_userHasRoles hat h₁
  obtain ⟨-, g', hup'⟩ := applied_inv stacks_passwordResets hat₁ h₂
  rw [Catalog.execAll_contents hup', Catalog.execAll_contents hup]
  rfl

theorem can_remigrate (hdb : db.Admissible) (hat : StackedAt iamLayout iamMigrations s)
    (hrows : s.catalog.contents.rows = db.rows) :
    ∃ s', Run (MigrationStep iamMigrations) s
      ([.reverted, .reverted] ++ [.applied, .applied]) s' := by
  obtain ⟨s₁, h₁, hat₁⟩ := can_revert stacks_passwordResets hat
  obtain ⟨s₂, h₂, hat₂⟩ := can_revert stacks_userHasRoles hat₁
  have hreverted : Run (MigrationStep iamMigrations) s [.reverted, .reverted] s₂ :=
    .cons h₁ (.cons h₂ (.nil _))
  obtain ⟨-, hrows₂⟩ := reverted_twice hat hreverted
  have hcreate : s₂.catalog.layout.define
      (.createTable "iam.user_has_roles" Tables.userHasRoles : Statement Datum) =
        .ok (iamLayout.take 10) := by
    rw [hat₂.layout]
    rfl
  obtain ⟨c₁, hcreate, hlayout⟩ := Catalog.exec_of_define rfl hcreate
  have hcontents : c₁.contents = s₂.catalog.contents := (Catalog.exec_eq_ok_iff.1 hcreate).2.2.1
  have hassigned : (c₁.contents.after assignAdmin).rows =
      Db.rows { db with userHasRoles := db.everyoneAdmin, passwordResets := [] } := by
    rw [hcontents]
    exact rows_remigrated (hrows ▸ hrows₂)
  have hinsert : ∃ c₂, c₁.exec assignAdmin = .ok c₂ := by
    refine Catalog.exec_of_sound (by rw [hlayout]; rfl) fun entry hentry => ?_
    have hmem : entry ∈ iamLayout := by
      dsimp only at hentry
      rw [hlayout] at hentry
      exact List.mem_of_mem_take hentry
    have hsound := (valid_of_admissible (admissible_everyoneAdmin hdb) [] fun _ => 1).sound entry
      hmem
    unfold Db.catalog at hsound
    rw [← hassigned] at hsound
    exact hsound
  obtain ⟨c₂, hinsert⟩ := hinsert
  have hup : s₂.catalog.execAll (iamMigrations[9].up 0) = .ok c₂ :=
    (Catalog.execAll_of_exec hcreate).trans (Catalog.execAll_of_exec hinsert)
  obtain ⟨s₃, h₃, hat₃, -⟩ := can_apply stacks_userHasRoles hat₂ hup
  have hup' := stacks_iam.up 10 iamMigrations[10] rfl 0
  have hlayout₃ : s₃.catalog.layout = iamLayout.take 10 := hat₃.layout
  rw [← hlayout₃] at hup'
  obtain ⟨c₄, hup', -⟩ := Catalog.execAll_of_define (by decide) hup'
  obtain ⟨s₄, h₄, -⟩ := can_apply stacks_passwordResets hat₃ hup'
  exact ⟨s₄, .cons h₁ (.cons h₂ (.cons h₃ (.cons h₄ (.nil _))))⟩

/-- The reverses of the last two migrations take the role assignments with them, and migrating
    again gives every user every role named `Admin`. -/
theorem remigrated_promotes (hdb : db.Admissible) (hat : StackedAt iamLayout iamMigrations s)
    (hrows : s.catalog.contents.rows = db.rows) :
    (∃ s', Run (MigrationStep iamMigrations) s
      ([.reverted, .reverted] ++ [.applied, .applied]) s') ∧
    ∀ s', Run (MigrationStep iamMigrations) s
        ([.reverted, .reverted] ++ [.applied, .applied]) s' →
      s'.catalog.contents.rows =
        Db.rows { db with userHasRoles := db.everyoneAdmin, passwordResets := [] } := by
  refine ⟨can_remigrate hdb hat hrows, fun s' hrun => ?_⟩
  obtain ⟨s₁, hreverted, happlied⟩ := hrun.append_inv
  obtain ⟨hat₁, hrows₁⟩ := reverted_twice hat hreverted
  rw [applied_twice hat₁ happlied]
  exact rows_remigrated (hrows ▸ hrows₁)

end

/-- The schema of a store where nobody holds a role. -/
def unassigned : Db := { Db.seed 2 with userHasRoles := [] }

theorem admissible_unassigned : unassigned.Admissible :=
  { Db.admissible_seed 2 with
    userRoles := List.nodup_nil
    userRoleUser := fun _ hur => nomatch hur
    userRoleRole := fun _ hur => nomatch hur }

theorem remigrated_promotes_sample :
    (∃ s', Run (MigrationStep iamMigrations)
      { ledger := iamMigrations.map (·.version), catalog := unassigned.catalog [] fun _ => 1 }
      ([.reverted, .reverted] ++ [.applied, .applied]) s') ∧
    ∀ s', Run (MigrationStep iamMigrations)
        { ledger := iamMigrations.map (·.version), catalog := unassigned.catalog [] fun _ => 1 }
        ([.reverted, .reverted] ++ [.applied, .applied]) s' →
      s'.catalog.contents.rows =
        Db.rows { unassigned with userHasRoles := [⟨2, 1⟩], passwordResets := [] } :=
  remigrated_promotes admissible_unassigned
    ⟨rfl, rfl, valid_of_admissible admissible_unassigned _ _⟩ rfl

end ApiStarter.Database
