import ApiStarter.Database.Ledger
import ApiStarter.Database.Schema
import Mathlib.Tactic.IntervalCases

/-
  `migrations/iam` and `database/migrations.rs`, statement by statement.

  In every state they lead to, the ledger tells which of them the tables are those of, and their
  reverses take all of it away again (`migrations_revertible`).
-/

namespace ApiStarter.Database

open ApiStarter.Ddl ApiStarter.Effect ApiStarter.Entries

inductive Datum where
  | int (n : Int)
  | text (s : String)
  | uuid (u : Uuid)
  | time (t : Timestamp)
  deriving DecidableEq, Repr

/-! ## The tables -/

namespace Tables

def userStatuses : Definition where
  needs := ["iam"]
  notNull := [0]
  keys := [[0]]

def companies : Definition where
  needs := ["iam"]
  notNull := [0, 1]
  keys := [[0], [1]]

def departments : Definition where
  needs := ["iam"]
  notNull := [0]
  keys := [[0]]
  foreignKeys := [{ columns := [2], target := "iam.companies", referenced := [0] }]

def users : Definition where
  needs := ["iam"]
  notNull := [0, 1, 2, 3, 4, 5, 6, 7, 8]
  keys := [[0], [1], [3]]
  foreignKeys := [
    { columns := [8], target := "iam.departments", referenced := [0] },
    { columns := [7], target := "iam.user_statuses", referenced := [0] }]

def modules : Definition where
  needs := ["iam"]
  notNull := [0, 1]
  keys := [[0]]

def permissions : Definition where
  needs := ["iam"]
  notNull := [0]
  keys := [[0]]
  foreignKeys := [{ columns := [3], target := "iam.modules", referenced := [0] }]

def roles : Definition where
  needs := ["iam"]
  notNull := [0, 1]
  keys := [[0], [1]]

def roleHasPermissions : Definition where
  needs := ["iam"]
  notNull := [0, 1]
  keys := [[0, 1]]
  foreignKeys := [
    { columns := [0], target := "iam.roles", referenced := [0] },
    { columns := [1], target := "iam.permissions", referenced := [0] }]

def userHasRoles : Definition where
  needs := ["iam"]
  notNull := [0, 1]
  keys := [[0, 1]]
  foreignKeys := [
    { columns := [0], target := "iam.users", referenced := [0] },
    { columns := [1], target := "iam.roles", referenced := [0] }]

def passwordResets : Definition where
  needs := ["iam"]
  notNull := [0, 1, 2]

end Tables

/-! ## The migrations -/

/-- `INSERT` of rows without their `SERIAL` column. -/
def insertNumbered (table : String) (values : List (Row Datum)) : Statement Datum :=
  .insert table
    (fun _ next => values.mapIdx fun i row => some (.int (next + i : Nat)) :: row) values.length

def text (s : String) : Option Datum := some (.text s)

def int (n : Int) : Option Datum := some (.int n)

def named (name : String) (role : Row Datum) : Bool := role.getD 1 none = text name

/-- The roles named `Admin`, to every user. -/
def assignAdmin : Statement Datum :=
  .insert "iam.user_has_roles" (fun rows _ =>
    (rows "iam.users").flatMap fun u =>
      ((rows "iam.roles").filter (named "Admin")).map fun r => [u.getD 0 none, r.getD 0 none]) 0

/-- Their reversible pairs; the id of the seeded administrator is generated. -/
def iamMigrations : List (Migration Uuid Datum) := [
  { version := 20250609223816
    up := fun _ => [.createSchema "iam"]
    down := [.dropSchema "iam"] },
  { version := 20250609223912
    up := fun _ => [
      .createTable "iam.user_statuses" Tables.userStatuses,
      insertNumbered "iam.user_statuses" [[text "Active"], [text "Deleted"]]]
    down := [.dropTable "iam.user_statuses"] },
  { version := 20250609224054
    up := fun _ => [
      .createTable "iam.companies" Tables.companies,
      insertNumbered "iam.companies" [[text "Example Company Ltd"]]]
    down := [.dropTable "iam.companies"] },
  { version := 20250609224123
    up := fun _ => [
      .createTable "iam.departments" Tables.departments,
      insertNumbered "iam.departments" [[text "Administration", int 1]]]
    down := [.dropTable "iam.departments"] },
  { version := 20250609224133
    up := fun adminId => [
      .createExtension "uuid-ossp",
      .createTable "iam.users" Tables.users,
      .insert "iam.users" (fun _ _ => [[
        some (.uuid adminId), text "admin", text "", text "admin@example.com",
        text "$2a$10$Mseb73NYJsJ/d8fcD.JZGuJgAeciQXFxaxY7uXdVCtvH2u/muejNy", text "App",
        text "Admin", int 1, int 1]]) 0]
    down := [.dropTable "iam.users"] },
  { version := 20250609224135
    up := fun _ => [
      .createTable "iam.modules" Tables.modules,
      insertNumbered "iam.modules"
        [[text "IAM Module"], [text "Catalogues Module"], [text "Customer Module"]]]
    down := [.dropTable "iam.modules"] },
  { version := 20250609224143
    up := fun _ => [
      .createTable "iam.permissions" Tables.permissions,
      insertNumbered "iam.permissions" [
        [text "View All", text "Users", int 1],
        [text "Delete", text "Catalogues", int 2],
        [text "Publish", text "Catalogues", int 2],
        [text "Add Tags", text "Catalogues", int 2],
        [text "Make A Copy", text "Catalogues", int 2],
        [text "Restore", text "Catalogues", int 2],
        [text "Delete", text "Customers", int 3]]]
    down := [.dropTable "iam.permissions"] },
  { version := 20250609224149
    up := fun _ => [
      .createTable "iam.roles" Tables.roles,
      insertNumbered "iam.roles" [[text "Admin"], [text "Developer"], [text "Staff"]]]
    down := [.dropTable "iam.roles"] },
  { version := 20250609224159
    up := fun _ => [
      .createTable "iam.role_has_permissions" Tables.roleHasPermissions,
      .insert "iam.role_has_permissions" (fun rows _ =>
        ((rows "iam.roles").filter fun r => named "Admin" r || named "Developer" r).flatMap
          fun r => (rows "iam.permissions").map fun p => [r.getD 0 none, p.getD 0 none]) 0]
    down := [.dropTable "iam.role_has_permissions"] },
  { version := 20250609224212
    up := fun _ => [
      .createTable "iam.user_has_roles" Tables.userHasRoles,
      assignAdmin]
    down := [.dropTable "iam.user_has_roles"] },
  { version := 20250728164149
    up := fun _ => [
      .createTable "iam.password_resets" Tables.passwordResets,
      .createIndex "iam_password_resets_email_index" "iam.password_resets",
      .createIndex "iam_password_resets_token_index" "iam.password_resets"]
    down := [.dropTable "iam.password_resets"] }]

/-- What they make, in their order. -/
def iamLayout : Layout := [
  ("iam", {}),
  ("iam.user_statuses", Tables.userStatuses),
  ("iam.companies", Tables.companies),
  ("iam.departments", Tables.departments),
  ("iam.users", Tables.users),
  ("iam.modules", Tables.modules),
  ("iam.permissions", Tables.permissions),
  ("iam.roles", Tables.roles),
  ("iam.role_has_permissions", Tables.roleHasPermissions),
  ("iam.user_has_roles", Tables.userHasRoles),
  ("iam.password_resets", { Tables.passwordResets with
    indexes := ["iam_password_resets_email_index", "iam_password_resets_token_index"] })]

theorem stacks_iam : Stacks iamMigrations iamLayout where
  versions := by decide
  up := by
    intro k m hk g
    have hlt : k < 11 := (List.getElem?_eq_some_iff.1 hk).1
    interval_cases k <;> (cases hk; rfl)
  down := by
    intro k m hk
    have hlt : k < 11 := (List.getElem?_eq_some_iff.1 hk).1
    interval_cases k <;> (cases hk; rfl)
  noInsert := by decide

/-- In every state that migrating, reverting, failing and writing lead to, the ledger lists the
    first migrations in their order, the tables are those they made, every constraint holds, and
    as many reverses in a row take all of it away. -/
theorem migrations_revertible {events : List MigrationEvent} {s : Store Datum}
    (hrun : Run (MigrationStep iamMigrations) .empty events s) :
    ∃ k, s.ledger = (iamMigrations.take k).map (·.version) ∧
      s.catalog.layout = iamLayout.take k ∧ s.catalog.Valid ∧
      ∃ s', Run (MigrationStep iamMigrations) s (List.replicate k .reverted) s' ∧
        s'.ledger = [] ∧ s'.catalog.layout = [] := by
  obtain ⟨done, rest, hsplit, hat⟩ :=
    run_stacked stacks_iam hrun ⟨[], iamMigrations, rfl, stackedAt_empty iamLayout⟩
  obtain ⟨s', hrevert, hempty⟩ := revertible stacks_iam hsplit hat
  refine ⟨done.length, ?_, hat.layout, hat.valid, s', hrevert, hempty.ledger, hempty.layout⟩
  rw [hat.ledger, hsplit, List.take_left]

/-- A migration that fails, and one that is reverted and applied once more. -/
theorem firstMigrations_run : ∃ s, Run (MigrationStep iamMigrations) .empty
    [.applied, .applied, .failed, .reverted, .applied] s :=
  ⟨_, .cons (.applied (g := 0) rfl rfl) (.cons (.applied (g := 0) rfl rfl) (.cons (.failed _)
    (.cons (.reverted rfl rfl) (.cons (.applied (g := 0) rfl rfl) (.nil _)))))⟩

theorem migrations_revertible_sample :
    ∃ (s : Store Datum) (k : Nat), s.ledger = (iamMigrations.take k).map (·.version) ∧
      s.catalog.layout = iamLayout.take k ∧ s.catalog.Valid ∧
      ∃ s', Run (MigrationStep iamMigrations) s (List.replicate k .reverted) s' ∧
        s'.ledger = [] ∧ s'.catalog.layout = [] :=
  firstMigrations_run.elim fun s hrun => ⟨s, migrations_revertible hrun⟩

/-! ## The registry -/

structure ModuleMigrations where
  name : String
  migrations : List (Migration Uuid Datum)

namespace ModuleMigrations

def all : List ModuleMigrations := [{ name := "iam", migrations := iamMigrations }]

def find (name : String) : Option ModuleMigrations := all.find? (·.name = name)

def names : List String := all.map (·.name)

/-- Every module is registered once. -/
theorem nodup_names : names.Nodup := List.nodup_singleton _

theorem of_find {name : String} {found : ModuleMigrations} (h : find name = some found) :
    found ∈ all ∧ found.name = name := by
  unfold find at h
  exact ⟨List.mem_of_find?_eq_some h, by simpa using List.find?_some h⟩

/-- A module is found under its own name, and under no other one. -/
theorem find_eq_some_iff {name : String} {found : ModuleMigrations} :
    find name = some found ↔ found ∈ all ∧ found.name = name := by
  refine ⟨of_find, ?_⟩
  rintro ⟨hmem, rfl⟩
  have hsome : (find found.name).isSome := by
    rw [find, List.find?_isSome]
    exact ⟨found, hmem, by simp⟩
  obtain ⟨other, hfind⟩ := Option.isSome_iff_exists.1 hsome
  obtain ⟨hother, hname⟩ := of_find hfind
  rw [hfind, Relational.eq_of_key_eq nodup_names hother hmem hname]

theorem find_isSome_iff {name : String} : (find name).isSome ↔ name ∈ names := by
  rw [Option.isSome_iff_exists, names, List.mem_map]
  exact exists_congr fun _ => find_eq_some_iff

/-- The modules share one ledger, and no two migrations a version. -/
theorem nodup_versions : (all.flatMap fun found => found.migrations.map (·.version)).Nodup := by
  decide

end ModuleMigrations

end ApiStarter.Database
