import ApiStarter.Package.Rbac.Decisions
import Mathlib.Data.List.TakeWhile

/-
  Action strings: `resource + "." + name`, cut at the first dot.

  The cut gives the permission back if its resource has no dot, and never does otherwise. So an
  action stands for one permission among those whose resources have no dot.
-/

namespace ApiStarter.Rbac

open ApiStarter.Database ApiStarter.Effect ApiStarter.Provider

/-- The action string of a permission. -/
def Permission.action (p : Permission) : String := p.resource ++ "." ++ p.name

def Permission.DotFree (p : Permission) : Prop := '.' ∉ p.resource.toList

instance (p : Permission) : Decidable p.DotFree := inferInstanceAs (Decidable (_ ∉ _))

theorem Permission.toList_action (p : Permission) :
    p.action.toList = p.resource.toList ++ '.' :: p.name.toList := by
  rw [action, String.toList_append, String.toList_append, List.append_assoc]
  rfl

/-- What comes before the first dot has none. -/
theorem splitAction_dotFree {action resource permission : String}
    (h : splitAction action = some (resource, permission)) : '.' ∉ resource.toList := by
  unfold splitAction at h
  dsimp only at h
  split at h
  · cases h
    rw [String.toList_ofList]
    intro hdot
    exact absurd (List.mem_takeWhile_imp hdot) (by decide)
  · cases h

/-- An action of a resource without a dot splits into its parts. -/
theorem Permission.splitAction_action {p : Permission} (h : p.DotFree) :
    splitAction p.action = some (p.resource, p.name) := by
  have hall : ∀ c ∈ p.resource.toList, decide (c ≠ '.') = true := fun c hc =>
    decide_eq_true fun heq => h (heq ▸ hc)
  unfold splitAction
  dsimp only
  rw [toList_action, if_pos (by simp), List.takeWhile_append_of_pos hall,
    List.dropWhile_append_of_pos hall]
  simp [String.ofList_toList]

/-- An action always has a dot to split at. -/
theorem Permission.exists_splitAction (p : Permission) :
    ∃ q : Permission, splitAction p.action = some (q.resource, q.name) := by
  unfold splitAction
  dsimp only
  rw [toList_action, if_pos (by simp)]
  exact ⟨⟨_, _⟩, rfl⟩

theorem Permission.action_injective {p q : Permission} (hp : p.DotFree) (hq : q.DotFree)
    (h : p.action = q.action) : p = q := by
  obtain ⟨resource, name⟩ := p
  obtain ⟨resource', name'⟩ := q
  have hsplit := splitAction_action hp
  rw [h, splitAction_action hq] at hsplit
  cases hsplit
  rfl

/-! ## What the stored permissions decide -/

namespace PostgresRbacStore

/-- The permission is among those granted to the user. -/
def Holds (db : Db) (userId : Uuid) (p : Permission) : Prop :=
  ∃ row, HeldBy db userId row ∧ row.resource = some p.resource ∧ row.name = some p.name

/-- No permission granted to the user has a NULL part. -/
def Unbroken (db : Db) (userId : Uuid) : Prop :=
  ∀ row, HeldBy db userId row → row.resource ≠ none ∧ row.name ≠ none

section

variable {db : Db} {superRole : String} {userId : Uuid} {action : String} {q : Permission}

theorem bypasses_store :
    (store db).Bypasses superRole userId ↔ superRole ∈ getRoles db userId := by
  simp [Store.Bypasses, store]

theorem grants_store (h : splitAction action = some (q.resource, q.name)) :
    (store db).Grants userId action ↔ Holds db userId q := by
  simp only [Store.Grants, store, h, Option.some.injEq, Prod.mk.injEq, Except.ok.injEq]
  constructor
  · rintro ⟨_, _, ⟨rfl, rfl⟩, hgranted⟩
    obtain ⟨row, hrow, hparts⟩ := hasPermission_eq_true.1 hgranted
    exact ⟨row, mem_grantedPermissions.1 hrow, hparts⟩
  · rintro ⟨row, hrow, hparts⟩
    exact ⟨_, _, ⟨rfl, rfl⟩,
      hasPermission_eq_true.2 ⟨row, mem_grantedPermissions.2 hrow, hparts⟩⟩

/-- The list of a user's permissions cannot be read if one of them has a NULL part. -/
theorem lists_store (h : splitAction action = some (q.resource, q.name)) :
    (store db).Lists userId [action] ↔ Unbroken db userId ∧ Holds db userId q := by
  have hone : ∀ P : String → Prop, (∃ a ∈ [action], P a) ↔ P action := by simp
  constructor
  · intro hlists
    obtain ⟨permissions, hanswer, -⟩ := id hlists
    have hunbroken : Unbroken db userId := fun row hrow =>
      (mapM_decodePermission_ok hanswer).1 row (mem_grantedPermissions.2 hrow)
    rw [((agreesAt_iff db userId).2 hunbroken).lists_iff, hone, grants_store h] at hlists
    exact ⟨hunbroken, hlists⟩
  · rintro ⟨hunbroken, hholds⟩
    rw [((agreesAt_iff db userId).2 hunbroken).lists_iff, hone, grants_store h]
    exact hholds

end

/-- The user of the seed as a member of the staff, whose role grants the given permissions. -/
def staffed (rows : List PermissionRow) : Db :=
  { Db.seed 0 with
    permissions := rows
    roleHasPermissions := rows.map fun row => ⟨3, row.id⟩
    userHasRoles := [⟨0, 3⟩] }

theorem admissible_staffed (name resource : String) :
    (staffed [⟨1, some name, some resource, none⟩]).Admissible := by
  constructor <;> simp [staffed, Db.seed]

theorem holds_staffed {name resource : String} {p : Permission} :
    Holds (staffed [⟨1, some name, some resource, none⟩]) 0 p ↔ p = ⟨resource, name⟩ := by
  obtain ⟨resource', name'⟩ := p
  simp [Holds, HeldBy, staffed, eq_comm]

theorem unbroken_staffed {name resource : String} :
    Unbroken (staffed [⟨1, some name, some resource, none⟩]) 0 := by
  simp [Unbroken, HeldBy, staffed]

end PostgresRbacStore

open PostgresRbacStore (store Holds Unbroken staffed admissible_staffed holds_staffed
  unbroken_staffed)

/-- Both methods decide the permission by its action, whatever is granted to whoever has not the
    super role; `can_any` needs to read all that is granted. -/
def Permission.Identified (p : Permission) : Prop :=
  ∀ {S : Type} (rest : Handler Op Res S) (superRole : String) (userId : Uuid) (db : Db) (s : S),
    db.Admissible → superRole ∉ PostgresRbacStore.getRoles db userId →
    (((RbacEngine.can superRole userId p.action).run ((store db).within rest) s).1 = some true ↔
      Holds db userId p) ∧
    (((RbacEngine.canAny superRole userId [p.action]).run ((store db).within rest) s).1 =
      some true ↔ Unbroken db userId ∧ Holds db userId p)

theorem Permission.identified_iff (p : Permission) : p.Identified ↔ p.DotFree := by
  obtain ⟨q, hsplit⟩ := p.exists_splitAction
  constructor
  · intro h
    -- What the action is cut into is all that the user is granted.
    have hgranted := (h (exec sampleEnv Faults.none) "Admin" 0
      (staffed [⟨1, some q.name, some q.resource, none⟩]) sampleWorld (admissible_staffed _ _)
      (by simp [PostgresRbacStore.getRoles, staffed, Db.seed])).1
    rw [RbacEngine.can_eq_true, PostgresRbacStore.grants_store hsplit, holds_staffed,
      holds_staffed] at hgranted
    obtain rfl := hgranted.1 (.inr rfl)
    exact splitAction_dotFree hsplit
  · intro h S rest superRole userId db s _ hrole
    have hsplit' := splitAction_action h
    rw [RbacEngine.can_eq_true, RbacEngine.canAny_eq_true, PostgresRbacStore.bypasses_store,
      or_iff_right hrole, or_iff_right hrole, PostgresRbacStore.grants_store hsplit',
      PostgresRbacStore.lists_store hsplit']
    exact ⟨Iff.rfl, Iff.rfl⟩

/-- An action identifies a permission whose resource has no dot, and two of these never share an
    action. -/
theorem actions_identify_permissions :
    (∀ p : Permission, p.Identified ↔ p.DotFree) ∧
      ∀ p q : Permission, p.DotFree → q.DotFree → p.action = q.action → p = q :=
  ⟨Permission.identified_iff, fun _ _ => Permission.action_injective⟩

/-- A name may have dots. -/
theorem actions_identify_permissions_sample :
    ((RbacEngine.can "Admin" 0 "Users.Admin.Delete").run
      ((store (staffed [⟨1, some "Admin.Delete", some "Users", none⟩])).within
        (exec sampleEnv Faults.none)) sampleWorld).1 = some true ∧
    ((RbacEngine.canAny "Admin" 0 ["Users.Admin.Delete"]).run
      ((store (staffed [⟨1, some "Admin.Delete", some "Users", none⟩])).within
        (exec sampleEnv Faults.none)) sampleWorld).1 = some true ∧
    (⟨"Users", "Admin.Delete"⟩ : Permission).action ≠
      (⟨"Roles", "Admin.Delete"⟩ : Permission).action := by
  have hidentified := ((actions_identify_permissions.1 ⟨"Users", "Admin.Delete"⟩).2
    (by decide +kernel)) (exec sampleEnv Faults.none) "Admin" 0
      (staffed [⟨1, some "Admin.Delete", some "Users", none⟩]) sampleWorld (admissible_staffed _ _)
      (by decide)
  have haction : (⟨"Users", "Admin.Delete"⟩ : Permission).action = "Users.Admin.Delete" := by
    decide +kernel
  rw [haction] at hidentified
  refine ⟨hidentified.1.2 (holds_staffed.2 rfl),
    hidentified.2.2 ⟨unbroken_staffed, holds_staffed.2 rfl⟩, fun hsame => ?_⟩
  exact absurd (actions_identify_permissions.2 _ _ (by decide +kernel) (by decide +kernel) hsame)
    (by decide)

/-- `Users.Admin` with `Delete` and `Users` with `Admin.Delete` share an action; who holds the
    second is taken to hold the first, and who holds the first is not. A permission without a name
    hides the others from `can_any`. -/
theorem dotted_resource_is_mistaken :
    (⟨"Users.Admin", "Delete"⟩ : Permission).action =
      (⟨"Users", "Admin.Delete"⟩ : Permission).action ∧
    (staffed [⟨1, some "Admin.Delete", some "Users", none⟩]).Admissible ∧
    ((RbacEngine.can "Admin" 0 "Users.Admin.Delete").run
      ((store (staffed [⟨1, some "Admin.Delete", some "Users", none⟩])).within
        (exec sampleEnv Faults.none)) sampleWorld).1 = some true ∧
    (staffed [⟨1, some "Delete", some "Users.Admin", none⟩]).Admissible ∧
    ((RbacEngine.can "Admin" 0 "Users.Admin.Delete").run
      ((store (staffed [⟨1, some "Delete", some "Users.Admin", none⟩])).within
        (exec sampleEnv Faults.none)) sampleWorld).1 = some false ∧
    (staffed [⟨1, some "Delete", some "Users", none⟩, ⟨2, none, some "Users", none⟩]).Admissible ∧
    ((RbacEngine.canAny "Admin" 0 ["Users.Delete"]).run
      ((store (staffed [⟨1, some "Delete", some "Users", none⟩,
        ⟨2, none, some "Users", none⟩])).within (exec sampleEnv Faults.none)) sampleWorld).1 =
          some false := by
  refine ⟨by decide +kernel, admissible_staffed _ _, by decide +kernel, admissible_staffed _ _,
    by decide +kernel, ?_, by decide +kernel⟩
  constructor <;> decide

end ApiStarter.Rbac
