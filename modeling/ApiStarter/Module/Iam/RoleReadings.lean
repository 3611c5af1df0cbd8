import ApiStarter.Module.Iam.Visibility

/-
  The three readings of a user's roles.

  The identity takes them from a join, the authorization decision from a sub-select, and the
  profile from a second join. `heldRoles` is what all three are to return. The primary key of
  `user_has_roles` gives a role at most one partner in the joins, so they repeat no role, and
  the key of `roles` makes the sub-select list each one once. No statement has an `ORDER BY`:
  the rows are compared up to their order.
-/

namespace ApiStarter.Iam

open ApiStarter.Auth ApiStarter.Database ApiStarter.Effect ApiStarter.Effect.Fallible
  ApiStarter.Provider ApiStarter.Rbac ApiStarter.Relational

/-- The roles a row of `iam.user_has_roles` gives to the user. -/
def heldRoles (db : Db) (userId : Uuid) : List RoleRow :=
  db.roles.filter fun r => decide (⟨userId, r.id⟩ ∈ db.userHasRoles)

theorem mem_heldRoles {db : Db} {userId : Uuid} {r : RoleRow} :
    r ∈ heldRoles db userId ↔ r ∈ db.roles ∧ ⟨userId, r.id⟩ ∈ db.userHasRoles := by
  unfold heldRoles
  rw [List.mem_filter, decide_eq_true_eq]

theorem nodup_heldRoles {db : Db} (hdb : db.Admissible) (userId : Uuid) :
    ((heldRoles db userId).map (·.name)).Nodup :=
  hdb.roleNames.sublist (List.filter_sublist.map _)

/-- A role has at most one row for the user. -/
theorem length_partners_le_one {db : Db} (hdb : db.Admissible) (userId : Uuid) (r : RoleRow) :
    ((db.userHasRoles.filter fun uhr => uhr.userId == userId).filter
      fun uhr => r.id == uhr.roleId).length ≤ 1 := by
  have hroles : (((db.userHasRoles.filter fun uhr => uhr.userId == userId)).map
      UserHasRoleRow.roleId).Nodup := ?_
  · exact length_filter_key_le_one hroles r.id
  refine List.Nodup.map_on ?_ (hdb.userRoles.filter _)
  intro x hx y hy hrole
  obtain ⟨xu, xr⟩ := x
  obtain ⟨yu, yr⟩ := y
  rw [List.mem_filter, beq_iff_eq] at hx hy
  rw [show xr = yr from hrole, show xu = userId from hx.2, show yu = userId from hy.2]

theorem any_partner (db : Db) (userId : Uuid) (r : RoleRow) :
    (db.userHasRoles.filter fun uhr => uhr.userId == userId).any (fun uhr => r.id == uhr.roleId) =
      decide (⟨userId, r.id⟩ ∈ db.userHasRoles) := by
  rw [Bool.eq_iff_iff, List.any_eq_true, decide_eq_true_eq]
  constructor
  · intro h
    obtain ⟨⟨id, roleId⟩, hmem, hrole⟩ := h
    rw [List.mem_filter, beq_iff_eq] at hmem
    obtain ⟨hmem, rfl⟩ := hmem
    rwa [beq_iff_eq.1 hrole]
  · exact fun h => ⟨_, List.mem_filter.2 ⟨h, beq_self_eq_true _⟩, beq_self_eq_true _⟩

/-! ## The two joins -/

theorem selectUserRoles_eq {db : Db} (hdb : db.Admissible) (userId : Uuid) :
    selectUserRoles db userId = heldRoles db userId := by
  unfold selectUserRoles heldRoles
  rw [map_fst_innerJoin _ _ _ (length_partners_le_one hdb userId)]
  exact List.filter_congr fun r _ => any_partner db userId r

/-- The join of the auth store is the one of the repository, without the ids. -/
theorem getUserRoles_eq_map (db : Db) (userId : Uuid) :
    PostgresAuthStore.getUserRoles db userId = (selectUserRoles db userId).map (·.name) := by
  unfold PostgresAuthStore.getUserRoles selectUserRoles
  rw [List.map_map]
  rfl

/-! ## The sub-select -/

theorem getRoles_eq (db : Db) (userId : Uuid) :
    PostgresRbacStore.getRoles db userId = (heldRoles db userId).map (·.name) := by
  unfold PostgresRbacStore.getRoles heldRoles
  congr 1
  refine List.filter_congr fun r _ => ?_
  rw [← any_partner]
  exact congrArg _ (funext fun uhr => BEq.comm)

/-! ## The method of the repository -/

theorem runE_getUserRoles {env : Env} {faults : Faults} {w : World}
    (h : faults.store w.statements = none) (userId : Uuid) :
    runE (exec env faults) (PgUserRepository.getUserRoles userId) w =
      (some (.ok ((selectUserRoles w.db userId).map fun r => { roleId := r.id, name := r.name })),
        w.counted) := by
  unfold PgUserRepository.getUserRoles
  rw [runE_ask_bind, exec_selectUserRoles h]
  rfl

/-- The three readings name the held roles, each once. -/
theorem role_readings_agree {db : Db} (hdb : db.Admissible) (userId : Uuid) :
    ((heldRoles db userId).map (·.name)).Nodup ∧
    (PostgresAuthStore.getUserRoles db userId).Perm ((heldRoles db userId).map (·.name)) ∧
    (PostgresRbacStore.getRoles db userId).Perm ((heldRoles db userId).map (·.name)) ∧
    ∀ env faults (w : World), w.db = db → faults.store w.statements = none →
      ∃ roles, runE (exec env faults) (PgUserRepository.getUserRoles userId) w =
          (some (.ok roles), w.counted) ∧
        (roles.map (·.name)).Perm ((heldRoles db userId).map (·.name)) := by
  refine ⟨nodup_heldRoles hdb userId, ?_, ?_, ?_⟩
  · rw [getUserRoles_eq_map, selectUserRoles_eq hdb]
  · rw [getRoles_eq]
  · intro env faults w hw hup
    subst hw
    refine ⟨_, runE_getUserRoles hup userId, ?_⟩
    rw [List.map_map, selectUserRoles_eq hdb]
    exact List.Perm.refl _

/-- The seeded database, where the administrator has been given the other roles as well. -/
def threeRoles : Db :=
  { Db.seed sampleAdmin with
    userHasRoles := [⟨sampleAdmin, 3⟩, ⟨sampleAdmin, 1⟩, ⟨sampleAdmin, 2⟩] }

theorem threeRoles_admissible : threeRoles.Admissible :=
  { Db.admissible_seed sampleAdmin with
    userRoles := by decide
    userRoleUser := by decide
    userRoleRole := by decide }

theorem role_readings_agree_sample :
    (PostgresAuthStore.getUserRoles threeRoles sampleAdmin).Perm ["Admin", "Developer", "Staff"] ∧
    (PostgresRbacStore.getRoles threeRoles sampleAdmin).Perm ["Admin", "Developer", "Staff"] ∧
    ∃ roles, runE (exec sampleEnv Faults.none) (PgUserRepository.getUserRoles sampleAdmin)
        (World.init threeRoles 0) = (some (.ok roles), (World.init threeRoles 0).counted) ∧
      (roles.map (·.name)).Perm ["Admin", "Developer", "Staff"] := by
  have hheld : (heldRoles threeRoles sampleAdmin).map (·.name) = ["Admin", "Developer", "Staff"] := by
    decide
  obtain ⟨-, hidentity, hengine, hprofile⟩ :=
    role_readings_agree threeRoles_admissible sampleAdmin
  rw [hheld] at hidentity hengine hprofile
  exact ⟨hidentity, hengine, hprofile sampleEnv Faults.none _ rfl rfl⟩

end ApiStarter.Iam
