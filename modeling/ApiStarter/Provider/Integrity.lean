import ApiStarter.Provider.System

/-
  The constraints of the migrations hold in every reachable state, committed or not.
-/

namespace ApiStarter.Provider

open ApiStarter.Auth ApiStarter.Database ApiStarter.Effect ApiStarter.Iam
  ApiStarter.Relational

theorem admissible_insertUser {pg : Postgres} {newId userId : Uuid} {user : CreateUser}
    {db db' : Db} (hpg : pg.RejectsLonger) (hdb : db.Admissible)
    (h : insertUser pg newId user db = .ok (userId, db')) : db'.Admissible := by
  obtain ⟨-, hw⟩ := insertUser_ok hpg h
  refine admissible_of_writeUsers hdb (fun i hi => ?_) hw
  rw [List.map_append]
  exact List.mem_append_left _ hi

theorem admissible_updateUser {pg : Postgres} {sets : List SetClause} {userId : Uuid}
    {db db' : Db} (hpg : pg.RejectsLonger) (hdb : db.Admissible)
    (h : updateUser pg sets userId db = .ok db') : db'.Admissible := by
  refine admissible_of_writeUsers hdb (fun i hi => ?_) (updateUser_ok hpg h)
  rwa [map_updateWhere fun u => SetClause.applyAll_id _ u]

theorem admissible_insertUserRoles {userId : Uuid} {names : List String} {db db' : Db}
    (hdb : db.Admissible) (h : insertUserRoles userId names db = .ok db') : db'.Admissible := by
  obtain ⟨added, rfl, hadded, huser, hnodup⟩ := insertUserRoles_ok h
  have hids : ((rolesNamed db names).map (·.id)).Nodup :=
    hdb.roleIds.sublist (List.filter_sublist.map _)
  exact { hdb with
    userRoles := by
      refine List.nodup_append'.2 ⟨hdb.userRoles, hnodup hids, fun uhr hold hnew => ?_⟩
      exact ((hadded uhr).1 hnew).1 hold
    userRoleUser := by
      intro uhr huhr
      rcases List.mem_append.1 huhr with hold | hnew
      · exact hdb.userRoleUser uhr hold
      · rw [((hadded uhr).1 hnew).2.1]
        exact huser (List.ne_nil_of_mem hnew)
    userRoleRole := by
      intro uhr huhr
      rcases List.mem_append.1 huhr with hold | hnew
      · exact hdb.userRoleRole uhr hold
      · obtain ⟨-, -, r, hr, hid⟩ := (hadded uhr).1 hnew
        exact List.mem_map.2 ⟨r, (mem_rolesNamed.1 hr).1, hid⟩ }

theorem admissible_deleteUserRoles {userId : Uuid} {names : List String} {db db' : Db}
    (hdb : db.Admissible) (h : deleteUserRoles userId names db = .ok db') : db'.Admissible := by
  obtain ⟨kept, rfl, hsub, -⟩ := deleteUserRoles_ok h
  exact { hdb with
    userRoles := hdb.userRoles.sublist hsub
    userRoleUser := fun uhr huhr => hdb.userRoleUser uhr (hsub.subset huhr)
    userRoleRole := fun uhr huhr => hdb.userRoleRole uhr (hsub.subset huhr) }

/-- A new password hash touches no key. -/
theorem admissible_resetPassword {email hash : String} {db : Db} (hdb : db.Admissible) :
    (PostgresAuthStore.resetPassword email hash db).Admissible := by
  have hkeep : ∀ {κ : Type} (key : UserRow → κ),
      (∀ u : UserRow, key { u with password := hash } = key u) →
      (PostgresAuthStore.resetPassword email hash db).users.map key = db.users.map key :=
    fun key hkey => map_updateWhere hkey db.users
  have hrow : ∀ u ∈ (PostgresAuthStore.resetPassword email hash db).users,
      ∃ v ∈ db.users, u.statusId = v.statusId ∧ u.departmentId = v.departmentId := by
    intro u hu
    obtain ⟨v, hv, rfl⟩ := mem_updateWhere.1 hu
    refine ⟨v, hv, ?_⟩
    split <;> exact ⟨rfl, rfl⟩
  exact { hdb with
    userIds := by rw [hkeep _ fun _ => rfl]; exact hdb.userIds
    userNames := by rw [hkeep _ fun _ => rfl]; exact hdb.userNames
    userEmails := by rw [hkeep _ fun _ => rfl]; exact hdb.userEmails
    userStatus := by
      intro u hu
      obtain ⟨v, hv, hstatus, -⟩ := hrow u hu
      exact hstatus ▸ hdb.userStatus v hv
    userDepartment := by
      intro u hu
      obtain ⟨v, hv, -, hdept⟩ := hrow u hu
      exact hdept ▸ hdb.userDepartment v hv
    userRoleUser := by
      intro uhr huhr
      rw [hkeep _ fun _ => rfl]
      exact hdb.userRoleUser uhr huhr }

theorem preservedBy_admissible {env : Env} (hpg : env.pg.RejectsLonger) (P : Op → Prop) :
    PreservedBy env P Db.Admissible where
  createPasswordReset _ _ _ _ _ hdb := { hdb with }
  resetPassword _ _ _ _ hdb := admissible_resetPassword hdb
  deletePasswordReset _ _ _ hdb := { hdb with }
  insertUser _ _ _ _ _ _ hdb h := admissible_insertUser hpg hdb h
  updateUser _ _ _ _ _ hdb h := admissible_updateUser hpg hdb h
  insertUserRoles _ _ _ _ _ hdb h := admissible_insertUserRoles hdb h
  deleteUserRoles _ _ _ _ _ hdb h := admissible_deleteUserRoles hdb h

/-- Every state of every sequential run satisfies the constraints. -/
theorem run_admissible {env : Env} {config : AuthConfig} {faults : Faults}
    (hpg : env.pg.RejectsLonger) {w w' : World} {events : List Event}
    (h : Run (Step env config faults) w events w') (hw : InDb Db.Admissible w) :
    InDb Db.Admissible w' := by
  refine h.inv (fun s l s' hs hstep => ?_) hw
  cases hstep with
  | called h => exact perform_inDb (preservedBy_admissible hpg _) h hs
  | elapsed n w => exact inDb_of_eq rfl rfl hs

end ApiStarter.Provider
