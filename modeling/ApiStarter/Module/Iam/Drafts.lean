import ApiStarter.Module.Iam.IndependentCalls
import ApiStarter.Provider.ReadCommitted

/-
  What an open transaction of `partial_update` has written.

  `Drafted` relates the draft to the statements that went through: laid over what is committed it
  shows what they do, the user they update is locked, and they name the roles in it.
  `Drafted.wrote` is the next statement of the transaction, `Drafted.rebase` the commit of an
  independent call. `Apart` is what the locks keep of two open transactions.
-/

namespace ApiStarter.Iam

open ApiStarter.Auth ApiStarter.Database ApiStarter.Provider ApiStarter.Relational

def Write.op (userId : Uuid) : Write → Op
  | columns sets => .updateUser sets userId
  | addRoles names => .insertUserRoles userId names
  | removeRoles names => .deleteUserRoles userId names

structure Drafted (pg : Postgres) (userId : Uuid) (done : List Write) (draft : Draft) (db : Db) :
    Prop where
  carried : Carried userId done db (draft.sees db)
  usersOk : UsersOk (draft.sees db)
  own : ∀ v ∈ draft.users, v.id = userId
  shown : ∀ v ∈ draft.users, v ∈ (draft.sees db).users
  /-- Without a version of the user, the statements have not updated it. -/
  locked : userId ∈ db.users.map (·.id) → draft.users = [] → ∀ u, rowAfter userId done u = u
  targeted : ∀ key, key ∈ draft.inserted ∨ key ∈ draft.deleted →
    ∃ write ∈ done, write.Targets userId db key
  sendable : ∀ write ∈ done, write.Sendable pg

/-- The transactions have written different users, and given them different addresses. -/
def Apart (draft draft' : Draft) : Prop :=
  ∀ v ∈ draft.users, ∀ v' ∈ draft'.users, v.id ≠ v'.id ∧ v.email ≠ v'.email

theorem Apart.symm {draft draft' : Draft} (h : Apart draft draft') : Apart draft' draft :=
  fun v hv v' hv' => ⟨(h v' hv' v hv).1.symm, (h v' hv' v hv).2.symm⟩

section

variable {pg : Postgres} {userId : Uuid} {done : List Write} {draft : Draft} {db after : Db}
  {write : Write}

theorem Drafted.empty (hdb : UsersOk db) : Drafted pg userId [] .empty db where
  carried := by rw [Draft.sees_empty]; exact .nil userId db
  usersOk := by rw [Draft.sees_empty]; exact hdb
  own _ hv := (List.not_mem_nil hv).elim
  shown _ hv := (List.not_mem_nil hv).elim
  locked _ _ _ := rfl
  targeted _ hkey := hkey.elim (fun h => (List.not_mem_nil h).elim)
    fun h => (List.not_mem_nil h).elim
  sendable _ hwrite := (List.not_mem_nil hwrite).elim

/-! ## The next statement -/

/-- The transaction sees the users its statement left. -/
theorem users_of_write (hpg : pg.RejectsLonger) (hids : (db.users.map (·.id)).Nodup)
    (hrun : write.run pg userId (draft.sees db) = .ok after) :
    ((draft.wrote (write.op userId) (draft.sees db) after).sees db).users = after.users := by
  have husers := (Write.carried hpg hrun).users
  cases write with
  | columns sets =>
    exact Draft.users_sees_wrote hids (rowAfter_id userId _) (fun u => rowAfter_of_ne _) husers
  | _ => exact (husers.trans (List.map_id _)).symm

theorem Drafted.own_wrote (h : Drafted pg userId done draft db) {v : UserRow}
    (hv : v ∈ (draft.wrote (write.op userId) (draft.sees db) after).users) : v.id = userId := by
  cases write with
  | columns sets =>
    rcases mem_renew.1 hv with hnew | ⟨hold, -⟩
    · exact of_decide_eq_true (List.mem_filter.1 hnew).2
    · exact h.own v hold
  | _ => exact h.own v hv

/-- The row of the user that an update left is a version of the transaction. -/
theorem mem_versions_of_update {sets : List SetClause} {u : UserRow}
    (hu : u ∈ (draft.sees db).users) (hid : u.id = userId)
    (hafter : after.users = (draft.sees db).users.map (Write.row userId (.columns sets))) :
    Write.row userId (.columns sets) u ∈ after.users.filter fun u => decide (u.id = userId) :=
  List.mem_filter.2 ⟨hafter ▸ List.mem_map_of_mem hu,
    decide_eq_true ((rowAfter_id userId [.columns sets] u).trans hid)⟩

theorem Drafted.shown_wrote (h : Drafted pg userId done draft db)
    (hafter : after.users = (draft.sees db).users.map (write.row userId)) {v : UserRow}
    (hv : v ∈ (draft.wrote (write.op userId) (draft.sees db) after).users) : v ∈ after.users := by
  cases write with
  | columns sets =>
    rcases mem_renew.1 hv with hnew | ⟨hold, hother⟩
    · exact (List.mem_filter.1 hnew).1
    · -- A version from before is of the user, who has a new one.
      have hnew := mem_versions_of_update (h.shown v hold) (h.own v hold) hafter
      exact absurd (List.mem_map.2 ⟨_, hnew, rowAfter_id userId [.columns sets] v⟩) hother
  | _ =>
    rw [hafter]
    exact List.mem_map.2 ⟨v, h.shown v hv, rfl⟩

theorem Drafted.locked_wrote (h : Drafted pg userId done draft db)
    (hafter : after.users = (draft.sees db).users.map (write.row userId))
    (huser : userId ∈ db.users.map (·.id))
    (hnone : (draft.wrote (write.op userId) (draft.sees db) after).users = []) (u : UserRow) :
    rowAfter userId (done ++ [write]) u = u := by
  cases write with
  | columns sets =>
    rw [← draft.sees_ids] at huser
    obtain ⟨x, hx, hid⟩ := List.mem_map.1 huser
    have hnew := mem_versions_of_update hx hid hafter
    exact absurd (mem_renew.2 (.inl hnew)) (hnone ▸ List.not_mem_nil)
  | _ =>
    rw [rowAfter_append, h.locked huser hnone]
    rfl

theorem Drafted.targeted_wrote (h : Drafted pg userId done draft db)
    (hcarried : Carried userId [write] (draft.sees db) after) {o : Op} {key : UserHasRoleRow}
    (hkey : key ∈ (draft.wrote o (draft.sees db) after).inserted ∨
      key ∈ (draft.wrote o (draft.sees db) after).deleted) :
    ∃ w ∈ done ++ [write], w.Targets userId db key := by
  by_contra hnone
  have hold : ¬ (key ∈ draft.inserted ∨ key ∈ draft.deleted) := fun hmem => by
    obtain ⟨w, hw, htargets⟩ := h.targeted key hmem
    exact hnone ⟨w, List.mem_append_left _ hw, htargets⟩
  have hnew : ¬ write.Targets userId (draft.sees db) key := fun htargets =>
    hnone ⟨write, List.mem_append_right _ (List.mem_singleton_self write), htargets⟩
  have hsame : key ∈ after.userHasRoles ↔ key ∈ (draft.sees db).userHasRoles :=
    (hcarried.roles key).trans (Write.holds_of_not_targets hnew)
  simp only [Draft.wrote, List.mem_append, List.mem_filter, List.contains_iff_mem,
    Bool.not_eq_true', contains_eq_false_iff] at hkey
  tauto

/-- The draft after the next statement of its transaction. -/
theorem Drafted.wrote (hpg : pg.RejectsLonger) (h : Drafted pg userId done draft db)
    (hrun : write.run pg userId (draft.sees db) = .ok after) :
    Drafted pg userId (done ++ [write])
      (draft.wrote (write.op userId) (draft.sees db) after) db := by
  have hids : (db.users.map (·.id)).Nodup := by
    rw [← draft.sees_ids]
    exact h.usersOk.ids
  have hcarried := Write.carried hpg hrun
  have husers := users_of_write hpg hids hrun
  have hroles := draft.mem_sees_wrote (write.op userId) db after
  have hboth := h.carried.append hcarried
  have hstatuses : db.userStatuses = after.userStatuses := by rw [hboth.rest]
  have hdepartments : db.departments = after.departments := by rw [hboth.rest]
  exact {
    carried := ⟨husers.trans hboth.users, fun key => (hroles key).trans (hboth.roles key), rfl⟩
    usersOk := usersOk_congr (usersOk_of_run hpg hrun h.usersOk) husers hstatuses hdepartments
    own := fun _ hv => h.own_wrote hv
    shown := fun _ hv => husers ▸ h.shown_wrote hcarried.users hv
    locked := h.locked_wrote hcarried.users
    targeted := fun _ hkey => h.targeted_wrote hcarried hkey
    sendable := by
      intro w hw
      rcases List.mem_append.1 hw with hold | hnew
      · exact h.sendable w hold
      · rw [List.mem_singleton.1 hnew]
        exact Write.sendable_of_run hrun }

/-! ## Two transactions -/

theorem mem_sees {key : UserHasRoleRow} : key ∈ (draft.sees db).userHasRoles ↔
    (key ∈ db.userHasRoles ∧ key ∉ draft.deleted) ∨ key ∈ draft.inserted :=
  mem_patched

theorem mem_sees_of_not_targeted (h : Drafted pg userId done draft db) {key : UserHasRoleRow}
    (hkey : ∀ write ∈ done, ¬ write.Targets userId db key) :
    key ∈ (draft.sees db).userHasRoles ↔ key ∈ db.userHasRoles := by
  have hnone : ¬ (key ∈ draft.inserted ∨ key ∈ draft.deleted) := fun hmem => by
    obtain ⟨write, hwrite, htargets⟩ := h.targeted key hmem
    exact hkey write hwrite htargets
  rw [mem_sees]
  tauto

/-- The row an update leaves has its old address, or one that the update sets. -/
theorem email_row (sets : List SetClause) (u : UserRow) :
    (Write.row userId (.columns sets) u).email = u.email ∨
      ∃ address, SetClause.email address ∈ sets ∧
        (Write.row userId (.columns sets) u).email = cut 100 address := by
  simp only [Write.row]
  split
  · refine SetClause.applyAll_inv (I := fun v => v.email = u.email ∨ ∃ address,
      SetClause.email address ∈ sets ∧ v.email = cut 100 address) ?_ (.inl rfl)
    intro set hset v hv
    obtain ⟨set, hmem, rfl⟩ := List.mem_map.1 hset
    cases set with
    | email address => exact .inr ⟨address, hmem, rfl⟩
    | _ => exact hv
  · exact .inl rfl

variable {env : Env} {n m : Nat} {a b : UpdateCall} {done' todo todo' : List Write}
  {draft' : Draft}

/-- A statement that does not have to wait keeps the transactions apart. -/
theorem Apart.wrote (hpg : pg.RejectsLonger) (hapart : Apart draft draft')
    {userId' : Uuid} (h' : Drafted pg userId' done' draft' db)
    (hrun : write.run pg userId (draft.sees db) = .ok after)
    (hready : draft'.locks db (write.op userId) = false) :
    Apart (draft.wrote (write.op userId) (draft.sees db) after) draft' := by
  have hafter : after.users = (draft.sees db).users.map (write.row userId) :=
    (Write.carried hpg hrun).users
  cases write with
  | columns sets =>
    intro v hv v' hv'
    have hfree := List.any_eq_false.1 hready v' hv'
    simp only [Bool.or_eq_true, beq_iff_eq, not_or] at hfree
    obtain ⟨hother, haddress⟩ := hfree
    rcases mem_renew.1 hv with hnew | ⟨hold, -⟩
    swap
    · exact hapart v hold v' hv'
    obtain ⟨hmem, hid⟩ := List.mem_filter.1 hnew
    rw [hafter] at hmem
    obtain ⟨x, hx, rfl⟩ := List.mem_map.1 hmem
    have hid := of_decide_eq_true hid
    refine ⟨fun heq => hother (heq.symm.trans hid), ?_⟩
    rcases @email_row userId sets x with hemail | ⟨address, hset, hemail⟩
    · rw [hemail]
      obtain ⟨x₀, hx₀, rfl⟩ := List.mem_map.1 hx
      rcases version_cases (·.id) draft.users x₀ with ⟨hversion, -⟩ | ⟨hversion, -⟩
      · exact (hapart _ hversion v' hv').2
      · -- The other transaction sees the committed row beside its own version.
        rw [hversion] at hid ⊢
        have hx₀id : x₀.id = userId := (rowAfter_id userId [.columns sets] x₀).symm.trans hid
        have hseen : x₀ ∈ (draft'.sees db).users := by
          refine List.mem_map.2 ⟨x₀, hx₀, version_of_ne fun w hw hwid => ?_⟩
          have hwfree := List.any_eq_false.1 hready w hw
          simp only [Bool.or_eq_true, beq_iff_eq, not_or] at hwfree
          exact hwfree.1 (hwid.trans hx₀id)
        intro heq
        have hsame := eq_of_key_eq h'.usersOk.emails hseen (h'.shown v' hv') heq
        exact hother (hsame ▸ hx₀id)
    · rw [hemail]
      intro heq
      refine haddress (List.any_eq_true.2 ⟨_, hset, ?_⟩)
      simp only [Bool.or_eq_true, beq_iff_eq]
      exact .inl heq.symm
  | _ => exact hapart

/-- Each transaction sees its own users, whether or not the other one has committed. -/
theorem Drafted.users_rebase (h : Drafted pg userId done draft db) (hapart : Apart draft draft') :
    (draft.sees (draft'.sees db)).users = (draft'.sees db).users.map (rowAfter userId done) := by
  have hversion : ∀ x ∈ db.users, version (·.id) draft.users x = rowAfter userId done x :=
    List.map_inj_left.1 h.carried.users
  refine List.map_congr_left fun y hy => ?_
  obtain ⟨x, hx, rfl⟩ := List.mem_map.1 hy
  have hid := key_version (·.id) draft'.users x
  by_cases hown : ∃ v ∈ draft.users, v.id = x.id
  · obtain ⟨v, hv, hvid⟩ := hown
    rcases version_cases (·.id) draft'.users x with ⟨hmem, -⟩ | ⟨hrow, -⟩
    · exact absurd (hvid.trans hid.symm) (hapart v hv _ hmem).1
    · rw [hrow]
      exact hversion x hx
  · have hnone : ∀ v ∈ draft.users, v.id ≠ x.id := fun v hv hvid => hown ⟨v, hv, hvid⟩
    rw [version_of_ne fun v hv => by rw [hid]; exact hnone v hv]
    by_cases huser : x.id = userId
    · have hempty : draft.users = [] :=
        List.eq_nil_iff_forall_not_mem.2 fun v hv => hnone v hv ((h.own v hv).trans huser.symm)
      exact (h.locked (List.mem_map.2 ⟨x, hx, huser⟩) hempty _).symm
    · exact (rowAfter_of_ne done (by rwa [hid])).symm

theorem Drafted.roles_rebase (h : Drafted pg a.userId done draft db)
    (h' : Drafted pg b.userId done' draft' db) (hindependent : Independent a b)
    (ha : Sends env n a.fields (done ++ todo)) (hb : Sends env m b.fields (done' ++ todo'))
    (hids : (db.roles.map (·.id)).Nodup) (key : UserHasRoleRow) :
    key ∈ (draft.sees (draft'.sees db)).userHasRoles ↔
      holdsAfter a.userId db key done (key ∈ (draft'.sees db).userHasRoles) := by
  by_cases htargets : ∃ write ∈ done, write.Targets a.userId db key
  · obtain ⟨write, hwrite, htargets⟩ := htargets
    have hother := mem_sees_of_not_targeted h' fun write' hwrite' =>
      not_targets_of_targets hindependent ha hb hids (List.mem_append_left _ hwrite) htargets
        (List.mem_append_left _ hwrite')
    rw [mem_sees, propext hother, ← mem_sees]
    exact h.carried.roles key
  · have hnone : ∀ write ∈ done, ¬ write.Targets a.userId db key := fun write hwrite ht =>
      htargets ⟨write, hwrite, ht⟩
    have hkey : ¬ (key ∈ draft.inserted ∨ key ∈ draft.deleted) := fun hmem => by
      obtain ⟨write, hwrite, ht⟩ := h.targeted key hmem
      exact hnone write hwrite ht
    rw [mem_sees, propext (holdsAfter_of_not_targets hnone)]
    tauto

theorem Drafted.usersOk_rebase (h : Drafted pg userId done draft db) {userId' : Uuid}
    (h' : Drafted pg userId' done' draft' db) (hapart : Apart draft draft') :
    UsersOk (draft.sees (draft'.sees db)) := by
  refine usersOk_of ?_ ?_ ?_ fun u hu => ?_
  · rw [Draft.sees_ids]
    exact h'.usersOk.ids
  · rw [h.users_rebase hapart, List.map_map]
    exact (List.map_congr_left fun u _ => rowAfter_userName userId done u) ▸ h'.usersOk.userNames
  · exact nodup_map_merged h.usersOk.emails h'.usersOk.emails fun v hv v' hv' =>
      (hapart v hv v' hv').2
  · obtain ⟨x, hx, rfl⟩ := List.mem_map.1 hu
    rcases version_cases (·.id) draft.users x with ⟨hmem, -⟩ | ⟨hrow, -⟩
    · exact h.usersOk.references (h.shown _ hmem)
    · rw [hrow]
      exact h'.usersOk.references hx

/-- A transaction that is open while an independent call commits. -/
theorem Drafted.rebase (h : Drafted pg a.userId done draft db)
    (h' : Drafted pg b.userId done' draft' db) (hapart : Apart draft draft')
    (hindependent : Independent a b) (ha : Sends env n a.fields (done ++ todo))
    (hb : Sends env m b.fields (done' ++ todo')) (hids : (db.roles.map (·.id)).Nodup) :
    Drafted pg a.userId done draft (draft'.sees db) where
  carried := ⟨h.users_rebase hapart, h.roles_rebase h' hindependent ha hb hids, rfl⟩
  usersOk := h.usersOk_rebase h' hapart
  own := h.own
  shown v hv := by
    obtain ⟨x, hx, hxv⟩ := List.mem_map.1 (h.shown v hv)
    have hid : v.id = x.id := by
      rw [← hxv]
      exact key_version (·.id) draft.users x
    refine List.mem_map.2 ⟨version (·.id) draft'.users x, List.mem_map_of_mem hx, ?_⟩
    have hkey := key_version (·.id) draft'.users x
    exact (version_congr hkey hv (hid.trans hkey.symm)).trans hxv
  locked huser := h.locked (by rwa [Draft.sees_ids] at huser)
  targeted := h.targeted
  sendable := h.sendable

end

end ApiStarter.Iam
