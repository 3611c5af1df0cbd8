import ApiStarter.Database.Widths
import ApiStarter.Package.Rbac.Engine
import ApiStarter.Provider.SampleEnv

/-
  What `RbacEngine` decides on any store.

  The engine asks a `Store` at most twice and swallows its errors. `run_can` and `run_canAny`
  say what it makes of the answers; from them: it fails closed, its two methods agree on a store
  whose queries agree, and an action string identifies a permission as long as the resource has
  no dot.
-/

namespace ApiStarter.Rbac

open ApiStarter.Database ApiStarter.Effect ApiStarter.Provider

/-- The trait `Store`: what a store answers to the three queries. -/
structure Store where
  getRoles : Uuid → Except SqlxError (List String)
  getPermissions : Uuid → Except SqlxError (List Permission)
  hasPermission : Uuid → String → String → Except SqlxError Bool

namespace Store

variable {S : Type} (store : Store)

/-- Surroundings in which the store answers the engine. -/
def within (rest : Handler Op Res S) : Handler Op Res S
  | .getRoles userId, s => (store.getRoles userId, (rest (.getRoles userId) s).2)
  | .getPermissions userId, s => (store.getPermissions userId, (rest (.getPermissions userId) s).2)
  | .hasPermission userId resource permission, s =>
    (store.hasPermission userId resource permission,
      (rest (.hasPermission userId resource permission) s).2)
  | o, s => rest o s

variable (superRole : String) (userId : Uuid)

/-- The user holds the super role, as far as the store says. -/
def Bypasses : Prop := ∃ roles, store.getRoles userId = .ok roles ∧ superRole ∈ roles

/-- The store grants what the action splits into. -/
def Grants (action : String) : Prop :=
  ∃ resource permission, splitAction action = some (resource, permission) ∧
    store.hasPermission userId resource permission = .ok true

/-- The store lists what one of the actions splits into. -/
def Lists (actions : List String) : Prop :=
  ∃ permissions, store.getPermissions userId = .ok permissions ∧
    ∃ action ∈ actions, ∃ resource permission, splitAction action = some (resource, permission) ∧
      ⟨resource, permission⟩ ∈ permissions

end Store

/-! ## The map of granted permissions -/

namespace RbacEngine

/-- `granted.get(resource).is_some_and(|names| names.contains(&permission))` -/
def inMap (granted : List (String × List String)) (resource permission : String) : Bool :=
  match granted.lookup resource with
  | none => false
  | some names => names.contains permission

theorem inMap_cons (resource' : String) (names : List String)
    (granted : List (String × List String)) (resource permission : String) :
    inMap ((resource', names) :: granted) resource permission =
      if resource = resource' then names.contains permission
      else inMap granted resource permission := by
  unfold inMap
  rw [List.lookup_cons]
  by_cases h : resource = resource'
  · rw [if_pos h, beq_iff_eq.2 h]
  · rw [if_neg h, beq_eq_false_iff_ne.2 h]

/-- Granting one permission adds just that one. -/
theorem inMap_grant (p : Permission) (granted : List (String × List String))
    (resource permission : String) :
    inMap (grant p granted) resource permission = true ↔
      p = ⟨resource, permission⟩ ∨ inMap granted resource permission = true := by
  obtain ⟨r, n⟩ := p
  rw [Permission.mk.injEq]
  induction granted with
  | nil =>
    rw [grant, inMap_cons]
    split
    next h => simp [inMap, h, eq_comm (a := n)]
    next h => simp [inMap, Ne.symm h]
  | cons entry granted ih =>
    obtain ⟨resource', names⟩ := entry
    rw [grant]
    split
    next h =>
      rw [inMap_cons, inMap_cons]
      split
      next h' => simp [h', h, or_comm, eq_comm (a := n)]
      next h' => simp [h ▸ Ne.symm h']
    next h =>
      rw [inMap_cons, inMap_cons]
      split
      next h' =>
        have hne : ¬ r = resource := fun heq => h (h'.symm.trans heq.symm)
        simp [hne]
      next => exact ih

theorem inMap_foldl (permissions : List Permission) (granted : List (String × List String))
    (resource permission : String) :
    inMap (permissions.foldl (fun granted p => grant p granted) granted) resource permission =
        true ↔
      ⟨resource, permission⟩ ∈ permissions ∨ inMap granted resource permission = true := by
  induction permissions generalizing granted with
  | nil => simp
  | cons p permissions ih =>
    rw [List.foldl_cons, ih, inMap_grant, List.mem_cons, eq_comm (a := p)]
    tauto

theorem inMap_grantedMap (permissions : List Permission) (resource permission : String) :
    inMap (grantedMap permissions) resource permission = true ↔
      ⟨resource, permission⟩ ∈ permissions := by
  rw [grantedMap, inMap_foldl]
  exact or_iff_left Bool.false_ne_true

/-- The last expression of `can_any`. -/
def anyInMap (granted : List (String × List String)) (actions : List String) : Bool :=
  actions.any fun action => match splitAction action with
    | none => false
    | some (resource, permission) => inMap granted resource permission

theorem anyInMap_grantedMap (permissions : List Permission) (actions : List String) :
    anyInMap (grantedMap permissions) actions = true ↔
      ∃ action ∈ actions, ∃ resource permission,
        splitAction action = some (resource, permission) ∧
          ⟨resource, permission⟩ ∈ permissions := by
  rw [anyInMap, List.any_eq_true]
  refine exists_congr fun action => and_congr_right fun _ => ?_
  cases splitAction action with
  | none => simp
  | some parts =>
    obtain ⟨resource, permission⟩ := parts
    simp [inMap_grantedMap]

/-! ## What the engine decides -/

section

variable {S : Type} (store : Store) (superRole : String) (userId : Uuid)
  (rest : Handler Op Res S) (s : S)

/-- Both methods ask for the roles first. -/
theorem run_roleBypass :
    ∃ b s', (roleBypass superRole userId).run (store.within rest) s = (some b, s') ∧
      (b = true ↔ store.Bypasses superRole userId) := by
  change ∃ b s', Prog.run _ (Prog.call _ _) s = _ ∧ _
  rw [Prog.run_call]
  cases h : store.getRoles userId with
  | error e =>
    refine ⟨false, _, by dsimp only [Store.within]; rw [h]; rfl, ?_⟩
    simp [Store.Bypasses, h]
  | ok roles =>
    refine ⟨roles.contains superRole, _, by dsimp only [Store.within]; rw [h]; rfl, ?_⟩
    simp [Store.Bypasses, h]

/-- A holder of the super role is let through, and the rest is asked for everyone else. -/
theorem run_afterBypass {next : Prog Op Res Bool} {Allows : Prop}
    (h : ∀ s', ∃ b, (next.run (store.within rest) s').1 = some b ∧ (b = true ↔ Allows)) :
    ∃ b, ((roleBypass superRole userId >>= fun bypass =>
        if bypass then pure true else next).run (store.within rest) s).1 = some b ∧
      (b = true ↔ store.Bypasses superRole userId ∨ Allows) := by
  obtain ⟨bypass, s', hrun, hbypass⟩ := run_roleBypass store superRole userId rest s
  rw [Prog.bind_eq, Prog.run_bind, hrun]
  cases bypass with
  | true => exact ⟨true, rfl, fun _ => .inl (hbypass.1 rfl), fun _ => rfl⟩
  | false =>
    obtain ⟨b, hnext, hb⟩ := h s'
    exact ⟨b, hnext, by rw [hb, or_iff_right (mt hbypass.2 Bool.false_ne_true)]⟩

theorem run_can (action : String) :
    ∃ b, ((can superRole userId action).run (store.within rest) s).1 = some b ∧
      (b = true ↔ store.Bypasses superRole userId ∨ store.Grants userId action) := by
  refine run_afterBypass store superRole userId rest s fun s' => ?_
  cases hsplit : splitAction action with
  | none => exact ⟨false, rfl, by simp [Store.Grants, hsplit]⟩
  | some parts =>
    obtain ⟨resource, permission⟩ := parts
    change ∃ b, (Prog.run _ (Prog.call _ _) _).1 = _ ∧ _
    rw [Prog.run_call]
    cases hanswer : store.hasPermission userId resource permission with
    | error e =>
      refine ⟨false, by dsimp only [Store.within]; rw [hanswer]; rfl, ?_⟩
      simp [Store.Grants, hsplit, hanswer]
    | ok allowed =>
      refine ⟨allowed, by dsimp only [Store.within]; rw [hanswer]; rfl, ?_⟩
      simp [Store.Grants, hsplit, hanswer]

theorem run_canAny (actions : List String) :
    ∃ b, ((canAny superRole userId actions).run (store.within rest) s).1 = some b ∧
      (b = true ↔ store.Bypasses superRole userId ∨ store.Lists userId actions) := by
  refine run_afterBypass store superRole userId rest s fun s' => ?_
  change ∃ b, (Prog.run _ (Prog.call _ _) _).1 = _ ∧ _
  rw [Prog.run_call]
  cases hanswer : store.getPermissions userId with
  | error e =>
    refine ⟨false, by dsimp only [Store.within]; rw [hanswer]; rfl, ?_⟩
    simp [Store.Lists, hanswer]
  | ok permissions =>
    refine ⟨anyInMap (grantedMap permissions) actions,
      by dsimp only [Store.within]; rw [hanswer]; rfl, ?_⟩
    rw [anyInMap_grantedMap]
    simp [Store.Lists, hanswer]

theorem can_eq_true {action : String} :
    ((can superRole userId action).run (store.within rest) s).1 = some true ↔
      store.Bypasses superRole userId ∨ store.Grants userId action := by
  obtain ⟨b, hrun, hb⟩ := run_can store superRole userId rest s action
  rw [hrun, Option.some.injEq, hb]

theorem canAny_eq_true {actions : List String} :
    ((canAny superRole userId actions).run (store.within rest) s).1 = some true ↔
      store.Bypasses superRole userId ∨ store.Lists userId actions := by
  obtain ⟨b, hrun, hb⟩ := run_canAny store superRole userId rest s actions
  rw [hrun, Option.some.injEq, hb]

theorem can_eq_false {action : String} :
    ((can superRole userId action).run (store.within rest) s).1 = some false ↔
      ¬ (store.Bypasses superRole userId ∨ store.Grants userId action) := by
  obtain ⟨b, hrun, hb⟩ := run_can store superRole userId rest s action
  rw [hrun, Option.some.injEq, ← hb, Bool.not_eq_true]

theorem canAny_eq_false {actions : List String} :
    ((canAny superRole userId actions).run (store.within rest) s).1 = some false ↔
      ¬ (store.Bypasses superRole userId ∨ store.Lists userId actions) := by
  obtain ⟨b, hrun, hb⟩ := run_canAny store superRole userId rest s actions
  rw [hrun, Option.some.injEq, ← hb, Bool.not_eq_true]

end

end RbacEngine

/-- The store of a list of granted permissions, the same for every user. -/
def Store.granting (roles : List String) (granted : List Permission) : Store where
  getRoles _ := .ok roles
  getPermissions _ := .ok granted
  hasPermission _ resource permission := .ok (decide (⟨resource, permission⟩ ∈ granted))

/-! ## Failing closed -/

namespace Store

/-- Each answer of `store'` is that of `store` or an error. -/
structure Degrades (store store' : Store) : Prop where
  roles : ∀ userId, store'.getRoles userId = store.getRoles userId ∨
    ∃ e, store'.getRoles userId = .error e
  permissions : ∀ userId, store'.getPermissions userId = store.getPermissions userId ∨
    ∃ e, store'.getPermissions userId = .error e
  permission : ∀ userId resource permission,
    store'.hasPermission userId resource permission =
        store.hasPermission userId resource permission ∨
      ∃ e, store'.hasPermission userId resource permission = .error e

variable {store store' : Store} {superRole : String} {userId : Uuid}

/-- An answer that may have become an error, and is a success, was one before. -/
theorem ok_of_degraded {α : Type} {r r' : Except SqlxError α} {a : α}
    (h : r' = r ∨ ∃ e, r' = .error e) (ha : r' = .ok a) : r = .ok a := by
  rcases h with h | ⟨e, h⟩
  · rw [← h, ha]
  · rw [h] at ha
    cases ha

theorem Degrades.bypasses (h : Degrades store store') (hb : store'.Bypasses superRole userId) :
    store.Bypasses superRole userId := by
  obtain ⟨roles, hroles, hmem⟩ := hb
  exact ⟨roles, ok_of_degraded (h.roles userId) hroles, hmem⟩

theorem Degrades.grants (h : Degrades store store') {action : String}
    (hg : store'.Grants userId action) : store.Grants userId action := by
  obtain ⟨resource, permission, hsplit, hanswer⟩ := hg
  exact ⟨resource, permission, hsplit, ok_of_degraded (h.permission _ _ _) hanswer⟩

theorem Degrades.lists (h : Degrades store store') {actions : List String}
    (hl : store'.Lists userId actions) : store.Lists userId actions := by
  obtain ⟨permissions, hanswer, hlisted⟩ := hl
  exact ⟨permissions, ok_of_degraded (h.permissions userId) hanswer, hlisted⟩

end Store

/-- The engine says yes only on the strength of a successful answer, and an error in place of a
    success never makes it say yes. -/
theorem engine_fails_closed {S : Type} (rest : Handler Op Res S) (store : Store)
    (superRole : String) (userId : Uuid) (action : String) (actions : List String) (s : S) :
    (((RbacEngine.can superRole userId action).run (store.within rest) s).1 = some true →
      store.Bypasses superRole userId ∨ store.Grants userId action) ∧
    (((RbacEngine.canAny superRole userId actions).run (store.within rest) s).1 = some true →
      store.Bypasses superRole userId ∨ store.Lists userId actions) ∧
    ∀ store', Store.Degrades store store' →
      (((RbacEngine.can superRole userId action).run (store.within rest) s).1 = some false →
        ((RbacEngine.can superRole userId action).run (store'.within rest) s).1 = some false) ∧
      (((RbacEngine.canAny superRole userId actions).run (store.within rest) s).1 = some false →
        ((RbacEngine.canAny superRole userId actions).run (store'.within rest) s).1 =
          some false) := by
  refine ⟨(RbacEngine.can_eq_true ..).1, (RbacEngine.canAny_eq_true ..).1,
    fun store' hdegrades => ⟨fun hno => ?_, fun hno => ?_⟩⟩
  · rw [RbacEngine.can_eq_false] at hno ⊢
    exact fun hyes => hno (hyes.imp hdegrades.bypasses hdegrades.grants)
  · rw [RbacEngine.canAny_eq_false] at hno ⊢
    exact fun hyes => hno (hyes.imp hdegrades.bypasses hdegrades.lists)

/-- A store none of whose queries succeeds. -/
def Store.failing : Store where
  getRoles _ := .error (.other "pool timed out")
  getPermissions _ := .error (.other "pool timed out")
  hasPermission _ _ _ := .error (.other "pool timed out")

theorem Store.degrades_failing (store : Store) : store.Degrades .failing :=
  ⟨fun _ => .inr ⟨_, rfl⟩, fun _ => .inr ⟨_, rfl⟩, fun _ _ _ => .inr ⟨_, rfl⟩⟩

theorem engine_fails_closed_sample :
    ((Store.granting [] [⟨"Users", "Delete"⟩]).Bypasses "Admin" 7 ∨
      (Store.granting [] [⟨"Users", "Delete"⟩]).Grants 7 "Users.Delete") ∧
    ((RbacEngine.can "Admin" 7 "Users.Add").run
      (Store.failing.within (exec sampleEnv Faults.none)) sampleWorld).1 = some false :=
  ⟨(engine_fails_closed (exec sampleEnv Faults.none) (.granting [] [⟨"Users", "Delete"⟩]) "Admin" 7
      "Users.Delete" [] sampleWorld).1 (by decide +kernel),
    ((engine_fails_closed (exec sampleEnv Faults.none) (.granting [] [⟨"Users", "Delete"⟩]) "Admin"
      7 "Users.Add" [] sampleWorld).2.2 .failing (Store.degrades_failing _)).1 (by decide +kernel)⟩

/-! ## The two methods -/

/-- The permission queries agree for the user. -/
def Store.AgreesAt (store : Store) (userId : Uuid) : Prop :=
  ∃ permissions, store.getPermissions userId = .ok permissions ∧
    ∀ resource permission, store.hasPermission userId resource permission = .ok true ↔
      ⟨resource, permission⟩ ∈ permissions

theorem Store.agreesAt_granting (roles : List String) (granted : List Permission)
    (userId : Uuid) : (Store.granting roles granted).AgreesAt userId := by
  refine ⟨granted, rfl, fun resource permission => ?_⟩
  rw [← decide_eq_true_iff (p := _ ∈ granted)]
  exact ⟨fun h => Except.ok.inj h, fun h => congrArg Except.ok h⟩

theorem Store.AgreesAt.lists_iff {store : Store} {userId : Uuid} (h : store.AgreesAt userId)
    (actions : List String) :
    store.Lists userId actions ↔ ∃ action ∈ actions, store.Grants userId action := by
  obtain ⟨permissions, hanswer, hagree⟩ := h
  simp only [Store.Lists, Store.Grants, hanswer, Except.ok.injEq, exists_eq_left', hagree]

/-- `can_any` is `can` for some action. -/
theorem canAny_iff_exists_can {S : Type} (rest : Handler Op Res S) {store : Store}
    (superRole : String) {userId : Uuid} (hagrees : store.AgreesAt userId) {actions : List String}
    (hne : actions ≠ []) (s : S) :
    ((RbacEngine.canAny superRole userId actions).run (store.within rest) s).1 = some true ↔
      ∃ action ∈ actions,
        ((RbacEngine.can superRole userId action).run (store.within rest) s).1 = some true := by
  simp only [RbacEngine.canAny_eq_true, RbacEngine.can_eq_true, hagrees.lists_iff]
  obtain ⟨first, rest, rfl⟩ := List.exists_cons_of_ne_nil hne
  constructor
  · rintro (hbypass | ⟨action, haction, hgrants⟩)
    · exact ⟨first, List.mem_cons_self, .inl hbypass⟩
    · exact ⟨action, haction, .inr hgrants⟩
  · rintro ⟨action, haction, hbypass | hgrants⟩
    · exact .inl hbypass
    · exact .inr ⟨action, haction, hgrants⟩

theorem canAny_iff_exists_can_sample :
    (Store.granting [] [⟨"Users", "View All"⟩]).AgreesAt 7 ∧
      ["Users", "Users.View All"] ≠ [] ∧
      (((RbacEngine.canAny "Admin" 7 ["Users", "Users.View All"]).run
          ((Store.granting [] [⟨"Users", "View All"⟩]).within (exec sampleEnv Faults.none))
          sampleWorld).1 = some true ↔
        ∃ action ∈ ["Users", "Users.View All"], ((RbacEngine.can "Admin" 7 action).run
          ((Store.granting [] [⟨"Users", "View All"⟩]).within (exec sampleEnv Faults.none))
          sampleWorld).1 = some true) :=
  ⟨Store.agreesAt_granting _ _ _, by decide, canAny_iff_exists_can (exec sampleEnv Faults.none)
    "Admin" (Store.agreesAt_granting _ _ _) (by decide) sampleWorld⟩

/-! ## The queries of `PostgresRbacStore` -/

namespace PostgresRbacStore

def store (db : Db) : Store where
  getRoles userId := .ok (getRoles db userId)
  getPermissions userId := getPermissions db userId
  hasPermission userId resource permission := .ok (hasPermission db userId resource permission)

/-- The user holds the permission through a role. -/
def HeldBy (db : Db) (userId : Uuid) (p : PermissionRow) : Prop :=
  p ∈ db.permissions ∧
    ∃ roleId, ⟨roleId, p.id⟩ ∈ db.roleHasPermissions ∧ ⟨userId, roleId⟩ ∈ db.userHasRoles

/-- A row decodes exactly if neither part is NULL. -/
theorem decodePermission_eq_ok {row : PermissionRow} {permission : Permission} :
    decodePermission row = .ok permission ↔
      row.resource = some permission.resource ∧ row.name = some permission.name := by
  obtain ⟨resource', name'⟩ := permission
  obtain ⟨id, name, resource, moduleId⟩ := row
  cases resource with
  | none => simp [decodePermission]
  | some resource =>
    cases name with
    | none => simp [decodePermission]
    | some name => simp [decodePermission]

theorem mapM_decodePermission_ok {rows : List PermissionRow} {permissions : List Permission}
    (h : rows.mapM decodePermission = .ok permissions) :
    (∀ row ∈ rows, row.resource ≠ none ∧ row.name ≠ none) ∧
      ∀ resource name, ⟨resource, name⟩ ∈ permissions ↔
        ∃ row ∈ rows, row.resource = some resource ∧ row.name = some name := by
  induction rows generalizing permissions with
  | nil =>
    cases h
    simp
  | cons row rows ih =>
    rw [List.mapM_cons] at h
    obtain ⟨permission, hrow, h⟩ := ok_of_bind_ok h
    obtain ⟨rest, hrest, h⟩ := ok_of_bind_ok h
    cases h
    obtain ⟨hresource, hname⟩ := decodePermission_eq_ok.1 hrow
    obtain ⟨hnonnull, hmem⟩ := ih hrest
    constructor
    · rw [List.forall_mem_cons]
      exact ⟨⟨by simp [hresource], by simp [hname]⟩, hnonnull⟩
    · intro resource name
      rw [List.mem_cons, hmem, List.exists_mem_cons_iff, hresource, hname, Option.some.injEq,
        Option.some.injEq]
      refine or_congr_left ⟨?_, ?_⟩
      · rintro rfl
        exact ⟨rfl, rfl⟩
      · rintro ⟨rfl, rfl⟩
        rfl

theorem exists_mapM_decodePermission {rows : List PermissionRow}
    (h : ∀ row ∈ rows, row.resource ≠ none ∧ row.name ≠ none) :
    ∃ permissions, rows.mapM decodePermission = .ok permissions := by
  induction rows with
  | nil => exact ⟨[], rfl⟩
  | cons row rows ih =>
    rw [List.forall_mem_cons] at h
    obtain ⟨rest, hrest⟩ := ih h.2
    obtain ⟨resource, hresource⟩ := Option.ne_none_iff_exists'.1 h.1.1
    obtain ⟨name, hname⟩ := Option.ne_none_iff_exists'.1 h.1.2
    have hrow : decodePermission row = .ok ⟨resource, name⟩ :=
      decodePermission_eq_ok.2 ⟨hresource, hname⟩
    exact ⟨⟨resource, name⟩ :: rest, by rw [List.mapM_cons, hrow, hrest]; rfl⟩

/-- The two queries agree for a user exactly where no permission the user holds has a NULL part:
    one such row fails the whole list, while the point query passes over it. -/
theorem agreesAt_iff (db : Db) (userId : Uuid) :
    (store db).AgreesAt userId ↔
      ∀ p, HeldBy db userId p → p.resource ≠ none ∧ p.name ≠ none := by
  constructor
  · rintro ⟨permissions, hanswer, -⟩ p hp
    exact (mapM_decodePermission_ok hanswer).1 p (mem_grantedPermissions.2 hp)
  · intro h
    obtain ⟨permissions, hanswer⟩ := @exists_mapM_decodePermission (grantedPermissions db userId)
      fun p hp => h p (mem_grantedPermissions.1 hp)
    refine ⟨permissions, hanswer, fun resource name => ?_⟩
    rw [(mapM_decodePermission_ok hanswer).2, ← hasPermission_eq_true]
    exact ⟨fun h => Except.ok.inj h, fun h => congrArg Except.ok h⟩

/-- The contents the migrations leave, with a permission of the administrator without a name. -/
def withUnnamed : Db :=
  { Db.seed 0 with
    permissions := (Db.seed 0).permissions ++ [⟨8, none, some "Users", some 1⟩]
    roleHasPermissions := (Db.seed 0).roleHasPermissions ++ [⟨1, 8⟩] }

/-- The point query grants `Users.View All`, but the list cannot be read. -/
theorem unnamed_permission_disagrees : withUnnamed.Admissible ∧ withUnnamed.TextsFit ∧
    (store withUnnamed).hasPermission 0 "Users" "View All" = .ok true ∧
    ¬ (store withUnnamed).AgreesAt 0 := by
  refine ⟨by constructor <;> decide +kernel, ?_, by decide +kernel, ?_⟩
  · exact { Db.textsFit_seed 0 with
      permissionNames := by decide +kernel
      permissionResources := by decide +kernel }
  · rintro ⟨permissions, hanswer, -⟩
    have hfails : getPermissions withUnnamed 0 = .error (.columnDecode "name") := by
      decide +kernel
    cases hfails.symm.trans hanswer

end PostgresRbacStore

end ApiStarter.Rbac
