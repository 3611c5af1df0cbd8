import ApiStarter.Module.Iam.UpdateAnswers

/-
  Two calls of `partial_update` that set different columns and name different roles.

  What the statements of one of them do commutes with what those of the other do, row by row
  (`rowAfter_comm`) and role by role (`holdsAfter_comm`). So the two orders of two calls end alike
  (`carried_comm`), and whether the user can be read changes by one payload at a time.
-/

namespace ApiStarter.Iam

open ApiStarter.Auth ApiStarter.Database ApiStarter.Provider ApiStarter.Relational

structure UpdateCall where
  userId : Uuid
  fields : UpdateUser
  deriving DecidableEq, Repr

/-- No column is set by both payloads. -/
structure DisjointColumns (a b : UpdateUser) : Prop where
  avatarId : a.avatarId = none ∨ b.avatarId = none
  firstName : a.firstName = none ∨ b.firstName = none
  lastName : a.lastName = none ∨ b.lastName = none
  email : a.email = none ∨ b.email = none
  departmentId : a.departmentId = none ∨ b.departmentId = none
  status : a.status = none ∨ b.status = none
  password : a.password = none ∨ b.password = none

/-- The calls address different users, or set disjoint columns and name disjoint roles. -/
def Independent (a b : UpdateCall) : Prop :=
  a.userId = b.userId → DisjointColumns a.fields b.fields ∧
    ∀ name ∈ a.fields.roleNames, name ∉ b.fields.roleNames

theorem DisjointColumns.symm {a b : UpdateUser} (h : DisjointColumns a b) : DisjointColumns b a :=
  ⟨h.avatarId.symm, h.firstName.symm, h.lastName.symm, h.email.symm, h.departmentId.symm,
    h.status.symm, h.password.symm⟩

theorem Independent.symm {a b : UpdateCall} (h : Independent a b) : Independent b a := by
  intro hid
  obtain ⟨hcolumns, hnames⟩ := h hid.symm
  exact ⟨hcolumns.symm, fun name hb ha => hnames name ha hb⟩

/-! ## What is written -/

section

variable {env : Env} {n m : Nat} {a b : UpdateCall} {ws ws' : List Write} {userId : Uuid}

/-- The payload that is written sets the columns of the call, and names its roles. -/
structure Written (fields written : UpdateUser) : Prop where
  avatarId : fields.avatarId = none → written.avatarId = none
  firstName : fields.firstName = none → written.firstName = none
  lastName : fields.lastName = none → written.lastName = none
  email : fields.email = none → written.email = none
  departmentId : written.departmentId = fields.departmentId
  status : written.status = fields.status
  password : fields.password = none → written.password = none

theorem Sends.written {fields : UpdateUser} (h : Sends env n fields ws) (userId : Uuid) :
    ∃ written, Written fields written ∧
      ∀ u, u.id = userId → rowAfter userId ws u = updatedRow written u := by
  obtain ⟨hashed, hhashed, hwrites⟩ := h
  refine ⟨fitted hashed, ?_, fun u hu => by rw [rowAfter_writes hwrites, if_pos hu]⟩
  rcases hhashed with ⟨-, rfl⟩ | ⟨password, hash, hsome, -, -, rfl⟩
  · constructor <;> intros <;> simp_all [fitted]
  · constructor <;> intros <;> simp_all [fitted]

theorem Sends.named {fields : UpdateUser} (h : Sends env n fields ws) {db : Db}
    {key : UserHasRoleRow} {write : Write} (hwrite : write ∈ ws)
    (htargets : write.Targets userId db key) : key.userId = userId ∧
      ∃ name ∈ fields.roleNames, ∃ r ∈ db.roles, r.id = key.roleId ∧ r.name = name := by
  obtain ⟨hashed, hhashed, hwrites⟩ := h
  have hnamed := named_of_targets hwrites hwrite htargets
  rcases hhashed with ⟨-, rfl⟩ | ⟨password, hash, -, -, -, rfl⟩ <;> exact hnamed

theorem DisjointColumns.written {a b a' b' : UpdateUser} (h : DisjointColumns a b)
    (ha : Written a a') (hb : Written b b') : DisjointColumns a' b' where
  avatarId := h.avatarId.imp ha.avatarId hb.avatarId
  firstName := h.firstName.imp ha.firstName hb.firstName
  lastName := h.lastName.imp ha.lastName hb.lastName
  email := h.email.imp ha.email hb.email
  departmentId := by rw [ha.departmentId, hb.departmentId]; exact h.departmentId
  status := by rw [ha.status, hb.status]; exact h.status
  password := h.password.imp ha.password hb.password

/-! ## The rows -/

theorem getD_comm {α : Type} {o o' : Option α} (h : o = none ∨ o' = none) (x : α) :
    o.getD (o'.getD x) = o'.getD (o.getD x) := by
  rcases h with rfl | rfl <;> rfl

theorem updatedRow_comm {a b : UpdateUser} (h : DisjointColumns a b) (u : UserRow) :
    updatedRow a (updatedRow b u) = updatedRow b (updatedRow a u) := by
  have hstatus : a.status.bind UserStatus.idOf = none ∨ b.status.bind UserStatus.idOf = none := by
    rcases h.status with hs | hs <;> simp [hs]
  simp only [updatedRow, UserRow.mk.injEq, true_and]
  exact ⟨getD_comm h.avatarId _, getD_comm h.email _, getD_comm h.password _,
    getD_comm h.firstName _, getD_comm h.lastName _, getD_comm hstatus _,
    getD_comm h.departmentId _⟩

theorem rowAfter_comm (h : Independent a b) (ha : Sends env n a.fields ws)
    (hb : Sends env m b.fields ws') (u : UserRow) :
    rowAfter a.userId ws (rowAfter b.userId ws' u) =
      rowAfter b.userId ws' (rowAfter a.userId ws u) := by
  by_cases hua : u.id = a.userId
  · by_cases hub : u.id = b.userId
    · obtain ⟨written, hwritten, hrow⟩ := ha.written a.userId
      obtain ⟨written', hwritten', hrow'⟩ := hb.written b.userId
      have hdisjoint := (h (hua.symm.trans hub)).1.written hwritten hwritten'
      rw [hrow' u hub, hrow u hua, hrow (updatedRow written' u) hua,
        hrow' (updatedRow written u) hub]
      exact updatedRow_comm hdisjoint u
    · rw [rowAfter_of_ne ws' hub, rowAfter_of_ne ws' (by rwa [rowAfter_id])]
  · rw [rowAfter_of_ne ws hua, rowAfter_of_ne ws (by rwa [rowAfter_id])]

/-! ## The roles -/

/-- No role is a target of both calls. -/
theorem not_targets_of_targets (h : Independent a b) (ha : Sends env n a.fields ws)
    (hb : Sends env m b.fields ws') {db : Db} (hids : (db.roles.map (·.id)).Nodup)
    {key : UserHasRoleRow} {write write' : Write} (hwrite : write ∈ ws)
    (htargets : write.Targets a.userId db key) (hwrite' : write' ∈ ws') :
    ¬ write'.Targets b.userId db key := by
  intro htargets'
  obtain ⟨huser, name, hname, r, hr, hid, rfl⟩ := ha.named hwrite htargets
  obtain ⟨huser', name', hname', r', hr', hid', rfl⟩ := hb.named hwrite' htargets'
  rw [eq_of_key_eq hids hr hr' (hid.trans hid'.symm)] at hname
  exact (h (huser.symm.trans huser')).2 _ hname hname'

theorem holdsAfter_comm (h : Independent a b) (ha : Sends env n a.fields ws)
    (hb : Sends env m b.fields ws') {db : Db} (hids : (db.roles.map (·.id)).Nodup)
    (key : UserHasRoleRow) (held : Prop) :
    holdsAfter a.userId db key ws (holdsAfter b.userId db key ws' held) ↔
      holdsAfter b.userId db key ws' (holdsAfter a.userId db key ws held) := by
  by_cases htargets : ∃ write ∈ ws, write.Targets a.userId db key
  · obtain ⟨write, hwrite, htargets⟩ := htargets
    have hother : ∀ write' ∈ ws', ¬ write'.Targets b.userId db key := fun _ =>
      not_targets_of_targets h ha hb hids hwrite htargets
    rw [propext (holdsAfter_of_not_targets hother), propext (holdsAfter_of_not_targets hother)]
  · have hown : ∀ write ∈ ws, ¬ write.Targets a.userId db key := fun write hwrite hw =>
      htargets ⟨write, hwrite, hw⟩
    rw [propext (holdsAfter_of_not_targets hown), propext (holdsAfter_of_not_targets hown)]

/-! ## The two orders -/

/-- The same rows everywhere, and the same roles for every user. -/
structure SameRows (db db' : Db) : Prop where
  users : db'.users = db.users
  roles : ∀ key, key ∈ db'.userHasRoles ↔ key ∈ db.userHasRoles
  rest : db' = { db with users := db'.users, userHasRoles := db'.userHasRoles }

/-- One call after the other, in either order. -/
theorem carried_comm (h : Independent a b) (ha : Sends env n a.fields ws)
    (hb : Sends env m b.fields ws') {db db₁ db₂ db₁' db₂' : Db}
    (hids : (db.roles.map (·.id)).Nodup) (h₁ : Carried a.userId ws db db₁)
    (h₂ : Carried b.userId ws' db₁ db₂) (h₁' : Carried b.userId ws' db db₁')
    (h₂' : Carried a.userId ws db₁' db₂') : SameRows db₂ db₂' where
  users := by
    rw [h₂'.users, h₁'.users, h₂.users, h₁.users, List.map_map, List.map_map]
    exact List.map_congr_left fun u _ => rowAfter_comm h ha hb u
  roles key := by
    rw [h₁'.roles_after h₂', h₁.roles_after h₂]
    exact holdsAfter_comm h ha hb hids key _
  rest := by rw [h₂'.rest, h₁'.rest, h₂.rest, h₁.rest]

/-- One call after the other, once more. -/
theorem carried_same {db db₁ db₂ db₁' db₂' : Db} {userId' : Uuid}
    (h₁ : Carried userId ws db db₁) (h₂ : Carried userId' ws' db₁ db₂)
    (h₁' : Carried userId ws db db₁') (h₂' : Carried userId' ws' db₁' db₂') :
    SameRows db₂ db₂' where
  users := by rw [h₂'.users, h₁'.users, h₂.users, h₁.users]
  roles key := by rw [h₁'.roles_after h₂', h₁.roles_after h₂]
  rest := by rw [h₂'.rest, h₁'.rest, h₂.rest, h₁.rest]

/-! ## One of the calls alone -/

/-- A column that the payload does not set stays as it is. -/
theorem Sends.column_rowAfter {α : Type} {column : UserRow → α} {fields : UpdateUser}
    (h : Sends env n fields ws)
    (hcolumn : ∀ written, Written fields written → ∀ u, column (updatedRow written u) = column u)
    (u : UserRow) : column (rowAfter userId ws u) = column u := by
  by_cases hu : u.id = userId
  · obtain ⟨written, hwritten, hrow⟩ := h.written userId
    rw [hrow u hu]
    exact hcolumn written hwritten u
  · rw [rowAfter_of_ne ws hu]

/-- A column of the rows after one of the calls is as it was, or as it is after both. -/
theorem column_alone {α : Type} {column : UserRow → α} (h : Independent a b)
    (ha : Sends env n a.fields ws) (hb : Sends env m b.fields ws')
    (hkeeps : (∀ u, column (rowAfter a.userId ws u) = column u) ∨
      ∀ u, column (rowAfter b.userId ws' u) = column u) :
    (∀ u, column (rowAfter b.userId ws' u) = column u) ∨
      ∀ u, column (rowAfter b.userId ws' u) =
        column (rowAfter b.userId ws' (rowAfter a.userId ws u)) := by
  rcases hkeeps with hkeeps | hkeeps
  · refine .inr fun u => ?_
    rw [← rowAfter_comm h ha hb, hkeeps]
  · exact .inl hkeeps

/-- Where the users are in order at first and after both calls, they are after one alone. -/
theorem usersOk_alone (h : Independent a b) (hid : a.userId = b.userId)
    (ha : Sends env n a.fields ws) (hb : Sends env m b.fields ws') {db : Db} (hdb : UsersOk db)
    (hboth : UsersOk { db with
      users := (db.users.map (rowAfter a.userId ws)).map (rowAfter b.userId ws') }) :
    UsersOk { db with users := db.users.map (rowAfter b.userId ws') } := by
  obtain ⟨hcolumns, -⟩ := h hid
  have hemail := @column_alone env n m a b ws ws' _ (·.email) h ha hb <|
    hcolumns.email.imp
      (fun hnone => ha.column_rowAfter fun _ hw u => by simp [updatedRow, hw.email hnone])
      (fun hnone => hb.column_rowAfter fun _ hw u => by simp [updatedRow, hw.email hnone])
  have hstatus := @column_alone env n m a b ws ws' _ (·.statusId) h ha hb <|
    hcolumns.status.imp
      (fun hnone => ha.column_rowAfter fun _ hw u => by simp [updatedRow, hw.status, hnone])
      (fun hnone => hb.column_rowAfter fun _ hw u => by simp [updatedRow, hw.status, hnone])
  have hdepartment := @column_alone env n m a b ws ws' _ (·.departmentId) h ha hb <|
    hcolumns.departmentId.imp
      (fun hnone => ha.column_rowAfter fun _ hw u => by simp [updatedRow, hw.departmentId, hnone])
      (fun hnone => hb.column_rowAfter fun _ hw u => by simp [updatedRow, hw.departmentId, hnone])
  have hmem : ∀ x ∈ db.users, rowAfter b.userId ws' (rowAfter a.userId ws x) ∈
      (db.users.map (rowAfter a.userId ws)).map (rowAfter b.userId ws') := fun x hx =>
    List.mem_map_of_mem (List.mem_map_of_mem hx)
  refine usersOk_of ?_ ?_ ?_ fun u hu => ?_
  · rw [List.map_map]
    exact (List.map_congr_left fun u _ => rowAfter_id b.userId ws' u) ▸ hdb.ids
  · rw [List.map_map]
    exact (List.map_congr_left fun u _ => rowAfter_userName b.userId ws' u) ▸ hdb.userNames
  · rw [List.map_map]
    rcases hemail with hemail | hemail
    · exact (List.map_congr_left fun u _ => hemail u) ▸ hdb.emails
    · have hemails := hboth.emails
      rw [List.map_map, List.map_map] at hemails
      exact (List.map_congr_left fun u _ => hemail u) ▸ hemails
  · obtain ⟨x, hx, rfl⟩ := List.mem_map.1 hu
    refine ⟨?_, ?_⟩
    · rcases hstatus with hstatus | hstatus
      · rw [hstatus]
        exact (hdb.references hx).1
      · rw [hstatus]
        exact (hboth.references (hmem x hx)).1
    · rcases hdepartment with hdepartment | hdepartment
      · rw [hdepartment]
        exact (hdb.references hx).2
      · rw [hdepartment]
        exact (hboth.references (hmem x hx)).2

/-! ## Readable users -/

theorem readable_congr {db db' : Db} {u u' : UserRow}
    (hstatuses : db'.userStatuses = db.userStatuses)
    (hdepartments : db'.departments = db.departments) (hstatus : u'.statusId = u.statusId)
    (hdepartment : u'.departmentId = u.departmentId) (h : Readable db u) : Readable db' u' where
  status := by rw [hstatuses, hstatus]; exact h.status
  department := by rw [hdepartments, hdepartment]; exact h.department

/-- The payload leaves its user readable. -/
def KeepsReadable (db : Db) (call : UpdateCall) : Prop :=
  ∀ u ∈ db.users, u.id = call.userId → Readable db u → Readable db (updatedRow call.fields u)

theorem KeepsReadable.rowAfter {db : Db} (h : KeepsReadable db a) (ha : Sends env n a.fields ws)
    {u : UserRow} (hu : u ∈ db.users) (hid : u.id = a.userId) (hreadable : Readable db u) :
    Readable db (rowAfter a.userId ws u) := by
  obtain ⟨written, hwritten, hrow⟩ := ha.written a.userId
  rw [hrow u hid]
  refine readable_congr rfl rfl ?_ ?_ (h u hu hid hreadable)
  · simp only [updatedRow, hwritten.status]
  · simp only [updatedRow, hwritten.departmentId]

end

end ApiStarter.Iam
