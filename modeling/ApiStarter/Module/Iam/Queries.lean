import ApiStarter.Database.QueryBuilder
import ApiStarter.Module.Iam.PartialUpdate
import ApiStarter.Module.Iam.Repository

/-
  The statements `index` and `partial_update` assemble, as they are sent.

  The builder is that of `sqlx`. What it holds at the end are the pieces of the conditions of
  `pushFilters` and of the assignments of `setClauses`; their texts are fixed, and the values of a
  request are bound (`statement_text_fixed`).
-/

namespace ApiStarter.Iam

open ApiStarter.Database ApiStarter.Pagination ApiStarter.Provider ApiStarter.Sql

/-! ## Values and texts -/

/-- The values the statements bind. -/
inductive Bound where
  | int (n : Int)
  | bigint (n : Int64)
  | text (s : String)
  | uuid (id : Uuid)
  deriving DecidableEq

def selectUserText : String :=
  "SELECT u.id, u.user_name, u.avatar_id, u.email, u.password, " ++
  "u.first_name, u.last_name, us.id AS status_id, us.status, " ++
  "d.id AS department_id, d.name AS department_name, c.id AS company_id, c.name AS company_name " ++
  "FROM iam.users u " ++
  "INNER JOIN iam.user_statuses us ON u.status_id = us.id " ++
  "INNER JOIN iam.departments d ON u.department_id = d.id " ++
  "INNER JOIN iam.companies c ON d.company_id = c.id"

def countUserText : String :=
  "SELECT COUNT(*) AS total FROM iam.users u " ++
  "INNER JOIN iam.user_statuses us ON u.status_id = us.id " ++
  "INNER JOIN iam.departments d ON u.department_id = d.id " ++
  "INNER JOIN iam.companies c ON d.company_id = c.id"

/-- What `push_filters` writes before the role of a filter. -/
def existsRoleText : String :=
  " AND EXISTS (SELECT 1 FROM iam.user_has_roles uhr " ++
  "INNER JOIN iam.roles r ON uhr.role_id = r.id " ++
  "WHERE uhr.user_id = u.id AND r.name = "

def SortColumn.text : SortColumn → String
  | email => "u.email"
  | firstName => "u.first_name"
  | lastName => "u.last_name"
  | status => "us.status"
  | department => "d.name"
  | userName => "u.user_name"

def SortOrder.text : SortOrder → String
  | asc => "asc"
  | desc => "desc"

/-- `if let Some(a) = o` around a step of a builder. -/
def ifSome {A B : Type} (o : Option A) (b : B) (step : B → A → B) : B :=
  match o with
  | some a => step b a
  | none => b

namespace PgUserRepository

variable (lib : QueryBuilder Bound)

/-- `push_filters` -/
def pushFiltersSql (builder : lib.Builder) (request : ListRequest) : lib.Builder :=
  let builder := ifSome ((request.filter "status").bind UserStatus.idOf) builder fun b statusId =>
    lib.pushBind (lib.push b " AND us.id = ") (.int statusId)
  let builder := ifSome ((request.filter "department_id").bind parseI32) builder fun b id =>
    lib.pushBind (lib.push b " AND u.department_id = ") (.int id)
  let builder := ifSome (request.filter "role") builder fun b role =>
    lib.push (lib.pushBind (lib.push b existsRoleText) (.text role)) ")"
  ifSome (request.filter "first_name") builder fun b name =>
    lib.pushBind (lib.push b " AND u.first_name ILIKE ") (.text ("%" ++ name ++ "%"))

/-- `count_builder` of `index` -/
def countBuilder (request : ListRequest) : lib.Builder :=
  pushFiltersSql lib (lib.push (lib.new countUserText) " WHERE TRUE") request

/-- `select_builder` of `index` -/
def selectBuilder (request : ListRequest) : lib.Builder :=
  let builder := pushFiltersSql lib (lib.push (lib.new selectUserText) " WHERE TRUE") request
  let builder := lib.push builder
    (" ORDER BY " ++ (sortColumn request.sortBy).text ++ " " ++ (sortOrder request.order).text)
  let builder := lib.pushBind (lib.push builder " LIMIT ") (.bigint request.perPage)
  lib.pushBind (lib.push builder " OFFSET ") (.bigint request.offset)

/-- One `if let Some(..)` of `partial_update`. -/
def pushAssignment (separated : lib.Separated) (column : String) (value : Option Bound) :
    lib.Separated :=
  ifSome value separated fun st v => lib.pushBindUnseparated (lib.pushSeparated st column) v

/-- `builder` of `partial_update`, unless there is no statement to send. -/
def updateBuilder (userId : Uuid) (fields : UpdateUser) :
    Except DomainError (Option lib.Builder) :=
  if fields.hasNoColumnChanges then return none
  else do
    let separated := lib.separated (lib.new "UPDATE iam.users SET ") ", "
    let separated := pushAssignment lib separated "avatar_id = " (fields.avatarId.map .text)
    let separated := pushAssignment lib separated "first_name = " (fields.firstName.map .text)
    let separated := pushAssignment lib separated "last_name = " (fields.lastName.map .text)
    let separated := pushAssignment lib separated "email = " (fields.email.map .text)
    let separated := pushAssignment lib separated "department_id = " (fields.departmentId.map .int)
    let status ← match fields.status with
      | none => pure none
      | some status =>
        match UserStatus.idOf status with
        | none => throw .statusNotFound
        | some statusId => pure (some statusId)
    let separated := pushAssignment lib separated "status_id = " (status.map .int)
    let separated := pushAssignment lib separated "password = " (fields.password.map .text)
    return some (lib.pushBind (lib.push (lib.release separated) " WHERE id = ") (.uuid userId))

end PgUserRepository

/-! ## Conditions and assignments as pieces -/

/-- The filters `push_filters` knows. -/
inductive Filter where
  | status
  | departmentId
  | role
  | firstName
  deriving DecidableEq

def Filter.all : List Filter := [.status, .departmentId, .role, .firstName]

/-- The texts before and after the value of the filter. -/
def Filter.texts : Filter → String × List String
  | status => (" AND us.id = ", [])
  | departmentId => (" AND u.department_id = ", [])
  | role => (existsRoleText, [")"])
  | firstName => (" AND u.first_name ILIKE ", [])

/-- The request has a value for the filter that `push_filters` uses. -/
def Applies (request : ListRequest) : Filter → Bool
  | .status => ((request.filter "status").bind UserStatus.idOf).isSome
  | .departmentId => ((request.filter "department_id").bind parseI32).isSome
  | .role => (request.filter "role").isSome
  | .firstName => (request.filter "first_name").isSome

def Condition.filter : Condition → Filter
  | statusIs _ => .status
  | departmentIs _ => .departmentId
  | holdsRole _ => .role
  | firstNameLike _ => .firstName

def Condition.value : Condition → Bound
  | statusIs statusId => .int statusId
  | departmentIs departmentId => .int departmentId
  | holdsRole role => .text role
  | firstNameLike pattern => .text pattern

def Condition.pieces (c : Condition) : List (Piece Bound) :=
  .text c.filter.texts.1 :: .bind c.value :: c.filter.texts.2.map .text

/-- The columns `partial_update` can assign. -/
inductive Column where
  | avatarId
  | firstName
  | lastName
  | email
  | departmentId
  | statusId
  | password
  deriving DecidableEq

def Column.all : List Column :=
  [.avatarId, .firstName, .lastName, .email, .departmentId, .statusId, .password]

def Column.text : Column → String
  | avatarId => "avatar_id = "
  | firstName => "first_name = "
  | lastName => "last_name = "
  | email => "email = "
  | departmentId => "department_id = "
  | statusId => "status_id = "
  | password => "password = "

/-- The payload has the field of the column. -/
def UpdateUser.Present (fields : UpdateUser) : Column → Bool
  | .avatarId => fields.avatarId.isSome
  | .firstName => fields.firstName.isSome
  | .lastName => fields.lastName.isSome
  | .email => fields.email.isSome
  | .departmentId => fields.departmentId.isSome
  | .statusId => fields.status.isSome
  | .password => fields.password.isSome

def SetClause.column : SetClause → Column
  | avatarId _ => .avatarId
  | firstName _ => .firstName
  | lastName _ => .lastName
  | email _ => .email
  | departmentId _ => .departmentId
  | statusId _ => .statusId
  | password _ => .password

def SetClause.bound : SetClause → Bound
  | avatarId value => .text value
  | firstName value => .text value
  | lastName value => .text value
  | email value => .text value
  | departmentId value => .int value
  | statusId value => .int value
  | password value => .text value

def SetClause.pieces (set : SetClause) : List (Piece Bound) :=
  [.text set.column.text, .bind set.bound]

def conditionPieces (request : ListRequest) : List (Piece Bound) :=
  (PgUserRepository.pushFilters request).flatMap Condition.pieces

def countPieces (request : ListRequest) : List (Piece Bound) :=
  [.text countUserText, .text " WHERE TRUE"] ++ conditionPieces request

/-- Order, limit and offset. -/
def pagePieces (request : ListRequest) : List (Piece Bound) :=
  [.text (" ORDER BY " ++ (PgUserRepository.sortColumn request.sortBy).text ++ " " ++
      (PgUserRepository.sortOrder request.order).text),
    .text " LIMIT ", .bind (.bigint request.perPage), .text " OFFSET ",
    .bind (.bigint request.offset)]

def selectPieces (request : ListRequest) : List (Piece Bound) :=
  [.text selectUserText, .text " WHERE TRUE"] ++ conditionPieces request ++ pagePieces request

/-- The assignments between commas. -/
def updatePieces (sets : List SetClause) (userId : Uuid) : List (Piece Bound) :=
  [.text "UPDATE iam.users SET "] ++ [.text ", "].intercalate (sets.map SetClause.pieces) ++
    [.text " WHERE id = ", .bind (.uuid userId)]

/-! ## What the builders hold -/

section

variable {lib : QueryBuilder Bound} {b : lib.Builder} {st : lib.Separated}
  {ps : List (Piece Bound)} {items : List (List (Piece Bound))}

/-- A text and a value. -/
theorem built_bound (hlib : lib.Documented) (hb : lib.Built b ps) (before : String) (v : Bound) :
    lib.Built (lib.pushBind (lib.push b before) v) (ps ++ [.text before, .bind v]) := by
  have hpushed := (hb.push hlib before).pushBind hlib v
  rwa [List.append_assoc] at hpushed

theorem built_ifSome {A : Type} {f : A → Condition} {step : lib.Builder → A → lib.Builder}
    (hstep : ∀ {b ps}, lib.Built b ps → ∀ a, lib.Built (step b a) (ps ++ (f a).pieces))
    (hb : lib.Built b ps) (o : Option A) :
    lib.Built (ifSome o b step) (ps ++ (o.map f).toList.flatMap Condition.pieces) := by
  cases o with
  | none => simpa [ifSome] using hb
  | some a => simpa [ifSome] using hstep hb a

theorem built_pushFiltersSql (hlib : lib.Documented) (hb : lib.Built b ps)
    (request : ListRequest) :
    lib.Built (PgUserRepository.pushFiltersSql lib b request)
      (ps ++ conditionPieces request) := by
  unfold conditionPieces PgUserRepository.pushFilters PgUserRepository.pushFiltersSql
  iterate 3 rw [List.flatMap_append, ← List.append_assoc]
  refine built_ifSome (fun h name => built_bound hlib h _ _) ?_ _
  refine built_ifSome (fun h role => ?_) ?_ _
  · have hclosed := (built_bound hlib h (Filter.role.texts.1) (.text role)).push hlib ")"
    rwa [List.append_assoc] at hclosed
  refine built_ifSome (fun h id => built_bound hlib h _ _) ?_ _
  exact built_ifSome (fun h id => built_bound hlib h _ _) hb _

theorem built_countBuilder (hlib : lib.Documented) (request : ListRequest) :
    lib.Built (PgUserRepository.countBuilder lib request) (countPieces request) :=
  built_pushFiltersSql hlib ((QueryBuilder.built_new hlib countUserText).push hlib " WHERE TRUE")
    request

theorem built_selectBuilder (hlib : lib.Documented) (request : ListRequest) :
    lib.Built (PgUserRepository.selectBuilder lib request) (selectPieces request) := by
  have hstart := (QueryBuilder.built_new hlib selectUserText).push hlib " WHERE TRUE"
  have hfiltered := built_pushFiltersSql hlib hstart request
  have hordered := hfiltered.push hlib (" ORDER BY " ++
    (PgUserRepository.sortColumn request.sortBy).text ++ " " ++
    (PgUserRepository.sortOrder request.order).text)
  have hpaged := built_bound hlib (built_bound hlib hordered " LIMIT " (.bigint request.perPage))
    " OFFSET " (.bigint request.offset)
  simp only [List.append_assoc] at hpaged
  unfold selectPieces
  rw [List.append_assoc]
  exact hpaged

theorem listing_pushAssignment {A : Type} {f : A → SetClause} {g : A → Bound} {column : String}
    (hlib : lib.Documented) (hf : ∀ a, (f a).pieces = [.text column, .bind (g a)])
    (h : lib.Listing st ps ", " items) (o : Option A) :
    lib.Listing (PgUserRepository.pushAssignment lib st column (o.map g)) ps ", "
      (items ++ (o.map f).toList.map SetClause.pieces) := by
  cases o with
  | none => simpa [PgUserRepository.pushAssignment, ifSome] using h
  | some a => simpa [PgUserRepository.pushAssignment, ifSome, hf] using h.item hlib column (g a)

/-- The statement of `updateBuilder`, where it builds one. -/
theorem built_updateBuilder (hlib : lib.Documented) {userId : Uuid} {fields : UpdateUser}
    (h : PgUserRepository.updateBuilder lib userId fields = .ok (some b)) : ∃ sets,
    PgUserRepository.setClauses fields = .ok sets ∧ lib.Built b (updatePieces sets userId) := by
  have hstart := (QueryBuilder.built_new hlib "UPDATE iam.users SET ").separated hlib ", "
  have havatar := listing_pushAssignment (f := .avatarId) hlib (fun _ => rfl) hstart fields.avatarId
  have hfirst := listing_pushAssignment (f := .firstName) hlib (fun _ => rfl) havatar
    fields.firstName
  have hlast := listing_pushAssignment (f := .lastName) hlib (fun _ => rfl) hfirst fields.lastName
  have hemail := listing_pushAssignment (f := .email) hlib (fun _ => rfl) hlast fields.email
  have hdepartment := listing_pushAssignment (f := .departmentId) hlib (fun _ => rfl) hemail
    fields.departmentId
  have hbuilt : ∀ status : Option Int, lib.Built _ _ := fun status =>
    have hstatus := listing_pushAssignment (f := .statusId) hlib (fun _ => rfl) hdepartment status
    have hall := listing_pushAssignment (f := .password) hlib (fun _ => rfl) hstatus fields.password
    built_bound hlib hall.built " WHERE id = " (.uuid userId)
  simp only [List.nil_append, ← List.map_append] at hbuilt
  unfold PgUserRepository.updateBuilder at h
  unfold PgUserRepository.setClauses
  split at h
  · cases h
  cases hstatus : fields.status with
  | none =>
    rw [hstatus] at h
    cases h
    exact ⟨_, rfl, hbuilt none⟩
  | some status =>
    simp only [hstatus] at h
    cases hid : UserStatus.idOf status with
    | none =>
      rw [hid] at h
      cases h
    | some statusId =>
      rw [hid] at h
      cases h
      simp only [hid]
      exact ⟨_, rfl, hbuilt (some statusId)⟩

end

/-! ## Texts without values -/

section

variable {A B K : Type} {o : Option A} {f : A → B} {kind : B → K} {k : K} {p : K → Bool}

theorem map_toList_eq_filter (hk : ∀ a, kind (f a) = k) (hp : p k = o.isSome) :
    (o.map f).toList.map kind = [k].filter p := by
  cases o with
  | none => simp [hp]
  | some a => simp [hp, hk]

theorem map_append_toList {l : List B} {ks : List K} (hl : l.map kind = ks.filter p)
    (hk : ∀ a, kind (f a) = k) (hp : p k = o.isSome) :
    (l ++ (o.map f).toList).map kind = (ks ++ [k]).filter p := by
  rw [List.map_append, List.filter_append, hl, map_toList_eq_filter hk hp]

end

/-- The conditions are those of the filters that apply. -/
theorem map_filter_pushFilters (request : ListRequest) :
    (PgUserRepository.pushFilters request).map Condition.filter =
      Filter.all.filter (Applies request) := by
  have hall : Filter.all =
      [Filter.status] ++ [Filter.departmentId] ++ [Filter.role] ++ [Filter.firstName] := rfl
  unfold PgUserRepository.pushFilters
  rw [hall]
  refine map_append_toList ?_ (fun _ => rfl) rfl
  refine map_append_toList ?_ (fun _ => rfl) rfl
  refine map_append_toList ?_ (fun _ => rfl) rfl
  exact map_toList_eq_filter (fun _ => rfl) rfl

/-- The columns assigned are those of the fields that are present, each once. -/
theorem map_column_setClauses {fields : UpdateUser} {sets : List SetClause}
    (h : PgUserRepository.setClauses fields = .ok sets) :
    sets.map SetClause.column = Column.all.filter fields.Present := by
  obtain ⟨hstatus, rfl⟩ := setClauses_ok h
  have hall : Column.all = [Column.avatarId] ++ [Column.firstName] ++ [Column.lastName] ++
      [Column.email] ++ [Column.departmentId] ++ [Column.statusId] ++ [Column.password] := rfl
  have hpresent : fields.Present .statusId = (fields.status.bind UserStatus.idOf).isSome := by
    unfold UpdateUser.Present
    cases hfield : fields.status with
    | none => rfl
    | some status => exact (hstatus status hfield).symm
  unfold assignments
  rw [hall]
  refine map_append_toList ?_ (fun _ => rfl) rfl
  refine map_append_toList ?_ (fun _ => rfl) hpresent
  refine map_append_toList ?_ (fun _ => rfl) rfl
  refine map_append_toList ?_ (fun _ => rfl) rfl
  refine map_append_toList ?_ (fun _ => rfl) rfl
  refine map_append_toList ?_ (fun _ => rfl) rfl
  exact map_toList_eq_filter (fun _ => rfl) rfl

theorem written_conditionPieces (request : ListRequest) :
    (conditionPieces request).map Piece.written =
      (Filter.all.filter (Applies request)).flatMap fun f =>
        some f.texts.1 :: none :: f.texts.2.map some := by
  have hpieces : ∀ c : Condition, c.pieces.map Piece.written =
      some c.filter.texts.1 :: none :: c.filter.texts.2.map some := by
    intro c
    unfold Condition.pieces
    rw [List.map_cons, List.map_cons, List.map_map]
    rfl
  unfold conditionPieces
  rw [← map_filter_pushFilters, List.map_flatMap, List.flatMap_map]
  exact congrArg (fun g => (PgUserRepository.pushFilters request).flatMap g) (funext hpieces)

theorem written_updatePieces (sets : List SetClause) (userId : Uuid) :
    (updatePieces sets userId).map Piece.written =
      some "UPDATE iam.users SET " ::
        [some ", "].intercalate ((sets.map SetClause.column).map fun c => [some c.text, none]) ++
        [some " WHERE id = ", none] := by
  unfold updatePieces
  rw [List.map_append, List.map_append, QueryBuilder.map_intercalate, List.map_map, List.map_map]
  rfl

/-! ## Numbering -/

theorem plain_selectUserText : Plain selectUserText := by
  unfold selectUserText
  iterate 6 refine .append ?_ (plain_ofList (by decide))
  exact plain_ofList (by decide)

theorem plain_countUserText : Plain countUserText := by
  unfold countUserText
  iterate 3 refine .append ?_ (plain_ofList (by decide))
  exact plain_ofList (by decide)

theorem plain_existsRoleText : Plain existsRoleText := by
  unfold existsRoleText
  iterate 2 refine .append ?_ (plain_ofList (by decide))
  exact plain_ofList (by decide)

theorem plain_texts (f : Filter) : Plain f.texts.1 ∧ ∀ s ∈ f.texts.2, Plain s := by
  cases f with
  | status => exact ⟨plain_ofList (by decide), nofun⟩
  | departmentId => exact ⟨plain_ofList (by decide), nofun⟩
  | role => exact ⟨plain_existsRoleText, List.forall_mem_singleton.2 (plain_ofList (by decide))⟩
  | firstName => exact ⟨plain_ofList (by decide), nofun⟩

theorem plain_conditionPieces (request : ListRequest) :
    ∀ p ∈ conditionPieces request, PlainPiece p := by
  intro p hp
  obtain ⟨c, -, hp⟩ := List.mem_flatMap.1 hp
  obtain ⟨hbefore, hafter⟩ := plain_texts c.filter
  unfold Condition.pieces at hp
  simp only [List.mem_cons, List.mem_map] at hp
  rcases hp with rfl | rfl | ⟨s, hs, rfl⟩
  · exact hbefore
  · trivial
  · exact hafter s hs

theorem plain_countPieces (request : ListRequest) : ∀ p ∈ countPieces request, PlainPiece p := by
  have hwhere : Plain " WHERE TRUE" := plain_ofList (by decide)
  unfold countPieces
  rw [List.forall_mem_append]
  refine ⟨?_, plain_conditionPieces request⟩
  simp only [List.forall_mem_cons]
  exact ⟨plain_countUserText, hwhere, List.forall_mem_nil _⟩

theorem plain_pagePieces (request : ListRequest) : ∀ p ∈ pagePieces request, PlainPiece p := by
  have hcolumn : ∀ column : SortColumn, Plain column.text := by
    intro column
    cases column <;> exact plain_ofList (by decide)
  have hdirection : ∀ order : SortOrder, Plain order.text := by
    intro order
    cases order <;> exact plain_ofList (by decide)
  have hby : Plain " ORDER BY " := plain_ofList (by decide)
  have hblank : Plain " " := plain_ofList (by decide)
  have hlimit : Plain " LIMIT " := plain_ofList (by decide)
  have hoffset : Plain " OFFSET " := plain_ofList (by decide)
  unfold pagePieces
  simp only [List.forall_mem_cons]
  exact ⟨((hby.append (hcolumn _)).append hblank).append (hdirection _), hlimit, trivial, hoffset,
    trivial, List.forall_mem_nil _⟩

theorem plain_selectPieces (request : ListRequest) : ∀ p ∈ selectPieces request, PlainPiece p := by
  have hwhere : Plain " WHERE TRUE" := plain_ofList (by decide)
  unfold selectPieces
  rw [List.forall_mem_append, List.forall_mem_append]
  refine ⟨⟨?_, plain_conditionPieces request⟩, plain_pagePieces request⟩
  simp only [List.forall_mem_cons]
  exact ⟨plain_selectUserText, hwhere, List.forall_mem_nil _⟩

theorem plain_updatePieces (sets : List SetClause) (userId : Uuid) :
    ∀ p ∈ updatePieces sets userId, PlainPiece p := by
  have hcolumn : ∀ column : Column, Plain column.text := by
    intro column
    cases column <;> exact plain_ofList (by decide)
  have hupdate : Plain "UPDATE iam.users SET " := plain_ofList (by decide)
  have hcomma : Plain ", " := plain_ofList (by decide)
  have hwhere : Plain " WHERE id = " := plain_ofList (by decide)
  unfold updatePieces
  rw [List.forall_mem_append, List.forall_mem_append]
  refine ⟨⟨?_, QueryBuilder.forall_mem_intercalate ?_ fun item hitem => ?_⟩, ?_⟩
  · exact List.forall_mem_singleton.2 hupdate
  · exact List.forall_mem_singleton.2 hcomma
  · obtain ⟨set, -, rfl⟩ := List.mem_map.1 hitem
    unfold SetClause.pieces
    simp only [List.forall_mem_cons]
    exact ⟨hcolumn set.column, trivial, List.forall_mem_nil _⟩
  · simp only [List.forall_mem_cons]
    exact ⟨hwhere, trivial, List.forall_mem_nil _⟩

/-! ## The statements of two requests -/

/-- The same filters apply. -/
def SameFilters (request request' : ListRequest) : Prop :=
  ∀ f, Applies request f = Applies request' f

/-- The same fields are present. -/
def SameFields (fields fields' : UpdateUser) : Prop :=
  ∀ column, fields.Present column = fields'.Present column

theorem written_conditionPieces_congr {request request' : ListRequest}
    (h : SameFilters request request') :
    (conditionPieces request).map Piece.written = (conditionPieces request').map Piece.written := by
  rw [written_conditionPieces, written_conditionPieces, show Applies request = Applies request' from
    funext h]

theorem written_selectPieces_congr {request request' : ListRequest}
    (h : SameFilters request request')
    (hcolumn : PgUserRepository.sortColumn request.sortBy =
      PgUserRepository.sortColumn request'.sortBy)
    (horder : PgUserRepository.sortOrder request.order =
      PgUserRepository.sortOrder request'.order) :
    (selectPieces request).map Piece.written = (selectPieces request').map Piece.written := by
  have hpage : (pagePieces request).map Piece.written =
      (pagePieces request').map Piece.written := by
    unfold pagePieces
    rw [hcolumn, horder]
    rfl
  unfold selectPieces
  rw [List.map_append, List.map_append, List.map_append, List.map_append,
    written_conditionPieces_congr h, hpage]

theorem written_updatePieces_congr {fields fields' : UpdateUser} {sets sets' : List SetClause}
    (h : SameFields fields fields') (hsets : PgUserRepository.setClauses fields = .ok sets)
    (hsets' : PgUserRepository.setClauses fields' = .ok sets') (userId userId' : Uuid) :
    (updatePieces sets userId).map Piece.written =
      (updatePieces sets' userId').map Piece.written := by
  rw [written_updatePieces, written_updatePieces, map_column_setClauses hsets,
    map_column_setClauses hsets', show fields.Present = fields'.Present from funext h]

/-- The text of the conditions and their values, in the statements that count and select. -/
structure SharesConditions (lib : QueryBuilder Bound) (request : ListRequest) (text : String)
    (values : List Bound) : Prop where
  count_sql : lib.sql (PgUserRepository.countBuilder lib request) =
    countUserText ++ " WHERE TRUE" ++ text
  count_arguments : lib.arguments (PgUserRepository.countBuilder lib request) = values
  select_sql : ∃ page, lib.sql (PgUserRepository.selectBuilder lib request) =
    selectUserText ++ " WHERE TRUE" ++ text ++ page
  select_arguments : lib.arguments (PgUserRepository.selectBuilder lib request) =
    values ++ [.bigint request.perPage, .bigint request.offset]

theorem sharesConditions {lib : QueryBuilder Bound} (hlib : lib.Documented)
    (request : ListRequest) :
    SharesConditions lib request (render (conditionPieces request))
      (binds (conditionPieces request)) where
  count_sql := by
    rw [(built_countBuilder hlib request).1]
    unfold countPieces render
    rw [renderFrom_append]
    simp only [renderFrom, String.append_empty]
    rfl
  count_arguments := (built_countBuilder hlib request).2
  select_sql := by
    refine ⟨renderFrom (1 + (binds (conditionPieces request)).length) (pagePieces request), ?_⟩
    rw [(built_selectBuilder hlib request).1]
    unfold selectPieces render
    rw [renderFrom_append, renderFrom_append]
    simp only [renderFrom, String.append_empty, binds_append]
    rfl
  select_arguments := by
    rw [(built_selectBuilder hlib request).2]
    unfold selectPieces
    rw [binds_append]
    rfl

/-- No value of a request reaches the text of a statement. The statements of `index` and
    `partial_update` number their placeholders from 1 on and bind one value for each, in its
    place; the update assigns each field that is present; and the texts of two requests differ
    only where their filters, their sorting or their fields do. -/
theorem statement_text_fixed {lib : QueryBuilder Bound} (hlib : lib.Documented) :
    (∀ request,
      (lib.Built (PgUserRepository.countBuilder lib request) (countPieces request) ∧
        lib.Numbered (PgUserRepository.countBuilder lib request)) ∧
      (lib.Built (PgUserRepository.selectBuilder lib request) (selectPieces request) ∧
        lib.Numbered (PgUserRepository.selectBuilder lib request)) ∧
      ∃ text values, SharesConditions lib request text values) ∧
    (∀ request request', SameFilters request request' →
      lib.sql (PgUserRepository.countBuilder lib request) =
        lib.sql (PgUserRepository.countBuilder lib request') ∧
      (PgUserRepository.sortColumn request.sortBy = PgUserRepository.sortColumn request'.sortBy →
        PgUserRepository.sortOrder request.order = PgUserRepository.sortOrder request'.order →
        lib.sql (PgUserRepository.selectBuilder lib request) =
          lib.sql (PgUserRepository.selectBuilder lib request'))) ∧
    (∀ userId fields builder,
      PgUserRepository.updateBuilder lib userId fields = .ok (some builder) →
      lib.Numbered builder ∧ ∃ sets, PgUserRepository.setClauses fields = .ok sets ∧
        sets.map SetClause.column = Column.all.filter fields.Present ∧
        lib.Built builder (updatePieces sets userId)) ∧
    ∀ userId userId' fields fields' builder builder', SameFields fields fields' →
      PgUserRepository.updateBuilder lib userId fields = .ok (some builder) →
      PgUserRepository.updateBuilder lib userId' fields' = .ok (some builder') →
      lib.sql builder = lib.sql builder' := by
  refine ⟨fun request => ?_, fun request request' h => ?_, fun userId fields builder h => ?_, ?_⟩
  · have hcount := built_countBuilder hlib request
    have hselect := built_selectBuilder hlib request
    exact ⟨⟨hcount, hcount.numbered (plain_countPieces request)⟩,
      ⟨hselect, hselect.numbered (plain_selectPieces request)⟩, _, _,
      sharesConditions hlib request⟩
  · refine ⟨(built_countBuilder hlib request).sql_congr (built_countBuilder hlib request') ?_,
      fun hcolumn horder => (built_selectBuilder hlib request).sql_congr
        (built_selectBuilder hlib request') (written_selectPieces_congr h hcolumn horder)⟩
    unfold countPieces
    rw [List.map_append, List.map_append, written_conditionPieces_congr h]
  · obtain ⟨sets, hsets, hbuilt⟩ := built_updateBuilder hlib h
    exact ⟨hbuilt.numbered (plain_updatePieces sets userId), sets, hsets,
      map_column_setClauses hsets, hbuilt⟩
  · intro userId userId' fields fields' builder builder' hsame h h'
    obtain ⟨sets, hsets, hbuilt⟩ := built_updateBuilder hlib h
    obtain ⟨sets', hsets', hbuilt'⟩ := built_updateBuilder hlib h'
    exact hbuilt.sql_congr hbuilt' (written_updatePieces_congr hsame hsets hsets' userId userId')

/-- The filters of the unit test, and the same filters with hostile values. -/
def sampleFiltered : ListRequest :=
  { ListRequest.default with
    filters := [("status", "Active"), ("department_id", "1"), ("role", "Admin"),
      ("first_name", "App")] }

def sampleHostile : ListRequest :=
  { ListRequest.default with
    page := 7
    sortBy := "u.password; DROP TABLE iam.users"
    filters := [("status", "Deleted"), ("department_id", "-1"), ("role", "') OR TRUE --"),
      ("first_name", "$5 = $5")] }

def sampleRenaming : UpdateUser :=
  { UpdateUser.default with firstName := some "Ada", password := some "$1" }

example : (PgUserRepository.updateBuilder (.plain Bound) 2 sampleRenaming).toOption.join.map
    (QueryBuilder.plain Bound).sql =
    some "UPDATE iam.users SET first_name = $1, password = $2 WHERE id = $3" := by decide +kernel

theorem statement_text_fixed_sample :
    (QueryBuilder.plain Bound).Numbered
      (PgUserRepository.selectBuilder (.plain Bound) sampleFiltered) ∧
    (QueryBuilder.plain Bound).sql
        (PgUserRepository.selectBuilder (.plain Bound) sampleFiltered) =
      (QueryBuilder.plain Bound).sql
        (PgUserRepository.selectBuilder (.plain Bound) sampleHostile) ∧
    ∃ builder, PgUserRepository.updateBuilder (.plain Bound) 2 sampleRenaming = .ok (some builder) ∧
      (QueryBuilder.plain Bound).Numbered builder := by
  have hfixed := statement_text_fixed (QueryBuilder.plain_documented Bound)
  have hsame : SameFilters sampleFiltered sampleHostile := fun f => by cases f <;> decide
  exact ⟨(hfixed.1 sampleFiltered).2.1.2, (hfixed.2.1 _ _ hsame).2 (by decide) (by decide), _, rfl,
    (hfixed.2.2.1 2 sampleRenaming _ rfl).1⟩

end ApiStarter.Iam
