import ApiStarter.Database.Window
import ApiStarter.Module.Iam.Visibility

/-
  Walking the pages of the index.

  A client starts at page 1 and follows `next_page` until there is none. Every page is a query
  of its own, ordered by the sort column alone, so rows with equal values may come in another
  order for each page. `index_lists_once_iff` says when the walk nevertheless lists every
  matching user once, for all such orders.
-/

namespace ApiStarter.Iam

open ApiStarter.Auth ApiStarter.Database ApiStarter.Effect ApiStarter.Effect.Fallible
  ApiStarter.Pagination ApiStarter.Provider ApiStarter.Relational

/-- The surroundings with another order of scans. -/
def scanning (env : Env) (scan : Nat → List Nat → List Nat) : Env :=
  { env with pg := { env.pg with scan := scan } }

/-! ## Matching users -/

/-- The condition on a row of `iam.users` and its roles. -/
def Condition.holdsOf (pg : Postgres) (db : Db) (u : UserRow) : Condition → Bool
  | .statusIs statusId => u.statusId == statusId
  | .departmentIs departmentId => u.departmentId == departmentId
  | .holdsRole role => (selectUserRoles db u.id).any fun r => r.name == role
  | .firstNameLike pattern => pg.ilike u.firstName pattern

/-- The users the filters of a request are true of. -/
def matching (pg : Postgres) (db : Db) (request : ListRequest) : List UserRow :=
  db.users.filter fun u =>
    (PgUserRepository.pushFilters request).all (Condition.holdsOf pg db u)

theorem users_of_matchingUsers (pg : Postgres) (db : Db) (request : ListRequest) :
    (matchingUsers pg db (PgUserRepository.pushFilters request)).map (·.user) =
      ((joinedUsers db).map (·.user)).filter fun u =>
        (PgUserRepository.pushFilters request).all (Condition.holdsOf pg db u) := by
  rw [List.filter_map, matchingUsers]
  congr 1
  refine List.filter_congr fun row hrow => ?_
  have hstatus : row.user.statusId = row.status.id := (mem_joinedUsers.1 hrow).2.1.2
  simp only [Function.comp_apply]
  congr 1
  funext condition
  cases condition with
  | statusIs statusId => simp only [Condition.holds, Condition.holdsOf, hstatus]
  | _ => rfl

/-- Where every matching user is readable, the joins keep all of them. -/
theorem matchingUsers_perm {pg : Postgres} {db : Db} (hdb : db.Admissible)
    {request : ListRequest} (hreadable : ∀ u ∈ matching pg db request, Readable db u) :
    ((matchingUsers pg db (PgUserRepository.pushFilters request)).map (·.user)).Perm
      (matching pg db request) := by
  have hsublist := joinedUsers_users_sublist hdb
  have husers : db.users.Nodup := List.Nodup.of_map _ hdb.userIds
  rw [users_of_matchingUsers]
  refine (List.perm_ext_iff_of_nodup ((husers.sublist hsublist).filter _)
    (husers.filter _)).2 fun u => ?_
  refine ⟨fun hu => ((hsublist.filter _).subset hu), fun hu => ?_⟩
  obtain ⟨hmem, hmatches⟩ := List.mem_filter.1 hu
  obtain ⟨row, hfind, -⟩ :=
    (find_joinedUsers_iff hdb hdb.userIds (k := u.id)).2 ⟨u, hmem, rfl, hreadable u hu⟩
  have hrow := List.mem_of_find?_eq_some hfind
  have hid : row.user.id = u.id := by simpa using List.find?_some hfind
  have heq : row.user = u := eq_of_key_eq hdb.userIds (mem_joinedUsers.1 hrow).1 hmem hid
  exact List.mem_filter.2 ⟨List.mem_map.2 ⟨row, hrow, heq⟩, hmatches⟩

theorem matchingUsers_nodup {pg : Postgres} {db : Db} (hdb : db.Admissible)
    {request : ListRequest} :
    (matchingUsers pg db (PgUserRepository.pushFilters request)).Nodup := by
  have husers : db.users.Nodup := List.Nodup.of_map _ hdb.userIds
  exact (List.Nodup.of_map _ (husers.sublist (joinedUsers_users_sublist hdb))).filter _

theorem decodes_of_readable {pg : Postgres} {db : Db} (hdb : db.Admissible)
    {request : ListRequest} (hreadable : ∀ u ∈ matching pg db request, Readable db u) :
    ∀ row ∈ matchingUsers pg db (PgUserRepository.pushFilters request), Decodes row := by
  intro row hrow
  have hmatching : row.user ∈ matching pg db request :=
    (matchingUsers_perm hdb hreadable).subset (List.mem_map_of_mem hrow)
  obtain ⟨⟨s, hs, hstat, hstatus⟩, d, hd, hdep, hdepartment, -⟩ := hreadable _ hmatching
  obtain ⟨-, ⟨hs', hstat'⟩, ⟨hd', hdep'⟩, -⟩ := mem_joinedUsers.1 (List.mem_of_mem_filter hrow)
  have hrowStatus : row.status = s :=
    eq_of_key_eq hdb.statusIds hs' hs (by rw [← hstat', hstat])
  have hrowDepartment : row.department = d :=
    eq_of_key_eq hdb.departmentIds hd' hd (by rw [← hdep', hdep])
  exact ⟨hrowStatus ▸ hstatus, hrowDepartment ▸ hdepartment⟩

/-! ## The order of the index -/

section

variable {pg : Postgres}

theorem nullableLe_total (h : pg.Orders) (x y : Option String) :
    nullableLe pg x y = true ∨ nullableLe pg y x = true := by
  cases x with
  | none => exact .inr (by cases y <;> rfl)
  | some x =>
    cases y with
    | none => exact .inl rfl
    | some y => exact h.total x y

theorem nullableLe_trans (h : pg.Orders) {x y z : Option String} (hxy : nullableLe pg x y = true)
    (hyz : nullableLe pg y z = true) : nullableLe pg x z = true := by
  cases z with
  | none => cases x <;> rfl
  | some z =>
    cases y with
    | none => cases hyz
    | some y =>
      cases x with
      | none => cases hxy
      | some x => exact h.trans x y z hxy hyz

theorem nullableLe_antisymm (h : ∀ x y, pg.collate x y = true → pg.collate y x = true → x = y)
    {x y : Option String} (hxy : nullableLe pg x y = true) (hyx : nullableLe pg y x = true) :
    x = y := by
  cases x with
  | none =>
    cases y with
    | none => rfl
    | some y => cases hxy
  | some x =>
    cases y with
    | none => cases hyx
    | some y => rw [h x y hxy hyx]

theorem rowLe_antisymm (h : ∀ x y, pg.collate x y = true → pg.collate y x = true → x = y)
    {column : SortColumn} {order : SortOrder} {a b : JoinedUser}
    (hab : rowLe pg column order a b = true) (hba : rowLe pg column order b a = true) :
    column.value a = column.value b := by
  cases order with
  | asc => exact nullableLe_antisymm h hab hba
  | desc => exact nullableLe_antisymm h hba hab

theorem rowLe_total (h : pg.Orders) (column : SortColumn) (order : SortOrder)
    (a b : JoinedUser) : rowLe pg column order a b = true ∨ rowLe pg column order b a = true := by
  cases order with
  | asc => exact nullableLe_total h _ _
  | desc => exact nullableLe_total h _ _

theorem rowLe_trans (h : pg.Orders) (column : SortColumn) (order : SortOrder)
    (a b c : JoinedUser) (hab : rowLe pg column order a b = true)
    (hbc : rowLe pg column order b c = true) : rowLe pg column order a c = true := by
  cases order with
  | asc => exact nullableLe_trans h hab hbc
  | desc => exact nullableLe_trans h hbc hab

end

/-- The `ORDER BY` of a request. -/
abbrev orderBy (pg : Postgres) (request : ListRequest) : JoinedUser → JoinedUser → Bool :=
  rowLe pg (PgUserRepository.sortColumn request.sortBy) (PgUserRepository.sortOrder request.order)

/-! ## One page -/

/-- The user a row is mapped to, with its roles. -/
def readUser (db : Db) (row : JoinedUser) : User where
  id := row.user.id
  userName := row.user.userName
  avatarId := row.user.avatarId
  email := row.user.email
  password := row.user.password
  firstName := row.user.firstName
  lastName := row.user.lastName
  status := { id := row.status.id, status := row.status.status.getD "" }
  department := {
    id := row.department.id
    name := row.department.name.getD ""
    company := { id := row.company.id, name := row.company.name } }
  roles := (selectUserRoles db row.user.id).map fun r => { roleId := r.id, name := r.name }

section

variable {env : Env} {faults : Faults} {w w' : World} {request : ListRequest}

theorem runE_mapUserWithRoles_of_decodes (hup : Faults.StoreUp faults) {row : JoinedUser}
    (h : Decodes row) :
    runE (exec env faults) (PgUserRepository.mapUserWithRoles row) w =
      (some (.ok (readUser w.db row)), w.counted) := by
  obtain ⟨status, hstatus⟩ := Option.isSome_iff_exists.1 h.1
  obtain ⟨name, hname⟩ := Option.isSome_iff_exists.1 h.2
  have hmap : PgUserRepository.mapUser row = .ok { readUser w.db row with roles := [] } := by
    unfold PgUserRepository.mapUser readUser
    rw [hstatus, hname]
    rfl
  rw [runE_mapUserWithRoles (hup _) hmap]
  rfl

theorem runE_mapM_mapUserWithRoles (hup : Faults.StoreUp faults) {rows : List JoinedUser}
    (h : ∀ row ∈ rows, Decodes row) :
    runE (exec env faults) (rows.mapM PgUserRepository.mapUserWithRoles) w =
      (some (.ok (rows.map (readUser w.db))),
        { w with statements := w.statements + rows.length }) := by
  induction rows generalizing w with
  | nil => rfl
  | cons row rows ih =>
    rw [List.mapM_cons, runE_bind,
      runE_mapUserWithRoles_of_decodes hup (h row List.mem_cons_self)]
    dsimp only
    rw [runE_bind, ih fun row' hrow' => h row' (List.mem_cons_of_mem _ hrow')]
    simp only [runE_pure, List.map_cons, World.counted, List.length_cons]
    rw [Nat.add_assoc, Nat.add_comm 1]

theorem forM_bindText_ok_iff {texts : List String} :
    texts.forM bindText = Except.ok () ↔ ∀ text ∈ texts, Char.ofNat 0 ∉ text.toList := by
  induction texts with
  | nil => exact ⟨fun _ _ h => (List.not_mem_nil h).elim, fun _ => rfl⟩
  | cons text texts ih =>
    have hcons : (text :: texts).forM bindText = (do bindText text; texts.forM bindText) := rfl
    rw [hcons, List.forall_mem_cons, ← ih, bindText]
    by_cases htext : Char.ofNat 0 ∈ text.toList
    · rw [if_pos (by simpa using htext)]
      exact ⟨(fun h => nomatch h), (fun h => absurd htext h.1)⟩
    · rw [if_neg (by simpa using htext)]
      exact ⟨fun h => ⟨htext, h⟩, fun h => h.2⟩

/-- The filters have no NUL character, which PostgreSQL cannot be sent. -/
def Bindable (request : ListRequest) : Prop :=
  ∀ text ∈ (PgUserRepository.pushFilters request).flatMap Condition.bound,
    Char.ofNat 0 ∉ text.toList

/-- The matching rows in the order in which the `n`-th statement lists them. -/
def arranged (pg : Postgres) (db : Db) (request : ListRequest) (n : Nat) : List JoinedUser :=
  (pg.scanned n (matchingUsers pg db (PgUserRepository.pushFilters request))).insertionSort
    fun a b => orderBy pg request a b = true

theorem exec_countUsers (hup : Faults.StoreUp faults) (hbind : Bindable request) :
    exec env faults (.countUsers (PgUserRepository.pushFilters request)) w =
      (.ok (Int64.ofNat
        (matchingUsers env.pg w.db (PgUserRepository.pushFilters request)).length), w.counted) := by
  refine Prod.ext ((query_fst_of_store_none (hup _) _).trans ?_) (query_snd _)
  unfold countUsers
  rw [forM_bindText_ok_iff.2 hbind]
  rfl

theorem exec_selectUsers (hup : Faults.StoreUp faults) (hbind : Bindable request) {size i : Nat}
    (hsize : size < 2 ^ 63) (hoffset : i * size < 2 ^ 63) :
    exec env faults (.selectUsers (PgUserRepository.pushFilters request)
      (PgUserRepository.sortColumn request.sortBy) (PgUserRepository.sortOrder request.order)
      (Int64.ofNat size) (Int64.ofNat (i * size))) w =
        (.ok (page size i (arranged env.pg w.db request w.statements)), w.counted) := by
  refine Prod.ext ((query_fst_of_store_none (hup _) _).trans ?_) (query_snd _)
  have hnonneg : ∀ {n : Nat}, n < 2 ^ 63 → ¬ Int64.ofNat n < 0 := by
    intro n hn
    rw [Int64.not_lt]
    exact (ofNat_le_ofNat (show 0 < 2 ^ 63 by omega) hn).2 (Nat.zero_le n)
  unfold selectUsers
  rw [forM_bindText_ok_iff.2 hbind, if_neg (hnonneg hsize), if_neg (hnonneg hoffset),
    Int64.toInt_ofNat_of_lt hsize, Int64.toInt_ofNat_of_lt hoffset]
  rfl

/-- The page of the index that starts after `i` full ones. -/
def pageData (pg : Postgres) (db : Db) (request : ListRequest) (size i n : Nat) : Data User :=
  Data.new ((page size i (arranged pg db request n)).map (readUser db))
    (Int64.ofNat (matchingUsers pg db (PgUserRepository.pushFilters request)).length)
    (Int64.ofNat (i + 1)) (Int64.ofNat size)

theorem mem_arranged {pg : Postgres} (hscan : Permutes pg.scan) {db : Db} {n : Nat}
    {row : JoinedUser} (h : row ∈ arranged pg db request n) :
    row ∈ matchingUsers pg db (PgUserRepository.pushFilters request) :=
  (Postgres.scanned_perm hscan n _).subset ((List.perm_insertionSort _ _).subset h)

theorem runE_index (hup : Faults.StoreUp faults) (hscan : Permutes env.pg.scan)
    (hbind : Bindable request)
    (hdecodes : ∀ row ∈ matchingUsers env.pg w.db (PgUserRepository.pushFilters request),
      Decodes row)
    {size i : Nat} (hperPage : request.perPage = Int64.ofNat size) (hsize : size < 2 ^ 63)
    (hoffset : i * size < 2 ^ 63) :
    runE (exec env faults)
        (UserServiceImpl.index { request with page := Int64.ofNat (i + 1) }) w =
      (some (.ok (pageData env.pg w.db request size i (w.statements + 1))),
        { w with statements := w.statements + 2 +
          (page size i (arranged env.pg w.db request (w.statements + 1))).length }) := by
  have hoffset' := request.offset_ofNat hperPage i
  have hrows : ∀ row ∈ page size i (arranged env.pg w.db request (w.statements + 1)),
      Decodes row := fun row hrow => hdecodes row (mem_arranged hscan (page_subset hrow))
  have hrepository : runE (exec env faults)
      (PgUserRepository.index { request with page := Int64.ofNat (i + 1) }) w =
      (some (.ok ((page size i (arranged env.pg w.db request (w.statements + 1))).map
          (readUser w.db),
        Int64.ofNat (matchingUsers env.pg w.db (PgUserRepository.pushFilters request)).length)),
        { w with statements := w.statements + 2 +
          (page size i (arranged env.pg w.db request (w.statements + 1))).length }) := by
    unfold PgUserRepository.index
    rw [hoffset', show PgUserRepository.pushFilters { request with page := Int64.ofNat (i + 1) } =
      PgUserRepository.pushFilters request from rfl]
    dsimp only
    rw [hperPage, runE_ask_bind, exec_countUsers hup hbind]
    dsimp only
    rw [mapErr_ok, pure_bind, runE_ask_bind, exec_selectUsers hup hbind hsize hoffset]
    dsimp only [World.counted]
    rw [mapErr_ok, pure_bind, runE_bind, runE_mapM_mapUserWithRoles hup hrows]
    rfl
  unfold UserServiceImpl.index
  rw [runE_bind, runE_mapErrOf, hrepository]
  dsimp only [Option.map_some, Except.mapError]
  rw [hperPage]
  rfl

end

/-! ## The walk -/

/-- The pages of a client that starts at `page` and follows `next_page` until there is none. -/
inductive Walk (env : Env) (faults : Faults) (request : ListRequest) :
    Int64 → World → List (Data User) → Prop
  | last {page : Int64} {w w' : World} {data : Data User}
      (h : runE (exec env faults) (UserServiceImpl.index { request with page := page }) w =
        (some (.ok data), w')) (hnext : data.metaData.nextPage = none) :
      Walk env faults request page w [data]
  | next {page following : Int64} {w w' : World} {data : Data User} {rest : List (Data User)}
      (h : runE (exec env faults) (UserServiceImpl.index { request with page := page }) w =
        (some (.ok data), w')) (hnext : data.metaData.nextPage = some following)
      (hrest : Walk env faults request following w' rest) :
      Walk env faults request page w (data :: rest)

section

variable {env : Env} {faults : Faults} {w : World} {request : ListRequest}

theorem Walk.unique {number : Int64} {pages pages' : List (Data User)}
    (h : Walk env faults request number w pages) (h' : Walk env faults request number w pages') :
    pages = pages' := by
  induction h generalizing pages' with
  | last h hnext =>
    cases h' with
    | last h' _ => rw [h] at h'; cases h'; rfl
    | next h' hnext' _ => rw [h] at h'; cases h'; rw [hnext] at hnext'; cases hnext'
  | next h hnext _ ih =>
    cases h' with
    | last h' hnext' => rw [h] at h'; cases h'; rw [hnext] at hnext'; cases hnext'
    | next h' hnext' hrest =>
      rw [h] at h'
      cases h'
      rw [hnext] at hnext'
      cases hnext'
      rw [ih hrest]

theorem length_arranged {pg : Postgres} (hscan : Permutes pg.scan) (db : Db) (n : Nat) :
    (arranged pg db request n).length =
      (matchingUsers pg db (PgUserRepository.pushFilters request)).length := by
  rw [arranged, List.length_insertionSort, (Postgres.scanned_perm hscan n _).length_eq]

section

variable (hup : Faults.StoreUp faults) (hscan : Permutes env.pg.scan) (hbind : Bindable request)
  (hdecodes : ∀ row ∈ matchingUsers env.pg w.db (PgUserRepository.pushFilters request),
    Decodes row)
  {size : Nat} (hperPage : request.perPage = Int64.ofNat size) (hsize : 0 < size)
  (hsize' : size < 2 ^ 63) {total : Nat}
  (htotal : (matchingUsers env.pg w.db (PgUserRepository.pushFilters request)).length = total)
  (hfew : total + 1 < 2 ^ 63)
include hup hscan hbind hdecodes hperPage hsize hsize' htotal hfew

/-- The page after `i` full ones, which took two statements and one for each row. -/
theorem page_of_walk {i : Nat} (hi : i = 0 ∨ i < pageCount total size) :
    (pageData env.pg w.db request size i
        (w.statements + i * (size + 2) + 1)).metaData.nextPage =
      (if i + 1 < pageCount total size then some (Int64.ofNat (i + 2)) else none) ∧
    ∃ statements, (i + 1 < pageCount total size →
        statements = w.statements + (i + 1) * (size + 2)) ∧
      runE (exec env faults)
          (UserServiceImpl.index { request with page := Int64.ofNat (i + 1) })
          { w with statements := w.statements + i * (size + 2) } =
        (some (.ok (pageData env.pg w.db request size i (w.statements + i * (size + 2) + 1))),
          { w with statements := statements }) := by
  have hoffset : i * size ≤ total := by
    rcases hi with rfl | hlt
    · omega
    · exact ((lt_pageCount hsize).1 hlt).le
  refine ⟨?_, _, fun hmore => ?_,
    runE_index (w := { w with statements := w.statements + i * (size + 2) }) hup hscan hbind
      hdecodes hperPage hsize' (show i * size < 2 ^ 63 by omega)⟩
  · have hcount : pageCount total size ≤ total := pageCount_le hsize
    rw [pageData, htotal]
    exact Data.new_nextPage _ hsize hsize' (by omega) (by omega)
  · have hlt := (lt_pageCount hsize).1 hmore
    rw [Nat.succ_mul] at hlt
    have hfull : (page size i (arranged env.pg w.db request
        (w.statements + i * (size + 2) + 1))).length = size := by
      rw [page, List.length_take, List.length_drop, length_arranged hscan, htotal]
      omega
    dsimp only
    rw [hfull, Nat.succ_mul]
    omega

theorem walk_from (left : Nat) {i : Nat} (hi : i + left + 1 = max 1 (pageCount total size)) :
    Walk env faults request (Int64.ofNat (i + 1))
      { w with statements := w.statements + i * (size + 2) }
      ((List.range' i (left + 1)).map fun j =>
        pageData env.pg w.db request size j (w.statements + j * (size + 2) + 1)) := by
  induction left generalizing i with
  | zero =>
    obtain ⟨hnext, statements, -, hrun⟩ := page_of_walk hup hscan hbind hdecodes hperPage hsize
      hsize' htotal hfew (i := i) (by omega)
    rw [if_neg (by omega)] at hnext
    exact .last hrun hnext
  | succ left ih =>
    obtain ⟨hnext, statements, hstatements, hrun⟩ := page_of_walk hup hscan hbind hdecodes
      hperPage hsize hsize' htotal hfew (i := i) (by omega)
    have hmore : i + 1 < pageCount total size := by omega
    rw [if_pos hmore] at hnext
    rw [hstatements hmore] at hrun
    exact .next hrun hnext (ih (i := i + 1) (by omega))

/-- The walk from page 1 is the pages one after another, at least one. -/
theorem walk_all : Walk env faults request 1 w
    ((List.range (max 1 (pageCount total size))).map fun i =>
      pageData env.pg w.db request size i (w.statements + i * (size + 2) + 1)) := by
  have h := walk_from hup hscan hbind hdecodes hperPage hsize hsize' htotal hfew
    (max 1 (pageCount total size) - 1) (i := 0) (by omega)
  rw [show max 1 (pageCount total size) - 1 + 1 = max 1 (pageCount total size) by omega,
    ← List.range_eq_range'] at h
  simpa using h

end

end

/-! ## What a page shows -/

section

variable {env : Env} {faults : Faults} {w w' : World} {request : ListRequest}

theorem runE_mapUserWithRoles_ok {row : JoinedUser} {user : User}
    (h : runE (exec env faults) (PgUserRepository.mapUserWithRoles row) w =
      (some (.ok user), w')) : Decodes row ∧ user.id = row.user.id := by
  obtain ⟨mapped, w₁, hmapped, h⟩ := runE_bind_ok h
  obtain ⟨hmapped, -⟩ := runE_mapErr_ok hmapped
  obtain ⟨roles, w₂, -, h⟩ := runE_bind_ok h
  cases h
  refine ⟨mapUser_ok_iff.1 ⟨mapped, hmapped⟩, ?_⟩
  obtain ⟨status, hstatus⟩ := Option.isSome_iff_exists.1 (mapUser_ok_iff.1 ⟨mapped, hmapped⟩).1
  obtain ⟨name, hname⟩ := Option.isSome_iff_exists.1 (mapUser_ok_iff.1 ⟨mapped, hmapped⟩).2
  unfold PgUserRepository.mapUser at hmapped
  rw [hstatus, hname] at hmapped
  cases hmapped
  rfl

theorem selectUsers_subset (hscan : Permutes env.pg.scan) {n : Nat} {db : Db} {limit offset : Int64}
    {rows : List JoinedUser}
    (h : selectUsers env.pg n db (PgUserRepository.pushFilters request)
      (PgUserRepository.sortColumn request.sortBy) (PgUserRepository.sortOrder request.order)
      limit offset = .ok rows) :
    ∀ row ∈ rows, row ∈ matchingUsers env.pg db (PgUserRepository.pushFilters request) := by
  unfold selectUsers at h
  obtain ⟨-, -, h⟩ := ok_of_bind_ok h
  by_cases hlimit : limit < 0
  · rw [if_pos hlimit] at h
    cases h
  by_cases hoffset : offset < 0
  · rw [if_neg hlimit, if_pos hoffset] at h
    cases h
  rw [if_neg hlimit, if_neg hoffset] at h
  cases h
  exact fun row hrow => mem_arranged hscan (List.mem_of_mem_drop (List.mem_of_mem_take hrow))

/-- A page that was shown has bound its filters, and shows rows that decode. -/
theorem index_ok (hscan : Permutes env.pg.scan) {number : Int64} {data : Data User}
    (h : runE (exec env faults) (UserServiceImpl.index { request with page := number }) w =
      (some (.ok data), w')) :
    Bindable request ∧ ∀ user ∈ data.data,
      ∃ row ∈ matchingUsers env.pg w.db (PgUserRepository.pushFilters request),
        Decodes row ∧ user.id = row.user.id := by
  unfold UserServiceImpl.index PgUserRepository.index at h
  obtain ⟨⟨users, count⟩, w₁, hrepository, h⟩ := runE_bind_ok h
  cases h
  have hrepository := runE_ask_ok (runE_mapErrOf_ok hrepository)
  obtain ⟨count', w₂, hcount, hrepository⟩ := runE_bind_ok hrepository
  obtain ⟨hcounted, rfl⟩ := runE_mapErr_ok hcount
  have hrepository := runE_ask_ok hrepository
  obtain ⟨rows, w₃, hselect, hrepository⟩ := runE_bind_ok hrepository
  obtain ⟨hselected, rfl⟩ := runE_mapErr_ok hselect
  obtain ⟨users', w₄, husers, hrepository⟩ := runE_bind_ok hrepository
  cases hrepository
  obtain ⟨_, hbound, -⟩ := ok_of_bind_ok (query_ok hcounted)
  have hdb : (exec env faults (.countUsers
      (PgUserRepository.pushFilters { request with page := number })) w).2.db = w.db := query_db _
  have hrows := query_ok hselected
  rw [hdb] at hrows
  refine ⟨forM_bindText_ok_iff.1 hbound, fun user huser => ?_⟩
  obtain ⟨row, hrow, hread⟩ :=
    runE_listMapM_ok (P := fun row user => Decodes row ∧ user.id = row.user.id)
      runE_mapUserWithRoles_ok husers user huser
  exact ⟨row, selectUsers_subset hscan hrows row hrow, hread⟩

theorem index_db {outcome : Option (Except Errdef.Error (Data User))}
    (h : runE (exec env faults) (UserServiceImpl.index request) w = (outcome, w')) :
    w'.db = w.db :=
  runE_keepsCommitted (usesE_index keepsCommitted_of_reads request) h

theorem Walk.shows (hscan : Permutes env.pg.scan) {number : Int64} {pages : List (Data User)}
    (h : Walk env faults request number w pages) :
    Bindable request ∧ ∀ user ∈ pages.flatMap (·.data),
      ∃ row ∈ matchingUsers env.pg w.db (PgUserRepository.pushFilters request),
        Decodes row ∧ user.id = row.user.id := by
  induction h with
  | last h _ =>
    rw [List.flatMap_singleton]
    exact index_ok hscan h
  | next h _ _ ih =>
    obtain ⟨hbind, hshown⟩ := index_ok hscan h
    rw [index_db h] at ih
    refine ⟨hbind, fun user huser => ?_⟩
    rw [List.flatMap_cons, List.mem_append] at huser
    rcases huser with hfirst | hrest
    · exact hshown user hfirst
    · exact ih.2 user hrest

end

/-! ## Every matching user once -/

/-- The walk from page 1 ends, lists every matching user once, and counts them on every page. -/
structure ListsOnce (env : Env) (faults : Faults) (request : ListRequest) (w : World)
    (pages : List (Data User)) : Prop where
  walk : Walk env faults request 1 w pages
  once : ((pages.flatMap (·.data)).map (·.id)).Perm ((matching env.pg w.db request).map (·.id))
  counted : ∀ page ∈ pages,
    page.metaData.totalCount.toInt = (matching env.pg w.db request).length

/-- The filters can be bound, every matching user can be read, and no page starts within a run of
    rows that are equal in the sort column. -/
structure Pageable (pg : Postgres) (db : Db) (request : ListRequest) : Prop where
  bindable : Bindable request
  readable : ∀ u ∈ matching pg db request, Readable db u
  apart : ∀ i, CutsBetweenRuns (orderBy pg request)
    (matchingUsers pg db (PgUserRepository.pushFilters request))
    (i * request.perPage.toInt.toNat)

/-- Under a collation that tells all texts apart, no two users are equal in a unique column. -/
theorem apart_of_unique_column {pg : Postgres} (horders : pg.Orders)
    (hanti : ∀ x y, pg.collate x y = true → pg.collate y x = true → x = y) {db : Db}
    (hdb : db.Admissible) {request : ListRequest}
    (hcolumn : PgUserRepository.sortColumn request.sortBy = .userName ∨
      PgUserRepository.sortColumn request.sortBy = .email) (n : Nat) :
    CutsBetweenRuns (orderBy pg request)
      (matchingUsers pg db (PgUserRepository.pushFilters request)) n := by
  refine cutsBetweenRuns_of_antisymm (rowLe_total horders _ _) (rowLe_trans horders _ _)
    (matchingUsers_nodup hdb) (fun a ha b hb hab hba => ?_) n
  have hjoined := joinedUsers_users_sublist hdb
  have hrows : ((joinedUsers db).map (·.user)).Nodup :=
    (List.Nodup.of_map _ hdb.userIds).sublist hjoined
  have ha' := List.mem_of_mem_filter ha
  have hb' := List.mem_of_mem_filter hb
  have hvalue := rowLe_antisymm hanti hab hba
  have huser : a.user = b.user := by
    rcases hcolumn with hcolumn | hcolumn
    · rw [hcolumn] at hvalue
      exact eq_of_key_eq hdb.userNames (mem_joinedUsers.1 ha').1 (mem_joinedUsers.1 hb').1
        (Option.some.inj hvalue)
    · rw [hcolumn] at hvalue
      exact eq_of_key_eq hdb.userEmails (mem_joinedUsers.1 ha').1 (mem_joinedUsers.1 hb').1
        (Option.some.inj hvalue)
  exact eq_of_key_eq hrows ha' hb' huser

section

variable {env : Env} {faults : Faults} {w : World} {request : ListRequest}

theorem arrangement_arranged {pg : Postgres} (horders : pg.Orders) (hscan : Permutes pg.scan)
    (db : Db) (n : Nat) :
    Arrangement (orderBy pg request)
      (matchingUsers pg db (PgUserRepository.pushFilters request)) (arranged pg db request n) := by
  have h : Arrangement (orderBy pg request) _ (arranged pg db request n) :=
    arrangement_insertionSort (rowLe_total horders _ _) (rowLe_trans horders _ _) _
  exact ⟨h.perm.trans (Postgres.scanned_perm hscan n _), h.sorted⟩

/-- The ids on consecutive pages are those of the rows on them. -/
theorem ids_of_pages (pg : Postgres) (db : Db) (size count : Nat) (n : Nat → Nat) :
    (((List.range count).map fun i => pageData pg db request size i (n i)).flatMap
        (·.data)).map (·.id) =
      ((List.range count).flatMap fun i => page size i (arranged pg db request (n i))).map
        (·.user.id) := by
  rw [List.flatMap_map, List.map_flatMap, List.map_flatMap]
  refine List.flatMap_congr fun i _ => ?_
  rw [pageData, Data.new, List.map_map]
  rfl

theorem matching_ids_perm {pg : Postgres} {db : Db} (hdb : db.Admissible)
    (hreadable : ∀ u ∈ matching pg db request, Readable db u) :
    ((matchingUsers pg db (PgUserRepository.pushFilters request)).map (·.user.id)).Perm
      ((matching pg db request).map (·.id)) := by
  have h := (matchingUsers_perm hdb hreadable).map (·.id)
  rwa [List.map_map] at h

theorem matching_ids_nodup {pg : Postgres} {db : Db} (hdb : db.Admissible) :
    ((matching pg db request).map (·.id)).Nodup :=
  hdb.userIds.sublist (List.filter_sublist.map _)

/-- Where no page starts within a run, the walk lists every matching user once. -/
theorem listsOnce_of_pageable (horders : env.pg.Orders) (hup : Faults.StoreUp faults)
    (hdb : w.db.Admissible) (hscan : Permutes env.pg.scan) {size : Nat} (hsize : 0 < size)
    (hsize' : size < 2 ^ 63) (hperPage : request.perPage = Int64.ofNat size)
    (hfew : (matching env.pg w.db request).length + 1 < 2 ^ 63)
    (h : Pageable env.pg w.db request) :
    ∃ pages, ListsOnce env faults request w pages := by
  have hdecodes := decodes_of_readable hdb h.readable
  have hlength := (matching_ids_perm hdb h.readable).length_eq
  rw [List.length_map, List.length_map] at hlength
  have hwalk := walk_all hup hscan h.bindable hdecodes hperPage hsize hsize' hlength hfew
  refine ⟨_, hwalk, ?_, fun data hdata => ?_⟩
  · have hcut := h.apart
    rw [hperPage, Int64.toInt_ofNat_of_lt hsize', Int.toNat_natCast] at hcut
    have hrows := (pages_perm_iff (rowLe_total horders _ _) (rowLe_trans horders _ _)
      (matchingUsers_nodup hdb) (hlength.trans_le (le_max_pageCount_mul hsize))).2 hcut
      (fun i => arranged env.pg w.db request (w.statements + i * (size + 2) + 1))
      fun i => arrangement_arranged horders hscan _ _
    rw [ids_of_pages]
    exact (hrows.map _).trans (matching_ids_perm hdb h.readable)
  · obtain ⟨i, -, rfl⟩ := List.mem_map.1 hdata
    rw [← hlength]
    exact Int64.toInt_ofNat_of_lt (by omega)

/-- A walk that lists every matching user has read them all. -/
theorem readable_of_listsOnce (hdb : w.db.Admissible) (hscan : Permutes env.pg.scan)
    {pages : List (Data User)} (h : ListsOnce env faults request w pages) :
    Bindable request ∧ ∀ u ∈ matching env.pg w.db request, Readable w.db u := by
  obtain ⟨hbind, hshown⟩ := h.walk.shows hscan
  refine ⟨hbind, fun u hu => ?_⟩
  obtain ⟨user, huser, hid⟩ := List.mem_map.1 (h.once.symm.subset (List.mem_map_of_mem hu))
  obtain ⟨row, hrow, hdecodes, hrowId⟩ := hshown user huser
  have hjoined := List.mem_of_mem_filter hrow
  have heq : row.user = u := eq_of_key_eq hdb.userIds (mem_joinedUsers.1 hjoined).1
    (List.mem_of_mem_filter hu) (hrowId.symm.trans hid)
  exact heq ▸ readable_of_decodes hjoined hdecodes

/-- Whatever the arrangements of the rows, some scan shows them page after page. -/
theorem exists_scan_of_arrangements (size : Nat) (horders : env.pg.Orders)
    (hdb : w.db.Admissible) {f : Nat → List JoinedUser}
    (hf : ∀ i, Arrangement (orderBy env.pg request)
      (matchingUsers env.pg w.db (PgUserRepository.pushFilters request)) (f i)) :
    ∃ scan, Permutes scan ∧ ∀ i, arranged (scanning env scan).pg w.db request
      (w.statements + i * (size + 2) + 1) = f i := by
  obtain ⟨scan, hscan, hscanned⟩ := env.pg.exists_scan
    (f := fun n => f ((n - w.statements - 1) / (size + 2))) (matchingUsers_nodup hdb)
    fun n => (hf _).perm
  refine ⟨scan, hscan, fun i => ?_⟩
  have hi : (w.statements + i * (size + 2) + 1 - w.statements - 1) / (size + 2) = i := by
    rw [Nat.add_assoc, Nat.add_sub_cancel_left, Nat.add_sub_cancel, Nat.mul_div_cancel]
    omega
  have hsorted := hscanned (w.statements + i * (size + 2) + 1)
  rw [hi] at hsorted
  have : Std.Total fun a b => orderBy env.pg request a b = true := ⟨rowLe_total horders _ _⟩
  have : IsTrans _ fun a b => orderBy env.pg request a b = true := ⟨rowLe_trans horders _ _⟩
  exact (congrArg _ hsorted).trans (List.Pairwise.insertionSort_eq (hf i).sorted)

/-- Where every order of scans lists every matching user once, no page starts within a run. -/
theorem pageable_of_listsOnce (horders : env.pg.Orders) (hup : Faults.StoreUp faults)
    (hdb : w.db.Admissible) {size : Nat} (hsize : 0 < size)
    (hsize' : size < 2 ^ 63) (hperPage : request.perPage = Int64.ofNat size)
    (hfew : (matching env.pg w.db request).length + 1 < 2 ^ 63)
    (h : ∀ scan, Permutes scan → ∃ pages, ListsOnce (scanning env scan) faults request w pages) :
    Pageable env.pg w.db request := by
  have hstill : Permutes fun _ positions => positions := fun _ _ => List.Perm.refl _
  obtain ⟨pages, hpages⟩ := h _ hstill
  obtain ⟨hbind, hreadable⟩ := @readable_of_listsOnce (scanning env _) _ _ _ hdb hstill _ hpages
  have hdecodes := decodes_of_readable hdb hreadable
  have hlength := (matching_ids_perm hdb hreadable).length_eq
  rw [List.length_map, List.length_map] at hlength
  refine ⟨hbind, hreadable, ?_⟩
  rw [hperPage, Int64.toInt_ofNat_of_lt hsize', Int.toNat_natCast]
  refine (pages_perm_iff (rowLe_total horders _ _) (rowLe_trans horders _ _)
    (matchingUsers_nodup hdb) (hlength.trans_le (le_max_pageCount_mul hsize))).1 fun f hf => ?_
  obtain ⟨scan, hscan, harranged⟩ := exists_scan_of_arrangements size horders hdb hf
  obtain ⟨pages, hwalk, honce, -⟩ := h scan hscan
  have hwalk' := @walk_all (scanning env scan) faults w request hup hscan hbind hdecodes size
    hperPage hsize hsize' _ hlength hfew
  rw [hwalk.unique hwalk', ids_of_pages] at honce
  simp only [harranged] at honce
  refine perm_of_key_perm ((matching_ids_perm hdb hreadable).nodup_iff.2 (matching_ids_nodup hdb))
    (fun row hrow => ?_) (honce.trans (matching_ids_perm hdb hreadable).symm)
  obtain ⟨i, -, hrow⟩ := List.mem_flatMap.1 hrow
  exact (hf i).perm.subset (page_subset hrow)

/-- Walking the pages lists every matching user once, whatever order PostgreSQL takes equal rows
    in, exactly where the request is pageable. -/
theorem index_lists_once_iff (horders : env.pg.Orders) (hup : Faults.StoreUp faults)
    (hdb : w.db.Admissible) (hfew : w.db.users.length + 1 < 2 ^ 63)
    (urldecode : String → Option (List (String × String))) (query : String) :
    (∀ scan, Permutes scan → ∃ pages,
      ListsOnce (scanning env scan) faults (ListRequest.fromQuery urldecode query) w pages) ↔
    Pageable env.pg w.db (ListRequest.fromQuery urldecode query) := by
  obtain ⟨size, hsize, hsize', hperPage⟩ :=
    ListRequest.ofPairs_perPage ((urldecode query).getD [])
  have hmatching : (matching env.pg w.db (ListRequest.fromQuery urldecode query)).length + 1 <
      2 ^ 63 := by
    have := List.length_filter_le (fun u =>
      (PgUserRepository.pushFilters (ListRequest.fromQuery urldecode query)).all
        (Condition.holdsOf env.pg w.db u)) w.db.users
    unfold matching
    omega
  constructor
  · exact pageable_of_listsOnce horders hup hdb hsize (by omega) hperPage hmatching
  · intro h scan hscan
    exact listsOnce_of_pageable ⟨horders.total, horders.trans⟩ hup hdb hscan hsize (by omega)
      hperPage hmatching ⟨h.bindable, h.readable, h.apart⟩

end

/-! ## Two users of one name -/

/-- Bob has Ada's first name. -/
def namesakes : World :=
  sampleAfter (.createUser (sampleUser "bob" "bob@example.com")) signedUp

theorem namesakes_admissible : namesakes.db.Admissible := by
  constructor <;> decide +kernel

/-- `sort_by=email&per_page=1` -/
def byEmail : ListRequest :=
  ListRequest.fromQuery (fun _ => some [("sort_by", "email"), ("per_page", "1")])
    "sort_by=email&per_page=1"

theorem sampleCollate_antisymm (x y : String) (hxy : samplePostgres.collate x y = true)
    (hyx : samplePostgres.collate y x = true) : x = y := by
  simp only [samplePostgres, decide_eq_true_eq] at hxy hyx
  exact String.toList_injective (List.le_antisymm hxy hyx)

/-- Every other statement meets the rows from the last one on. -/
def backAndForth (n : Nat) (positions : List Nat) : List Nat :=
  if n % 2 = 0 then positions else positions.reverse

theorem backAndForth_permutes : Permutes backAndForth := by
  intro n positions
  unfold backAndForth
  split
  · exact List.Perm.refl _
  · exact positions.reverse_perm

/-- Sorted by address, all three users are listed, one on each page, though every other statement
    meets the rows backwards. -/
theorem index_lists_once_iff_sample : ∃ pages,
    ListsOnce (scanning sampleEnv backAndForth) Faults.none byEmail namesakes pages ∧
      ((pages.flatMap (·.data)).map (·.id)).Perm [sampleAdmin, 2, 3] := by
  have hreadable : ∀ u ∈ matching samplePostgres namesakes.db byEmail,
      Readable namesakes.db u := by
    decide +kernel
  have hbind : Bindable byEmail := by
    unfold Bindable
    decide
  have hpageable : Pageable samplePostgres namesakes.db byEmail :=
    ⟨hbind, hreadable, fun _ => apart_of_unique_column samplePostgres_orders
      sampleCollate_antisymm namesakes_admissible (.inr rfl) _⟩
  obtain ⟨pages, hpages⟩ := (@index_lists_once_iff sampleEnv Faults.none namesakes
    samplePostgres_orders (fun _ => rfl) namesakes_admissible (by decide)
    (fun _ => some [("sort_by", "email"), ("per_page", "1")]) "sort_by=email&per_page=1").2
    hpageable backAndForth backAndForth_permutes
  refine ⟨pages, hpages, ?_⟩
  have hids : (matching samplePostgres namesakes.db byEmail).map (·.id) = [sampleAdmin, 2, 3] := by
    decide +kernel
  exact hids ▸ hpages.once

/-- `sort_by=first_name&per_page=1` -/
def byFirstName : ListRequest :=
  ListRequest.fromQuery (fun _ => some [("sort_by", "first_name"), ("per_page", "1")])
    "sort_by=first_name&per_page=1"

/-- One of the two is listed twice and the other not at all. -/
theorem namesake_is_skipped : Permutes backAndForth ∧ namesakes.db.Admissible ∧
    ¬ ∃ pages, ListsOnce (scanning sampleEnv backAndForth) Faults.none byFirstName namesakes
      pages := by
  refine ⟨backAndForth_permutes, namesakes_admissible, ?_⟩
  rintro ⟨pages, hwalk, honce, -⟩
  have hbind : Bindable byFirstName := by
    unfold Bindable
    decide
  have hdecodes : ∀ row ∈ matchingUsers samplePostgres namesakes.db
      (PgUserRepository.pushFilters byFirstName), Decodes row := by
    unfold Decodes
    decide +kernel
  have hall := @walk_all (scanning sampleEnv backAndForth) Faults.none namesakes byFirstName
    (fun _ => rfl) backAndForth_permutes hbind hdecodes 1 (by decide +kernel) (by decide)
    (by decide) 3 (by decide +kernel) (by decide)
  rw [hwalk.unique hall, ids_of_pages] at honce
  revert honce
  decide +kernel

end ApiStarter.Iam
