import ApiStarter.Security.Promotion
import ApiStarter.Server.Requests

/-
  What `PATCH /v1/users/my-user` can reach.

  `restricted_to_self` keeps four of the nine fields of a payload, so the one `UPDATE` of the call
  assigns profile columns of the caller's row and nothing else, whatever PostgreSQL makes of the
  values and wherever the call fails (`perform_profileOnly`). The dropped fields never reach the
  service: two bodies that agree on the kept ones are the same program (`router_congr`).
-/

namespace ApiStarter.Security

open ApiStarter.Auth ApiStarter.Database ApiStarter.Effect ApiStarter.Effect.Fallible
  ApiStarter.Errdef ApiStarter.Iam ApiStarter.Provider ApiStarter.Relational ApiStarter.Server
  ApiStarter.Web

/-! ## The profile columns -/

/-- The columns outside the profile are the same. -/
structure SameAccount (row row' : UserRow) : Prop where
  id : row'.id = row.id
  userName : row'.userName = row.userName
  email : row'.email = row.email
  password : row'.password = row.password
  statusId : row'.statusId = row.statusId

/-- Row by row, `db'` has the users of `db`, the one of the id perhaps with another profile, and
    everything else of `db`, the roles included. -/
structure ProfileOnly (userId : Uuid) (db db' : Db) : Prop where
  users : List.Forall₂ (fun row row' => row' = row ∨ row.id = userId ∧ SameAccount row row')
    db.users db'.users
  rest : db' = { db with users := db'.users }

def OfProfile : SetClause → Prop
  | .avatarId _ => True
  | .firstName _ => True
  | .lastName _ => True
  | .departmentId _ => True
  | _ => False

theorem ProfileOnly.refl (userId : Uuid) (db : Db) : ProfileOnly userId db db where
  users := List.forall₂_same.2 fun _ _ => .inl rfl
  rest := rfl

theorem sameAccount_apply {set : SetClause} (hset : OfProfile set) {row row' : UserRow}
    (h : SameAccount row row') : SameAccount row (SetClause.apply row' set) := by
  cases set <;> first | exact hset.elim | exact { h with }

theorem sameAccount_applyAll {sets : List SetClause} (hsets : ∀ set ∈ sets, OfProfile set)
    {row row' : UserRow} (h : SameAccount row row') :
    SameAccount row (SetClause.applyAll sets row') :=
  SetClause.applyAll_inv (I := SameAccount row)
    (fun set hset _ hrow => sameAccount_apply (hsets set hset) hrow) h

/-- Storing a value changes the value, not the column. -/
theorem ofProfile_stored {pg : Postgres} {set set' : SetClause} (hset : OfProfile set)
    (h : set.stored pg = .ok set') : OfProfile set' := by
  cases set with
  | avatarId _ =>
    obtain ⟨v, -, hv⟩ := ok_of_bind_ok h
    cases hv
    trivial
  | firstName _ =>
    obtain ⟨v, -, hv⟩ := ok_of_bind_ok h
    cases hv
    trivial
  | lastName _ =>
    obtain ⟨v, -, hv⟩ := ok_of_bind_ok h
    cases hv
    trivial
  | departmentId _ =>
    cases h
    trivial
  | email _ => exact hset.elim
  | statusId _ => exact hset.elim
  | password _ => exact hset.elim

theorem ofProfile_mapM_stored {pg : Postgres} {sets sets' : List SetClause}
    (hsets : ∀ set ∈ sets, OfProfile set) (h : sets.mapM (SetClause.stored pg) = .ok sets') :
    ∀ set' ∈ sets', OfProfile set' := by
  induction sets generalizing sets' with
  | nil =>
    cases h
    exact fun _ hmem => absurd hmem List.not_mem_nil
  | cons set sets ih =>
    rw [List.mapM_cons] at h
    obtain ⟨head, hhead, h⟩ := ok_of_bind_ok h
    obtain ⟨rest, hrest, h⟩ := ok_of_bind_ok h
    cases h
    refine List.forall_mem_cons.2 ⟨?_, ?_⟩
    · exact ofProfile_stored (hsets set List.mem_cons_self) hhead
    · exact ih (fun set' hmem => hsets set' (List.mem_cons_of_mem _ hmem)) hrest

/-! ## The call -/

/-- What the call may do: read, open and close its transaction, and assign profile columns of the
    row of the id. -/
def AssignsProfile (userId : Uuid) : Op → Prop
  | .updateUser sets id => id = userId ∧ ∀ set ∈ sets, OfProfile set
  | o => o.Reads ∨ o.Brackets

theorem assignsProfile_of_reads {userId : Uuid} (o : Op) (h : o.Reads) :
    AssignsProfile userId o := by
  cases o <;> first | exact .inl h | exact h.elim

theorem assignsProfile_of_brackets {userId : Uuid} (o : Op) (h : o.Brackets) :
    AssignsProfile userId o := by
  cases o <;> first | exact .inr h | exact h.elim

theorem preservedBy_profileOnly (env : Env) (userId : Uuid) (db₀ : Db) :
    PreservedBy env (AssignsProfile userId) (ProfileOnly userId db₀) where
  createPasswordReset _ _ _ _ ho _ := absurd ho (not_or.2 ⟨id, id⟩)
  resetPassword _ _ _ ho _ := absurd ho (not_or.2 ⟨id, id⟩)
  deletePasswordReset _ _ ho _ := absurd ho (not_or.2 ⟨id, id⟩)
  insertUser _ _ _ _ _ ho _ _ := absurd ho (not_or.2 ⟨id, id⟩)
  updateUser sets id db db' ho h hok := by
    obtain ⟨rfl, hsets⟩ := ho
    obtain ⟨sets', hstored, hok⟩ := ok_of_bind_ok hok
    obtain ⟨-, -, rfl⟩ := writeUsers_ok hok
    have hsets' := ofProfile_mapM_stored hsets hstored
    refine ⟨?_, by rw [h.rest]⟩
    unfold updateWhere
    rw [List.forall₂_map_right_iff]
    refine h.users.imp fun row row' hrow => ?_
    have hid : row'.id = row.id := by
      rcases hrow with rfl | ⟨-, hsame⟩
      · rfl
      · exact hsame.id
    split
    next hthis =>
      refine .inr ⟨hid ▸ beq_iff_eq.1 hthis, sameAccount_applyAll hsets' ?_⟩
      rcases hrow with rfl | ⟨-, hsame⟩
      · exact ⟨rfl, rfl, rfl, rfl, rfl⟩
      · exact hsame
    next => exact hrow
  insertUserRoles _ _ _ _ ho _ _ := absurd ho (not_or.2 ⟨id, id⟩)
  deleteUserRoles _ _ _ _ ho _ _ := absurd ho (not_or.2 ⟨id, id⟩)

theorem ofProfile_of_restrictedToSelf {fields : UpdateUser} {sets : List SetClause}
    (h : PgUserRepository.setClauses fields.restrictedToSelf = .ok sets) :
    ∀ set ∈ sets, OfProfile set := by
  rw [(setClauses_ok h).2]
  intro set hset
  simp only [assignments, UpdateUser.restrictedToSelf, UpdateUser.default, Option.map_none,
    Option.bind_none, Option.toList_none, List.append_nil, List.mem_append, Option.mem_toList,
    Option.map_eq_some_iff] at hset
  obtain ((⟨v, -, rfl⟩ | ⟨v, -, rfl⟩) | ⟨v, -, rfl⟩) | ⟨v, -, rfl⟩ := hset <;> trivial

section

variable {env : Env} {config : AuthConfig} {faults : Faults} {w : World} {userId : Uuid}
  {fields : UpdateUser}

theorem usesE_restrictedToSelf : UsesE (AssignsProfile userId)
    (UserServiceImpl.partialUpdate env userId fields.restrictedToSelf) := by
  refine usesE_partialUpdate assignsProfile_of_reads assignsProfile_of_brackets ?_ ?_ ?_ ?_
  · exact fun _ sets hsets => ⟨rfl, ofProfile_of_restrictedToSelf hsets⟩
  · exact fun _ _ _ hpassword => nomatch hpassword
  · exact fun _ hadd => nomatch hadd
  · exact fun _ hremove => nomatch hremove

/-- A restricted update keeps within the profile, however it ends. -/
theorem perform_profileOnly (htx : w.tx = none) : ProfileOnly userId w.db
    (perform env config faults (.partialUpdate userId fields.restrictedToSelf) w).2.db := by
  have hstart : InDb (ProfileOnly userId w.db) w := ⟨.refl _ _, by simp [htx]⟩
  have hend : InDb (ProfileOnly userId w.db)
      (runE (exec env faults) (UserServiceImpl.partialUpdate env userId fields.restrictedToSelf)
        w).2 :=
    runE_inv_of_uses (exec_inDb (preservedBy_profileOnly env userId w.db) faults)
      usesE_restrictedToSelf hstart
  exact hend.1

end

/-! ## The route -/

section

variable {env : Env} {config : AuthConfig} {web : WebLibrary} {faults : Faults} {w : World}

/-- The request is one for `patch_my_user`. -/
structure PatchesSelf (request : Request) : Prop where
  method : request.method = .patch
  path : request.path = myUser

/-- Of the patterns that fit the path, the literal one comes first. -/
theorem dispatch_myUser : (mount env web).dispatch .patch myUser =
    some (authenticate (Handler.patchMyUser web), []) := by
  have hno : ∀ pattern ∈ ["/v1/healthcheck", "/docs", "/openapi.yaml", "/v1/login",
      "/v1/refresh-token", "/v1/forgot-password", "/v1/reset-password", "/v1/users",
      "/v1/permissions"], matchPath pattern myUser = none := by decide
  simp only [List.forall_mem_cons] at hno
  have hself : matchPath "/v1/users/my-user" myUser = some [] := by decide
  have hbyId : matchPath "/v1/users/{user-id}" myUser = some [("user-id", "my-user")] := by decide
  have hfirst :
      precedes (segments "/v1/users/my-user") (segments "/v1/users/{user-id}") = true := by decide
  simp [mount, Health.routes, Docs.routes, Auth.routes, Iam.routes, userRoutes, permissionRoutes,
    Router.new, Router.route, Router.merge, Router.routeLayer, Router.insert, Router.dispatch,
    Router.best, MethodRouter.layer, MethodRouter.merge, MethodRouter.select, on, MethodRouter.on,
    hno, hself, hbyId, hfirst]
  rfl

theorem router_patchMyUser {request : Request} (h : PatchesSelf request) :
    router env web request = authenticate (Handler.patchMyUser web)
      { request := request, params := [], authUser := none } := by
  unfold router routed
  rw [h.method, h.path, if_neg (by decide), dispatch_myUser]
  exact Prog.bind_ret _

/-- What the handler does behind authentication. -/
theorem patchMyUser_eq {incoming : Incoming} {user : Identity} {fields : UpdateUser}
    (huser : incoming.authUser = some user)
    (hfields : web.updateUser incoming.request = .ok fields) :
    Handler.patchMyUser web incoming = respond (do
      invoke (.partialUpdate user.id fields.restrictedToSelf)
      return .ok (.message "successfully update user")) := by
  unfold Handler.patchMyUser authUser json
  rw [huser, hfields]
  rfl

theorem router_congr {request₁ request₂ : Request} {fields₁ fields₂ : UpdateUser}
    (h₁ : PatchesSelf request₁) (h₂ : PatchesSelf request₂)
    (htoken : bearerToken request₁ = bearerToken request₂)
    (hfields₁ : web.updateUser request₁ = .ok fields₁)
    (hfields₂ : web.updateUser request₂ = .ok fields₂)
    (hkept : fields₁.restrictedToSelf = fields₂.restrictedToSelf) :
    router env web request₁ = router env web request₂ := by
  rw [router_patchMyUser h₁, router_patchMyUser h₂, authenticate_eq, authenticate_eq, htoken]
  cases bearerToken request₂ with
  | none => rfl
  | some token =>
    dsimp only
    congr 1
    funext outcome
    rcases outcome with _ | err | user
    · rfl
    · rfl
    · dsimp only
      rw [patchMyUser_eq rfl hfields₁, patchMyUser_eq rfl hfields₂, hkept]

/-- The run behind authentication, which has changed nothing. -/
theorem serve_patchMyUser {request : Request} (h : PatchesSelf request) {token : String}
    {user : Identity} (htoken : bearerToken request = some token)
    (hidentity : (perform env config faults (.getIdentity token) w).1 = some (.ok user)) :
    serve env config web faults request w =
      (Handler.patchMyUser web { request := request, params := [], authUser := some user }).run
        (answer env config faults) w.counted.dropTx := by
  unfold serve
  rw [router_patchMyUser h, authenticate_eq, htoken]
  dsimp only
  rw [Prog.run_call, show answer env config faults (.call (.getIdentity token)) w =
    perform env config faults (.getIdentity token) w from rfl, hidentity,
    (getIdentity_world hidentity).2]

theorem serve_profileOnly {request : Request} (h : PatchesSelf request) {userId : Uuid}
    (hauth : AuthenticatedAs env config faults userId request w) :
    ProfileOnly userId w.db (serve env config web faults request w).2.db := by
  obtain ⟨token, user, htoken, rfl, hidentity⟩ := hauth
  rw [serve_patchMyUser h htoken hidentity]
  rcases (Handler.patchMyUser_once _).run_cases (answer env config faults) w.counted.dropTx with
    hsame | ⟨o, ⟨caller, fields, hcaller, -, rfl⟩, hrun⟩
  · rw [hsame]
    exact .refl _ _
  · rw [hrun]
    cases hcaller
    have htx : w.counted.dropTx.tx = none := rfl
    exact @perform_profileOnly env config faults _ _ _ htx

end

/-- A request to the self-service route touches the profile of its caller only, whatever it is
    answered; and what its payload says beyond the profile changes neither the answer nor what
    is left behind. -/
theorem self_service_confined (env : Env) (config : AuthConfig) (web : WebLibrary)
    (faults : Faults) {request : Request} (h : PatchesSelf request) :
    (∀ userId w, AuthenticatedAs env config faults userId request w →
      ProfileOnly userId w.db (serve env config web faults request w).2.db) ∧
    ∀ request' fields fields', PatchesSelf request' →
      bearerToken request' = bearerToken request →
      web.updateUser request = .ok fields → web.updateUser request' = .ok fields' →
      fields'.avatarId = fields.avatarId → fields'.firstName = fields.firstName →
      fields'.lastName = fields.lastName → fields'.departmentId = fields.departmentId →
      ∀ w, serve env config web faults request' w = serve env config web faults request w := by
  constructor
  · exact fun userId w hauth => serve_profileOnly h hauth
  · intro request' fields fields' h' htoken hfields hfields' ha hf hl hd w
    have hkept : fields'.restrictedToSelf = fields.restrictedToSelf := by
      unfold UpdateUser.restrictedToSelf
      rw [ha, hf, hl, hd]
    unfold serve
    rw [router_congr h' h htoken hfields' hfields hkept]

/-- Ada sends a body that asks for nothing. -/
def sampleIdle : Request :=
  bearing sampleTokens.token .patch "/v1/users/my-user" (ascii "\x7b\x7d")

theorem self_service_confined_sample :
    ProfileOnly 2 loggedInWorld.db selfServedWorld.db ∧
    serve sampleEnv sampleConfig sampleWeb Faults.none sampleIdle loggedInWorld =
      serve sampleEnv sampleConfig sampleWeb Faults.none sampleSelfService loggedInWorld := by
  have h : PatchesSelf sampleSelfService := ⟨rfl, rfl⟩
  have hconfined := self_service_confined sampleEnv sampleConfig sampleWeb Faults.none h
  refine ⟨hconfined.1 2 loggedInWorld ⟨sampleTokens.token, _, by decide, rfl, rfl⟩, ?_⟩
  exact hconfined.2 sampleIdle { UpdateUser.default with addRoles := some ["Admin"] }
    UpdateUser.default ⟨rfl, rfl⟩ rfl rfl rfl rfl rfl rfl rfl loggedInWorld

end ApiStarter.Security
