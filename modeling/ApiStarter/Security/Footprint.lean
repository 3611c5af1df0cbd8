import ApiStarter.Module.Iam.Directory
import ApiStarter.Security.Mediation

/-
  What a request may change, by its method and by its token.

  * A `POST`, a `PATCH` and a `DELETE` are the only requests that change anything:
    `mount_reading` reads off the routers that whatever is registered under another method asks
    for calls that only read, and `call_reads` that such a call moves the counter of statements
    and nothing else.
  * A request whose token is not accepted changes neither users, up to their passwords, nor
    roles, nor any other table but that of the pending resets: `mount_mounted` says where its
    calls can come from.
-/

namespace ApiStarter.Security

open ApiStarter.Auth ApiStarter.Database ApiStarter.Effect ApiStarter.Effect.Fallible
  ApiStarter.Iam ApiStarter.Provider ApiStarter.Relational ApiStarter.Server ApiStarter.Web

/-! ## Calls that only read -/

/-- Reads that draw nothing from a random source. -/
def Looks (o : Op) : Prop := o.Reads ∧ o ≠ .salt

/-- Only the counter of statements may differ. -/
def Unmoved (w w' : World) : Prop := ∃ n, w' = { w with statements := n }

theorem Unmoved.refl (w : World) : Unmoved w w := ⟨w.statements, rfl⟩

theorem Unmoved.trans {w₁ w₂ w₃ : World} (h : Unmoved w₁ w₂) (h' : Unmoved w₂ w₃) :
    Unmoved w₁ w₃ := by
  obtain ⟨n, rfl⟩ := h
  obtain ⟨m, rfl⟩ := h'
  exact ⟨m, rfl⟩

theorem exec_looks (env : Env) (faults : Faults) (o : Op) (w : World) (ho : Looks o) :
    Unmoved w (exec env faults o w).2 := by
  obtain ⟨hreads, hsalt⟩ := ho
  cases o with
  | salt => exact absurd rfl hsalt
  | utcNow => exact .refl w
  | jwtValidate token => exact .refl w
  | _ => first | exact hreads.elim | exact ⟨_, query_snd _⟩

/-- The calls behind the `GET` routes. -/
def ReadsOnly : Call → Prop
  | .findUser _ => True
  | .listUsers _ => True
  | .listPermissions => True
  | .getIdentity _ => True
  | _ => False

section

variable {env : Env} {config : AuthConfig} {faults : Faults}

theorem usesE_looks_user (row : JoinedUser) :
    UsesE Looks (PgUserRepository.mapUserWithRoles row) := by
  refine (usesE_mapErr _ _).bind fun _ => UsesE.bind ?_ fun _ => usesE_pure _
  refine (usesE_ask ⟨trivial, nofun⟩).bind fun _ => (usesE_mapErr _ _).bind fun _ => usesE_pure _

theorem service_looks {c : Call} (hc : ReadsOnly c) : UsesE Looks (c.service env config) := by
  cases c with
  | findUser userId =>
    refine UsesE.bind (UsesE.mapErrOf ?_) fun _ => usesE_okOr _ _
    refine (usesE_ask ⟨trivial, nofun⟩).bind fun _ => (usesE_mapErr _ _).bind fun row => ?_
    cases row with
    | none => exact usesE_pure _
    | some row => exact (usesE_looks_user row).bind fun _ => usesE_pure _
  | listUsers request =>
    refine UsesE.bind (UsesE.mapErrOf ?_) fun _ => usesE_pure _
    refine (usesE_ask ⟨trivial, nofun⟩).bind fun _ => (usesE_mapErr _ _).bind fun _ => ?_
    refine (usesE_ask ⟨trivial, nofun⟩).bind fun _ => (usesE_mapErr _ _).bind fun rows => ?_
    exact (UsesE.listMapM usesE_looks_user rows).bind fun _ => usesE_pure _
  | listPermissions =>
    refine UsesE.mapErrOf ((usesE_ask ⟨trivial, nofun⟩).bind fun _ => ?_)
    exact (usesE_mapErr _ _).bind fun _ => usesE_mapErr _ _
  | getIdentity token =>
    refine UsesE.bind ?_ fun userId => ?_
    · refine (usesE_ask ⟨trivial, nofun⟩).bind fun _ => ?_
      exact (usesE_mapErr _ _).bind fun _ => usesE_okOr _ _
    · refine (usesE_ask ⟨trivial, nofun⟩).bind fun _ => ?_
      exact (usesE_mapErr _ _).bind fun _ => usesE_okOr _ _
  | _ => exact hc.elim

theorem call_reads {c : Call} (hc : ReadsOnly c) {w : World} (htx : w.tx = none) :
    Unmoved w (perform env config faults c w).2 := by
  obtain ⟨n, hn⟩ : Unmoved w (runE (exec env faults) (c.service env config) w).2 :=
    runE_inv_of_uses (fun o w₁ ho h₁ => h₁.trans (exec_looks env faults o w₁ ho))
      (service_looks hc) (.refl w)
  refine ⟨n, ?_⟩
  change World.dropTx (runE (exec env faults) (c.service env config) w).2 = _
  rw [hn, World.dropTx, htx]

end

/-! ## Methods that change nothing -/

def Changing : Method → Prop
  | .post => True
  | .patch => True
  | .delete => True
  | _ => False

def AsksReads : Port → Prop
  | .call c => ReadsOnly c
  | .can _ _ => True

/-- An endpoint that asks for calls that only read. -/
def Peeking (e : Endpoint) : Prop := ∀ incoming, (e incoming).Uses AsksReads

/-- What is registered under a method that changes nothing only reads. -/
def Honest (_pattern : String) (registered : Option Method) (e : Endpoint) : Prop :=
  (∀ method, registered = some method → ¬ Changing method) → Peeking e

section

variable {env : Env} {config : AuthConfig} {web : WebLibrary} {faults : Faults}

theorem reader_ret (response : Response) : Peeking fun _ => .ret response := fun _ => trivial

theorem reader_of_once {T : Type} {e : Endpoint} {accepted : Incoming → T → Prop} {c : T → Call}
    (h : ∀ incoming, (e incoming).Once fun o => ∃ t, accepted incoming t ∧ o = .call (c t))
    (hc : ∀ t, ReadsOnly (c t)) : Peeking e := by
  intro incoming
  refine (h incoming).uses.mono fun o ho => ?_
  obtain ⟨t, -, rfl⟩ := ho
  exact hc t

theorem reader_rbacGuard {action : String} {next : Endpoint} (h : Peeking next) :
    Peeking (rbacGuard action next) := by
  intro incoming
  rw [rbacGuard_eq]
  cases incoming.authUser with
  | none => trivial
  | some user =>
    refine ⟨trivial, fun allowed => ?_⟩
    rcases allowed with _ | _ | _
    · trivial
    · trivial
    · exact h incoming

theorem reader_authenticate {next : Endpoint} (h : Peeking next) : Peeking (authenticate next) := by
  intro incoming
  rw [authenticate_eq]
  cases bearerToken incoming.request with
  | none => trivial
  | some token =>
    refine ⟨trivial, fun outcome => ?_⟩
    rcases outcome with _ | err | user
    · trivial
    · trivial
    · exact h _

theorem honest_changing {pattern : String} (method : Method) {e : Endpoint}
    (h : Changing method) : Honest pattern (some method) e := fun hnot => absurd h (hnot _ rfl)

theorem honest_reader {pattern : String} {registered : Option Method} {e : Endpoint}
    (h : Peeking e) : Honest pattern registered e := fun _ => h

theorem mount_reading : (mount env web).All Honest := by
  have hnot : ∀ pattern, Honest pattern none methodNotAllowed :=
    fun _ => honest_reader (reader_ret _)
  have hhealth : Health.routes.All Honest :=
    Router.All.new.route (honest_reader (reader_ret _)) (hnot _)
  have hdocs : Docs.routes.All Honest :=
    (Router.All.new.route (honest_reader (reader_ret _)) (hnot _)).route
      (honest_reader (reader_ret _)) (hnot _)
  have hauth : (Auth.routes env web).All Honest := Router.All.new
    |>.route (honest_changing .post trivial) (hnot _)
    |>.route (honest_changing .post trivial) (hnot _)
    |>.route (honest_changing .post trivial) (hnot _)
    |>.route (honest_changing .post trivial) (hnot _)
  have hindex : Peeking (Handler.index web) := fun _ =>
    (Handler.index_once _).uses.mono fun o ho => by
      rw [show o = _ from ho]
      trivial
  have hguarded : (Router.new.route "/v1/users" (on .get (Handler.index web))
      |>.routeLayer (rbacGuard viewAll)).All Honest :=
    (Router.All.new.route (honest_reader hindex) (hnot _)).routeLayer
      fun _ _ _ h hsafe => reader_rbacGuard (h hsafe)
  have huser : (userRoutes env web).All Honest := (Router.All.new
    |>.route (honest_changing .post trivial) (hnot _)
    |>.route (honest_reader (reader_of_once Handler.getMyUser_once fun _ => trivial)) (hnot _)
    |>.route (honest_changing .patch trivial) (hnot _)
    |>.route (honest_reader (reader_of_once Handler.get_once fun _ => trivial)) (hnot _)
    |>.route (honest_changing .patch trivial) (hnot _)
    |>.route (honest_changing .delete trivial) (hnot _)).merge hguarded
  have hpermissions : Peeking Handler.permissionIndex := fun _ =>
    (Handler.permissionIndex_once _).uses.mono fun o ho => by
      rw [show o = _ from ho]
      trivial
  have hpermission : permissionRoutes.All Honest :=
    Router.All.new.route (honest_reader hpermissions) (hnot _)
  have hiam : (Iam.routes env web).All Honest :=
    ((Router.All.new.merge huser).merge hpermission).routeLayer
      fun _ _ _ h hsafe => reader_authenticate (h hsafe)
  exact Router.All.new.merge hhealth
    |>.merge hdocs
    |>.merge hauth
    |>.merge hiam

theorem router_reads {request : Request} (h : ¬ Changing request.method) :
    (router env web request).Uses AsksReads := by
  unfold router
  split
  · trivial
  · refine Prog.Uses.bind ?_ fun _ => trivial
    unfold routed
    split
    next endpoint params hdispatch =>
      obtain ⟨pattern, registered, hhonest, hserves, -⟩ := mount_reading.dispatch hdispatch
      refine hhonest (fun method hmethod => ?_) _
      obtain rfl | ⟨-, rfl⟩ := hserves method hmethod
      · exact h
      · exact id
    next => trivial

theorem answer_reads {o : Port} (ho : AsksReads o) {w : World} (htx : w.tx = none) :
    Unmoved w (answer env config faults o w).2 := by
  cases o with
  | call c => exact call_reads ho htx
  | can userId action => exact can_world env faults userId action w

/-- One request of such a method. -/
theorem serve_reads {request : Request} (h : ¬ Changing request.method) {w : World}
    (htx : w.tx = none) : Unmoved w (serve env config web faults request w).2 := by
  have hboth : Unmoved w (serve env config web faults request w).2 ∧
      (serve env config web faults request w).2.tx = none := by
    refine Prog.run_inv_of_uses (I := fun w₁ : World => Unmoved w w₁ ∧ w₁.tx = none)
      (fun o w₁ ho h₁ => ?_) (router_reads h) ⟨.refl w, htx⟩
    obtain ⟨n, hn⟩ : Unmoved w₁ (answer env config faults o w₁).2 := answer_reads ho h₁.2
    exact ⟨h₁.1.trans ⟨n, hn⟩, by rw [hn]; exact h₁.2⟩
  exact hboth.1

end

/-! ## Requests without an accepted token -/

/-- In the state `w` no identity stands behind the token of the request, if it bears one. -/
def Unadmitted (env : Env) (config : AuthConfig) (faults : Faults) (request : Request)
    (w : World) : Prop :=
  ∀ token, bearerToken request = some token →
    ∀ user, (perform env config faults (.getIdentity token) w).1 ≠ some (.ok user)

section

variable {env : Env} {config : AuthConfig} {web : WebLibrary} {faults : Faults}

theorem not_editsUsers {c : Call} (hc : ¬ OfIam c) : ¬ EditsUsers c := by
  cases c <;> first | exact id | exact absurd trivial hc

variable {d : Db}

theorem answer_withoutSecrets {o : Port} (ho : ¬ AsksIam o) {w : World}
    (hw : InDb (withoutSecrets · = d) w) :
    InDb (withoutSecrets · = d) (answer env config faults o w).2 := by
  cases o with
  | call c => exact perform_inDb (preservedBy_withoutSecrets d (not_editsUsers ho)) rfl hw
  | can userId action =>
    obtain ⟨n, hn⟩ := can_world env faults userId action w
    exact inDb_of_eq (congrArg World.db hn) (congrArg World.tx hn) hw

/-- Behind authentication such a request asks for its identity and is turned away. -/
theorem unadmitted_authenticate {next : Endpoint} {incoming : Incoming} {w : World}
    (hrequest : Unadmitted env config faults incoming.request w)
    (hw : InDb (withoutSecrets · = d) w) :
    InDb (withoutSecrets · = d)
      ((authenticate next incoming).run (answer env config faults) w).2 := by
  rw [authenticate_eq]
  cases htoken : bearerToken incoming.request with
  | none => exact hw
  | some token =>
    have hasked : InDb (withoutSecrets · = d)
        (answer env config faults (.call (.getIdentity token)) w).2 :=
      answer_withoutSecrets (o := .call (.getIdentity token)) id hw
    dsimp only
    rw [Prog.run_call]
    rcases houtcome : (answer env config faults (.call (.getIdentity token)) w).1
      with _ | err | user
    · exact hasked
    · exact hasked
    · exact absurd houtcome (hrequest token htoken user)

/-- One such request. -/
theorem serve_unadmitted {request : Request} {w : World}
    (hrequest : Unadmitted env config faults request w) (hw : InDb (withoutSecrets · = d) w) :
    InDb (withoutSecrets · = d) (serve env config web faults request w).2 := by
  unfold serve router
  split
  · exact hw
  have hrouted : InDb (withoutSecrets · = d)
      ((routed env web request).run (answer env config faults) w).2 := by
    unfold routed
    split
    next endpoint params hdispatch =>
      obtain ⟨pattern, registered, hmounted, -, -⟩ := mount_mounted.dispatch hdispatch
      cases hmounted with
      | plain hplain =>
        exact Prog.run_inv_of_uses (fun o w₁ ho h₁ => answer_withoutSecrets ho h₁) (hplain _) hw
      | authenticated hnext => exact unadmitted_authenticate hrequest hw
    next => exact hw
  rw [Prog.run_bind]
  split
  next heq => rwa [heq] at hrouted
  next heq => rwa [heq] at hrouted

end

/-! ## Runs of the server -/

section

variable {env : Env} {config : AuthConfig} {web : WebLibrary} {faults : Faults}
  {events : List HttpEvent} {w w' : World}

/-- Whatever fails: requests that are no `POST`, `PATCH` or `DELETE` leave everything as it was.
    Time may pass between them, and statements are counted. -/
theorem reading_requests_change_nothing (h : Run (HttpStep env config web faults) w events w')
    (hreading : ∀ request response, .served request response ∈ events → ¬ Changing request.method)
    (htx : w.tx = none) :
    w' = { w with statements := w'.statements, clock := w'.clock } := by
  have hboth : w'.tx = none ∧ w' = { w with statements := w'.statements, clock := w'.clock } := by
    refine h.inv_of_labels (P := fun e => ∀ request response, e = .served request response →
        ¬ Changing request.method)
      (I := fun w₁ => w₁.tx = none ∧
        w₁ = { w with statements := w₁.statements, clock := w₁.clock })
      (fun w₁ e w₂ he h₁ hstep => ?_) (fun e he request response heq => ?_) ⟨htx, rfl⟩
    · obtain ⟨htx₁, hw₁⟩ := h₁
      cases hstep with
      | served hserve =>
        obtain ⟨n, hn⟩ := serve_reads (he _ _ rfl) htx₁
        rw [hserve] at hn
        dsimp only at hn
        rw [hn]
        refine ⟨htx₁, ?_⟩
        rw [hw₁]
      | elapsed micros => exact ⟨htx₁, by rw [hw₁]⟩
    · exact hreading request response (heq ▸ he)
  exact hboth.2

/-- The tokens of the requests are not accepted at their time. -/
def Outside (env : Env) (config : AuthConfig) (faults : Faults) (w : World) : HttpEvent → Prop
  | .served request _ => Unadmitted env config faults request w
  | .elapsed _ => True

/-- Whatever fails: without an accepted token, requests change neither users, up to their
    passwords, nor the roles they hold, nor what roles permit. -/
theorem outside_requests_change_secrets_only
    (h : Run (Guarded (HttpStep env config web faults) (Outside env config faults)) w events w')
    (htx : w.tx = none) : withoutSecrets w'.db = withoutSecrets w.db := by
  have hkept : InDb (withoutSecrets · = withoutSecrets w.db) w' := by
    refine h.inv (fun w₁ e w₂ h₁ hstep => ?_) ⟨rfl, fun db hdb => by simp [htx] at hdb⟩
    obtain ⟨houtside, hstep⟩ := hstep
    cases hstep with
    | served hserve =>
      have hkept : InDb (withoutSecrets · = _) (serve env config web faults _ _).2 :=
        serve_unadmitted houtside h₁
      rwa [hserve] at hkept
    | elapsed micros => exact h₁
  exact hkept.1

end

/-- Ada reads her own user, and some time passes. -/
theorem reading_requests_change_nothing_sample :
    let w' : World := (serve sampleEnv sampleConfig sampleWeb Faults.none sampleReading
      loggedInWorld).2
    { w' with clock := w'.clock + 5 } =
      { loggedInWorld with statements := w'.statements, clock := w'.clock + 5 } :=
  reading_requests_change_nothing
    (.cons (httpStep_serve _ _ _ _ _ _) (.cons (.elapsed 5 _) (.nil _)))
    (fun request response hmem => by
      simp only [List.mem_cons, HttpEvent.served.injEq, List.not_mem_nil,
        or_false, reduceCtorEq] at hmem
      rw [hmem.1]
      exact id) rfl

/-- Someone with a token of their own making deletes Ada. -/
def forgedDeletion : Request :=
  bearing "x" .delete "/v1/users/00000000-0000-0000-0000-000000000002" []

theorem forgedDeletion_unadmitted :
    Unadmitted sampleEnv sampleConfig Faults.none forgedDeletion loggedInWorld := by
  intro token htoken user
  rw [← show "x" = token from Option.some.inj htoken]
  exact nofun

theorem forgedDeletion_run :
    Run (Guarded (HttpStep sampleEnv sampleConfig sampleWeb Faults.none)
        (Outside sampleEnv sampleConfig Faults.none)) loggedInWorld
      [.served forgedDeletion
        (serve sampleEnv sampleConfig sampleWeb Faults.none forgedDeletion loggedInWorld).1]
      (serve sampleEnv sampleConfig sampleWeb Faults.none forgedDeletion loggedInWorld).2 :=
  .cons ⟨forgedDeletion_unadmitted, httpStep_serve _ _ _ _ _ _⟩ (.nil _)

theorem outside_requests_change_secrets_only_sample :
    withoutSecrets (serve sampleEnv sampleConfig sampleWeb Faults.none forgedDeletion
      loggedInWorld).2.db = withoutSecrets loggedInWorld.db :=
  outside_requests_change_secrets_only forgedDeletion_run rfl

end ApiStarter.Security
