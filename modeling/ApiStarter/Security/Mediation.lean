import ApiStarter.Security.TokenKinds
import ApiStarter.Server.Mounted
import ApiStarter.Server.Serving

/-
  What stands between a request and the iam services.

  `complete_mediation` follows a request along every answer its surroundings might give, so it
  is about every state of the stores and every failure: the log of a request that reached an
  iam service starts with the identity of its token, and that of a request that reached the
  index goes on with the permission of that identity.
-/

namespace ApiStarter.Security

open ApiStarter.Auth ApiStarter.Effect ApiStarter.Effect.Fallible ApiStarter.Iam
  ApiStarter.Iam.Handler ApiStarter.Provider ApiStarter.Server ApiStarter.Web

section

variable {env : Env} {web : WebLibrary}

/-! ## Following a request -/

variable {next : Endpoint} {incoming : Incoming} {log : List (Entry Port PortRes)}
  {rest : Prog Port PortRes Response}

/-- A request that got past authentication, or asked for nothing more. -/
theorem authenticate_path (h : Prog.Path (authenticate next incoming) log rest) :
    log = [] ∨ ∃ token outcome tail, bearerToken incoming.request = some token ∧
      log = ⟨.call (.getIdentity token), outcome⟩ :: tail ∧
      (tail = [] ∨ ∃ user, outcome = some (.ok user) ∧
        Prog.Path (next { incoming with authUser := some user }) tail rest) := by
  rw [authenticate_eq] at h
  cases htoken : bearerToken incoming.request with
  | none =>
    rw [htoken] at h
    exact .inl h.of_ret.1
  | some token =>
    rw [htoken] at h
    obtain ⟨rfl, -⟩ | ⟨outcome, tail, rfl, htail⟩ := h.of_call
    · exact .inl rfl
    refine .inr ⟨token, outcome, tail, rfl, rfl, ?_⟩
    rcases outcome with _ | err | user
    · exact .inl htail.of_panic.1
    · exact .inl htail.of_ret.1
    · exact .inr ⟨user, rfl, htail⟩

/-- A request that got past the guard, or asked for nothing more. -/
theorem rbacGuard_path {action : String} {user : Identity} (huser : incoming.authUser = some user)
    (h : Prog.Path (rbacGuard action next incoming) log rest) :
    log = [] ∨ ∃ allowed tail, log = ⟨.can user.id action, allowed⟩ :: tail ∧
      (tail = [] ∨ (allowed = some true ∧ Prog.Path (next incoming) tail rest)) := by
  rw [rbacGuard_eq, huser] at h
  obtain ⟨rfl, -⟩ | ⟨allowed, tail, rfl, htail⟩ := h.of_call
  · exact .inl rfl
  refine .inr ⟨allowed, tail, rfl, ?_⟩
  rcases allowed with _ | _ | _
  · exact .inl htail.of_panic.1
  · exact .inl htail.of_ret.1
  · exact .inr ⟨rfl, htail⟩

end

/-! ## Complete mediation -/

section

variable (env : Env) (web : WebLibrary)

/-- The log of a request after its authentication as `user`: that of a handler whose route it
    matches, or, after the guard said yes, that of the index. The handler sees `user`. -/
inductive ServedAs (request : Request) (user : Identity) : List (Entry Port PortRes) → Prop
  | handler {pattern : String} {method : Method} {e : Endpoint} {params : Params}
      {log : List (Entry Port PortRes)} {rest : Prog Port PortRes Response}
      (he : (pattern, method, e) ∈ endpoints env web)
      (hmethod : Router.Serves (some method) request.method)
      (hpath : matchPath pattern request.path = some params)
      (h : Prog.Path (e { request := request, params := params, authUser := some user }) log rest) :
      ServedAs request user log
  | index {params : Params} {log : List (Entry Port PortRes)}
      {rest : Prog Port PortRes Response}
      (h : Prog.Path (index web { request := request, params := params, authUser := some user })
        log rest) :
      ServedAs request user (⟨.can user.id "Users.View All", some true⟩ :: log)

structure Mediated (request : Request) (log : List (Entry Port PortRes)) (c : Call)
    (token : String) (user : Identity) : Prop where
  header : ∃ value, request.header "authorization" = some value ∧
    value.toStr = some ("Bearer " ++ token)
  token_nonempty : token ≠ ""
  served : ∃ tail, log = ⟨.call (.getIdentity token), some (.ok user)⟩ :: tail ∧
    ServedAs env web request user tail
  guarded : IsIndex c → (⟨.can user.id "Users.View All", some true⟩ : Entry Port PortRes) ∈ log

end

section

variable {env : Env} {web : WebLibrary} {log : List (Entry Port PortRes)}
  {rest : Prog Port PortRes Response}

theorem served_of_behind {pattern : String} {registered : Option Method} {next : Endpoint}
    (hnext : Behind env web pattern registered next) {request : Request} {params : Params}
    {user : Identity} (hserves : Router.Serves registered request.method)
    (hpath : matchPath pattern request.path = some params)
    (h : Prog.Path (next { request := request, params := params, authUser := some user }) log rest)
    {c : Call} {outcome : c.Outcome} (hc : OfIam c)
    (hmem : (⟨.call c, outcome⟩ : Entry Port PortRes) ∈ log) :
    ServedAs env web request user log ∧
      (IsIndex c → (⟨.can user.id "Users.View All", some true⟩ : Entry Port PortRes) ∈ log) := by
  cases hnext with
  | plain hplain => exact absurd hc (h.mem_uses (hplain _) _ hmem)
  | guarded =>
    obtain rfl | ⟨allowed, tail, rfl, htail⟩ := rbacGuard_path rfl h
    · cases hmem
    obtain rfl | ⟨rfl, hindex⟩ := htail
    · simp at hmem
    exact ⟨.index hindex, fun _ => List.mem_cons_self⟩
  | handler hm he =>
    refine ⟨.handler he (hm ▸ hserves) hpath h, fun hindex => ?_⟩
    have hasked := h.mem_uses (endpoints_once he (hm ▸ hserves) hpath).uses _ hmem
    cases hasked <;> exact hindex.elim

theorem mediated_of_mounted {pattern : String} {registered : Option Method} {e : Endpoint}
    (he : Mounted env web pattern registered e) {request : Request} {params : Params}
    (hserves : Router.Serves registered request.method)
    (hpath : matchPath pattern request.path = some params)
    (h : Prog.Path (e { request := request, params := params, authUser := none }) log rest)
    {c : Call} {outcome : c.Outcome} (hc : OfIam c)
    (hmem : (⟨.call c, outcome⟩ : Entry Port PortRes) ∈ log) :
    ∃ token user, Mediated env web request log c token user := by
  cases he with
  | plain hplain => exact absurd hc (h.mem_uses (hplain _) _ hmem)
  | authenticated hnext =>
    obtain rfl | ⟨token, answered, tail, htoken, rfl, htail⟩ := authenticate_path h
    · cases hmem
    have hmem' : (⟨.call c, outcome⟩ : Entry Port PortRes) ∈ tail := by
      rcases List.mem_cons.1 hmem with heq | hmem
      · cases heq
        exact hc.elim
      · exact hmem
    obtain rfl | ⟨user, rfl, hpath'⟩ := htail
    · cases hmem'
    obtain ⟨hserved, hguard⟩ := served_of_behind hnext hserves hpath hpath' hc hmem'
    obtain ⟨hheader, hne⟩ := bearerToken_eq_some htoken
    exact ⟨token, user, {
      header := hheader
      token_nonempty := hne
      served := ⟨tail, rfl, hserved⟩
      guarded := fun hindex => List.mem_cons_of_mem _ (hguard hindex) }⟩

/-! ## Complete mediation -/

/-- Along every answer a request may get: a method of `UserService` or `PermissionService` is
    called only after the token of the `Authorization` header was accepted, for the identity
    the handler sees, and the index only if the engine allowed that identity to view all users.
    Unless a callee panics, every request is answered. -/
theorem complete_mediation (env : Env) (web : WebLibrary) (request : Request)
    {log : List (Entry Port PortRes)} {rest : Prog Port PortRes Response}
    (h : Prog.Path (router env web request) log rest) :
    (∀ (c : Call) (outcome : c.Outcome), ⟨.call c, outcome⟩ ∈ log → OfIam c →
      ∃ token user, Mediated env web request log c token user) ∧
    ((∀ e ∈ log, Answered e.1 e.2) → rest ≠ .panic) := by
  refine ⟨fun c outcome hmem hc => ?_, h.not_panic (router_safe request)⟩
  unfold router at h
  split at h
  · obtain ⟨rfl, -⟩ := h.of_ret
    cases hmem
  obtain ⟨rest', hrouted⟩ := h.of_map
  unfold routed at hrouted
  split at hrouted
  next endpoint params hdispatch =>
    obtain ⟨pattern, registered, hmounted, hserves, hpath⟩ := mount_mounted.dispatch hdispatch
    exact mediated_of_mounted hmounted hserves hpath hrouted hc hmem
  next =>
    obtain ⟨rfl, -⟩ := hrouted.of_ret
    cases hmem

end

/-- Ada reads her own user. -/
def sampleReading : Request := bearing sampleTokens.token .get "/v1/users/my-user" []

/-- What `sampleReading` asks for once Ada has logged in. -/
def sampleReadingLog : List (Entry Port PortRes) :=
  serveLog sampleEnv sampleConfig sampleWeb Faults.none sampleReading loggedInWorld

theorem sampleReadingLog_eq : sampleReadingLog = [
    ⟨.call (.getIdentity sampleTokens.token), (perform sampleEnv sampleConfig Faults.none
      (.getIdentity sampleTokens.token) loggedInWorld).1⟩,
    ⟨.call (.findUser 2), (perform sampleEnv sampleConfig Faults.none (.findUser 2)
      (sampleAfter (.getIdentity sampleTokens.token) loggedInWorld)).1⟩] := rfl

theorem complete_mediation_sample :
    ∃ token user, Mediated sampleEnv sampleWeb sampleReading sampleReadingLog (.findUser 2)
      token user := by
  have hmem : ⟨.call (.findUser 2), (perform sampleEnv sampleConfig Faults.none (.findUser 2)
      (sampleAfter (.getIdentity sampleTokens.token) loggedInWorld)).1⟩ ∈ sampleReadingLog := by
    rw [sampleReadingLog_eq]
    exact List.mem_cons_of_mem _ List.mem_cons_self
  exact (complete_mediation sampleEnv sampleWeb sampleReading
    (serve_path sampleEnv sampleConfig sampleWeb Faults.none sampleReading loggedInWorld)).1
    _ _ hmem trivial

end ApiStarter.Security
