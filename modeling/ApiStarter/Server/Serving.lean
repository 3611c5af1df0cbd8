import ApiStarter.Package.Rbac.Engine
import ApiStarter.Provider.SampleEnv
import ApiStarter.Provider.Transaction
import ApiStarter.Server.Routes

/-
  The server on the state behind it.

  `answer` connects the two kinds of operations a request may ask for to the services and to
  the rbac engine; `serve` runs one request to its end. What holds along every answer of the
  router program holds of `serve` by `serve_path`.
-/

namespace ApiStarter.Server

open ApiStarter.Auth ApiStarter.Database ApiStarter.Effect ApiStarter.Effect.Fallible
  ApiStarter.Errdef ApiStarter.Iam ApiStarter.Provider ApiStarter.Rbac ApiStarter.Web

/-- `SUPER_ROLE` of `provider`. -/
def superRole : String := "Admin"

/-- `RbacEngine::can` in the state `w`, and the state it leaves. -/
def can (env : Env) (faults : Faults) (userId : Uuid) (action : String) (w : World) :
    Option Bool × World :=
  (RbacEngine.can superRole userId action).run (exec env faults) w

def answer (env : Env) (config : AuthConfig) (faults : Faults) : Handler Port PortRes World
  | .call c, w => perform env config faults c w
  | .can userId action, w => can env faults userId action w

section

variable (env : Env) (config : AuthConfig) (web : WebLibrary) (faults : Faults)

/-- One request, served to its end; `none` is a panic, which closes the connection. -/
def serve (request : Request) (w : World) : Option Response × World :=
  (router env web request).run (answer env config faults) w

/-- What a request asks for while it is served, with the answers. -/
def serveLog (request : Request) (w : World) : List (Entry Port PortRes) :=
  (router env web request).record (answer env config faults) w

theorem serve_path (request : Request) (w : World) :
    Prog.Path (router env web request) (serveLog env config web faults request w)
      (Prog.ended (serve env config web faults request w).1) :=
  Prog.path_record _ _ _

end

/-! ## Runs of the server -/

inductive HttpEvent where
  | served (request : Request) (response : Option Response)
  | elapsed (micros : Nat)

/-- Requests one after another, with time passing between them. -/
inductive HttpStep (env : Env) (config : AuthConfig) (web : WebLibrary) (faults : Faults) :
    World → HttpEvent → World → Prop
  | served {request : Request} {response : Option Response} {w w' : World}
      (h : serve env config web faults request w = (response, w')) :
      HttpStep env config web faults w (.served request response) w'
  | elapsed (micros : Nat) (w : World) :
      HttpStep env config web faults w (.elapsed micros) { w with clock := w.clock + micros }

theorem httpStep_serve (env : Env) (config : AuthConfig) (web : WebLibrary) (faults : Faults)
    (request : Request) (w : World) :
    HttpStep env config web faults w (.served request (serve env config web faults request w).1)
      (serve env config web faults request w).2 :=
  .served rfl

/-! ## The engine -/

section

variable {env : Env} {faults : Faults}

/-- A question to the engine sends statements and changes nothing. -/
theorem can_world (env : Env) (faults : Faults) (userId : Uuid) (action : String) (w : World) :
    ∃ n, (can env faults userId action w).2 = { w with statements := n } := by
  have huses : (RbacEngine.can superRole userId action).Uses fun o =>
      o = .getRoles userId ∨ ∃ resource permission,
        o = .hasPermission userId resource permission := by
    refine Prog.Uses.bind ⟨.inl rfl, fun r => by cases r <;> trivial⟩ fun bypass => ?_
    cases bypass with
    | true => trivial
    | false =>
      cases splitAction action with
      | none => trivial
      | some parts => exact ⟨.inr ⟨_, _, rfl⟩, fun r => by cases r <;> trivial⟩
  refine Prog.run_inv_of_uses (I := fun w₁ : World => ∃ n, w₁ = { w with statements := n })
    (fun o w₁ ho h₁ => ?_) huses ⟨w.statements, rfl⟩
  obtain ⟨n, rfl⟩ := h₁
  obtain rfl | ⟨resource, permission, rfl⟩ := ho
  · exact ⟨n + 1, query_snd _⟩
  · exact ⟨n + 1, query_snd _⟩

/-- What the engine makes of the roles and permissions a database holds. -/
def allows (db : Db) (userId : Uuid) (action : String) : Bool :=
  (PostgresRbacStore.getRoles db userId).contains superRole ||
    match splitAction action with
    | none => false
    | some (resource, permission) => PostgresRbacStore.hasPermission db userId resource permission

/-- On a store that answers, the engine decides by the current contents. -/
theorem can_of_store_none {userId : Uuid} {action : String} {w : World}
    (hroles : faults.store w.statements = none)
    (hpermission : faults.store (w.statements + 1) = none) :
    (can env faults userId action w).1 = some (allows w.db userId action) := by
  have hanswer : (exec env faults (.getRoles userId) w).1 =
      .ok (PostgresRbacStore.getRoles w.db userId) := query_fst_of_store_none hroles _
  have hbypass : (RbacEngine.roleBypass superRole userId).run (exec env faults) w =
      (some ((PostgresRbacStore.getRoles w.db userId).contains superRole), w.counted) := by
    change Prog.run _ (Prog.call _ _) w = _
    rw [Prog.run_call, show (exec env faults (.getRoles userId) w).2 = w.counted from
      query_snd _, hanswer]
    rfl
  unfold can RbacEngine.can allows
  rw [Prog.bind_eq, Prog.run_bind, hbypass]
  dsimp only
  cases (PostgresRbacStore.getRoles w.db userId).contains superRole with
  | true => rfl
  | false =>
    cases splitAction action with
    | none => rfl
    | some parts =>
      obtain ⟨resource, permission⟩ := parts
      have hasked : (exec env faults (.hasPermission userId resource permission) w.counted).1 =
          .ok (PostgresRbacStore.hasPermission w.db userId resource permission) :=
        query_fst_of_store_none hpermission _
      change (Prog.run _ (Prog.call _ _) _).1 = _
      rw [Prog.run_call, hasked, Bool.false_or]
      rfl

/-- The engine says yes exactly to the super role and to a granted permission. -/
theorem can_eq_true {userId : Uuid} {action : String} {w : World} :
    (can env Faults.none userId action w).1 = some true ↔
      superRole ∈ PostgresRbacStore.getRoles w.db userId ∨
        ∃ resource permission, splitAction action = some (resource, permission) ∧
          PostgresRbacStore.hasPermission w.db userId resource permission = true := by
  rw [can_of_store_none rfl rfl, Option.some.injEq, allows, Bool.or_eq_true, List.contains_iff_mem]
  refine or_congr_right ?_
  cases splitAction action with
  | none => simp
  | some parts =>
    obtain ⟨resource, permission⟩ := parts
    simp

end

/-! ## Sample requests -/

/-- The bytes of an ASCII text. -/
def ascii (text : String) : List UInt8 := text.toList.map fun c => c.toNat.toUInt8

/-- The body that asks for the role `Admin`. -/
def promotingBody : List UInt8 := ascii "\x7b\"add_roles\":[\"Admin\"]\x7d"

def hexValue (c : Char) : Option Nat :=
  if c.isDigit then some (c.toNat - '0'.toNat)
  else if 'a' ≤ c ∧ c ≤ 'f' then some (c.toNat - 'a'.toNat + 10)
  else none

/-- The hyphenated form of an id, in lower case. -/
def hyphenated (piece : String) : Option Uuid :=
  let cs := piece.toList
  let digits := cs.filter (· ≠ '-')
  if cs.length = 36 ∧ digits.length = 32 ∧
      [8, 13, 18, 23].all fun i => cs[i]? = some '-' then
    (digits.mapM hexValue).map fun ds => BitVec.ofNat 128 (ds.foldl (fun n d => 16 * n + d) 0)
  else none

/-- The libraries on the requests of the samples. -/
def sampleWeb : WebLibrary where
  pathUuid params :=
    match params with
    | [(_, piece)] =>
      match hyphenated piece with
      | some userId => .ok userId
      | none => .error { status := 400, text := "Invalid URL: Cannot parse value" }
    | _ => .error { status := 500, text := "Wrong number of path arguments for Path" }
  urldecode query := if query = "" then some [] else none
  emailValid address := address.toList.contains '@'
  urlValid address := "https://".toList.isPrefixOf address.toList
  createUserRequest _ := .error "expected value at line 1 column 1"
  updateUser request :=
    if request.body = promotingBody then .ok { UpdateUser.default with addRoles := some ["Admin"] }
    else if request.body = ascii "\x7b\x7d" then .ok UpdateUser.default
    else .error "expected value at line 1 column 1"
  loginRequest _ := .error "expected value at line 1 column 1"
  refreshRequest _ := .error "expected value at line 1 column 1"
  passwordRecoveryRequest _ := .error "expected value at line 1 column 1"
  passwordResetRequest _ := .error "expected value at line 1 column 1"

/-- A request without a token. -/
def posting (path : String) (body : List UInt8) : Request :=
  { method := .post
    path := path
    query := none
    headers := [("content-type", ascii "application/json")]
    body := body }

/-- A request that carries a bearer token. -/
def bearing (token : String) (method : Method) (path : String) (body : List UInt8) : Request :=
  { method := method
    path := path
    query := none
    headers := [("authorization", ascii (bearer ++ token)),
      ("content-type", ascii "application/json")]
    body := body }

/-- A token the administrator holds from a login. -/
def adminToken : String :=
  ((Jwt.generateToken sampleJwt
    [("user_id", .str (sampleUuids.toString sampleAdmin)), ("roles", .strs ["Admin"])] 2).toOption).getD
      ""

/-- Ada signs up under a first name. -/
def signUp (firstName : String) : Handler.CreateUserRequest where
  userName := "ada"
  avatarId := ""
  email := "ada@example.com"
  password := "Str0ng-Pass"
  firstName := firstName
  lastName := "Byron"
  department := 1
  roles := []

def signUpBody (firstName : String) : List UInt8 :=
  ascii ("\x7b\"user_name\":\"ada\",\"email\":\"ada@example.com\",\"password\":\"Str0ng-Pass\"," ++
    "\"first_name\":\"" ++ firstName ++ "\",\"last_name\":\"Byron\",\"department\":1\x7d")

/-- The libraries on the body of one sign-up. -/
def signUpWeb (firstName : String) : WebLibrary :=
  { sampleWeb with
    createUserRequest := fun request =>
      if request.body = signUpBody firstName then .ok (signUp firstName)
      else .error "expected value at line 1 column 1" }

/-- The administrator creates the account. -/
def signUpRequest : Request := bearing adminToken .post "/v1/users" (signUpBody "Ada")

end ApiStarter.Server
