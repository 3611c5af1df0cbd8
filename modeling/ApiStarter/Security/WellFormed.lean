import ApiStarter.Provider.HashedWrites
import ApiStarter.Server.Requests

/-
  Well-formed addresses and names in the store.

  The create route validates the address and the three names; the two `PATCH` routes decode
  their payloads and validate nothing, and the service checks the password only. In a run
  without a `PATCH` whose payload has a malformed address or an empty name, every stored row is
  well formed (`users_stay_well_formed`).
-/

namespace ApiStarter.Security

open ApiStarter.Auth ApiStarter.Database ApiStarter.Effect ApiStarter.Iam ApiStarter.Iam.Handler
  ApiStarter.Jwt ApiStarter.Provider ApiStarter.Relational ApiStarter.Server
  ApiStarter.Validation ApiStarter.Web

/-- What is assumed of the email predicate: no valid address has a blank, and that of the
    seeded administrator is valid. -/
structure EmailRule (emailValid : String → Bool) : Prop where
  no_blank : ∀ address, emailValid address = true → ' ' ∉ address.toList
  admin : emailValid "admin@example.com" = true

structure WellFormedRow (emailValid : String → Bool) (row : UserRow) : Prop where
  email : emailValid row.email = true
  userName : row.userName ≠ ""
  firstName : row.firstName ≠ ""
  lastName : row.lastName ≠ ""

def WellFormedUsers (emailValid : String → Bool) (db : Db) : Prop :=
  ∀ row ∈ db.users, WellFormedRow emailValid row

/-- The columns the payload names are well formed. -/
structure WellFormedPayload (emailValid : String → Bool) (fields : UpdateUser) : Prop where
  email : ∀ address, fields.email = some address → emailValid address = true
  firstName : fields.firstName ≠ some ""
  lastName : fields.lastName ≠ some ""

/-- The request is a `PATCH` of a user, or of its own user, whose payload sets a malformed
    address or an empty name. The payload of the latter loses its address on the way. -/
def Malforms (web : WebLibrary) (request : Request) : Prop :=
  ∃ fields, web.updateUser request = .ok fields ∧
    ((∃ params userId, Patches byId request params ∧ web.pathUuid params = .ok userId ∧
      ¬ WellFormedPayload web.emailValid fields) ∨
    ∃ params, Patches myUser request params ∧
      ¬ WellFormedPayload web.emailValid fields.restrictedToSelf)

/-! ## One statement -/

/-- What the operation writes into the four columns is well formed. -/
def WritesWellFormed (emailValid : String → Bool) : Op → Prop
  | .insertUser user => emailValid user.email = true ∧ user.userName ≠ "" ∧
      user.firstName ≠ "" ∧ user.lastName ≠ ""
  | .updateUser sets _ => (∀ address, SetClause.email address ∈ sets → emailValid address = true) ∧
      SetClause.firstName "" ∉ sets ∧ SetClause.lastName "" ∉ sets
  | _ => True

section

variable {env : Env} {config : AuthConfig} {web : WebLibrary} {faults : Faults}

theorem preservedBy_wellFormed (hpg : env.pg.RejectsLonger) {emailValid : String → Bool}
    (hemail : EmailRule emailValid) {P : Op → Prop}
    (hP : ∀ o, P o → WritesWellFormed emailValid o) :
    PreservedBy env P (WellFormedUsers emailValid) := by
  refine preservedBy_of_users hpg ?frame ?reset ?insert ?update
  case frame =>
    intro db db' h husers
    unfold WellFormedUsers
    rw [husers]
    exact h
  case reset =>
    intro email hash db _ h row hrow
    obtain ⟨old, hold, rfl⟩ := mem_updateWhere.1 hrow
    split
    · exact { h old hold with }
    · exact h old hold
  case insert =>
    intro newId user db userId db' ho h hok
    obtain ⟨hvalid, huser, hfirst, hlast⟩ := hP _ ho
    have haddress : cut 100 user.email = user.email :=
      cut_of_no_blank (hemail.no_blank _ hvalid) (insertUser_textsStore hpg hok).email.blank
    intro row hrow
    rcases List.mem_append.1 hrow with hold | hnew
    · exact h row hold
    · rw [List.mem_singleton.1 hnew]
      exact {
        email := by rw [show (insertedRow newId user).email = _ from haddress]; exact hvalid
        userName := cut_ne_empty (by decide) huser
        firstName := cut_ne_empty (by decide) hfirst
        lastName := cut_ne_empty (by decide) hlast }
  case update =>
    intro sets userId db db' ho h hok
    obtain ⟨hvalid, hfirst, hlast⟩ := hP _ ho
    intro row hrow
    obtain ⟨old, hold, rfl⟩ := mem_updateWhere.1 hrow
    split
    next =>
      refine SetClause.applyAll_inv (fun set hset row hrow => ?_) (h old hold)
      obtain ⟨set, hmem, rfl⟩ := List.mem_map.1 hset
      cases set with
      | email address =>
        have haddress : cut 100 address = address :=
          cut_of_no_blank (hemail.no_blank _ (hvalid address hmem))
            (updateUser_textStores hpg hok _ hmem).blank
        exact { hrow with
          email := by
            change emailValid (cut 100 address) = true
            rw [haddress]
            exact hvalid address hmem }
      | firstName name =>
        exact { hrow with
          firstName := cut_ne_empty (by decide) fun hname => hfirst (hname ▸ hmem) }
      | lastName name =>
        exact { hrow with
          lastName := cut_ne_empty (by decide) fun hname => hlast (hname ▸ hmem) }
      | _ => exact { hrow with }
    next => exact h old hold

/-! ## One request -/

/-- The create extractor has checked the four columns. -/
theorem wellFormed_of_create {request : Request} {payload : CreateUserRequest}
    (h : validatedJson web.createUserRequest
      (CreateUserRequest.validate env.unicode web.emailValid) request = .ok payload) :
    web.emailValid payload.email = true ∧ payload.userName ≠ "" ∧ payload.firstName ≠ "" ∧
      payload.lastName ≠ "" := by
  have hrules := validatedJson_ok h
  unfold CreateUserRequest.validate at hrules
  have hfields := validate_eq_nil hrules
  simp only [List.mem_cons, List.not_mem_nil, or_false, forall_eq_or_imp, forall_eq] at hfields
  obtain ⟨huser, hemail, -, hfirst, hlast, -⟩ := hfields
  exact ⟨holds_eq_nil hemail, lengthMin1_eq_nil huser, lengthMin1_eq_nil hfirst,
    lengthMin1_eq_nil hlast⟩

theorem mem_assignments (fields : UpdateUser) :
    (∀ address, SetClause.email address ∈ assignments fields ↔ fields.email = some address) ∧
    (∀ name, SetClause.firstName name ∈ assignments fields ↔ fields.firstName = some name) ∧
    ∀ name, SetClause.lastName name ∈ assignments fields ↔ fields.lastName = some name := by
  simp only [assignments, List.mem_append, Option.mem_toList, Option.map_eq_some_iff,
    reduceCtorEq, and_false, exists_false, false_or, or_false, SetClause.email.injEq,
    SetClause.firstName.injEq, SetClause.lastName.injEq, exists_eq_right, implies_true, and_self]

theorem writesWellFormed_of_sends {request : Request} (hrequest : ¬ Malforms web request)
    {c : Call} (hc : Asks env web request (.call c)) {o : Op} (ho : c.Sends env o) :
    WritesWellFormed web.emailValid o := by
  obtain ⟨hmay, hhashed⟩ := ho
  cases o with
  | insertUser user =>
    rcases hmay with hmay | hmay | hmay
    · exact hmay.elim
    · exact hmay.elim
    cases c with
    | createUser newUser =>
      obtain ⟨payload, hpayload, rfl⟩ := hc
      obtain ⟨password, rfl⟩ := hmay
      exact wellFormed_of_create hpayload
    | _ => exact hmay.elim
  | updateUser sets userId =>
    rcases hmay with hmay | hmay | hmay
    · exact hmay.elim
    · exact hmay.elim
    cases c with
    | partialUpdate id fields =>
      obtain ⟨hash, -, -, hsets⟩ := hhashed
      have hfields : WellFormedPayload web.emailValid fields := by
        by_contra hbad
        rcases hc with ⟨params, hpatch, hid, hdecode⟩ | ⟨params, payload, hpatch, hdecode, rfl⟩
        · exact hrequest ⟨fields, hdecode, .inl ⟨params, id, hpatch, hid, hbad⟩⟩
        · exact hrequest ⟨payload, hdecode, .inr ⟨params, hpatch, hbad⟩⟩
      rw [(setClauses_ok hsets).2]
      obtain ⟨hmemEmail, hmemFirst, hmemLast⟩ := mem_assignments { fields with password := hash }
      refine ⟨fun address hmem => ?_, fun hmem => ?_, fun hmem => ?_⟩
      · exact hfields.email address ((hmemEmail address).1 hmem)
      · exact hfields.firstName ((hmemFirst "").1 hmem)
      · exact hfields.lastName ((hmemLast "").1 hmem)
    | deleteUser id =>
      obtain ⟨-, rfl⟩ := hmay
      exact ⟨fun _ hmem => by simp at hmem, by simp, by simp⟩
    | _ => exact hmay.elim
  | _ => trivial

/-! ## Runs -/

theorem wellFormedUsers_seed {emailValid : String → Bool} (hemail : EmailRule emailValid)
    (adminId : Uuid) : WellFormedUsers emailValid (Db.seed adminId) := by
  intro row hrow
  rw [List.mem_singleton.1 hrow]
  exact ⟨hemail.admin, by simp, by simp, by simp⟩

theorem users_stay_well_formed (hpg : env.pg.RejectsLonger) (hemail : EmailRule web.emailValid)
    {adminId : Uuid} {clock : Timestamp} {w : World} {events : List HttpEvent}
    (hrun : Run (Guarded (HttpStep env config web faults) fun _ e =>
      ∀ request response, e = .served request response → ¬ Malforms web request)
      (World.init (Db.seed adminId) clock) events w) :
    WellFormedUsers web.emailValid w.db := by
  have hstart : InDb (WellFormedUsers web.emailValid) (World.init (Db.seed adminId) clock) :=
    ⟨wellFormedUsers_seed hemail adminId, by simp [World.init]⟩
  refine (hrun.inv (I := InDb (WellFormedUsers web.emailValid)) (fun w₁ e w₂ h₁ hguarded => ?_)
    hstart).1
  obtain ⟨hrequest, hstep⟩ := hguarded
  cases hstep with
  | served h =>
    refine serve_inv (fun c w hc hw => ?_) (fun userId action w hw => ?_) h h₁
    · exact perform_inDb_of_sends (preservedBy_wellFormed hpg hemail fun _ =>
        writesWellFormed_of_sends (hrequest _ _ rfl) hc) hw
    · obtain ⟨n, hworld⟩ := can_world env faults userId action w
      rw [hworld]
      exact hw
  | elapsed n w => exact h₁

end

/-! ## A malformed address -/

/-- The body that sets the address `x`. -/
def addressBody : List UInt8 := ascii "\x7b\"email\":\"x\"\x7d"

/-- The body that sets a valid address and a name. -/
def renamingBody : List UInt8 :=
  ascii "\x7b\"email\":\"augusta@example.com\",\"first_name\":\"Augusta\"\x7d"

def renamingFields : UpdateUser :=
  { UpdateUser.default with email := some "augusta@example.com", firstName := some "Augusta" }

/-- The libraries on these bodies, with a predicate that keeps the rule. -/
def patchWeb : WebLibrary :=
  { signUpWeb "Ada" with
    emailValid := fun address => address.toList.contains '@' && !address.toList.contains ' '
    updateUser := fun request =>
      if request.body = addressBody then .ok { UpdateUser.default with email := some "x" }
      else if request.body = renamingBody then .ok renamingFields
      else .error "expected value at line 1 column 1" }

theorem patchWeb_emailRule : EmailRule patchWeb.emailValid where
  no_blank address h := by
    simp only [patchWeb, Bool.and_eq_true, Bool.not_eq_true', List.contains_eq_mem,
      decide_eq_false_iff_not] at h
    exact h.2
  admin := by decide

theorem not_malforms {web : WebLibrary} {request : Request}
    (h : ∀ fields, web.updateUser request = .ok fields → WellFormedPayload web.emailValid fields) :
    ¬ Malforms web request := by
  rintro ⟨fields, hdecode, ⟨-, -, -, -, hbad⟩ | ⟨-, -, hbad⟩⟩
  · exact hbad (h fields hdecode)
  · obtain ⟨-, hfirst, hlast⟩ := h fields hdecode
    exact hbad ⟨(fun _ haddress => nomatch haddress), hfirst, hlast⟩

def adaRenamed : Request :=
  bearing adminToken .patch "/v1/users/00000000-0000-0000-0000-000000000002" renamingBody

/-- What a request leaves. -/
def patchServes (request : Request) (w : World) : World :=
  (serve sampleEnv sampleConfig patchWeb Faults.none request w).2

/-- Ada is created and then renamed, and what both requests stored is well formed. -/
theorem users_stay_well_formed_sample :
    (patchServes adaRenamed (patchServes signUpRequest sampleWorld)).db.users.map
        (fun row => (row.email, row.firstName)) =
      [("admin@example.com", "App"), ("augusta@example.com", "Augusta")] ∧
    WellFormedUsers patchWeb.emailValid
      (patchServes adaRenamed (patchServes signUpRequest sampleWorld)).db := by
  have hcreate : ¬ Malforms patchWeb signUpRequest := by
    have hnone : patchWeb.updateUser signUpRequest = .error "expected value at line 1 column 1" := by
      decide +kernel
    exact not_malforms fun fields hdecode => nomatch hnone.symm.trans hdecode
  have hrename : ¬ Malforms patchWeb adaRenamed := not_malforms fun fields hdecode => by
    obtain rfl : renamingFields = fields := Except.ok.inj hdecode
    exact ⟨by decide, by decide, by decide⟩
  refine ⟨by decide +kernel, users_stay_well_formed samplePostgres_rejectsLonger patchWeb_emailRule
    (.cons ⟨?_, httpStep_serve _ _ _ _ _ _⟩ (.cons ⟨?_, httpStep_serve _ _ _ _ _ _⟩ (.nil _)))⟩
  · rintro request response heq
    cases heq
    exact hcreate
  · rintro request response heq
    cases heq
    exact hrename

def addressPatch : Request :=
  bearing adminToken .patch "/v1/users/00000000-0000-0000-0000-000000000001" addressBody

def addressPatched : World :=
  (serve sampleEnv sampleConfig patchWeb Faults.none addressPatch sampleWorld).2

theorem malformed_address_is_stored : EmailRule patchWeb.emailValid ∧
    (∃ response, Run (HttpStep sampleEnv sampleConfig patchWeb Faults.none) sampleWorld
      [.served addressPatch response] addressPatched) ∧
    ¬ WellFormedUsers patchWeb.emailValid addressPatched.db := by
  have hserved := httpStep_serve sampleEnv sampleConfig patchWeb Faults.none addressPatch sampleWorld
  refine ⟨patchWeb_emailRule, ⟨_, .cons hserved (.nil _)⟩, fun h => ?_⟩
  have hstored : ∃ row ∈ addressPatched.db.users, patchWeb.emailValid row.email = false := by
    decide +kernel
  obtain ⟨row, hrow, hinvalid⟩ := hstored
  rw [(h row hrow).email] at hinvalid
  cases hinvalid

end ApiStarter.Security
