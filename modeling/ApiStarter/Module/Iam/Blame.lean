import ApiStarter.Module.Iam.CallAnswers
import ApiStarter.Provider.Integrity
import ApiStarter.Server.Serving

/-
  Which errors the create and patch routes answer with, and whom they blame.

  `CreateBlames` and `PatchBlames` say that a route fails with one of the errors meant for the
  client, each of them only where the request is to blame for it. `CreateHandled` and
  `PatchHandled` are the conditions under which the code keeps to this; outside of them it answers
  with an internal error, or blames a field that is in order (`routes_blame_iff`).
-/

namespace ApiStarter.Iam

open ApiStarter.Auth ApiStarter.Database ApiStarter.Effect ApiStarter.Effect.Fallible
  ApiStarter.Errdef ApiStarter.Provider ApiStarter.Relational ApiStarter.Server
open ApiStarter.Iam.Handler (CreateUserRequest)
open UserServiceImpl (mapDomainError)

/-! ## Whom the errors blame -/

/-- The create route answers with a user, or blames what the request got wrong. -/
inductive CreateBlames (db : Db) (payload : CreateUserRequest) :
    Option (Except Error Uuid) → Prop
  | created (id : Uuid) : CreateBlames db payload (some (.ok id))
  | department (h : payload.department ∉ db.departments.map (·.id)) :
      CreateBlames db payload (some (.error (mapDomainError .departmentNotFoundConstraint)))
  | taken (h : ∃ u ∈ db.users, u.userName = payload.userName ∨ u.email = payload.email) :
      CreateBlames db payload (some (.error (mapDomainError .userDuplicateConstraint)))

/-- The errors of the patch route that are meant for the client. -/
inductive ClientError : Error → Prop
  | notFound : ClientError (mapDomainError .userNotFound)
  | password (message : String) : ClientError (passwordError message)
  | status : ClientError (mapDomainError .statusNotFound)
  | department : ClientError (mapDomainError .departmentNotFoundConstraint)
  | taken : ClientError (mapDomainError .userDuplicateConstraint)

/-- The patch route answers with success, or blames what the request got wrong. A missing user
    is found out before the password is looked at. -/
structure PatchBlames (env : Env) (db : Db) (userId : Uuid) (fields : UpdateUser)
    (outcome : Option (Except Error Unit)) : Prop where
  answered : outcome = some (.ok ()) ∨ ∃ e, outcome = some (.error e) ∧ ClientError e
  notFound : outcome = some (.error (mapDomainError .userNotFound)) ↔
    userId ∉ db.users.map (·.id)
  password : (∃ message, outcome = some (.error (passwordError message))) ↔
    userId ∈ db.users.map (·.id) ∧ BreaksPolicy env fields
  status : outcome = some (.error (mapDomainError .statusNotFound)) →
    ∃ status ∈ fields.status, UserStatus.idOf status = none
  department : outcome = some (.error (mapDomainError .departmentNotFoundConstraint)) →
    ∃ id ∈ fields.departmentId, id ∉ db.departments.map (·.id)
  taken : outcome = some (.error (mapDomainError .userDuplicateConstraint)) →
    ∃ email ∈ fields.email, ∃ u ∈ db.users, u.id ≠ userId ∧ u.email = email

/-! ## When they blame the right field -/

structure CreateHandled (db : Db) (payload : CreateUserRequest) : Prop where
  texts : payload.TextsStore
  /-- A name or an address that is taken once it is cut to its column was taken before. -/
  taken : NameTaken db payload.toDomain →
    ∃ u ∈ db.users, u.userName = payload.userName ∨ u.email = payload.email
  /-- What else is refused is refused for the department. -/
  rest : ¬ NameTaken db payload.toDomain → payload.department ∈ db.departments.map (·.id) →
    activeUserStatus ∈ db.userStatuses.map (·.id) ∧ ∀ role ∈ payload.roles, NulFree role

/-- The status row that the payload refers to is there. -/
def StatusRowExists (db : Db) (fields : UpdateUser) : Prop :=
  ∀ status ∈ fields.status, ∀ id ∈ UserStatus.idOf status, id ∈ db.userStatuses.map (·.id)

structure PatchHandled (env : Env) (db : Db) (userId : Uuid) (fields : UpdateUser) : Prop where
  readable : UserReadable db userId
  texts : ReachesStatements env db userId fields → fields.TextsStore
  taken : ReachesStatements env db userId fields → AddressTaken db userId fields →
    ∃ email ∈ fields.email, ∃ u ∈ db.users, u.id ≠ userId ∧ u.email = email
  rest : ReachesStatements env db userId fields → ¬ AddressTaken db userId fields →
    (∀ id ∈ fields.departmentId, id ∈ db.departments.map (·.id)) →
      StatusRowExists db fields ∧ ∀ role ∈ fields.roleNames, NulFree role

/-! ## Telling the errors apart -/

/-- What a response tells the client of an error: its status, and the fields it is about. -/
def told (e : Error) : Nat × List String :=
  (e.intoResponse.status, (e.intoResponse.errors.getD []).map Prod.fst)

theorem told_userNotFound : told (mapDomainError .userNotFound) = (404, []) := rfl

theorem told_password (message : String) : told (passwordError message) = (422, ["password"]) := rfl

theorem told_sqlxUnknown (err : SqlxError) : told (sqlxUnknown err) = (500, []) := rfl

/-- Errors that tell different things are different. -/
theorem ne_of_told {e e' : Error} (h : told e ≠ told e') : e ≠ e' := mt (congrArg told) h

/-- An error that is meant for the client is no internal error. -/
theorem ClientError.told_ne {e : Error} (h : ClientError e) : (told e).1 ≠ 500 := by
  cases h with
  | password message =>
    rw [told_password]
    decide
  | _ => decide

theorem not_client_sqlxUnknown (err : SqlxError) : ¬ ClientError (sqlxUnknown err) := fun h =>
  h.told_ne (congrArg Prod.fst (told_sqlxUnknown err))

/-! ## Whom the answers blame -/

section

variable {env : Env} {db : Db} {userId : Uuid}

theorem CreateBlames.client {payload : CreateUserRequest} {e : Error}
    (h : CreateBlames db payload (some (.error e))) : ClientError e := by
  cases h with
  | department => exact .department
  | taken => exact .taken

/-- A create call blames the right field exactly where its payload can be handled. -/
theorem CreateAnswer.blames_iff {payload : CreateUserRequest} {r : Except Error Uuid}
    (h : CreateAnswer db payload r) :
    CreateBlames db payload (some r) ↔ CreateHandled db payload := by
  cases h with
  | refused err htexts =>
    exact ⟨fun hblames => absurd hblames.client (not_client_sqlxUnknown err),
      fun hhandled => absurd hhandled.texts htexts⟩
  | taken htexts htaken =>
    constructor
    · intro hblames
      generalize hr : some (Except.error (mapDomainError .userDuplicateConstraint)) = outcome
        at hblames
      cases hblames with
      | created id => cases hr
      | department => cases hr
      | taken hclash => exact ⟨htexts, fun _ => hclash, fun hnew => absurd htaken hnew⟩
    · intro hhandled
      exact .taken (hhandled.taken htaken)
  | reference htexts hnew hmissing =>
    constructor
    · intro hblames
      generalize hr : some (Except.error (mapDomainError .departmentNotFoundConstraint)) = outcome
        at hblames
      cases hblames with
      | created id => cases hr
      | department habsent =>
        exact ⟨htexts, fun htaken => absurd htaken hnew, fun _ hthere => absurd hthere habsent⟩
      | taken => cases hr
    · intro hhandled
      exact .department fun hthere => hmissing ⟨(hhandled.rest hnew hthere).1, hthere⟩
  | roles err hnew hrefs hroles =>
    exact ⟨fun hblames => absurd hblames.client (not_client_sqlxUnknown err),
      fun hhandled => absurd (hhandled.rest hnew hrefs.2).2 hroles⟩
  | created id htexts hnew hrefs hroles =>
    exact ⟨fun _ => ⟨htexts, fun htaken => absurd htaken hnew, fun _ _ => ⟨hrefs.1, hroles⟩⟩,
      fun _ => .created id⟩

theorem ReachesStatements.not_breaks {fields : UpdateUser}
    (h : ReachesStatements env db userId fields) : ¬ BreaksPolicy env fields := by
  intro hbreaks
  obtain ⟨password, hpassword, hchecked⟩ := hbreaks
  exact hchecked (h.password password hpassword)

theorem PatchBlames.client {fields : UpdateUser} {e : Error}
    (h : PatchBlames env db userId fields (some (.error e))) : ClientError e := by
  obtain hdone | ⟨e', he, hclient⟩ := h.answered
  · cases hdone
  · cases he
    exact hclient

/-- An error of a payload whose user is there and whose password passes is about what the
    statements found. -/
theorem PatchBlames.of_passes {fields : UpdateUser} (huser : userId ∈ db.users.map (·.id))
    (hpasses : ¬ BreaksPolicy env fields) {e : Error} (hclient : ClientError e)
    (hfound : told e ≠ (404, [])) (hpassword : told e ≠ (422, ["password"]))
    (hstatus : e = mapDomainError .statusNotFound →
      ∃ status ∈ fields.status, UserStatus.idOf status = none)
    (hdepartment : e = mapDomainError .departmentNotFoundConstraint →
      ∃ id ∈ fields.departmentId, id ∉ db.departments.map (·.id))
    (htaken : e = mapDomainError .userDuplicateConstraint →
      ∃ email ∈ fields.email, ∃ u ∈ db.users, u.id ≠ userId ∧ u.email = email) :
    PatchBlames env db userId fields (some (.error e)) where
  answered := .inr ⟨e, rfl, hclient⟩
  notFound := by
    constructor
    · intro he
      cases he
      exact absurd told_userNotFound hfound
    · exact fun hmissing => absurd huser hmissing
  password := by
    constructor
    · intro hsome
      obtain ⟨message, he⟩ := hsome
      cases he
      exact absurd (told_password message) hpassword
    · exact fun hbreaks => absurd hbreaks.2 hpasses
  status he := hstatus (Except.error.inj (Option.some.inj he))
  department he := hdepartment (Except.error.inj (Option.some.inj he))
  taken he := htaken (Except.error.inj (Option.some.inj he))

theorem PatchHandled.of_not_reaches {fields : UpdateUser} (hread : UserReadable db userId)
    (h : ¬ ReachesStatements env db userId fields) : PatchHandled env db userId fields :=
  ⟨hread, fun hreaches => absurd hreaches h, fun hreaches => absurd hreaches h,
    fun hreaches => absurd hreaches h⟩

/-- A patch call blames the right field exactly where its payload can be handled. -/
theorem PatchAnswer.blames_iff {fields : UpdateUser} {r : Except Error Unit}
    (h : PatchAnswer env db userId fields r) :
    PatchBlames env db userId fields (some r) ↔ PatchHandled env db userId fields := by
  cases h with
  | missing huser =>
    have hread : UserReadable db userId := fun u hu hid =>
      absurd (List.mem_map.2 ⟨u, hu, hid⟩) huser
    refine ⟨fun _ => .of_not_reaches hread fun hreaches => huser hreaches.user, fun _ => ?_⟩
    exact {
      answered := .inr ⟨_, rfl, .notFound⟩
      notFound := ⟨fun _ => huser, fun _ => rfl⟩
      password := ⟨fun ⟨_, he⟩ => (by cases he), fun hbreaks => absurd hbreaks.1 huser⟩
      status := fun he => by cases he
      department := fun he => by cases he
      taken := fun he => by cases he }
  | hidden huser hread =>
    exact ⟨fun hblames => absurd huser (hblames.notFound.mp rfl),
      fun hhandled => absurd hhandled.readable hread⟩
  | undecoded err hread =>
    exact ⟨fun hblames => absurd hblames.client (not_client_sqlxUnknown err),
      fun hhandled => absurd hhandled.readable hread⟩
  | password message huser hread hbreaks =>
    obtain ⟨value, hvalue, hchecked⟩ := hbreaks
    have hother : ∀ {e : Error}, told e ≠ (422, ["password"]) →
        (some (.error (passwordError message)) : Option (Except Error Unit)) ≠ some (.error e) :=
      fun htold he => htold (congrArg told (Except.error.inj (Option.some.inj he)) ▸
        told_password message)
    refine ⟨fun _ => .of_not_reaches hread fun hreaches =>
      hchecked (hreaches.password value hvalue), fun _ => ?_⟩
    exact {
      answered := .inr ⟨_, rfl, .password message⟩
      notFound := ⟨fun he => absurd he (hother (by decide)), fun hmissing => absurd huser hmissing⟩
      password := ⟨fun _ => ⟨huser, value, hvalue, hchecked⟩, fun _ => ⟨message, rfl⟩⟩
      status := fun he => absurd he (hother (by decide))
      department := fun he => absurd he (hother (by decide))
      taken := fun he => absurd he (hother (by decide)) }
  | status huser hread hpasses hunknown =>
    refine ⟨fun _ => .of_not_reaches hread fun hreaches => ?_, fun _ => ?_⟩
    · obtain ⟨status, hstatus, hid⟩ := hunknown
      have hknown := hreaches.status status hstatus
      rw [hid] at hknown
      cases hknown
    · exact .of_passes huser hpasses .status (by decide) (by decide) (fun _ => hunknown)
        (fun he => absurd he (ne_of_told (by decide)))
        (fun he => absurd he (ne_of_told (by decide)))
  | refused err hreaches htexts =>
    exact ⟨fun hblames => absurd hblames.client (not_client_sqlxUnknown err),
      fun hhandled => absurd (hhandled.texts hreaches) htexts⟩
  | taken hread hreaches htexts htaken =>
    constructor
    · intro hblames
      exact ⟨hread, fun _ => htexts, fun _ _ => hblames.taken rfl,
        fun _ hnew => absurd htaken hnew⟩
    · intro hhandled
      exact .of_passes hreaches.user hreaches.not_breaks .taken (by decide) (by decide)
        (fun he => absurd he (ne_of_told (by decide)))
        (fun he => absurd he (ne_of_told (by decide))) fun _ => hhandled.taken hreaches htaken
  | reference hread hreaches htexts hnew hmissing =>
    constructor
    · intro hblames
      obtain ⟨id, hid, habsent⟩ := hblames.department rfl
      exact ⟨hread, fun _ => htexts, fun _ htaken => absurd htaken hnew,
        fun _ _ hthere => absurd (hthere id hid) habsent⟩
    · intro hhandled
      refine .of_passes hreaches.user hreaches.not_breaks .department (by decide) (by decide)
        (fun he => absurd he (ne_of_told (by decide))) (fun _ => ?_)
        (fun he => absurd he (ne_of_told (by decide)))
      by_contra hnone
      have hthere : ∀ id ∈ fields.departmentId, id ∈ db.departments.map (·.id) := fun id hid =>
        by_contra fun habsent => hnone ⟨id, hid, habsent⟩
      exact hmissing ⟨(hhandled.rest hreaches hnew hthere).1, hthere⟩
  | roles err hreaches hnew hrefs hroles =>
    exact ⟨fun hblames => absurd hblames.client (not_client_sqlxUnknown err),
      fun hhandled => absurd (hhandled.rest hreaches hnew hrefs.department).2 hroles⟩
  | done hread hreaches htexts hnew hrefs hroles =>
    refine ⟨fun _ => ⟨hread, fun _ => htexts, fun _ htaken => absurd htaken hnew,
      fun _ _ _ => ⟨hrefs.status, hroles⟩⟩, fun _ => ?_⟩
    exact {
      answered := .inl rfl
      notFound := ⟨fun he => (by cases he), fun hmissing => absurd hreaches.user hmissing⟩
      password := ⟨fun ⟨_, he⟩ => (by cases he),
        fun hbreaks => absurd hbreaks.2 hreaches.not_breaks⟩
      status := fun he => by cases he
      department := fun he => by cases he
      taken := fun he => by cases he }

end

/-! ## The routes -/

section

variable {env : Env} {config : AuthConfig} {web : WebLibrary} {faults : Faults} {w : World}

/-- What a handler makes of the outcome of its call. -/
def responded {α : Type} (reply : α → Response) : Except Error α → Response
  | .ok a => reply a
  | .error e => Response.ofError e

/-- A handler that calls its service once and answers with what it returned. -/
theorem run_respond_invoke (c : Call) (reply : c.Reply → Response) :
    ((respond (do let r ← invoke c; return reply r)).run (answer env config faults) w).1 =
      (perform env config faults c w).1.map (responded reply) := by
  cases hperform : perform env config faults c w with
  | mk outcome w' =>
    change (Prog.run _ (Prog.call (Port.call c) _) w).1 = _
    rw [Prog.run_call, show answer env config faults (.call c) w = (outcome, w') from hperform]
    rcases outcome with _ | e | a <;> rfl

theorem run_create {incoming : Incoming} {payload : CreateUserRequest}
    (h : validatedJson web.createUserRequest (CreateUserRequest.validate env.unicode web.emailValid)
      incoming.request = .ok payload) :
    ((Handler.create env web incoming).run (answer env config faults) w).1 =
      (perform env config faults (.createUser payload.toDomain) w).1.map
        (responded fun userId => Response.ok (.userId userId)) := by
  unfold Handler.create
  rw [h, mapErr_ok, pure_bind]
  exact run_respond_invoke _ _

theorem run_patch {incoming : Incoming} {userId : Uuid} {fields : UpdateUser}
    (huser : web.pathUuid incoming.params = .ok userId)
    (hfields : json web.updateUser incoming.request = .ok fields) :
    ((Handler.patch web incoming).run (answer env config faults) w).1 =
      (perform env config faults (.partialUpdate userId fields) w).1.map
        (responded fun _ => Response.ok (.message "successfully update user")) := by
  unfold Handler.patch
  rw [huser, mapErr_ok, pure_bind, hfields, mapErr_ok, pure_bind]
  exact run_respond_invoke _ fun _ => Response.ok (.message "successfully update user")

theorem run_patchMyUser {incoming : Incoming} {user : Identity} {fields : UpdateUser}
    (huser : authUser incoming = .ok user)
    (hfields : json web.updateUser incoming.request = .ok fields) :
    ((Handler.patchMyUser web incoming).run (answer env config faults) w).1 =
      (perform env config faults (.partialUpdate user.id fields.restrictedToSelf) w).1.map
        (responded fun _ => Response.ok (.message "successfully update user")) := by
  unfold Handler.patchMyUser
  rw [huser, mapErr_ok, pure_bind, hfields, mapErr_ok, pure_bind]
  exact run_respond_invoke _ fun _ => Response.ok (.message "successfully update user")

theorem createAnswer_perform (hpg : env.pg.RejectsLonger) (hup : Faults.StoreUp faults)
    (hhashes : HashesStore env) (hdb : w.db.Admissible)
    (hfresh : env.newId w.idsDrawn ∉ w.db.users.map (·.id)) (payload : CreateUserRequest) :
    ∃ r, (perform env config faults (.createUser payload.toDomain) w).1 = some r ∧
      CreateAnswer w.db payload r := by
  obtain ⟨r, w', hrun, hanswer⟩ := createAnswer_create hpg hup hhashes hdb hfresh payload
  exact ⟨r, congrArg Prod.fst hrun, hanswer⟩

theorem createBlames_iff (hpg : env.pg.RejectsLonger) (hup : Faults.StoreUp faults)
    (hhashes : HashesStore env) (hdb : w.db.Admissible)
    (hfresh : env.newId w.idsDrawn ∉ w.db.users.map (·.id)) (payload : CreateUserRequest) :
    CreateBlames w.db payload (perform env config faults (.createUser payload.toDomain) w).1 ↔
      CreateHandled w.db payload := by
  obtain ⟨r, hcall, hanswer⟩ :=
    @createAnswer_perform env config _ _ hpg hup hhashes hdb hfresh payload
  rw [hcall]
  exact hanswer.blames_iff

theorem patchBlames_iff (hpg : env.pg.RejectsLonger) (hup : Faults.StoreUp faults)
    (hhashes : HashesStore env) (hdb : w.db.Admissible) (userId : Uuid) (fields : UpdateUser) :
    PatchBlames env w.db userId fields
        (perform env config faults (.partialUpdate userId fields) w).1 ↔
      PatchHandled env w.db userId fields := by
  obtain ⟨r, w', hrun, hanswer⟩ := patchAnswer_partialUpdate hpg hup hhashes hdb userId fields
  rw [show (perform env config faults (.partialUpdate userId fields) w).1 = some r from
    congrArg Prod.fst hrun]
  exact hanswer.blames_iff

end

/-- The create route and the two patch routes answer with the outcome of their call, and blame
    the client for it exactly where the payload can be handled. -/
theorem routes_blame_iff {env : Env} {config : AuthConfig} {web : WebLibrary} {faults : Faults}
    (hpg : env.pg.RejectsLonger) (hup : Faults.StoreUp faults) (hhashes : HashesStore env)
    {w : World} (hdb : w.db.Admissible) (hfresh : env.newId w.idsDrawn ∉ w.db.users.map (·.id))
    (incoming : Incoming) :
    (∀ payload, validatedJson web.createUserRequest
        (CreateUserRequest.validate env.unicode web.emailValid) incoming.request = .ok payload →
      ((Handler.create env web incoming).run (answer env config faults) w).1 =
          (perform env config faults (.createUser payload.toDomain) w).1.map
            (responded fun userId => Response.ok (.userId userId)) ∧
        (CreateBlames w.db payload (perform env config faults (.createUser payload.toDomain) w).1 ↔
          CreateHandled w.db payload)) ∧
    (∀ userId fields, web.pathUuid incoming.params = .ok userId →
      json web.updateUser incoming.request = .ok fields →
      ((Handler.patch web incoming).run (answer env config faults) w).1 =
          (perform env config faults (.partialUpdate userId fields) w).1.map
            (responded fun _ => Response.ok (.message "successfully update user")) ∧
        (PatchBlames env w.db userId fields
            (perform env config faults (.partialUpdate userId fields) w).1 ↔
          PatchHandled env w.db userId fields)) ∧
    ∀ user fields, authUser incoming = .ok user →
      json web.updateUser incoming.request = .ok fields →
      ((Handler.patchMyUser web incoming).run (answer env config faults) w).1 =
          (perform env config faults (.partialUpdate user.id fields.restrictedToSelf) w).1.map
            (responded fun _ => Response.ok (.message "successfully update user")) ∧
        (PatchBlames env w.db user.id fields.restrictedToSelf
            (perform env config faults (.partialUpdate user.id fields.restrictedToSelf) w).1 ↔
          PatchHandled env w.db user.id fields.restrictedToSelf) :=
  ⟨fun payload hpayload =>
      ⟨run_create hpayload, createBlames_iff hpg hup hhashes hdb hfresh payload⟩,
    fun userId fields huser hfields =>
      ⟨run_patch huser hfields, patchBlames_iff hpg hup hhashes hdb userId fields⟩,
    fun user fields huser hfields => ⟨run_patchMyUser huser hfields,
      patchBlames_iff hpg hup hhashes hdb user.id fields.restrictedToSelf⟩⟩

theorem nul_not_mem_joinWords {words : List (List Char)}
    (h : ∀ word ∈ words, Char.ofNat 0 ∉ word) : Char.ofNat 0 ∉ joinWords words := by
  intro hmem
  simp only [joinWords, List.mem_flatMap, List.mem_append, List.mem_cons, List.not_mem_nil,
    or_false] at hmem
  obtain ⟨word, hword, ⟨c, hc, hx | rfl⟩ | hdot⟩ := hmem
  · exact absurd hx (by decide)
  · exact h word hword hc
  · exact absurd hdot (by decide)

theorem nul_not_mem_keyWord (password : String) : Char.ofNat 0 ∉ keyWord password := by
  intro hmem
  obtain ⟨b, -, hb⟩ := List.mem_map.1 hmem
  have hbyte : (b.toNat + 32).isValidChar := .inl (by have := b.toNat_lt; omega)
  have hcode := congrArg Char.toNat hb
  rw [Char.ofNat, dif_pos hbyte] at hcode
  have hzero : b.toNat + 32 = 0 := hcode
  omega

theorem sampleEnv_hashes : HashesStore sampleEnv := by
  intro n password
  refine ⟨_, rfl, sampleCrypto_fits _ _ _ rfl, ?_⟩
  unfold NulFree
  rw [String.toList_ofList]
  refine nul_not_mem_joinWords fun word hword => ?_
  rw [List.mem_cons, List.mem_singleton] at hword
  obtain rfl | rfl := hword
  · intro hmem
    have hsalt := List.mem_of_mem_take hmem
    rw [sampleEnv, String.toList_ofList] at hsalt
    exact absurd (List.eq_of_mem_replicate hsalt) (by decide)
  · exact nul_not_mem_keyWord password

def signUpIncoming (firstName : String) : Incoming where
  request := bearing "x" .post "/v1/users" (signUpBody firstName)
  params := []
  authUser := none

theorem validated_signUp {firstName : String}
    (h : CreateUserRequest.validate sampleEnv.unicode sampleWeb.emailValid (signUp firstName) =
      []) :
    validatedJson (signUpWeb firstName).createUserRequest
      (CreateUserRequest.validate sampleEnv.unicode (signUpWeb firstName).emailValid)
      (signUpIncoming firstName).request = .ok (signUp firstName) := by
  have hdecode : (signUpWeb firstName).createUserRequest (signUpIncoming firstName).request =
      .ok (signUp firstName) := if_pos rfl
  have hrules : CreateUserRequest.validate sampleEnv.unicode (signUpWeb firstName).emailValid
      (signUp firstName) = [] := h
  unfold validatedJson json
  rw [hdecode]
  dsimp only [Except.mapError, bind, Except.bind]
  rw [hrules]
  rfl

def suspendingBody : List UInt8 := ascii "\x7b\"status\":\"Suspended\"\x7d"

/-- A status that there is not. -/
def suspendingFields : UpdateUser := { UpdateUser.default with status := some "Suspended" }

def suspendingWeb : WebLibrary :=
  { sampleWeb with
    updateUser := fun request =>
      if request.body = suspendingBody then .ok suspendingFields
      else .error "expected value at line 1 column 1" }

/-- The administrator's row is patched. -/
def suspendingIncoming : Incoming where
  request := bearing "x" .patch "/v1/users/00000000-0000-0000-0000-000000000001" suspendingBody
  params := [("user_id", "00000000-0000-0000-0000-000000000001")]
  authUser := none

theorem createHandled_signUp {db : Db}
    (htaken : NameTaken db (signUp "Ada").toDomain →
      ∃ u ∈ db.users, u.userName = (signUp "Ada").userName ∨ u.email = (signUp "Ada").email)
    (hactive : activeUserStatus ∈ db.userStatuses.map (·.id)) : CreateHandled db (signUp "Ada") where
  texts := ⟨by decide, by decide, by decide, by decide, by decide⟩
  taken := htaken
  rest := fun _ _ => ⟨hactive, by decide⟩

/-- Ada signs up, and signs up again; and the administrator is given a status that there is not. -/
theorem routes_blame_iff_sample :
    CreateBlames sampleWorld.db (signUp "Ada")
      (perform sampleEnv sampleConfig Faults.none (.createUser (signUp "Ada").toDomain)
        sampleWorld).1 ∧
    ((Handler.create sampleEnv (signUpWeb "Ada") (signUpIncoming "Ada")).run
      (answer sampleEnv sampleConfig Faults.none) signedUp).1.map (·.status) = some 422 ∧
    CreateBlames signedUp.db (signUp "Ada")
      (perform sampleEnv sampleConfig Faults.none (.createUser (signUp "Ada").toDomain)
        signedUp).1 ∧
    ((Handler.patch suspendingWeb suspendingIncoming).run
      (answer sampleEnv sampleConfig Faults.none) sampleWorld).1.map (·.status) = some 422 ∧
    PatchBlames sampleEnv sampleWorld.db sampleAdmin suspendingFields
      (perform sampleEnv sampleConfig Faults.none (.partialUpdate sampleAdmin suspendingFields)
        sampleWorld).1 := by
  have hup : Faults.StoreUp Faults.none := fun _ => rfl
  have hdb : sampleWorld.db.Admissible := Db.admissible_seed sampleAdmin
  have hpayload := validated_signUp
    (show CreateUserRequest.validate sampleEnv.unicode sampleWeb.emailValid (signUp "Ada") = []
      by decide)
  obtain ⟨before, hrun⟩ := signedUp_run
  have hagain : signedUp.db.Admissible :=
    (run_admissible samplePostgres_rejectsLonger hrun ⟨hdb, by simp [sampleWorld, World.init]⟩).1
  have hfirst := (@routes_blame_iff sampleEnv sampleConfig _ Faults.none
    samplePostgres_rejectsLonger hup sampleEnv_hashes _ hdb (by decide) _).1 _ hpayload
  have hsecond := (@routes_blame_iff sampleEnv sampleConfig _ Faults.none
    samplePostgres_rejectsLonger hup sampleEnv_hashes _ hagain (by decide) _).1 _ hpayload
  have hpatch := (@routes_blame_iff sampleEnv sampleConfig suspendingWeb Faults.none
    samplePostgres_rejectsLonger hup sampleEnv_hashes _ hdb (by decide) suspendingIncoming).2.1
      sampleAdmin suspendingFields (by decide +kernel) rfl
  refine ⟨hfirst.2.2 ?_, ?_, hsecond.2.2 ?_, ?_, hpatch.2.2 ?_⟩
  · exact createHandled_signUp (by unfold NameTaken; decide) (by decide)
  · rw [hsecond.1]
    decide
  · exact createHandled_signUp (fun _ => by decide) (by decide)
  · rw [hpatch.1]
    decide
  · have hunreached : ¬ ReachesStatements sampleEnv sampleWorld.db sampleAdmin suspendingFields :=
      fun h => absurd (h.status "Suspended" rfl) (by decide)
    refine .of_not_reaches (fun u hu _ => ?_) hunreached
    obtain rfl := List.mem_singleton.mp hu
    exact ⟨by decide, by decide⟩

def longFirstName : String := String.ofList (List.replicate 101 'a')

/-- A first name of 101 letters passes the validation and is answered with an internal error. -/
theorem long_first_name_is_internal : samplePostgres.RejectsLonger ∧
    Faults.StoreUp Faults.none ∧ HashesStore sampleEnv ∧ sampleWorld.db.Admissible ∧
    validatedJson (signUpWeb longFirstName).createUserRequest
      (CreateUserRequest.validate sampleEnv.unicode (signUpWeb longFirstName).emailValid)
      (signUpIncoming longFirstName).request = .ok (signUp longFirstName) ∧
    ((Handler.create sampleEnv (signUpWeb longFirstName) (signUpIncoming longFirstName)).run
      (answer sampleEnv sampleConfig Faults.none) sampleWorld).1.map (·.status) = some 500 ∧
    ¬ CreateBlames sampleWorld.db (signUp longFirstName)
      (perform sampleEnv sampleConfig Faults.none (.createUser (signUp longFirstName).toDomain)
        sampleWorld).1 := by
  have hup : Faults.StoreUp Faults.none := fun _ => rfl
  have hdb : sampleWorld.db.Admissible := Db.admissible_seed sampleAdmin
  have hfresh : sampleEnv.newId sampleWorld.idsDrawn ∉ sampleWorld.db.users.map (·.id) := by decide
  have hvalid := validated_signUp
    (show CreateUserRequest.validate sampleEnv.unicode sampleWeb.emailValid (signUp longFirstName) =
      [] by decide)
  have hlong : ¬ (signUp longFirstName).TextsStore := fun h =>
    absurd h.firstName (by decide +kernel)
  obtain ⟨r, hcall, hanswer⟩ := @createAnswer_perform sampleEnv sampleConfig _ _
    samplePostgres_rejectsLonger hup sampleEnv_hashes hdb hfresh (signUp longFirstName)
  refine ⟨samplePostgres_rejectsLonger, hup, sampleEnv_hashes, hdb, hvalid, ?_, ?_⟩
  · rw [run_create hvalid, hcall]
    cases hanswer with
    | refused err _ => rfl
    | taken htexts => exact absurd htexts hlong
    | reference htexts => exact absurd htexts hlong
    | roles err _ _ hroles => exact absurd (fun _ hmem => nomatch hmem) hroles
    | created id htexts => exact absurd htexts hlong
  · rw [hcall, hanswer.blames_iff]
    exact fun hhandled => hlong hhandled.texts

end ApiStarter.Iam
