import ApiStarter.Provider.HashedWrites
import ApiStarter.Server.Requests

/-
  Every password that is written satisfies the policy and is written as a hash.

  The policy exists twice, as a conjunction (`strongPassword`, at the extractors of create and
  reset) and as a cascade of returns (`passwordChecker`, in `partial_update`); they accept the
  same texts. `password_policy_enforced` follows every statement that a request can send: the
  value it writes to the password column is a hash of an accepted text.
-/

namespace ApiStarter.Security

open ApiStarter.Auth ApiStarter.Database ApiStarter.Effect ApiStarter.Effect.Fallible
  ApiStarter.Errdef ApiStarter.Iam ApiStarter.Iam.Handler ApiStarter.Provider
  ApiStarter.Relational ApiStarter.Server ApiStarter.Validation ApiStarter.Web

/-! ## One policy -/

theorem strongPassword_ok_iff (unicode : UnicodeLibrary) (password : String) :
    strongPassword unicode password = .ok () ↔ passwordChecker unicode password = .ok () := by
  unfold strongPassword passwordChecker
  dsimp only
  by_cases hlen : password.toList.length < 8
  · have hshort : decide (password.toList.length ≥ 8) = false :=
      decide_eq_false (Nat.not_le_of_lt hlen)
    rw [hshort, if_pos hlen]
    simp
  · have hlong : decide (password.toList.length ≥ 8) = true :=
      decide_eq_true (Nat.le_of_not_lt hlen)
    rw [hlong, if_neg hlen]
    -- From here on the two test the same four classes, in the same order.
    cases password.toList.any unicode.isUppercase with
    | false => simp
    | true =>
      cases password.toList.any unicode.isLowercase with
      | false => simp
      | true =>
        cases password.toList.any Char.isDigit with
        | false => simp
        | true =>
          cases password.toList.any
              fun c => !unicode.isAlphanumeric c && !unicode.isWhitespace c with
          | false => simp
          | true => simp

/-- A hash of a text that the policy accepts. -/
def PolicyHash (env : Env) (hash : String) : Prop :=
  ∃ salt password, strongPassword env.unicode password = .ok () ∧
    env.crypto.bcryptHash salt password = .ok hash

/-- What the operation writes to the password column, if anything, is such a hash. -/
def WritesPolicyHash (env : Env) : Op → Prop
  | .insertUser user => PolicyHash env user.password
  | .updateUser sets _ => ∀ value, SetClause.password value ∈ sets → PolicyHash env value
  | .resetPassword _ hash => PolicyHash env hash
  | _ => True

/-! ## One call -/

section

variable {env : Env} {web : WebLibrary} {config : AuthConfig} {faults : Faults} {w : World}

/-- The create extractor has checked the password. -/
theorem strong_of_create {request : Request} {payload : CreateUserRequest}
    (h : validatedJson web.createUserRequest
      (CreateUserRequest.validate env.unicode web.emailValid) request = .ok payload) :
    strongPassword env.unicode payload.password = .ok () := by
  have hrules := validatedJson_ok h
  unfold CreateUserRequest.validate at hrules
  exact custom_eq_nil (validate_eq_nil hrules
    ("password", custom (strongPassword env.unicode payload.password)) (by simp))

theorem strong_of_reset {request : Request} {payload : PasswordResetRequest}
    (h : validatedJson web.passwordResetRequest (PasswordResetRequest.validate env.unicode)
      request = .ok payload) : strongPassword env.unicode payload.password = .ok () := by
  have hrules := validatedJson_ok h
  unfold PasswordResetRequest.validate at hrules
  exact custom_eq_nil (validate_eq_nil hrules
    ("password", custom (strongPassword env.unicode payload.password)) (by simp))

/-- Whatever a request makes a service send writes hashes of accepted passwords only. -/
theorem writesPolicyHash_of_sends {request : Request} {c : Call}
    (hc : Asks env web request (.call c)) {o : Op} (ho : c.Sends env o) :
    WritesPolicyHash env o := by
  obtain ⟨hmay, hhashed⟩ := ho
  cases o with
  | insertUser user =>
    rcases hmay with hmay | hmay | hmay
    · exact hmay.elim
    · exact hmay.elim
    cases c with
    | createUser newUser =>
      obtain ⟨payload, hpayload, rfl⟩ := hc
      obtain ⟨salt, hsalt⟩ := hhashed
      exact ⟨salt, payload.password, strong_of_create hpayload, hsalt⟩
    | _ => exact hmay.elim
  | updateUser sets userId =>
    rcases hmay with hmay | hmay | hmay
    · exact hmay.elim
    · exact hmay.elim
    intro value hvalue
    cases c with
    | partialUpdate id fields =>
      obtain ⟨hash, hash_of, hchecked, hsets⟩ := hhashed
      rw [(setClauses_ok hsets).2, password_mem_assignments] at hvalue
      cases hpassword : fields.password with
      | none =>
        rw [hpassword] at hash_of
        rw [show hash = none from hash_of] at hvalue
        cases hvalue
      | some password =>
        rw [hpassword] at hash_of
        obtain ⟨salt, h, hsalt, heq⟩ := hash_of
        obtain rfl : h = value := Option.some.inj (heq.symm.trans hvalue)
        exact ⟨salt, password, (strongPassword_ok_iff _ _).2 (hchecked password hpassword), hsalt⟩
    | deleteUser id =>
      obtain ⟨-, rfl⟩ := hmay
      simp at hvalue
    | _ => exact hmay.elim
  | resetPassword email hash =>
    rcases hmay with hmay | hmay | hmay
    · exact hmay.elim
    · exact hmay.elim
    cases c with
    | resetPassword token newPassword =>
      obtain ⟨payload, hpayload, -, rfl⟩ := hc
      obtain ⟨salt, hsalt⟩ := hhashed
      exact ⟨salt, payload.password, strong_of_reset hpayload, hsalt⟩
    | _ => exact hmay.elim
  | _ => trivial

/-- Along every run of the engine nothing is written. -/
theorem engine_writesPolicyHash (userId : Uuid) (action : String) :
    (Rbac.RbacEngine.can superRole userId action).Uses (WritesPolicyHash env) := by
  refine Prog.Uses.bind ⟨trivial, fun r => by cases r <;> trivial⟩ fun bypass => ?_
  cases bypass with
  | true => trivial
  | false =>
    cases Rbac.splitAction action with
    | none => trivial
    | some parts => exact ⟨trivial, fun r => by cases r <;> trivial⟩

theorem requestOps_writesPolicyHash (request : Request) (w : World) :
    ∀ o ∈ requestOps env config web faults request w, WritesPolicyHash env o := by
  refine Prog.mem_collect_uses (fun port w₁ hport o ho => ?_) (router_asks request) w
  cases port with
  | call c =>
    obtain ⟨entry, hentry, rfl⟩ := List.mem_map.1 ho
    have hsends : UsesE (c.Sends env) (c.service env config) := service_sends env config c
    exact writesPolicyHash_of_sends hport (Prog.mem_record_uses _ hsends w₁ entry hentry)
  | can userId action =>
    obtain ⟨entry, hentry, rfl⟩ := List.mem_map.1 ho
    exact Prog.mem_record_uses _ (engine_writesPolicyHash userId action) w₁ entry hentry

/-! ## What the store holds -/

/-- Every password of the contents is one of `db₀`, or a hash of an accepted text. -/
def PasswordsHashed (env : Env) (db₀ db : Db) : Prop :=
  ∀ row ∈ db.users, (∃ old ∈ db₀.users, old.password = row.password) ∨ PolicyHash env row.password

theorem policyHash_cut (hfits : env.crypto.Fits) {hash : String} (h : PolicyHash env hash) :
    PolicyHash env (cut 255 hash) := by
  obtain ⟨salt, password, hstrong, hhash⟩ := h
  rw [cut_of_length_le (hfits _ _ _ hhash)]
  exact ⟨salt, password, hstrong, hhash⟩

theorem preservedBy_passwordsHashed (hpg : env.pg.RejectsLonger) (hfits : env.crypto.Fits)
    {P : Op → Prop} (hP : ∀ o, P o → WritesPolicyHash env o) (db₀ : Db) :
    PreservedBy env P (PasswordsHashed env db₀) := by
  refine preservedBy_of_users hpg ?frame ?reset ?insert ?update
  case frame =>
    intro db db' h husers
    unfold PasswordsHashed
    rw [husers]
    exact h
  case reset =>
    intro email hash db ho h row hrow
    obtain ⟨old, hold, rfl⟩ := mem_updateWhere.1 hrow
    split
    · exact .inr (hP _ ho)
    · exact h old hold
  case insert =>
    intro newId user db userId db' ho h _ row hrow
    rcases List.mem_append.1 hrow with hold | hnew
    · exact h row hold
    · rw [List.mem_singleton.1 hnew]
      exact .inr (policyHash_cut hfits (hP _ ho))
  case update =>
    intro sets userId db db' ho h _ row hrow
    obtain ⟨old, hold, rfl⟩ := mem_updateWhere.1 hrow
    split
    next =>
      refine SetClause.applyAll_inv (I := fun row => (∃ old ∈ db₀.users,
        old.password = row.password) ∨ PolicyHash env row.password)
        (fun set hset row hrow => ?_) (h old hold)
      obtain ⟨set, hmem, rfl⟩ := List.mem_map.1 hset
      cases set with
      | password value => exact .inr (policyHash_cut hfits (hP _ ho value hmem))
      | _ => exact hrow
    next => exact h old hold

/-- The policy accepts the same texts in both places. In every run of requests, every statement
    of every request writes a hash of an accepted text, if it writes a password at all; so a
    stored password is one the run began with, or such a hash. -/
theorem password_policy_enforced (hpg : env.pg.RejectsLonger) (hfits : env.crypto.Fits) :
    (∀ password, strongPassword env.unicode password = .ok () ↔
      passwordChecker env.unicode password = .ok ()) ∧
    ∀ w w' events, Run (HttpStep env config web faults) w events w' →
      (∀ request, ∀ o ∈ requestOps env config web faults request w', WritesPolicyHash env o) ∧
      (w.tx = none → PasswordsHashed env w.db w'.db) := by
  refine ⟨strongPassword_ok_iff env.unicode, fun w w' events hrun => ⟨?_, fun htx => ?_⟩⟩
  · exact fun request => requestOps_writesPolicyHash request w'
  · have hstart : InDb (PasswordsHashed env w.db) w :=
      ⟨fun row hrow => .inl ⟨row, hrow, rfl⟩, by simp [htx]⟩
    refine (hrun.inv (I := InDb (PasswordsHashed env w.db)) (fun w₁ e w₂ h₁ hstep => ?_)
      hstart).1
    cases hstep with
    | served h =>
      refine serve_inv (fun c w hc hw => ?_) (fun userId action w hw => ?_) h h₁
      · exact perform_inDb_of_sends
          (preservedBy_passwordsHashed hpg hfits (fun _ => writesPolicyHash_of_sends hc) _) hw
      · obtain ⟨n, hworld⟩ := can_world env faults userId action w
        rw [hworld]
        exact hw
    | elapsed n w => exact h₁

end

/-- The world after Ada's account is created. -/
def adaCreated : World :=
  (serve sampleEnv sampleConfig (signUpWeb "Ada") Faults.none signUpRequest sampleWorld).2

/-- What is stored for Ada is a hash of an accepted password. -/
theorem password_policy_enforced_sample :
    (∀ o ∈ requestOps sampleEnv sampleConfig (signUpWeb "Ada") Faults.none signUpRequest
      sampleWorld, WritesPolicyHash sampleEnv o) ∧
    ∃ row ∈ adaCreated.db.users, row.userName = "ada" ∧ PolicyHash sampleEnv row.password := by
  have henforced := (@password_policy_enforced sampleEnv (signUpWeb "Ada") sampleConfig Faults.none
    samplePostgres_rejectsLonger sampleCrypto_fits).2
  have hserved := httpStep_serve sampleEnv sampleConfig (signUpWeb "Ada") Faults.none signUpRequest
    sampleWorld
  refine ⟨(henforced _ _ _ (.nil sampleWorld)).1 signUpRequest, ?_⟩
  have hstored := (henforced sampleWorld adaCreated _ (.cons hserved (.nil _))).2 rfl
  obtain ⟨row, hrow, hname, hnew⟩ : ∃ row ∈ adaCreated.db.users, row.userName = "ada" ∧
      ∀ old ∈ sampleWorld.db.users, old.password ≠ row.password := by decide +kernel
  refine ⟨row, hrow, hname, (hstored row hrow).resolve_left ?_⟩
  exact fun ⟨old, hold, hsame⟩ => hnew old hold hsame

end ApiStarter.Security
