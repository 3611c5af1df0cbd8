import ApiStarter.Package.Flattening
import ApiStarter.Server.Http

/-
  Which texts of failed rules reach the client.

  A rule may declare its own text, as the length rules of the payloads do. `message_for` looks at
  the code of the rule and never at that text, so the response lists the translation of the code.
  `delivers_iff` says for any tree when this is what the rules declare, and
  `declared_messages_delivered_iff` for which payloads.
-/

namespace ApiStarter.Server

open ApiStarter.Auth ApiStarter.Entries ApiStarter.Errdef ApiStarter.Iam.Handler
  ApiStarter.Provider ApiStarter.Validation

/-- The text a failed rule is to be answered with. -/
def declared (error : FieldError) : String := error.message.getD (messageFor error)

/-- The response is a 422 that lists, at the path of every field with failed rules, the texts of
    these rules in their order. -/
def Delivers (errors : ValidationErrors) : Prop :=
  (Response.ofError (toError errors)).status = 422 ∧
  ∃ listed, (toError errors).intoResponse.errors = some listed ∧
    ∀ path failed, (path, failed) ∈ leaves errors → failed ≠ [] →
      listed.lookup (pathText path) = some (failed.map declared)

/-- A rule that declares no text, or the very text its code is translated to. -/
def Translated (error : FieldError) : Prop :=
  ∀ message, error.message = some message → message = messageFor error

theorem declared_eq_iff {error : FieldError} :
    messageFor error = declared error ↔ Translated error := by
  unfold declared Translated
  cases error.message with
  | none => simp
  | some message => simp [eq_comm]

theorem delivers_iff {errors : ValidationErrors} (h : WellFormed errors) :
    Delivers errors ↔ ∀ leaf ∈ leaves errors, ∀ error ∈ leaf.2, Translated error := by
  have hlisted : ∀ path failed, (path, failed) ∈ leaves errors → failed ≠ [] →
      (filed ((leaves errors).flatMap (pushed []))).lookup (pathText path) =
        some (failed.map messageFor) := fun path failed hleaf hne =>
    (lookup_filed_leaves h).2 ⟨path, failed, hleaf, hne, rfl, rfl⟩
  unfold Delivers
  rw [toError_eq h]
  constructor
  · intro hdelivers leaf hleaf error herror
    obtain ⟨-, listed, hrendered, hdeclared⟩ := hdelivers
    cases hrendered
    have hne : leaf.2 ≠ [] := List.ne_nil_of_mem herror
    have hsame := hdeclared leaf.1 leaf.2 hleaf hne
    rw [hlisted leaf.1 leaf.2 hleaf hne, Option.some.injEq] at hsame
    exact declared_eq_iff.1 (List.map_inj_left.1 hsame error herror)
  · intro htranslated
    refine ⟨rfl, _, rfl, fun path failed hleaf hne => ?_⟩
    rw [hlisted path failed hleaf hne, Option.some.injEq, List.map_inj_left]
    exact fun error herror => declared_eq_iff.2 (htranslated _ hleaf error herror)

/-! ## The rules of the payloads -/

theorem translated_lengthMin1 (value : String) :
    (∀ error ∈ lengthMin1 requiredMessage value, Translated error) ↔ value ≠ "" := by
  have hother : requiredMessage ≠ "field must be a minimum length of 1" := by decide
  unfold lengthMin1
  by_cases h : value = ""
  · subst h
    refine iff_of_false (fun hall => ?_) (fun hne => hne rfl)
    exact hother (hall _ List.mem_cons_self _ rfl)
  · have hlength : ¬ value.length < 1 := by
      rw [← String.length_toList, Nat.lt_one_iff, List.length_eq_zero_iff]
      simpa using h
    rw [if_neg hlength]
    exact iff_of_true (fun _ hmem => absurd hmem List.not_mem_nil) h

/-- A rule without a text of its own. -/
theorem translated_of_none {failed : List FieldError}
    (h : ∀ error ∈ failed, error.message = none) : ∀ error ∈ failed, Translated error := by
  intro error herror message hmessage
  rw [h error herror] at hmessage
  cases hmessage

theorem translated_holds (code : String) (test : Bool) :
    ∀ error ∈ Validation.holds code test, Translated error := by
  refine translated_of_none fun error herror => ?_
  unfold Validation.holds at herror
  cases test with
  | true => cases herror
  | false => rw [List.mem_singleton.1 herror]

theorem translated_rangeMin1 (value : Int) : ∀ error ∈ rangeMin1 value, Translated error := by
  refine translated_of_none fun error herror => ?_
  unfold rangeMin1 at herror
  split at herror
  · rw [List.mem_singleton.1 herror]
  · cases herror

theorem translated_strongPassword (unicode : UnicodeLibrary) (password : String) :
    ∀ error ∈ custom (strongPassword unicode password), Translated error := by
  refine translated_of_none fun error herror => ?_
  unfold strongPassword at herror
  dsimp only at herror
  split at herror
  · cases herror
  · rw [List.mem_singleton.1 herror]

/-! ## The payloads -/

theorem leaves_validate (fields : List (String × List FieldError)) :
    leaves (validate fields) =
      (fields.filter fun field => field.2 ≠ []).map fun field => ([field.1], field.2) := by
  unfold validate
  induction fields.filter fun field => field.2 ≠ [] with
  | nil => rfl
  | cons field fields ih =>
    rw [List.map_cons, List.map_cons, leaves, ih]
    rfl

theorem wellFormed_validate {fields : List (String × List FieldError)} {names : List String}
    (hfields : fields.map Prod.fst = names) (hkeys : names.Nodup)
    (hnames : ∀ name ∈ names, name ≠ "" ∧ '.' ∉ name.toList) : WellFormed (validate fields) := by
  subst hfields
  unfold validate
  refine wellFormed_iff.2 ⟨?_, fun entry hentry => ?_⟩
  · unfold Keyed
    rw [List.map_map]
    exact hkeys.sublist (List.filter_sublist.map _)
  · obtain ⟨field, hfield, rfl⟩ := List.mem_map.1 hentry
    have hname := hnames _ (List.mem_map_of_mem (List.mem_filter.1 hfield).1)
    exact ⟨⟨hname.1, hname.2⟩, trivial⟩

theorem delivers_validate_iff {fields : List (String × List FieldError)} (names : List String)
    (hfields : fields.map Prod.fst = names) (hkeys : names.Nodup)
    (hnames : ∀ name ∈ names, name ≠ "" ∧ '.' ∉ name.toList) :
    Delivers (validate fields) ↔ ∀ field ∈ fields, ∀ error ∈ field.2, Translated error := by
  rw [delivers_iff (wellFormed_validate hfields hkeys hnames), leaves_validate]
  constructor
  · intro hall field hfield error herror
    have hne : field.2 ≠ [] := List.ne_nil_of_mem herror
    exact hall ([field.1], field.2) (List.mem_map.2
      ⟨field, List.mem_filter.2 ⟨hfield, by simpa using hne⟩, rfl⟩) error herror
  · intro hall leaf hleaf
    obtain ⟨field, hfield, rfl⟩ := List.mem_map.1 hleaf
    exact hall field (List.mem_filter.1 hfield).1

theorem login_delivers_iff (payload : LoginRequest) :
    Delivers payload.validate ↔ payload.email ≠ "" ∧ payload.password ≠ "" := by
  unfold LoginRequest.validate
  rw [delivers_validate_iff ["email", "password"] rfl (by decide) (by decide)]
  simp [translated_lengthMin1]

theorem refresh_delivers_iff (payload : RefreshRequest) :
    Delivers payload.validate ↔ payload.token ≠ "" := by
  unfold RefreshRequest.validate
  rw [delivers_validate_iff ["token"] rfl (by decide) (by decide)]
  simp [translated_lengthMin1]

theorem passwordRecovery_delivers (emailValid urlValid : String → Bool)
    (payload : PasswordRecoveryRequest) : Delivers (payload.validate emailValid urlValid) := by
  unfold PasswordRecoveryRequest.validate
  rw [delivers_validate_iff ["email", "callback_uri"] rfl (by decide) (by decide)]
  simpa using ⟨translated_holds _ _, translated_holds _ _⟩

theorem passwordReset_delivers_iff (unicode : UnicodeLibrary) (payload : PasswordResetRequest) :
    Delivers (payload.validate unicode) ↔ payload.token ≠ "" := by
  unfold PasswordResetRequest.validate
  rw [delivers_validate_iff ["token", "password"] rfl (by decide) (by decide)]
  simpa [translated_lengthMin1] using fun _ => translated_strongPassword unicode payload.password

theorem createUser_delivers_iff (unicode : UnicodeLibrary) (emailValid : String → Bool)
    (payload : CreateUserRequest) : Delivers (payload.validate unicode emailValid) ↔
      payload.userName ≠ "" ∧ payload.firstName ≠ "" ∧ payload.lastName ≠ "" := by
  unfold CreateUserRequest.validate
  rw [delivers_validate_iff
    ["user_name", "email", "password", "first_name", "last_name", "department"]
    rfl (by decide) (by decide)]
  have hemail := translated_holds "email" (emailValid payload.email)
  have hpassword := translated_strongPassword unicode payload.password
  have hdepartment := translated_rangeMin1 payload.department
  simp only [List.forall_mem_cons, translated_lengthMin1]
  simp only [List.not_mem_nil, false_implies, implies_true, and_true]
  exact ⟨fun h => ⟨h.1, h.2.2.2.1, h.2.2.2.2.1⟩,
    fun h => ⟨h.1, hemail, hpassword, h.2.1, h.2.2, hdepartment⟩⟩

/-- The declared texts reach the client exactly where no failed rule declares a text other than
    the translation of its code: for the payloads, where no length rule fails. -/
theorem declared_messages_delivered_iff (unicode : UnicodeLibrary)
    (emailValid urlValid : String → Bool) :
    (∀ errors, WellFormed errors →
      (Delivers errors ↔ ∀ leaf ∈ leaves errors, ∀ error ∈ leaf.2, Translated error)) ∧
    (∀ payload : LoginRequest,
      Delivers payload.validate ↔ payload.email ≠ "" ∧ payload.password ≠ "") ∧
    (∀ payload : RefreshRequest, Delivers payload.validate ↔ payload.token ≠ "") ∧
    (∀ payload : PasswordRecoveryRequest, Delivers (payload.validate emailValid urlValid)) ∧
    (∀ payload : PasswordResetRequest,
      Delivers (payload.validate unicode) ↔ payload.token ≠ "") ∧
    ∀ payload : CreateUserRequest, Delivers (payload.validate unicode emailValid) ↔
      payload.userName ≠ "" ∧ payload.firstName ≠ "" ∧ payload.lastName ≠ "" :=
  ⟨fun _ h => delivers_iff h, login_delivers_iff, refresh_delivers_iff,
    passwordRecovery_delivers emailValid urlValid, passwordReset_delivers_iff unicode,
    createUser_delivers_iff unicode emailValid⟩

/-- An empty name in the second element of a list, with the text its rule declares. -/
def unnamedErrors : ValidationErrors := [
  ("items", .list [(1, [("name", .field [
    { code := "length", message := some requiredMessage, params := [("min", "1")] }])])])]

/-- The texts of one nested tree come through, those of the other do not. -/
theorem declared_messages_delivered_iff_sample :
    Delivers sampleErrors ∧ ¬ Delivers unnamedErrors := by
  have hdelivered := (declared_messages_delivered_iff
    ⟨Char.isUpper, Char.isLower, Char.isAlphanum, Char.isWhitespace⟩
    (fun address => address.toList.contains '@') fun address => address.toList.contains ':').1
  have hunnamed : WellFormed unnamedErrors := by
    simp only [unnamedErrors, WellFormed, WellFormedKind, WellFormedItems]
    simp [fieldName_sample]
  have hnone : ∀ leaf ∈ leaves sampleErrors, ∀ error ∈ leaf.2, error.message = none := by decide
  refine ⟨(hdelivered _ wellFormed_sampleErrors).2 fun leaf hleaf =>
    translated_of_none (hnone leaf hleaf), fun hall => ?_⟩
  have htranslated := (hdelivered _ hunnamed).1 hall _ (.head _) _ (.head _) _ rfl
  exact absurd htranslated (by decide)

/-- A login without an address. -/
def addresslessLogin : LoginRequest := { email := "", password := "Str0ng-Pass" }

theorem addressless_login_is_mistranslated :
    leaves addresslessLogin.validate = [(["email"], [
      { code := "length", message := some requiredMessage, params := [("min", "1")] }])] ∧
    Response.ofError (toError addresslessLogin.validate) =
      { status := 422
        body := .json {
          data := none
          pagination := none
          error := some {
            status := 422
            code := 422
            message := "failed payload validation"
            errors := some [("email", ["field must be a minimum length of 1"])] } } } ∧
    ¬ Delivers addresslessLogin.validate := by
  refine ⟨by decide, by decide, fun h => ?_⟩
  exact ((login_delivers_iff addresslessLogin).1 h).1 rfl

end ApiStarter.Server
