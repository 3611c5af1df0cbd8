import ApiStarter.Package.Auth.Service
import ApiStarter.Text.Template

/-
  `package/emailer`: the mail templates and how they are rendered.

  `render` replaces the placeholders of a map one after the other, in the order the map happens
  to give them, so a value put in is read again for the placeholders that come later. The result
  is the simultaneous substitution, whatever the order, exactly where no placeholder of the map
  is found in what was put in before it (`render_substitutes_iff`).
-/

namespace ApiStarter.Emailer

open ApiStarter.Text ApiStarter.Auth ApiStarter.Provider

inductive EmailerError where
  | templateNotFound (name : String)
  deriving DecidableEq, Repr

def EmailerError.message : EmailerError → String
  | .templateNotFound name => "template `" ++ name ++ "` not found"

/-! ## The template, between its placeholders -/

def opening : String :=
  String.join [
    "<!DOCTYPE html>\n",
    "<html lang=\"en\">\n",
    "\n",
    "<head>\n",
    "    <meta charset=\"UTF-8\">\n",
    "    <meta name=\"viewport\" content=\"width=device-width, initial-scale=1.0\">\n",
    "    <title>Password Recovery</title>\n",
    "    <style>\n",
    "        body \x7b\n",
    "            font-family: Arial, Helvetica, sans-serif;\n",
    "            margin: 0;\n",
    "            padding: 0;\n",
    "            background-color: #f9f9f9;\n",
    "        \x7d\n",
    "\n",
    "        .container \x7b\n",
    "            max-width: 640px;\n",
    "            margin: 0 auto;\n",
    "        \x7d\n",
    "\n",
    "        .image-header \x7b\n",
    "            text-align: center;\n",
    "            padding-bottom: 20px;\n",
    "        \x7d\n",
    "    </style>\n",
    "</head>\n",
    "\n",
    "<body>\n",
    "    <!-- Header -->\n",
    "    <div style=\"background-color: #f9f9f9; margin: 50px auto 20px auto; box-shadow: ",
    "3px 4px 15px 0 lightgray; border-radius: 5px; max-width: 650px;\">\n",
    "        <!-- Body -->\n",
    "        <div style=\"margin: 0px auto; max-width: 640px; border-radius: 4px; padding: ",
    "10px 30px 30px 30px;\">\n",
    "            <div style=\"margin: 0px auto; max-width: 640px; \">\n",
    "                <h2 style=\"text-align: center;\">Resetting your password?</h2>\n",
    "                <!-- <h2 style=\"font-weight: 500; font-size: 20px; color: #4f545c; ",
    "letter-spacing: 0.27px;\"> Hey "]

def comment : String :=
  String.join [
    ",</h2> -->\n",
    "                <!-- <p style=\"color:#737f8d;font-family:Helvetica ",
    "Neue,Helvetica,Arial,Lucida ",
    "Grande,sans-serif;font-size:16px;line-height:24px;text-align:left\">Your password can ",
    "be reset by clicking the button below. If you did not request a new password, please ",
    "ignore this email.</p> -->\n",
    "\n",
    "                <p style=\"color:#737f8d;font-family:Helvetica ",
    "Neue,Helvetica,Arial,Lucida ",
    "Grande,sans-serif;font-size:16px;line-height:24px;text-align:center\">Hey "]

def greeting : String :=
  String.join [
    ", Your password can be reset by clicking the button below. If you did not request a ",
    "new password, please ignore this email.</p>\n",
    "\n",
    "                <div style=\"text-align: center; padding: 20px 0;\">\n",
    "                    <a href=\""]

def closing : String :=
  String.join [
    "\" style=\"background-color: #0073e6; color: #ffffff; border: none; border-radius: ",
    "8px; padding: 15px 40px; cursor: pointer; text-decoration: none; \">Reset my ",
    "password</a>\n",
    "                </div>\n",
    "            </div>\n",
    "        </div>\n",
    "    </div>\n",
    "    <!-- Footer -->\n",
    "    <div style=\"margin: 0px auto; max-width: 640px; background: transparent;\">\n",
    "        <div style=\"text-align: center;\">\n",
    "            <p style=\"font-size: 1=2px; text-align: center; color: #aeaeae;\">This ",
    "is an automated message, please do not reply.</p>\n",
    "        </div>\n",
    "    </div>\n",
    "</body>\n",
    "\n",
    "</html>\n"]

/-- `templates/password-reset.html`. -/
def passwordReset : String :=
  opening ++ "\x7b\x7busername\x7d\x7d" ++ comment ++ "\x7b\x7busername\x7d\x7d" ++ greeting ++
    "\x7b\x7bcallbackURI\x7d\x7d" ++ closing

def TEMPLATES : List (String × String) := [("password-reset", passwordReset)]

/-! ## Rendering -/

/-- `format!` of a key between two pairs of braces. -/
def placeholderOf (key : String) : String := "\x7b\x7b" ++ key ++ "\x7d\x7d"

/-- `str::replace`. -/
def strReplace (body pattern value : String) : String :=
  String.ofList (replace pattern.toList value.toList body.toList)

/-- `data` is the map in the order its iterator gives the entries. -/
def render (templateName : String) (data : List (String × String)) :
    Except EmailerError String :=
  match TEMPLATES.find? fun template => template.1 == templateName with
  | none => .error (.templateNotFound templateName)
  | some (_, template) =>
    .ok (data.foldl (fun body entry => strReplace body (placeholderOf entry.1) entry.2) template)

/-- A `HashMap<String, String>`. Its iterator gives the entries in any order. -/
structure Data where
  entries : List (String × String)
  nodup : (entries.map Prod.fst).Nodup

def Data.get (data : Data) (key : String) : Option String := data.entries.lookup key

/-- The values of the keys in `keep`. -/
def Data.getOnly (data : Data) (keep : List String) (key : String) : Option String :=
  if key ∈ keep then data.get key else none

/-- Every placeholder of the text whose key has a value gives way to it, all at once. -/
def substituted (get : String → Option String) (text : String) : String :=
  String.ofList (substitute (fun name => (get (String.ofList name)).map String.toList) text.toList)

/-- Every template is rendered as the substitution at once, in every order of the entries. -/
def RendersAtOnce (data : Data) : Prop :=
  ∀ template ∈ TEMPLATES, ∀ order : List (String × String), order.Perm data.entries →
    render template.1 order = .ok (substituted data.get template.2)

def Occurs (key text : String) : Prop := (placeholderOf key).toList <:+: text.toList

instance (key text : String) : Decidable (Occurs key text) := inferInstanceAs (Decidable (_ <:+: _))

/-- No placeholder of the map is found where its value would go wrong. -/
structure ReadOnce (data : Data) : Prop where
  userName : ∀ userName uri, data.get "username" = some userName →
    data.get "callbackURI" = some uri →
      uri = placeholderOf "callbackURI" ∨ ¬ Occurs "callbackURI" userName
  uri : ∀ userName uri, data.get "username" = some userName →
    data.get "callbackURI" = some uri → userName = placeholderOf "username" ∨
      ¬ Occurs "username" uri
  /-- A key that is not of the template is not found in it, however much of it is filled in. -/
  foreign : ∀ key value, data.get key = some value → key ≠ "username" → key ≠ "callbackURI" →
    value = placeholderOf key ∨
      ∀ keep, ¬ Occurs key (substituted (data.getOnly keep) passwordReset)

/-! ## The template as literal text and names -/

def PlainText (text : String) : Prop := Plain text.toList

theorem plainText_nil : PlainText (String.join []) := by
  simp [PlainText, Plain]

theorem plainText_cons {line : List Char} {lines : List String} (h : Plain line)
    (h' : PlainText (String.join lines)) :
    PlainText (String.join (String.ofList line :: lines)) := by
  rw [PlainText, String.join_cons, String.toList_append, String.toList_ofList]
  exact Plain.append h h'

theorem plainText_opening : PlainText opening := by
  repeat refine plainText_cons (by decide +kernel) ?_
  exact plainText_nil

theorem plainText_comment : PlainText comment := by
  repeat refine plainText_cons (by decide +kernel) ?_
  exact plainText_nil

theorem plainText_greeting : PlainText greeting := by
  repeat refine plainText_cons (by decide +kernel) ?_
  exact plainText_nil

theorem plainText_closing : PlainText closing := by
  repeat refine plainText_cons (by decide +kernel) ?_
  exact plainText_nil

theorem head_join {c : Char} {line : List Char} {lines : List String} :
    (String.join (String.ofList (c :: line) :: lines)).toList.head? = some c := by
  simp [String.join_cons]

theorem head_comment : comment.toList.head? = some ',' := head_join

theorem head_greeting : greeting.toList.head? = some ',' := head_join

theorem head_closing : closing.toList.head? = some '"' := head_join

/-- The password-reset mail as a template. -/
def resetTemplate : Template where
  opening := opening.toList
  holes := [("username".toList, comment.toList), ("username".toList, greeting.toList),
    ("callbackURI".toList, closing.toList)]
  plain_opening := plainText_opening
  nameable := by
    simp only [List.forall_mem_cons, List.not_mem_nil, false_imp_iff, implies_true]
    decide +kernel
  plain := by
    simp only [List.forall_mem_cons, List.not_mem_nil, false_imp_iff, implies_true]
    exact ⟨plainText_comment, plainText_greeting, plainText_closing, trivial⟩
  separated := by
    simp only [List.forall_mem_cons, List.not_mem_nil, false_imp_iff, implies_true, head_comment,
      head_greeting, head_closing, Option.some.injEq, exists_eq_left']
    decide +kernel

theorem names_resetTemplate : resetTemplate.names =
    ["username".toList, "username".toList, "callbackURI".toList] := rfl

theorem source_resetTemplate : resetTemplate.source = passwordReset.toList := by
  simp only [Template.source, Template.fill, resetTemplate, pieces_cons, pieces_nil,
    Option.getD_none, passwordReset, String.toList_append, List.append_assoc, List.append_nil]
  rfl

theorem toList_placeholderOf (key : String) :
    (placeholderOf key).toList = placeholder key.toList := by
  simp [placeholderOf, placeholder]

/-! ## Rendering on the level of characters -/

def toChars (entry : String × String) : List Char × List Char := (entry.1.toList, entry.2.toList)

def ofChars (entry : List Char × List Char) : String × String :=
  (String.ofList entry.1, String.ofList entry.2)

@[simp]
theorem toChars_comp_ofChars : toChars ∘ ofChars = id := by
  funext entry
  simp [toChars, ofChars]

@[simp]
theorem ofChars_comp_toChars : ofChars ∘ toChars = id := by
  funext entry
  simp [toChars, ofChars]

/-- The values by name, as lists of characters. -/
def charsOf (get : String → Option String) (name : List Char) : Option (List Char) :=
  (get (String.ofList name)).map String.toList

theorem render_passwordReset (order : List (String × String)) :
    render "password-reset" order =
      .ok (String.ofList (Template.replaceAll (order.map toChars) resetTemplate.source)) := by
  have hfold : ∀ body : String,
      order.foldl (fun body entry => strReplace body (placeholderOf entry.1) entry.2) body =
        String.ofList (Template.replaceAll (order.map toChars) body.toList) := by
    induction order with
    | nil => exact fun body => (String.ofList_toList).symm
    | cons entry order ih =>
      intro body
      rw [List.foldl_cons, ih, strReplace, String.toList_ofList, toList_placeholderOf]
      rfl
  rw [source_resetTemplate, ← hfold]
  rfl

theorem substituted_passwordReset (get : String → Option String) :
    substituted get passwordReset = String.ofList (resetTemplate.fill (charsOf get)) := by
  rw [substituted, ← source_resetTemplate, ← Template.substitute_source]
  rfl

theorem Data.get_eq_some {data : Data} {key value : String} :
    data.get key = some value ↔ (key, value) ∈ data.entries := by
  obtain ⟨entries, hnodup⟩ := data
  unfold Data.get
  induction entries with
  | nil => simp
  | cons entry entries ih =>
    obtain ⟨hfresh, hnodup⟩ := List.nodup_cons.mp hnodup
    rw [List.lookup_cons, List.mem_cons]
    by_cases hkey : key = entry.1
    · subst hkey
      have hnone : (entry.1, value) ∉ entries := fun hmem =>
        hfresh (List.mem_map.mpr ⟨_, hmem, rfl⟩)
      simp [hnone, Prod.ext_iff, eq_comm]
    · simp only [beq_eq_false_iff_ne.mpr hkey, ih hnodup, Prod.ext_iff, hkey, false_and, false_or]

theorem charsOf_get {data : Data} (name v : List Char) :
    charsOf data.get name = some v ↔ (name, v) ∈ data.entries.map toChars := by
  simp only [charsOf, Option.map_eq_some_iff, Data.get_eq_some, List.mem_map]
  constructor
  · rintro ⟨value, hmem, rfl⟩
    exact ⟨_, hmem, by simp [toChars]⟩
  · rintro ⟨entry, hmem, hentry⟩
    obtain ⟨rfl, rfl⟩ := Prod.mk.inj hentry
    exact ⟨entry.2, by simpa using hmem, rfl⟩

theorem nodup_toChars (data : Data) : ((data.entries.map toChars).map Prod.fst).Nodup := by
  have hkeys : (data.entries.map toChars).map Prod.fst =
      (data.entries.map Prod.fst).map String.toList := by
    simp [toChars]
  rw [hkeys]
  exact data.nodup.map fun _ _ h => String.toList_inj.mp h

/-- Rendering at once, on the level of characters. -/
theorem rendersAtOnce_iff {data : Data} : RendersAtOnce data ↔
    ∀ order : List (List Char × List Char), order.Perm (data.entries.map toChars) →
      Template.replaceAll order resetTemplate.source =
        resetTemplate.fill (charsOf data.get) := by
  constructor
  · intro h order hperm
    have hstrings : (order.map ofChars).Perm data.entries := by
      simpa using hperm.map ofChars
    have hrender := h _ List.mem_cons_self _ hstrings
    rw [render_passwordReset, substituted_passwordReset] at hrender
    simpa using String.ofList_injective (Except.ok.inj hrender)
  · intro h template htemplate order hperm
    obtain rfl := List.mem_singleton.mp htemplate
    rw [render_passwordReset, substituted_passwordReset, h _ (hperm.map toChars)]

/-! ## When rendering substitutes at once -/

theorem occurs_iff (key text : String) :
    Occurs key text ↔ placeholder key.toList <:+: text.toList := by
  rw [Occurs, toList_placeholderOf]

theorem eq_placeholderOf_iff {key value : String} :
    value = placeholderOf key ↔ value.toList = placeholder key.toList := by
  rw [← toList_placeholderOf, String.toList_inj]

theorem charsOf_getOnly (data : Data) (keep : List String) :
    charsOf (data.getOnly keep) = Template.only (keep.map String.toList) (charsOf data.get) := by
  funext name
  have hkeep : name ∈ keep.map String.toList ↔ String.ofList name ∈ keep := by
    rw [List.mem_map]
    constructor
    · rintro ⟨key, hmem, rfl⟩
      rwa [String.ofList_toList]
    · exact fun hmem => ⟨_, hmem, String.toList_ofList⟩
  unfold Template.only charsOf Data.getOnly
  by_cases hmem : String.ofList name ∈ keep
  · rw [if_pos hmem, if_pos (hkeep.mpr hmem)]
  · rw [if_neg hmem, if_neg (mt hkeep.mp hmem)]
    rfl

theorem occurs_substituted_iff (data : Data) (key : String) (keep : List String) :
    Occurs key (substituted (data.getOnly keep) passwordReset) ↔
      placeholder key.toList <:+:
        resetTemplate.fill (Template.only (keep.map String.toList) (charsOf data.get)) := by
  rw [occurs_iff, substituted_passwordReset, String.toList_ofList, charsOf_getOnly]

theorem mem_names {name : List Char} : name ∈ resetTemplate.names ↔
    name = "username".toList ∨ name = "callbackURI".toList := by
  simp [names_resetTemplate]

theorem mem_names_toList {key : String} :
    key.toList ∈ resetTemplate.names ↔ key = "username" ∨ key = "callbackURI" := by
  rw [mem_names, String.toList_inj, String.toList_inj]

theorem charsOf_toList {get : String → Option String} {key : String} {v : List Char} :
    charsOf get key.toList = some v ↔ ∃ value, get key = some value ∧ value.toList = v := by
  rw [charsOf, String.ofList_toList, Option.map_eq_some_iff]

theorem ReadOnce.unscanned {data : Data} (h : ReadOnce data) :
    resetTemplate.Unscanned (charsOf data.get) := by
  constructor
  · intro name hname other hother hne v w hv hw
    obtain rfl | rfl := mem_names.mp hname <;> obtain rfl | rfl := mem_names.mp hother <;>
      obtain ⟨v', hv', rfl⟩ := charsOf_toList.mp hv <;>
      obtain ⟨w', hw', rfl⟩ := charsOf_toList.mp hw
    · exact absurd rfl hne
    · simpa only [eq_placeholderOf_iff, occurs_iff] using h.userName v' w' hv' hw'
    · simpa only [eq_placeholderOf_iff, occurs_iff] using h.uri w' v' hw' hv'
    · exact absurd rfl hne
  · intro name hname v hv
    obtain ⟨key, rfl⟩ : ∃ key : String, key.toList = name := ⟨_, String.toList_ofList⟩
    obtain ⟨value, hvalue, rfl⟩ := charsOf_toList.mp hv
    obtain ⟨huser, huri⟩ := not_or.mp (mt mem_names_toList.mpr hname)
    refine (h.foreign key value hvalue huser huri).imp eq_placeholderOf_iff.mp fun hnone keep => ?_
    have hkeep : (keep.map String.ofList).map String.toList = keep := by simp
    rw [← hkeep, ← occurs_substituted_iff]
    exact hnone _

theorem ReadOnce.rendersAtOnce {data : Data} (h : ReadOnce data) : RendersAtOnce data := by
  rw [rendersAtOnce_iff]
  intro order hperm
  apply h.unscanned.replaceAll_eq
  · exact ((hperm.map Prod.fst).nodup_iff).mpr (nodup_toChars data)
  · intro name v
    rw [charsOf_get, hperm.mem_iff]

/-- A key without braces. -/
def BraceFree (key : String) : Prop := Nameable key.toList

instance (key : String) : Decidable (BraceFree key) := inferInstanceAs (Decidable (Nameable _))

theorem readOnce_of_rendersAtOnce {data : Data} (hkeys : ∀ entry ∈ data.entries, BraceFree entry.1)
    (h : RendersAtOnce data) : ReadOnce data := by
  rw [rendersAtOnce_iff] at h
  have hnameable : ∀ entry ∈ data.entries.map toChars, Nameable entry.1 :=
    List.forall_mem_map.mpr hkeys
  have hchars : ∀ {key value : String}, data.get key = some value →
      charsOf data.get key.toList = some value.toList :=
    fun hvalue => charsOf_toList.mpr ⟨_, hvalue, rfl⟩
  constructor
  · intro userName uri huser huri
    rw [eq_placeholderOf_iff, occurs_iff]
    exact Template.own_of_replaceAll (mem_names.mpr (.inl rfl)) (mem_names.mpr (.inr rfl))
      (by decide +kernel) (fun _ => mem_names.mp) hnameable (nodup_toChars data) charsOf_get
      (hchars huser) (hchars huri) h
  · intro userName uri huser huri
    rw [eq_placeholderOf_iff, occurs_iff]
    exact Template.own_of_replaceAll (mem_names.mpr (.inr rfl)) (mem_names.mpr (.inl rfl))
      (by decide +kernel) (fun _ hthird => (mem_names.mp hthird).symm) hnameable
      (nodup_toChars data) charsOf_get (hchars huri) (hchars huser) h
  · intro key value hvalue huser huri
    have hmem := (charsOf_get _ _).mp (hchars hvalue)
    have hother : key.toList ∉ resetTemplate.names := by
      rw [mem_names_toList]
      exact not_or.mpr ⟨huser, huri⟩
    have hforeign := Template.foreign_of_replaceAll (hnameable _ hmem) hother hmem h
    refine hforeign.imp eq_placeholderOf_iff.mpr fun hnone keep => ?_
    rw [occurs_substituted_iff]
    exact hnone _

/-! ## The mail of a recovery -/

/-- The map of a recovery mail. -/
def resetData (userName uri : String) : Data where
  entries := [("username", userName), ("callbackURI", uri)]
  nodup := by simp

theorem braceFree_resetData {userName uri : String} :
    ∀ entry ∈ (resetData userName uri).entries, BraceFree entry.1 := by
  simp only [resetData, List.forall_mem_cons, List.not_mem_nil, false_imp_iff, implies_true]
  decide +kernel

theorem readOnce_resetData {userName uri : String} : ReadOnce (resetData userName uri) ↔
    (uri = placeholderOf "callbackURI" ∨ ¬ Occurs "callbackURI" userName) ∧
      (userName = placeholderOf "username" ∨ ¬ Occurs "username" uri) := by
  have huser : (resetData userName uri).get "username" = some userName := rfl
  have huri : (resetData userName uri).get "callbackURI" = some uri := rfl
  constructor
  · exact fun h => ⟨h.userName _ _ huser huri, h.uri _ _ huser huri⟩
  · intro h
    constructor
    · intro userName' uri' huser' huri'
      obtain rfl := Option.some.inj (huser.symm.trans huser')
      obtain rfl := Option.some.inj (huri.symm.trans huri')
      exact h.1
    · intro userName' uri' huser' huri'
      obtain rfl := Option.some.inj (huser.symm.trans huser')
      obtain rfl := Option.some.inj (huri.symm.trans huri')
      exact h.2
    · intro key value hvalue hne hne'
      have hmem := Data.get_eq_some.mp hvalue
      simp [resetData, hne, hne'] at hmem

/-- A recovery mail shows the user name and the link as they are, in every order of its map,
    exactly when neither holds the placeholder of the other. -/
theorem recoveryMail_renders_iff (user : Identity) (callbackUri token : String) :
    RendersAtOnce (resetData user.userName (callbackUri ++ token)) ↔
      (callbackUri ++ token = placeholderOf "callbackURI" ∨
        ¬ Occurs "callbackURI" user.userName) ∧
      (user.userName = placeholderOf "username" ∨
        ¬ Occurs "username" (callbackUri ++ token)) := by
  rw [← readOnce_resetData]
  exact ⟨readOnce_of_rendersAtOnce braceFree_resetData, ReadOnce.rendersAtOnce⟩

theorem recoveryMail_data (user : Identity) (callbackUri token : String) :
    (AuthService.recoveryMail user callbackUri token).data =
      (resetData user.userName (callbackUri ++ token)).entries := rfl

/-! ## Every map -/

/-- Rendering is the substitution at once for every map in which no placeholder is read again,
    and for no other map whose keys have no braces. -/
theorem render_substitutes_iff (data : Data) :
    (ReadOnce data → RendersAtOnce data) ∧
      ((∀ entry ∈ data.entries, BraceFree entry.1) → RendersAtOnce data → ReadOnce data) :=
  ⟨ReadOnce.rendersAtOnce, readOnce_of_rendersAtOnce⟩

/-- The map of the source's own test is rendered at once. -/
theorem render_substitutes_sample :
    RendersAtOnce (resetData "admin" "https://example.com/reset?token=abc") :=
  (render_substitutes_iff _).1 (readOnce_resetData.mpr (by decide +kernel))

/-- A user name that holds the placeholder of the link is rendered with the link in it, when the
    map gives the user name first. -/
theorem user_name_read_again : ¬ RendersAtOnce
    (resetData (placeholderOf "callbackURI") "https://example.com/reset?token=abc") := by
  intro h
  have hread := readOnce_resetData.mp (readOnce_of_rendersAtOnce braceFree_resetData h)
  exact absurd hread (by decide +kernel)

end ApiStarter.Emailer
