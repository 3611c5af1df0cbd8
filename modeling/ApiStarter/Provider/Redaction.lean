import ApiStarter.Effect.Twin
import ApiStarter.Module.Iam.Redaction
import ApiStarter.Provider.System

/-
  Two worlds that differ in the stored password hashes.

  `WorldAlike env K`: the worlds agree in everything but the password column, and the two hashes
  of a user give the same verdict on every password in `K`. `exec_alike`: an operation answers
  both alike, up to the password column, and keeps them so, since what it writes there does not
  come from there.
-/

namespace ApiStarter.Provider

open ApiStarter.Auth ApiStarter.Database ApiStarter.Effect ApiStarter.Effect.Fallible
  ApiStarter.Errdef ApiStarter.Iam ApiStarter.Pagination ApiStarter.Relational

/-! ## Rows and databases -/

/-- Each hash verifies the same passwords of `K`. -/
def SameVerdicts (env : Env) (K : String → Prop) (hash hash' : String) : Prop :=
  ∀ password, K password →
    env.crypto.bcryptVerify password hash = env.crypto.bcryptVerify password hash'

structure RowAlike (env : Env) (K : String → Prop) (u v : UserRow) : Prop where
  redacted : redactedRow u = redactedRow v
  verdicts : SameVerdicts env K u.password v.password

inductive DbAlike (env : Env) (K : String → Prop) (db : Db) : Db → Prop
  | intro {users : List UserRow} (h : List.Forall₂ (RowAlike env K) db.users users) :
      DbAlike env K db { db with users := users }

def redactedIdentity (user : Identity) : Identity := { user with password := "" }

structure IdentityAlike (env : Env) (K : String → Prop) (user user' : Identity) : Prop where
  redacted : redactedIdentity user = redactedIdentity user'
  verdicts : SameVerdicts env K user.password user'.password

section

variable {env : Env} {K : String → Prop} {db db' : Db} {users users' : List UserRow}

theorem rowAlike_refl (u : UserRow) : RowAlike env K u u := ⟨rfl, fun _ _ => rfl⟩

theorem redacted_eq (h : List.Forall₂ (RowAlike env K) users users') :
    users.map redactedRow = users'.map redactedRow := by
  induction h with
  | nil => rfl
  | cons hrow _ ih => rw [List.map_cons, List.map_cons, hrow.redacted, ih]

theorem DbAlike.redacted (h : DbAlike env K db db') : redactedDb db = redactedDb db' := by
  cases h with
  | intro husers => rw [redactedDb, redactedDb, redacted_eq husers]

theorem ids_eq (h : List.Forall₂ (RowAlike env K) users users') :
    users.map (·.id) = users'.map (·.id) := by
  have hredacted : ∀ users : List UserRow,
      users.map (·.id) = (users.map redactedRow).map (·.id) := fun users => by
    rw [List.map_map]
    rfl
  rw [hredacted, redacted_eq h, ← hredacted]

/-- A column other than the password finds alike rows, or none in both. -/
theorem find?_alike (h : List.Forall₂ (RowAlike env K) users users') {p : UserRow → Bool}
    (hp : ∀ u, p (redactedRow u) = p u) :
    Option.Rel (RowAlike env K) (users.find? p) (users'.find? p) := by
  induction h with
  | nil => exact .none
  | @cons u v us vs hrow _ ih =>
    have hsame : p u = p v := by rw [← hp u, hrow.redacted, hp v]
    rw [List.find?_cons, List.find?_cons, hsame]
    cases p v with
    | true => exact .some hrow
    | false => exact ih

theorem identity_alike (h : DbAlike env K db db') {p : UserRow → Bool}
    (hp : ∀ u, p (redactedRow u) = p u) :
    Option.Rel (IdentityAlike env K) ((db.users.find? p).map (PostgresAuthStore.enrich db))
      ((db'.users.find? p).map (PostgresAuthStore.enrich db')) := by
  cases h with
  | @intro users husers =>
    have hrel := find?_alike husers hp
    dsimp only
    generalize db.users.find? p = found, users.find? p = found' at hrel
    cases hrel with
    | none => exact .none
    | @some u v hrow =>
      refine .some ⟨?_, hrow.verdicts⟩
      have hid : (redactedRow u).id = (redactedRow v).id := congrArg _ hrow.redacted
      have hemail : (redactedRow u).email = (redactedRow v).email := congrArg _ hrow.redacted
      have hname : (redactedRow u).userName = (redactedRow v).userName := congrArg _ hrow.redacted
      dsimp only [redactedRow] at hid hemail hname
      simp only [redactedIdentity, PostgresAuthStore.enrich, PostgresAuthStore.getUserRoles, hid,
        hemail, hname]

/-! ## Writes -/

theorem writeUsers_alike (h : DbAlike env K db db')
    (husers : List.Forall₂ (RowAlike env K) users users') :
    Matching (DbAlike env K) (writeUsers db users) (writeUsers db' users') := by
  have hunique : uniqueUsers users = uniqueUsers users' := by
    rw [← uniqueUsers_redacted, redacted_eq husers, uniqueUsers_redacted]
  have hrefs : referencedUsers db users = referencedUsers db' users' := by
    rw [← referencedUsers_redacted, h.redacted, redacted_eq husers, referencedUsers_redacted]
  unfold writeUsers
  rw [hunique, hrefs]
  split
  · split
    · cases h with
      | intro _ => exact .ok (.intro husers)
    · exact .error _
  · exact .error _

theorem matching_bind {α β γ : Type} {V : β → γ → Prop} {r : Except SqlxError α}
    {f : α → Except SqlxError β} {g : α → Except SqlxError γ}
    (h : ∀ a, Matching V (f a) (g a)) : Matching V (r >>= f) (r >>= g) := by
  cases r with
  | ok a => exact h a
  | error e => exact .error e

/-- The same value, and databases that are alike. -/
def Wrote {α : Type} (env : Env) (K : String → Prop) (r r' : α × Db) : Prop :=
  r.1 = r'.1 ∧ DbAlike env K r.2 r'.2

theorem wrote_unit {r r' : Except SqlxError Db} (h : Matching (DbAlike env K) r r') :
    Matching (Wrote env K) (r.map fun db => ((), db)) (r'.map fun db => ((), db)) := by
  cases h with
  | ok h => exact .ok ⟨rfl, h⟩
  | error e => exact .error e

theorem insertUser_alike (pg : Postgres) (newId : Uuid) (user : CreateUser)
    (h : DbAlike env K db db') :
    Matching (Wrote env K) (insertUser pg newId user db) (insertUser pg newId user db') := by
  unfold insertUser
  refine matching_bind fun userName => matching_bind fun avatarId => matching_bind fun email => ?_
  refine matching_bind fun password => matching_bind fun firstName => ?_
  refine matching_bind fun lastName => ?_
  have hrows : ∀ row, Matching (DbAlike env K) (writeUsers db (db.users ++ [row]))
      (writeUsers db' (db'.users ++ [row])) := by
    intro row
    cases h with
    | intro husers =>
      exact writeUsers_alike (.intro husers)
        (List.rel_append husers (.cons (rowAlike_refl row) .nil))
  dsimp only
  generalize hw : writeUsers db _ = r, hw' : writeUsers db' _ = r'
  have hmatching : Matching (DbAlike env K) r r' := hw ▸ hw' ▸ hrows _
  cases hmatching with
  | ok h => exact .ok ⟨rfl, h⟩
  | error e => exact .error e

/-- An assignment writes the same to both rows. -/
theorem apply_alike (set : SetClause) {u v : UserRow} (h : RowAlike env K u v) :
    RowAlike env K (SetClause.apply u set) (SetClause.apply v set) := by
  have hcommutes : ∀ row, redactedRow (SetClause.apply row set) =
      redactedRow (SetClause.apply (redactedRow row) set) := by
    intro row
    cases set <;> rfl
  refine ⟨by rw [hcommutes u, h.redacted, ← hcommutes v], ?_⟩
  cases set with
  | password value => exact fun _ _ => rfl
  | _ => exact h.verdicts

theorem applyAll_alike (sets : List SetClause) {u v : UserRow} (h : RowAlike env K u v) :
    RowAlike env K (sets.foldl SetClause.apply u) (sets.foldl SetClause.apply v) := by
  induction sets generalizing u v with
  | nil => exact h
  | cons set sets ih => exact ih (apply_alike set h)

theorem updateWhere_alike {p : UserRow → Bool} (hp : ∀ u, p (redactedRow u) = p u)
    {f : UserRow → UserRow} (hf : ∀ u v, RowAlike env K u v → RowAlike env K (f u) (f v))
    (h : List.Forall₂ (RowAlike env K) users users') :
    List.Forall₂ (RowAlike env K) (updateWhere p f users) (updateWhere p f users') := by
  refine List.rel_map (fun u v hrow => ?_) h
  have hsame : p u = p v := by rw [← hp u, hrow.redacted, hp v]
  rw [hsame]
  split
  · exact hf u v hrow
  · exact hrow

theorem updateUser_alike (pg : Postgres) (sets : List SetClause) (userId : Uuid)
    (h : DbAlike env K db db') :
    Matching (DbAlike env K) (updateUser pg sets userId db) (updateUser pg sets userId db') := by
  unfold updateUser
  refine matching_bind fun stored => ?_
  cases h with
  | intro husers =>
    refine writeUsers_alike (.intro husers) (updateWhere_alike (fun _ => rfl) ?_ husers)
    exact fun u v hrow => applyAll_alike stored hrow

theorem resetPassword_alike (email hash : String) (h : DbAlike env K db db') :
    DbAlike env K (PostgresAuthStore.resetPassword email hash db)
      (PostgresAuthStore.resetPassword email hash db') := by
  cases h with
  | intro husers =>
    refine .intro (updateWhere_alike (fun _ => rfl) (fun u v hrow => ⟨?_, fun _ _ => rfl⟩) husers)
    exact hrow.redacted

theorem insertUserRoles_alike (userId : Uuid) (names : List String) (h : DbAlike env K db db') :
    Matching (DbAlike env K) (insertUserRoles userId names db)
      (insertUserRoles userId names db') := by
  cases h with
  | @intro users husers =>
    unfold insertUserRoles
    refine matching_bind fun _ => ?_
    dsimp only [rolesNamed]
    rw [ids_eq husers]
    split
    · exact .error _
    · exact .ok (.intro husers)

theorem deleteUserRoles_alike (userId : Uuid) (names : List String) (h : DbAlike env K db db') :
    Matching (DbAlike env K) (deleteUserRoles userId names db)
      (deleteUserRoles userId names db') := by
  cases h with
  | intro husers => exact matching_bind fun _ => .ok (.intro husers)

end

/-! ## Worlds -/

inductive WorldAlike (env : Env) (K : String → Prop) (w : World) : World → Prop
  | intro {db : Db} {tx : Option Db} (hdb : DbAlike env K w.db db)
      (htx : Option.Rel (DbAlike env K) w.tx tx) : WorldAlike env K w { w with db := db, tx := tx }

/-- Answers that differ in passwords at most. -/
def OpAlike (env : Env) (K : String → Prop) : (o : Op) → Res o → Res o → Prop
  | .findUserById _, r, r' => Matching (Option.Rel (IdentityAlike env K)) r r'
  | .findUserByEmail _, r, r' => Matching (Option.Rel (IdentityAlike env K)) r r'
  | .selectUserById _, r, r' =>
    r.map (Option.map JoinedUser.redacted) = r'.map (Option.map JoinedUser.redacted)
  | .selectUserByUserName _, r, r' =>
    r.map (Option.map JoinedUser.redacted) = r'.map (Option.map JoinedUser.redacted)
  | .selectUserByEmail _, r, r' =>
    r.map (Option.map JoinedUser.redacted) = r'.map (Option.map JoinedUser.redacted)
  | .selectUsers _ _ _ _ _, r, r' =>
    r.map (List.map JoinedUser.redacted) = r'.map (List.map JoinedUser.redacted)
  | _, r, r' => r = r'

section

variable {env : Env} {K : String → Prop} {faults : Faults} {w w' : World} {α : Type}

theorem worldAlike_counted (h : WorldAlike env K w w') :
    WorldAlike env K { w with statements := w.statements + 1 }
      { w' with statements := w'.statements + 1 } := by
  cases h with
  | intro hdb htx => exact .intro hdb htx

theorem statement_alike {V : Except SqlxError α → Except SqlxError α → Prop}
    (hV : ∀ e, V (.error e) (.error e)) (h : WorldAlike env K w w')
    {f f' : World → Except SqlxError (α × World)}
    (hf : ∀ w₁ w₂, WorldAlike env K w₁ w₂ →
      Matching (fun r r' => V (.ok r.1) (.ok r'.1) ∧ WorldAlike env K r.2 r'.2) (f w₁) (f' w₂)) :
    V (statement faults w f).1 (statement faults w' f').1 ∧
      WorldAlike env K (statement faults w f).2 (statement faults w' f').2 := by
  have hcounted := worldAlike_counted h
  have hstatements : w'.statements = w.statements := by cases h; rfl
  have hmatching := hf _ _ hcounted
  unfold statement
  rw [hstatements] at hcounted hmatching ⊢
  cases faults.store w.statements with
  | some err => exact ⟨hV err, hcounted⟩
  | none =>
    dsimp only
    generalize f { w with statements := w.statements + 1 } = r,
      f' { w' with statements := w.statements + 1 } = r' at hmatching
    cases hmatching with
    | ok hok => exact hok
    | error err => exact ⟨hV err, hcounted⟩

theorem query_alike {V : Except SqlxError α → Except SqlxError α → Prop}
    (hV : ∀ e, V (.error e) (.error e)) (h : WorldAlike env K w w')
    {f f' : Db → Except SqlxError α}
    (hf : ∀ db db', DbAlike env K db db' → V (f db) (f' db') ∧
      Matching (fun _ _ => True) (f db) (f' db')) :
    V (query faults w f).1 (query faults w' f').1 ∧
      WorldAlike env K (query faults w f).2 (query faults w' f').2 := by
  refine statement_alike hV h fun w₁ w₂ h₁ => ?_
  have hdb : DbAlike env K w₁.db w₂.db := by cases h₁ with | intro hdb _ => exact hdb
  obtain ⟨hv, hmatching⟩ := hf _ _ hdb
  generalize f w₁.db = r, f' w₂.db = r' at hv hmatching
  cases hmatching with
  | ok _ => exact .ok ⟨hv, h₁⟩
  | error e => exact .error e

/-- A query that sees no password answers the same. -/
theorem query_same (h : WorldAlike env K w w') {f : Db → Except SqlxError α}
    (hf : ∀ db, f (redactedDb db) = f db) :
    (query faults w f).1 = (query faults w' f).1 ∧
      WorldAlike env K (query faults w f).2 (query faults w' f).2 := by
  refine query_alike (V := Eq) (fun _ => rfl) h fun db db' hdb => ?_
  have hsame : f db = f db' := by rw [← hf db, hdb.redacted, hf db']
  rw [hsame]
  refine ⟨rfl, ?_⟩
  cases f db' with
  | ok a => exact .ok trivial
  | error e => exact .error e

/-- A query that finds redacted rows in the redacted database answers alike. -/
theorem query_redacted {β : Type} (g : α → β) (f' : Db → Except SqlxError β)
    (h : WorldAlike env K w w') {f : Db → Except SqlxError α}
    (hf : ∀ db, f' (redactedDb db) = (f db).map g) :
    (query faults w f).1.map g = (query faults w' f).1.map g ∧
      WorldAlike env K (query faults w f).2 (query faults w' f).2 := by
  refine query_alike (V := fun r r' => r.map g = r'.map g) (fun _ => rfl) h fun db db' hdb => ?_
  have hsame : (f db).map g = (f db').map g := by rw [← hf db, hdb.redacted, hf db']
  refine ⟨hsame, ?_⟩
  generalize f db = r, f db' = r' at hsame
  cases matching_of_map_eq hsame with
  | ok _ => exact .ok trivial
  | error e => exact .error e

theorem executeOnPool_alike (h : WorldAlike env K w w') {f : Db → Db}
    (hf : ∀ db db', DbAlike env K db db' → DbAlike env K (f db) (f db')) :
    (executeOnPool faults w f).1 = (executeOnPool faults w' f).1 ∧
      WorldAlike env K (executeOnPool faults w f).2 (executeOnPool faults w' f).2 := by
  refine statement_alike (V := Eq) (fun _ => rfl) h fun w₁ w₂ h₁ => ?_
  cases h₁ with
  | intro hdb htx => exact .ok ⟨rfl, .intro (hf _ _ hdb) htx⟩

theorem executeInTx_alike (h : WorldAlike env K w w')
    {f : Db → Except SqlxError (α × Db)}
    (hf : ∀ db db', DbAlike env K db db' → Matching (Wrote env K) (f db) (f db')) :
    (executeInTx faults w f).1 = (executeInTx faults w' f).1 ∧
      WorldAlike env K (executeInTx faults w f).2 (executeInTx faults w' f).2 := by
  refine statement_alike (V := Eq) (fun _ => rfl) h fun w₁ w₂ h₁ => ?_
  cases h₁ with
  | @intro db tx hdb htx =>
    dsimp only
    generalize w₁.tx = tx₁ at htx
    cases htx with
    | none => exact .error _
    | @some d d' hd =>
      have hmatching := hf d d' hd
      dsimp only
      generalize f d = r, f d' = r' at hmatching
      cases hmatching with
      | ok hwrote => exact .ok ⟨congrArg Except.ok hwrote.1, .intro hdb (.some hwrote.2)⟩
      | error e => exact .error e

theorem commit_alike (h : WorldAlike env K w w') :
    (commit faults w).1 = (commit faults w').1 ∧
      WorldAlike env K (commit faults w).2 (commit faults w').2 := by
  cases h with
  | @intro db tx hdb htx =>
    unfold commit
    dsimp only
    cases faults.store w.statements with
    | some err => exact ⟨rfl, .intro hdb .none⟩
    | none =>
      refine ⟨rfl, WorldAlike.intro (w := { w with
        statements := w.statements + 1, tx := none, db := w.tx.getD w.db }) ?_ .none⟩
      generalize w.tx = tx₁ at htx
      cases htx with
      | none => exact hdb
      | some hd => exact hd

/-- An operation does not tell alike worlds apart, and leaves them alike. -/
theorem exec_alike (env : Env) (K : String → Prop) (faults : Faults) (o : Op) (w w' : World)
    (h : WorldAlike env K w w') : OpAlike env K o (exec env faults o w).1 (exec env faults o w').1 ∧
      WorldAlike env K (exec env faults o w).2 (exec env faults o w').2 := by
  cases o with
  | findUserById userId =>
    refine query_alike (fun e => .error e) h fun db db' hdb => ?_
    exact ⟨.ok (identity_alike hdb fun _ => rfl), .ok trivial⟩
  | findUserByEmail email =>
    refine query_alike (fun e => .error e) h fun db db' hdb => ?_
    exact ⟨.ok (identity_alike hdb fun _ => rfl), .ok trivial⟩
  | createPasswordReset email token =>
    have hclock : w'.clock = w.clock := by cases h; rfl
    simp only [exec, hclock]
    exact executeOnPool_alike h fun db db' hdb => by cases hdb with | intro hu => exact .intro hu
  | resetPassword email hash =>
    exact executeOnPool_alike h fun db db' hdb => resetPassword_alike email hash hdb
  | deletePasswordReset email =>
    exact executeOnPool_alike h fun db db' hdb => by cases hdb with | intro hu => exact .intro hu
  | findPasswordByToken token => exact query_same h fun _ => rfl
  | getRoles userId => exact query_same h fun _ => rfl
  | getPermissions userId => exact query_same h fun _ => rfl
  | hasPermission userId resource permission => exact query_same h fun _ => rfl
  | selectUserRoles userId => exact query_same h fun _ => rfl
  | selectPermissions => exact query_same h fun _ => rfl
  | countUsers conditions => exact query_same h fun db => countUsers_redacted _ db _
  | selectUserById userId =>
    exact query_redacted _ (fun db => .ok (selectUserById db userId)) h fun db =>
      congrArg Except.ok (find?_joinedUsers_redacted db fun _ => rfl)
  | selectUserByUserName userName =>
    exact query_redacted _ (fun db => .ok (selectUserByUserName db userName)) h fun db =>
      congrArg Except.ok (find?_joinedUsers_redacted db fun _ => rfl)
  | selectUserByEmail email =>
    exact query_redacted _ (fun db => .ok (selectUserByEmail db email)) h fun db =>
      congrArg Except.ok (find?_joinedUsers_redacted db fun _ => rfl)
  | selectUsers conditions column order limit offset =>
    have hstatements : w'.statements = w.statements := by cases h; rfl
    simp only [exec, hstatements]
    exact query_redacted _ (fun db => selectUsers env.pg w.statements db conditions column order
      limit offset) h fun db => selectUsers_redacted _ _ db _ _ _ _ _
  | begin =>
    refine statement_alike (V := Eq) (fun _ => rfl) h fun w₁ w₂ h₁ => ?_
    cases h₁ with
    | intro hdb htx => exact .ok ⟨rfl, .intro hdb (.some hdb)⟩
  | insertUser user =>
    have hids : w'.idsDrawn = w.idsDrawn := by cases h; rfl
    simp only [exec, hids]
    refine executeInTx_alike ?_ fun db db' hdb => insertUser_alike _ _ user hdb
    cases h with
    | intro hdb htx => exact .intro hdb htx
  | updateUser sets userId =>
    exact executeInTx_alike h fun db db' hdb => wrote_unit (updateUser_alike _ sets userId hdb)
  | insertUserRoles userId names =>
    exact executeInTx_alike h fun db db' hdb => wrote_unit (insertUserRoles_alike userId names hdb)
  | deleteUserRoles userId names =>
    exact executeInTx_alike h fun db db' hdb => wrote_unit (deleteUserRoles_alike userId names hdb)
  | commit => exact commit_alike h
  | rollback => cases h with | intro hdb _ => exact ⟨rfl, .intro hdb .none⟩
  | utcNow => cases h with | intro hdb htx => exact ⟨rfl, .intro hdb htx⟩
  | randomToken => cases h with | intro hdb htx => exact ⟨rfl, .intro hdb htx⟩
  | salt => cases h with | intro hdb htx => exact ⟨rfl, .intro hdb htx⟩
  | jwtValidate token => cases h with | intro hdb htx => exact ⟨rfl, .intro hdb htx⟩
  | jwtGenerate claims expiresAt =>
    cases h with
    | intro hdb htx =>
      simp only [exec, jwtGenerate]
      split
      · exact ⟨rfl, .intro hdb htx⟩
      · exact ⟨rfl, .intro hdb htx⟩
  | sendHtml mail =>
    cases h with
    | intro hdb htx =>
      simp only [exec, sendHtml]
      split
      · exact ⟨rfl, .intro hdb htx⟩
      · exact ⟨rfl, .intro hdb htx⟩

end

end ApiStarter.Provider
