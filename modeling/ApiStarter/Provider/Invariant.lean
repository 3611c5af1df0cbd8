import ApiStarter.Provider.Surroundings

/-
  What one operation can do to the database.

  Seven operations write. `PreservedBy env P D` says that each of them, where `P` allows it,
  keeps the property `D` of the database. `exec_inDb` concludes that every operation `P` allows
  keeps it, of the committed database and of the copy of an open transaction alike.
-/

namespace ApiStarter.Provider

open ApiStarter.Database ApiStarter.Effect ApiStarter.Iam ApiStarter.Auth ApiStarter.Relational

/-- `D` holds of the committed database and of the copy an open transaction works on. -/
def InDb (D : Db → Prop) (w : World) : Prop := D w.db ∧ ∀ db, w.tx = some db → D db

structure PreservedBy (env : Env) (P : Op → Prop) (D : Db → Prop) : Prop where
  createPasswordReset : ∀ now email token db, P (.createPasswordReset email token) → D db →
    D (PostgresAuthStore.createPasswordReset now email token db)
  resetPassword : ∀ email hash db, P (.resetPassword email hash) → D db →
    D (PostgresAuthStore.resetPassword email hash db)
  deletePasswordReset : ∀ email db, P (.deletePasswordReset email) → D db →
    D (PostgresAuthStore.deletePasswordReset email db)
  insertUser : ∀ newId user db userId db', P (.insertUser user) → D db →
    insertUser env.pg newId user db = .ok (userId, db') → D db'
  updateUser : ∀ sets userId db db', P (.updateUser sets userId) → D db →
    updateUser env.pg sets userId db = .ok db' → D db'
  insertUserRoles : ∀ userId names db db', P (.insertUserRoles userId names) → D db →
    insertUserRoles userId names db = .ok db' → D db'
  deleteUserRoles : ∀ userId names db db', P (.deleteUserRoles userId names) → D db →
    deleteUserRoles userId names db = .ok db' → D db'

/-- A property of the users is kept where the operations on users keep it. -/
theorem preservedBy_of_users {env : Env} (hpg : env.pg.RejectsLonger) {P : Op → Prop}
    {D : Db → Prop} (hframe : ∀ db db', D db → db'.users = db.users → D db')
    (hreset : ∀ email hash db, P (.resetPassword email hash) → D db →
      D (PostgresAuthStore.resetPassword email hash db))
    (hinsert : ∀ newId user db userId db', P (.insertUser user) → D db →
      insertUser env.pg newId user db = .ok (userId, db') →
        D { db with users := db.users ++ [insertedRow newId user] })
    (hupdate : ∀ sets userId db db', P (.updateUser sets userId) → D db →
      updateUser env.pg sets userId db = .ok db' →
        D { db with
          users := updateWhere (fun u => u.id == userId)
            (SetClause.applyAll (sets.map SetClause.fitted)) db.users }) :
    PreservedBy env P D where
  createPasswordReset _ _ _ _ _ h := hframe _ _ h rfl
  resetPassword := hreset
  deletePasswordReset _ _ _ h := hframe _ _ h rfl
  insertUser newId user db userId db' ho h hok := by
    have hleft := hinsert newId user db userId db' ho h hok
    obtain ⟨-, hw⟩ := insertUser_ok hpg hok
    obtain ⟨-, -, rfl⟩ := writeUsers_ok hw
    exact hleft
  updateUser sets userId db db' ho h hok := by
    have hleft := hupdate sets userId db db' ho h hok
    obtain ⟨-, -, rfl⟩ := writeUsers_ok (updateUser_ok hpg hok)
    exact hleft
  insertUserRoles _ _ _ _ _ h hok := by
    obtain ⟨added, rfl, -⟩ := insertUserRoles_ok hok
    exact hframe _ _ h rfl
  deleteUserRoles _ _ _ _ _ h hok := by
    obtain ⟨kept, rfl, -⟩ := deleteUserRoles_ok hok
    exact hframe _ _ h rfl

section

variable {D : Db → Prop} {faults : Faults} {w : World}

theorem inDb_of_eq {w w' : World} (hdb : w'.db = w.db) (htx : w'.tx = w.tx) (h : InDb D w) :
    InDb D w' := by
  unfold InDb
  rw [hdb, htx]
  exact h

theorem inDb_statement {α : Type} {f : World → Except SqlxError (α × World)} (h : InDb D w)
    (hf : ∀ w₁ a w₂, InDb D w₁ → f w₁ = .ok (a, w₂) → InDb D w₂) :
    InDb D (statement faults w f).2 := by
  have hcounted : InDb D { w with statements := w.statements + 1 } := inDb_of_eq rfl rfl h
  unfold statement
  cases faults.store w.statements with
  | some err => exact hcounted
  | none =>
    dsimp only
    cases hres : f { w with statements := w.statements + 1 } with
    | error err => exact hcounted
    | ok r => exact hf _ _ _ hcounted hres

theorem inDb_query {α : Type} {f : Db → Except SqlxError α} (h : InDb D w) :
    InDb D (query faults w f).2 := by
  refine inDb_statement h fun w₁ a w₂ h₁ hres => ?_
  cases hf : f w₁.db with
  | error err => rw [hf] at hres; cases hres
  | ok b => rw [hf] at hres; cases hres; exact h₁

theorem inDb_executeOnPool {f : Db → Db} (h : InDb D w) (hf : ∀ db, D db → D (f db)) :
    InDb D (executeOnPool faults w f).2 := by
  refine inDb_statement h fun w₁ a w₂ h₁ hres => ?_
  cases hres
  exact ⟨hf _ h₁.1, h₁.2⟩

theorem inDb_executeInTx {α : Type} {f : Db → Except SqlxError (α × Db)} (h : InDb D w)
    (hf : ∀ db a db', D db → f db = .ok (a, db') → D db') :
    InDb D (executeInTx faults w f).2 := by
  refine inDb_statement h fun w₁ a w₂ h₁ hres => ?_
  cases htx : w₁.tx with
  | none => simp [htx] at hres
  | some db =>
    simp only [htx] at hres
    cases hfdb : f db with
    | error err => rw [hfdb] at hres; cases hres
    | ok r =>
      rw [hfdb] at hres
      cases hres
      exact ⟨h₁.1, fun db' hdb' => Option.some.inj hdb' ▸ hf db r.1 r.2 (h₁.2 db htx) hfdb⟩

theorem inDb_commit (h : InDb D w) : InDb D (commit faults w).2 := by
  unfold commit
  cases faults.store w.statements with
  | some err => exact ⟨h.1, by simp⟩
  | none =>
    refine ⟨?_, by simp⟩
    cases htx : w.tx with
    | none => simpa [htx] using h.1
    | some db => simpa [htx] using h.2 db htx

end

/-- One operation that `P` allows keeps `D`. -/
theorem exec_inDb {env : Env} {P : Op → Prop} {D : Db → Prop} (hD : PreservedBy env P D)
    (faults : Faults) (o : Op) (w : World) (ho : P o) (h : InDb D w) :
    InDb D (exec env faults o w).2 := by
  have inTx : ∀ f : Db → Except SqlxError Db, (∀ db db', D db → f db = .ok db' → D db') →
      InDb D (executeInTx faults w fun db => (f db).map fun db => ((), db)).2 := by
    intro f hf
    refine inDb_executeInTx h fun db a db' hdb hres => ?_
    obtain ⟨db'', hok, heq⟩ := ok_of_map_ok hres
    cases heq
    exact hf _ _ hdb hok
  cases o with
  | createPasswordReset email token =>
    exact inDb_executeOnPool h fun db => hD.createPasswordReset _ email token db ho
  | resetPassword email hash =>
    exact inDb_executeOnPool h fun db => hD.resetPassword email hash db ho
  | deletePasswordReset email =>
    exact inDb_executeOnPool h fun db => hD.deletePasswordReset email db ho
  | begin =>
    refine inDb_statement h fun w₁ a w₂ h₁ hres => ?_
    cases hres
    exact ⟨h₁.1, fun db hdb => Option.some.inj hdb ▸ h₁.1⟩
  | insertUser user =>
    exact inDb_executeInTx (inDb_of_eq rfl rfl h)
      fun db a db' => hD.insertUser _ user db a db' ho
  | updateUser sets userId => exact inTx _ fun db db' => hD.updateUser sets userId db db' ho
  | insertUserRoles userId names =>
    exact inTx _ fun db db' => hD.insertUserRoles userId names db db' ho
  | deleteUserRoles userId names =>
    exact inTx _ fun db db' => hD.deleteUserRoles userId names db db' ho
  | commit => exact inDb_commit h
  | rollback => exact ⟨h.1, by simp [exec]⟩
  | jwtGenerate claims expiresAt =>
    simp only [exec, jwtGenerate]
    split
    · exact h
    · exact inDb_of_eq rfl rfl h
  | sendHtml mail =>
    simp only [exec, sendHtml]
    split <;> exact inDb_of_eq rfl rfl h
  | utcNow => exact h
  | jwtValidate token => exact h
  | randomToken => exact inDb_of_eq rfl rfl h
  | salt => exact inDb_of_eq rfl rfl h
  | findUserById _ => exact inDb_query h
  | findUserByEmail _ => exact inDb_query h
  | findPasswordByToken _ => exact inDb_query h
  | getRoles _ => exact inDb_query h
  | getPermissions _ => exact inDb_query h
  | hasPermission _ _ _ => exact inDb_query h
  | selectUserById _ => exact inDb_query h
  | selectUserByUserName _ => exact inDb_query h
  | selectUserByEmail _ => exact inDb_query h
  | selectUserRoles _ => exact inDb_query h
  | countUsers _ => exact inDb_query h
  | selectUsers _ _ _ _ _ => exact inDb_query h
  | selectPermissions => exact inDb_query h

end ApiStarter.Provider
