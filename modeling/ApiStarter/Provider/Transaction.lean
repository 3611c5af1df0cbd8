import ApiStarter.Provider.System

/-
  Rules for statements and transactions.

  A query leaves the world as it was, apart from the count of statements. A transaction that
  ends in a value has committed the copy its body worked on; one that ends in an error has
  changed nothing.
-/

namespace ApiStarter.Provider

open ApiStarter.Database ApiStarter.Effect ApiStarter.Effect.Fallible ApiStarter.Errdef
  ApiStarter.Iam ApiStarter.Auth

section

variable {α : Type} {env : Env} {faults : Faults} {w w' : World}

/-! ## One statement -/

/-- One more statement sent, nothing else. -/
def World.counted (w : World) : World := { w with statements := w.statements + 1 }

theorem query_snd (f : Db → Except SqlxError α) : (query faults w f).2 = w.counted := by
  unfold query statement
  cases faults.store w.statements with
  | some err => rfl
  | none =>
    dsimp only
    cases f w.db <;> rfl

theorem query_db (f : Db → Except SqlxError α) : (query faults w f).2.db = w.db := by
  rw [query_snd, World.counted]

theorem query_fst_of_store_none (h : faults.store w.statements = none)
    (f : Db → Except SqlxError α) : (query faults w f).1 = f w.db := by
  simp only [query, statement, h]
  cases f w.db <;> rfl

theorem query_fst_of_store_some {err : SqlxError} (h : faults.store w.statements = some err)
    (f : Db → Except SqlxError α) : (query faults w f).1 = .error err := by
  simp only [query, statement, h]

/-- A query that went through answered from the committed database. -/
theorem query_ok {f : Db → Except SqlxError α} {a : α} (h : (query faults w f).1 = .ok a) :
    f w.db = .ok a := by
  cases hstore : faults.store w.statements with
  | some err => rw [query_fst_of_store_some hstore] at h; cases h
  | none => rwa [query_fst_of_store_none hstore] at h

theorem executeOnPool_of_store_none (h : faults.store w.statements = none) (f : Db → Db) :
    executeOnPool faults w f =
      (.ok (), { w with statements := w.statements + 1, db := f w.db }) := by
  simp only [executeOnPool, statement, h]

theorem executeOnPool_of_store_some {err : SqlxError}
    (h : faults.store w.statements = some err) (f : Db → Db) :
    executeOnPool faults w f = (.error err, w.counted) := by
  simp only [executeOnPool, statement, h, World.counted]

/-- A statement in a transaction that went through, from the copy `db`. -/
theorem executeInTx_ok {f : Db → Except SqlxError (α × Db)} {db : Db} {a : α}
    (htx : w.tx = some db) (h : (executeInTx faults w f).1 = .ok a) :
    ∃ db', f db = .ok (a, db') ∧ (executeInTx faults w f).2 =
      { w with statements := w.statements + 1, tx := some db' } := by
  unfold executeInTx statement at h ⊢
  cases hstore : faults.store w.statements with
  | some err => rw [hstore] at h; cases h
  | none =>
    simp only [hstore, htx] at h ⊢
    cases hf : f db with
    | error err => rw [hf] at h; cases h
    | ok r =>
      rw [hf] at h
      cases h
      exact ⟨r.2, rfl, rfl⟩

/-! ## What operations leave alone -/

section

variable {β : Type} {g : World → β}

theorem statement_keeps (hg : ∀ w n, g { w with statements := n } = g w)
    {f : World → Except SqlxError (α × World)}
    (hf : ∀ w₁ a w₂, f w₁ = .ok (a, w₂) → g w₂ = g w₁) :
    g (statement faults w f).2 = g w := by
  unfold statement
  cases faults.store w.statements with
  | some err => exact hg _ _
  | none =>
    dsimp only
    cases hres : f { w with statements := w.statements + 1 } with
    | error err => exact hg _ _
    | ok r => exact (hf _ r.1 r.2 hres).trans (hg _ _)

theorem executeInTx_keeps (hg : ∀ w tx n, g { w with tx := tx, statements := n } = g w)
    (f : Db → Except SqlxError (α × Db)) : g (executeInTx faults w f).2 = g w := by
  refine statement_keeps (fun w n => hg w w.tx n) fun w₁ a w₂ hres => ?_
  cases htx : w₁.tx with
  | none => simp [htx] at hres
  | some db =>
    simp only [htx] at hres
    obtain ⟨r, -, hr⟩ := ok_of_map_ok hres
    cases hr
    exact hg w₁ (some r.2) w₁.statements

/-- What depends neither on the database nor on the counters of statements, ids, salts and
    mails changes only when a token is drawn or signed. -/
theorem exec_keeps (env : Env) (faults : Faults) {o : Op} (w : World)
    (hg : ∀ (w : World) db tx n ids salts tried mails, g { w with
      db := db, tx := tx, statements := n, idsDrawn := ids, saltsDrawn := salts,
      mailsTried := tried, mails := mails } = g w)
    (hdraw : o ≠ .randomToken) (hsign : ∀ claims expiresAt, o ≠ .jwtGenerate claims expiresAt) :
    g (exec env faults o w).2 = g w := by
  have hcount : ∀ (w : World) n, g { w with statements := n } = g w :=
    fun w n => hg w w.db w.tx n w.idsDrawn w.saltsDrawn w.mailsTried w.mails
  have htx : ∀ (w : World) tx n, g { w with tx := tx, statements := n } = g w :=
    fun w tx n => hg w w.db tx n w.idsDrawn w.saltsDrawn w.mailsTried w.mails
  have hquery : ∀ {α : Type} (f : Db → Except SqlxError α), g (query faults w f).2 = g w :=
    fun f => by rw [query_snd]; exact hcount w _
  have hpool : ∀ f : Db → Db, g (executeOnPool faults w f).2 = g w := fun f =>
    statement_keeps hcount fun w₁ a w₂ hres => by
      cases hres
      exact hg w₁ _ w₁.tx w₁.statements w₁.idsDrawn w₁.saltsDrawn w₁.mailsTried w₁.mails
  cases o with
  | randomToken => exact absurd rfl hdraw
  | jwtGenerate claims expiresAt => exact absurd rfl (hsign claims expiresAt)
  | createPasswordReset email token => exact hpool _
  | resetPassword email hash => exact hpool _
  | deletePasswordReset email => exact hpool _
  | begin => exact statement_keeps hcount fun w₁ a w₂ hres => by cases hres; exact htx w₁ _ _
  | insertUser user =>
    exact (executeInTx_keeps htx _).trans
      (hg w w.db w.tx w.statements _ w.saltsDrawn w.mailsTried w.mails)
  | updateUser sets userId => exact executeInTx_keeps htx _
  | insertUserRoles userId names => exact executeInTx_keeps htx _
  | deleteUserRoles userId names => exact executeInTx_keeps htx _
  | commit =>
    simp only [exec, commit]
    split <;> exact hg w _ _ _ _ _ _ _
  | rollback => exact htx w _ _
  | utcNow => rfl
  | salt => exact hg w w.db w.tx w.statements w.idsDrawn _ w.mailsTried w.mails
  | jwtValidate token => rfl
  | sendHtml mail =>
    simp only [exec, sendHtml]
    split <;> exact hg w w.db w.tx w.statements w.idsDrawn w.saltsDrawn _ _
  | findUserById _ => exact hquery _
  | findUserByEmail _ => exact hquery _
  | findPasswordByToken _ => exact hquery _
  | getRoles _ => exact hquery _
  | getPermissions _ => exact hquery _
  | hasPermission _ _ _ => exact hquery _
  | selectUserById _ => exact hquery _
  | selectUserByUserName _ => exact hquery _
  | selectUserByEmail _ => exact hquery _
  | selectUserRoles _ => exact hquery _
  | countUsers _ => exact hquery _
  | selectUsers _ _ _ _ _ => exact hquery _
  | selectPermissions => exact hquery _

theorem exec_signed {o : Op} (hsign : ∀ claims expiresAt, o ≠ .jwtGenerate claims expiresAt) :
    (exec env faults o w).2.signed = w.signed := by
  by_cases hdraw : o = .randomToken
  · rw [hdraw]; rfl
  · exact exec_keeps (g := World.signed) env faults w (fun _ _ _ _ _ _ _ _ => rfl) hdraw hsign

theorem exec_tokensDrawn {o : Op} (hdraw : o ≠ .randomToken) :
    (exec env faults o w).2.tokensDrawn = w.tokensDrawn := by
  by_cases hsign : ∃ claims expiresAt, o = .jwtGenerate claims expiresAt
  · obtain ⟨claims, expiresAt, rfl⟩ := hsign
    simp only [exec, jwtGenerate]
    split <;> rfl
  · exact exec_keeps (g := World.tokensDrawn) env faults w (fun _ _ _ _ _ _ _ _ => rfl) hdraw
      fun claims expiresAt h => hsign ⟨claims, expiresAt, h⟩

theorem exec_clock (o : Op) : (exec env faults o w).2.clock = w.clock := by
  by_cases hdraw : o = .randomToken
  · rw [hdraw]; rfl
  by_cases hsign : ∃ claims expiresAt, o = .jwtGenerate claims expiresAt
  · obtain ⟨claims, expiresAt, rfl⟩ := hsign
    simp only [exec, jwtGenerate]
    split <;> rfl
  · exact exec_keeps (g := World.clock) env faults w (fun _ _ _ _ _ _ _ _ => rfl) hdraw
      fun claims expiresAt h => hsign ⟨claims, expiresAt, h⟩

end

/-! ## Transactions -/

/-- Operations that leave the committed database alone. -/
def Op.KeepsCommitted : Op → Prop
  | .createPasswordReset _ _ => False
  | .resetPassword _ _ => False
  | .deletePasswordReset _ => False
  | .commit => False
  | _ => True

theorem keepsCommitted_of_reads (o : Op) (ho : o.Reads) : o.KeepsCommitted := by
  cases o <;> first | exact trivial | exact ho.elim

theorem exec_keepsCommitted (env : Env) (faults : Faults) (o : Op) (w : World)
    (ho : o.KeepsCommitted) : (exec env faults o w).2.db = w.db := by
  cases o with
  | createPasswordReset _ _ => exact ho.elim
  | resetPassword _ _ => exact ho.elim
  | deletePasswordReset _ => exact ho.elim
  | commit => exact ho.elim
  | begin =>
    exact statement_keeps (g := World.db) (fun _ _ => rfl) fun w₁ a w₂ hres => by cases hres; rfl
  | insertUser user => exact executeInTx_keeps (g := World.db) (fun _ _ _ => rfl) _
  | updateUser sets userId => exact executeInTx_keeps (g := World.db) (fun _ _ _ => rfl) _
  | insertUserRoles userId names => exact executeInTx_keeps (g := World.db) (fun _ _ _ => rfl) _
  | deleteUserRoles userId names => exact executeInTx_keeps (g := World.db) (fun _ _ _ => rfl) _
  | jwtGenerate claims expiresAt => simp only [exec, jwtGenerate]; split <;> rfl
  | sendHtml mail => simp only [exec, sendHtml]; split <;> rfl
  | _ => first | rfl | exact query_db _

theorem runE_keepsCommitted {ε : Type} {p : Service ε α} {r : Option (Except ε α)}
    (hp : UsesE Op.KeepsCommitted p) (h : runE (exec env faults) p w = (r, w')) :
    w'.db = w.db := by
  have hw' : w' = (runE (exec env faults) p w).2 := by rw [h]
  rw [hw']
  refine runE_inv_of_uses (I := fun w₁ : World => w₁.db = w.db) (fun o w₁ ho h₁ => ?_) hp rfl
  rw [exec_keepsCommitted env faults o w₁ ho, h₁]

/-- The world right after `begin` went through. -/
def World.begun (w : World) : World :=
  { w with statements := w.statements + 1, tx := some w.db }

theorem exec_begin_ok (h : (exec env faults .begin w).1 = .ok ()) :
    (exec env faults .begin w).2 = w.begun := by
  simp only [exec, statement] at h ⊢
  cases hstore : faults.store w.statements with
  | some err => rw [hstore] at h; cases h
  | none => rfl

theorem commit_ok (h : (commit faults w).1 = .ok ()) : (commit faults w).2 =
    { w with statements := w.statements + 1, tx := none, db := w.tx.getD w.db } := by
  unfold commit at h ⊢
  cases hstore : faults.store w.statements with
  | some err => rw [hstore] at h; cases h
  | none => rfl

theorem commit_error {err : SqlxError} (h : (commit faults w).1 = .error err) :
    (commit faults w).2 = { w with statements := w.statements + 1, tx := none } := by
  unfold commit at h ⊢
  cases hstore : faults.store w.statements with
  | some err => rfl
  | none => rw [hstore] at h; cases h

/-- A transaction that ends in a value committed what its body left. -/
theorem inTransaction_ok {body : Service Error α} {a : α}
    (h : runE (exec env faults) (inTransaction body) w = (some (.ok a), w')) :
    ∃ w₁, runE (exec env faults) body w.begun = (some (.ok a), w₁) ∧
      w' = { w₁ with statements := w₁.statements + 1, tx := none, db := w₁.tx.getD w₁.db } := by
  have h := runE_ask_ok h
  obtain ⟨_, w₀, hbegin, h⟩ := runE_bind_ok h
  obtain ⟨hok, rfl⟩ := runE_mapErr_ok hbegin
  rw [exec_begin_ok hok] at h
  obtain ⟨b, w₁, hbody, h⟩ := runE_bind_ok h
  have h := runE_ask_ok h
  obtain ⟨_, w₂, hcommit, h⟩ := runE_bind_ok h
  obtain ⟨hok, rfl⟩ := runE_mapErr_ok hcommit
  rw [runE_tryCatch] at hbody
  split at hbody
  · cases hbody
    cases h
    exact ⟨_, ‹_›, commit_ok hok⟩
  · cases hbody
  · cases hbody

/-- A transaction that does not end in a value leaves the committed database as it was. -/
theorem inTransaction_failed {body : Service Error α} (hbody : UsesE Op.KeepsCommitted body)
    {outcome : Option (Except Error α)} (hfailed : Failed outcome)
    (h : runE (exec env faults) (inTransaction body) w = (outcome, w')) : w'.db = w.db := by
  have hbegin : UsesE Op.KeepsCommitted (do mapErr sqlxUnknown (← ask .begin) : Service Error Unit) :=
    (usesE_ask (by trivial)).bind fun _ => usesE_mapErr _ _
  have hcaught : UsesE Op.KeepsCommitted (tryCatch body fun err => do
      let _ ← ask .rollback
      throw err) :=
    hbody.tryCatch fun _ => (usesE_ask (by trivial)).bind fun _ => usesE_throw _
  unfold inTransaction at h
  rw [← bind_assoc] at h
  obtain ⟨first, -, hrun⟩ | ⟨_, w₁, hrun, h⟩ := runE_bind_cases h
  · exact runE_keepsCommitted hbegin hrun
  have hdb₁ : w₁.db = w.db := runE_keepsCommitted hbegin hrun
  obtain ⟨first, -, hrun⟩ | ⟨b, w₂, hrun, h⟩ := runE_bind_cases h
  · rw [runE_keepsCommitted hcaught hrun, hdb₁]
  have hdb₂ : w₂.db = w.db := (runE_keepsCommitted hcaught hrun).trans hdb₁
  rw [runE_bind, runE_ask] at h
  dsimp only at h
  cases hcommit : (exec env faults .commit w₂).1 with
  | ok _ =>
    rw [hcommit] at h
    exact absurd (Prod.mk.inj h).1.symm (hfailed b)
  | error err =>
    rw [hcommit] at h
    obtain ⟨-, rfl⟩ := Prod.mk.inj h
    rw [show (exec env faults .commit w₂).2 = _ from commit_error hcommit]
    exact hdb₂

end

end ApiStarter.Provider
