import ApiStarter.Effect.Lease
import ApiStarter.Provider.Transaction

/-
  How the services use the connections of the pool.

  A query takes a connection and gives it back; a transaction keeps the one `begin` takes until
  it commits or is dropped, and its statements work on that one. `service_orderly`: a service
  never queries the pool while its transaction is open, and leaves none open.
-/

namespace ApiStarter.Provider

open ApiStarter.Auth ApiStarter.Database ApiStarter.Effect ApiStarter.Effect.Fallible
  ApiStarter.Errdef ApiStarter.Iam ApiStarter.Pagination

def Op.lease : Op → Lease
  | .findUserById _ => .statement
  | .findUserByEmail _ => .statement
  | .createPasswordReset _ _ => .statement
  | .resetPassword _ _ => .statement
  | .findPasswordByToken _ => .statement
  | .deletePasswordReset _ => .statement
  | .getRoles _ => .statement
  | .getPermissions _ => .statement
  | .hasPermission _ _ _ => .statement
  | .selectUserById _ => .statement
  | .selectUserByUserName _ => .statement
  | .selectUserByEmail _ => .statement
  | .selectUserRoles _ => .statement
  | .countUsers _ => .statement
  | .selectUsers _ _ _ _ _ => .statement
  | .selectPermissions => .statement
  | .begin => .opens
  | .commit => .closes
  | .rollback => .closes
  | _ => .none

/-- The operations that need an open transaction. -/
def Op.InTx : Op → Prop
  | .insertUser _ => True
  | .updateUser _ _ => True
  | .insertUserRoles _ _ => True
  | .deleteUserRoles _ _ => True
  | _ => False

def Op.opened : (o : Op) → Res o → Bool
  | .begin, .ok () => true
  | _, _ => false

/-- The pool as the services use it. Finding a user reads the roles in a second statement, unless
    there is no such user or the first one fails: `more` says how it went. -/
def leasing (more : (o : Op) → Res o → Nat) : Leasing Op Res where
  lease := Op.lease
  opened := Op.opened
  more := more

/-! ## One call -/

/-- The operations that go to the pool, or not to the database at all. -/
def Op.Outside (o : Op) : Prop := ¬ o.InTx ∧ ¬ o.Brackets

/-- A statement of a transaction works on the open one, a transaction is opened or a query sent
    to the pool while none is open. -/
def Ordered (inTx : Bool) (o : Op) (r : Res o) (inTx' : Bool) : Prop :=
  Prog.Orders (leasing fun _ _ => 0) inTx o r inTx' ∧ (o.InTx → inTx = true)

section

variable {α ε : Type}

abbrev Closed (p : Service ε α) : Prop := FollowsE Ordered (fun inTx _ => inTx = false) p false

theorem ordered_outside (o : Op) (ho : o.Outside) (r : Res o) : Ordered false o r false := by
  refine ⟨?_, fun hin => (ho.1 hin).elim⟩
  cases o <;> first | exact rfl | exact ⟨rfl, rfl⟩ | exact (ho.2 trivial).elim

theorem ordered_inTx (o : Op) (ho : o.InTx) (r : Res o) : Ordered true o r true := by
  refine ⟨?_, fun _ => rfl⟩
  cases o <;> first | exact ho.elim | exact rfl

theorem closed_of_uses {p : Service ε α} (hp : UsesE Op.Outside p) : Closed p :=
  Prog.follows_of_uses (hp.mono fun o ho r => ordered_outside o ho r)

/-- What is done before a transaction is opened. -/
theorem closed_bind {β : Type} {p : Service ε α} {f : α → Service ε β} (hp : UsesE Op.Outside p)
    (hf : ∀ a, Closed (f a)) : Closed (p >>= f) := by
  refine followsE_bind (Prog.Follows.mono (fun inTx r hr => ?_) (closed_of_uses hp))
  cases hr
  cases r with
  | ok a => exact hf a
  | error e => exact rfl

theorem closed_inTransaction {body : Service Error α} (hbody : UsesE Op.InTx body) :
    Closed (inTransaction body) := by
  refine followsE_ask_bind fun r => ?_
  cases r with
  | error err => exact ⟨false, ⟨⟨rfl, rfl⟩, fun hin => hin.elim⟩, rfl⟩
  | ok _ =>
    refine ⟨true, ⟨⟨rfl, rfl⟩, fun hin => hin.elim⟩, ?_⟩
    refine followsE_mapErr_bind (fun _ _ => ?_) fun _ h => nomatch h
    refine followsE_bind (followsE_tryCatch (Prog.Follows.mono (fun inTx r hr => ?_)
      (Prog.follows_of_uses (hbody.mono fun o ho r => ordered_inTx o ho r))))
    cases r with
    | error err =>
      rw [hr]
      exact fun _ => ⟨false, ⟨⟨rfl, rfl⟩, fun hin => hin.elim⟩, rfl⟩
    | ok a =>
      rw [hr]
      refine followsE_ask_bind fun r => ⟨false, ⟨⟨rfl, rfl⟩, fun hin => hin.elim⟩, ?_⟩
      exact followsE_mapErr_bind (fun _ _ => rfl) fun _ _ => rfl

end

theorem outside_reads (o : Op) (ho : o.Reads) : o.Outside := by
  cases o <;> first | exact ho.elim | exact ⟨id, id⟩

/-- Every call opens a transaction for its own statements alone, and closes it. -/
theorem service_closed (env : Env) (config : AuthConfig) (c : Call) :
    Closed (c.service env config) := by
  cases c with
  | createUser newUser =>
    refine closed_bind (usesE_hashPassword outside_reads env _) fun _ => ?_
    refine closed_inTransaction (UsesE.mapErrOf ?_)
    refine (usesE_ask (by trivial)).bind fun _ => (usesE_mapErr _ _).bind fun userId => ?_
    exact (usesE_addUserRoles userId (by trivial)).bind fun _ => usesE_pure _
  | partialUpdate userId fields =>
    refine closed_bind (usesE_requireUser outside_reads userId) fun _ => ?_
    refine closed_bind (usesE_withHashedPassword outside_reads env fields) fun fields => ?_
    exact closed_inTransaction (usesE_applyUpdate (fun _ _ => by trivial) (fun _ _ => by trivial)
      fun _ _ => by trivial)
  | deleteUser userId =>
    refine closed_bind (usesE_requireUser outside_reads userId) fun _ => ?_
    refine closed_inTransaction (UsesE.mapErrOf ?_)
    exact (usesE_ask (by trivial)).bind fun _ => usesE_mapErr _ _
  | findUser userId => exact closed_of_uses (usesE_requireUser outside_reads userId)
  | listUsers request => exact closed_of_uses (usesE_index outside_reads request)
  | listPermissions =>
    refine closed_of_uses (UsesE.mapErrOf ((usesE_ask ⟨id, id⟩).bind fun _ => ?_))
    exact (usesE_mapErr _ _).bind fun _ => usesE_mapErr _ _
  | generateToken email password =>
    refine closed_of_uses ((usesE_ask ⟨id, id⟩).bind fun _ => (usesE_mapErr _ _).bind fun _ => ?_)
    refine (usesE_okOr _ _).bind fun user => ?_
    split
    · exact usesE_throw _
    · exact usesE_generateTokens outside_reads env config user fun _ _ => ⟨id, id⟩
  | refreshToken token =>
    refine closed_of_uses ((usesE_userIdFrom outside_reads env token).bind fun userId => ?_)
    refine (usesE_requireUserById outside_reads userId).bind fun user => ?_
    exact usesE_generateTokens outside_reads env config user fun _ _ => ⟨id, id⟩
  | getIdentity accessToken =>
    refine closed_of_uses ((usesE_userIdFrom outside_reads env accessToken).bind fun userId => ?_)
    exact usesE_requireUserById outside_reads userId
  | passwordRecovery email callbackUri =>
    refine closed_of_uses ((usesE_ask ⟨id, id⟩).bind fun _ => (usesE_mapErr _ _).bind fun _ => ?_)
    refine (usesE_okOr _ _).bind fun user => ?_
    refine (usesE_ask ⟨id, id⟩).bind fun _ => (usesE_mapErr _ _).bind fun _ => ?_
    refine (usesE_ask ⟨id, id⟩).bind fun token => ?_
    refine (usesE_ask ⟨id, id⟩).bind fun _ => (usesE_mapErr _ _).bind fun _ => ?_
    exact (usesE_ask ⟨id, id⟩).bind fun _ => usesE_mapErr _ _
  | resetPassword token newPassword =>
    exact closed_of_uses (usesE_resetPassword outside_reads (fun _ _ _ _ => ⟨id, id⟩)
      fun _ => ⟨id, id⟩)

/-! ## On the state behind it -/

theorem executeInTx_isSome {α : Type} {faults : Faults} {w : World}
    (f : Db → Except SqlxError (α × Db)) : (executeInTx faults w f).2.tx.isSome = w.tx.isSome := by
  refine statement_keeps (g := fun w : World => w.tx.isSome) (fun _ _ => rfl) fun w₁ a w₂ hres => ?_
  cases htx : w₁.tx with
  | none => simp [htx] at hres
  | some db =>
    simp only [htx] at hres
    obtain ⟨r, -, hr⟩ := ok_of_map_ok hres
    cases hr
    rfl

/-- The order is that of the transaction of the world. -/
theorem exec_ordered {env : Env} {faults : Faults} {w : World} {o : Op} {inTx inTx' : Bool}
    (hw : w.tx.isSome = inTx) (ho : Ordered inTx o (exec env faults o w).1 inTx') :
    (exec env faults o w).2.tx.isSome = inTx' := by
  have hquery : ∀ {α : Type} {f : Db → Except SqlxError α}, inTx = false ∧ inTx' = false →
      (query faults w f).2.tx.isSome = inTx' := by
    intro α f hmove
    rw [query_snd, World.counted, hw, hmove.1, hmove.2]
  have hpool : ∀ {f : Db → Db}, inTx = false ∧ inTx' = false →
      (executeOnPool faults w f).2.tx.isSome = inTx' := by
    intro f hmove
    have hkept : (executeOnPool faults w f).2.tx.isSome = w.tx.isSome :=
      statement_keeps (g := fun w : World => w.tx.isSome) (fun _ _ => rfl)
        fun w₁ a w₂ hres => by cases hres; rfl
    rw [hkept, hw, hmove.1, hmove.2]
  have hmove := ho.1
  cases o with
  | begin =>
    obtain ⟨hclosed, hopened⟩ := hmove
    change inTx' = Op.opened .begin (exec env faults .begin w).1 at hopened
    rw [hopened]
    simp only [exec, statement]
    cases faults.store w.statements with
    | some err => rw [hw, hclosed]; rfl
    | none => rfl
  | commit =>
    rw [hmove.2]
    simp only [exec, commit]
    split <;> rfl
  | rollback => rw [hmove.2]; rfl
  | insertUser user =>
    have hkept : inTx' = inTx := hmove
    rw [hkept, ← hw]
    exact executeInTx_isSome _
  | updateUser sets userId => exact (executeInTx_isSome _).trans (hw.trans (Eq.symm hmove))
  | insertUserRoles userId names => exact (executeInTx_isSome _).trans (hw.trans (Eq.symm hmove))
  | deleteUserRoles userId names => exact (executeInTx_isSome _).trans (hw.trans (Eq.symm hmove))
  | jwtGenerate claims expiresAt =>
    have hkept : inTx' = inTx := hmove
    rw [hkept, ← hw]
    simp only [exec, jwtGenerate]
    split <;> rfl
  | sendHtml mail =>
    have hkept : inTx' = inTx := hmove
    rw [hkept, ← hw]
    simp only [exec, sendHtml]
    split <;> rfl
  | utcNow => exact hw.trans (Eq.symm hmove)
  | randomToken => exact hw.trans (Eq.symm hmove)
  | salt => exact hw.trans (Eq.symm hmove)
  | jwtValidate token => exact hw.trans (Eq.symm hmove)
  | createPasswordReset _ _ => exact hpool hmove
  | resetPassword _ _ => exact hpool hmove
  | deletePasswordReset _ => exact hpool hmove
  | findUserById _ => exact hquery hmove
  | findUserByEmail _ => exact hquery hmove
  | findPasswordByToken _ => exact hquery hmove
  | getRoles _ => exact hquery hmove
  | getPermissions _ => exact hquery hmove
  | hasPermission _ _ _ => exact hquery hmove
  | selectUserById _ => exact hquery hmove
  | selectUserByUserName _ => exact hquery hmove
  | selectUserByEmail _ => exact hquery hmove
  | selectUserRoles _ => exact hquery hmove
  | countUsers _ => exact hquery hmove
  | selectUsers _ _ _ _ _ => exact hquery hmove
  | selectPermissions => exact hquery hmove

/-- A program that closes its transactions leaves none open, unless it panics. -/
theorem tx_none_of_closed {α : Type} {p : Prog Op Res α}
    (hp : p.Follows Ordered (fun inTx _ => inTx = false) false) {env : Env} {faults : Faults}
    {w : World} (hw : w.tx = none) {a : α} (ha : (p.run (exec env faults) w).1 = some a) :
    (p.run (exec env faults) w).2.tx = none := by
  obtain ⟨inTx, hleft, hends⟩ := Prog.Follows.run (h := exec env faults)
    (I := fun (w : World) inTx => w.tx.isSome = inTx)
    (fun w inTx o inTx' hw ho => exec_ordered hw ho) hp (s := w) (by rw [hw]; rfl)
  rw [hends a ha] at hleft
  exact Option.not_isSome_iff_eq_none.1 (by rw [hleft]; simp)

end ApiStarter.Provider
