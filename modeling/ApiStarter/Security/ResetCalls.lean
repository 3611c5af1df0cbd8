import ApiStarter.Effect.Interleave
import ApiStarter.Package.Auth.Recovery

/-
  Recoveries and resets that run concurrently.

  Every call is a thread on one world; its operations are atomic and none of the store's fails,
  a mail may. Time passes between the operations. `position` says once where a thread can be:
  what it has performed so far, with which answers, and what it does next.
-/

namespace ApiStarter.Security

open ApiStarter.Auth ApiStarter.Database ApiStarter.Effect ApiStarter.Effect.Fallible
  ApiStarter.Errdef ApiStarter.Provider ApiStarter.Relational

inductive ResetCall where
  | recovery (email callbackUri : String)
  | reset (token newPassword : String)
  deriving DecidableEq, Repr

def ResetCall.program (env : Env) : ResetCall → Prog Op Res (Except Error Unit)
  | recovery email callbackUri =>
    ExceptT.run (AuthService.passwordRecovery env email callbackUri)
  | reset token newPassword => ExceptT.run (AuthService.resetPassword env token newPassword)

def ResetCall.presented : ResetCall → Option String
  | recovery _ _ => none
  | reset token _ => some token

abbrev ResetThread := Thread Op Res (Except Error Unit)

abbrev ResetPool (ι : Type) := Pool ι Op Res (Except Error Unit) World

def elapse (micros : Nat) (w : World) : World := { w with clock := w.clock + micros }

section

variable {ι : Type} [DecidableEq ι] (env : Env) (faults : Faults) (calls : ι → ResetCall)

/-- One action of an interleaving of the calls. -/
abbrev ResetStep : ResetPool ι → PoolAction ι Nat → ResetPool ι → Prop :=
  Pool.Step (exec env faults) (fun i => (calls i).program env) elapse

end

/-! ## Where a thread can be -/

/-- The log of a thread and what is left of it, while no statement fails. -/
inductive Position (env : Env) :
    ResetCall → List (Entry Op Res) → Prog Op Res (Except Error Unit) → Prop
  | asked {email uri : String} {k} :
      Position env (.recovery email uri) [] (.call (.findUserByEmail email) k)
  | unknown {email uri : String} {err : Error} :
      Position env (.recovery email uri) [⟨.findUserByEmail email, .ok none⟩] (.ret (.error err))
  | known {email uri : String} {user : Identity} {k} :
      Position env (.recovery email uri) [⟨.findUserByEmail email, .ok (some user)⟩]
        (.call (.deletePasswordReset email) k)
  | cleared {email uri : String} {user : Identity} {k} :
      Position env (.recovery email uri)
        [⟨.findUserByEmail email, .ok (some user)⟩, ⟨.deletePasswordReset email, .ok ()⟩]
        (.call .randomToken k)
  | drew {email uri token : String} {user : Identity} {k} :
      Position env (.recovery email uri)
        [⟨.findUserByEmail email, .ok (some user)⟩, ⟨.deletePasswordReset email, .ok ()⟩,
          ⟨.randomToken, token⟩]
        (.call (.createPasswordReset email (Crypto.hashToken env token)) k)
  | stored {email uri token : String} {user : Identity} {k} :
      Position env (.recovery email uri)
        [⟨.findUserByEmail email, .ok (some user)⟩, ⟨.deletePasswordReset email, .ok ()⟩,
          ⟨.randomToken, token⟩,
          ⟨.createPasswordReset email (Crypto.hashToken env token), .ok ()⟩]
        (.call (.sendHtml (AuthService.recoveryMail user uri token)) k)
  | mailed {email uri token : String} {user : Identity} {sent : Except String Unit}
      {out : Except Error Unit} :
      Position env (.recovery email uri)
        [⟨.findUserByEmail email, .ok (some user)⟩, ⟨.deletePasswordReset email, .ok ()⟩,
          ⟨.randomToken, token⟩,
          ⟨.createPasswordReset email (Crypto.hashToken env token), .ok ()⟩,
          ⟨.sendHtml (AuthService.recoveryMail user uri token), sent⟩]
        (.ret out)
  | presented {token newPassword : String} {k} :
      Position env (.reset token newPassword) []
        (.call (.findPasswordByToken (Crypto.hashToken env token)) k)
  | missing {token newPassword : String} {err : Error} :
      Position env (.reset token newPassword)
        [⟨.findPasswordByToken (Crypto.hashToken env token), .ok none⟩] (.ret (.error err))
  | found {token newPassword : String} {row : PasswordResetRow} {k} :
      Position env (.reset token newPassword)
        [⟨.findPasswordByToken (Crypto.hashToken env token), .ok (some row)⟩] (.call .utcNow k)
  | late {token newPassword : String} {row : PasswordResetRow} {now : Timestamp} {err : Error}
      (hlate : Expired row now) :
      Position env (.reset token newPassword)
        [⟨.findPasswordByToken (Crypto.hashToken env token), .ok (some row)⟩, ⟨.utcNow, now⟩]
        (.ret (.error err))
  | inTime {token newPassword : String} {row : PasswordResetRow} {now : Timestamp} {k}
      (hlive : ¬ Expired row now) :
      Position env (.reset token newPassword)
        [⟨.findPasswordByToken (Crypto.hashToken env token), .ok (some row)⟩, ⟨.utcNow, now⟩]
        (.call .salt k)
  | unhashed {token newPassword salt : String} {row : PasswordResetRow} {now : Timestamp}
      {err : Error} :
      Position env (.reset token newPassword)
        [⟨.findPasswordByToken (Crypto.hashToken env token), .ok (some row)⟩, ⟨.utcNow, now⟩,
          ⟨.salt, salt⟩]
        (.ret (.error err))
  | hashed {token newPassword salt hash : String} {row : PasswordResetRow} {now : Timestamp} {k} :
      Position env (.reset token newPassword)
        [⟨.findPasswordByToken (Crypto.hashToken env token), .ok (some row)⟩, ⟨.utcNow, now⟩,
          ⟨.salt, salt⟩]
        (.call (.resetPassword row.email hash) k)
  | written {token newPassword salt hash : String} {row : PasswordResetRow} {now : Timestamp} {k} :
      Position env (.reset token newPassword)
        [⟨.findPasswordByToken (Crypto.hashToken env token), .ok (some row)⟩, ⟨.utcNow, now⟩,
          ⟨.salt, salt⟩, ⟨.resetPassword row.email hash, .ok ()⟩]
        (.call (.deletePasswordReset row.email) k)
  | spent {token newPassword salt hash : String} {row : PasswordResetRow} {now : Timestamp} :
      Position env (.reset token newPassword)
        [⟨.findPasswordByToken (Crypto.hashToken env token), .ok (some row)⟩, ⟨.utcNow, now⟩,
          ⟨.salt, salt⟩, ⟨.resetPassword row.email hash, .ok ()⟩,
          ⟨.deletePasswordReset row.email, .ok ()⟩]
        (.ret (.ok ()))

section

variable {env : Env} {faults : Faults}

theorem position_recovery (hup : Faults.StoreUp faults) {email uri : String} {th : ResetThread}
    (hth : Pool.Answered (exec env faults) ((ResetCall.recovery email uri).program env) th) :
    Position env (.recovery email uri) th.log th.rest := by
  obtain ⟨log, rest⟩ := th
  obtain ⟨h₀, hanswers⟩ := hth
  dsimp only at h₀ hanswers ⊢
  rcases h₀.of_call with ⟨rfl, rfl⟩ | ⟨r, tr, rfl, h₁⟩
  · exact .asked
  obtain ⟨w, hanswer⟩ := hanswers ⟨_, r⟩ (by simp)
  rw [exec_findUserByEmail (hup _)] at hanswer
  dsimp only at hanswer
  subst hanswer
  cases hfound : PostgresAuthStore.findUserByEmail w.db email with
  | none =>
    rw [hfound] at h₁
    obtain ⟨rfl, rfl⟩ := h₁.of_ret
    exact .unknown
  | some user =>
    rw [hfound] at h₁
    rcases h₁.of_call with ⟨rfl, rfl⟩ | ⟨r, tr, rfl, h₂⟩
    · exact .known
    obtain ⟨w, hanswer⟩ := hanswers ⟨_, r⟩ (by simp)
    rw [exec_deletePasswordReset (hup _)] at hanswer
    dsimp only at hanswer
    subst hanswer
    rcases h₂.of_call with ⟨rfl, rfl⟩ | ⟨token, tr, rfl, h₃⟩
    · exact .cleared
    rcases h₃.of_call with ⟨rfl, rfl⟩ | ⟨r, tr, rfl, h₄⟩
    · exact .drew
    obtain ⟨w, hanswer⟩ := hanswers ⟨_, r⟩ (by simp)
    rw [exec_createPasswordReset (hup _)] at hanswer
    dsimp only at hanswer
    subst hanswer
    rcases h₄.of_call with ⟨rfl, rfl⟩ | ⟨sent, tr, rfl, h₅⟩
    · exact .stored
    cases sent with
    | error e =>
      obtain ⟨rfl, rfl⟩ := h₅.of_ret
      exact .mailed
    | ok u =>
      obtain ⟨rfl, rfl⟩ := h₅.of_ret
      exact .mailed

theorem position_reset (hup : Faults.StoreUp faults) {token newPassword : String}
    {th : ResetThread}
    (hth : Pool.Answered (exec env faults) ((ResetCall.reset token newPassword).program env) th) :
    Position env (.reset token newPassword) th.log th.rest := by
  obtain ⟨log, rest⟩ := th
  obtain ⟨h₀, hanswers⟩ := hth
  dsimp only at h₀ hanswers ⊢
  rcases h₀.of_call with ⟨rfl, rfl⟩ | ⟨r, tr, rfl, h₁⟩
  · exact .presented
  obtain ⟨w, hanswer⟩ := hanswers ⟨_, r⟩ (by simp)
  rw [exec_findPasswordByToken (hup _)] at hanswer
  dsimp only at hanswer
  subst hanswer
  cases hfound : PostgresAuthStore.findPasswordByToken w.db (Crypto.hashToken env token) with
  | none =>
    rw [hfound] at h₁
    obtain ⟨rfl, rfl⟩ := h₁.of_ret
    exact .missing
  | some row =>
    rw [hfound] at h₁
    rcases h₁.of_call with ⟨rfl, rfl⟩ | ⟨now, tr, rfl, h₂⟩
    · exact .found
    change Prog.Path (ExceptT.run (if Expired row now then (_ : Service Error Unit) else _)) tr rest
      at h₂
    by_cases hexpired : Expired row now
    · rw [if_pos hexpired] at h₂
      obtain ⟨rfl, rfl⟩ := h₂.of_ret
      exact .late hexpired
    rw [if_neg hexpired] at h₂
    rcases h₂.of_call with ⟨rfl, rfl⟩ | ⟨salt, tr, rfl, h₃⟩
    · exact .inTime hexpired
    change Prog.Path (ExceptT.run (mapErr Error.unknown (env.crypto.bcryptHash salt newPassword) >>=
      (_ : String → Service Error Unit))) tr rest at h₃
    cases hhash : env.crypto.bcryptHash salt newPassword with
    | error cause =>
      rw [hhash] at h₃
      obtain ⟨rfl, rfl⟩ := h₃.of_ret
      exact .unhashed
    | ok hash =>
      rw [hhash] at h₃
      rcases h₃.of_call with ⟨rfl, rfl⟩ | ⟨r, tr, rfl, h₄⟩
      · exact .hashed
      obtain ⟨w, hanswer⟩ := hanswers ⟨_, r⟩ (by simp)
      rw [exec_resetPassword (hup _)] at hanswer
      dsimp only at hanswer
      subst hanswer
      rcases h₄.of_call with ⟨rfl, rfl⟩ | ⟨r, tr, rfl, h₅⟩
      · exact .written
      obtain ⟨w, hanswer⟩ := hanswers ⟨_, r⟩ (by simp)
      rw [exec_deletePasswordReset (hup _)] at hanswer
      dsimp only at hanswer
      subst hanswer
      obtain ⟨rfl, rfl⟩ := h₅.of_ret
      exact .spent

/-! ## The next operation, by kind -/

theorem Position.of_clear {c : ResetCall} {log : List (Entry Op Res)} {email : String} {k}
    (h : Position env c log (.call (.deletePasswordReset email) k)) :
    (∃ uri user, c = .recovery email uri ∧ log = [⟨.findUserByEmail email, .ok (some user)⟩]) ∨
    ∃ token newPassword row now salt hash, c = .reset token newPassword ∧ row.email = email ∧
      log = [⟨.findPasswordByToken (Crypto.hashToken env token), .ok (some row)⟩,
        ⟨.utcNow, now⟩, ⟨.salt, salt⟩, ⟨.resetPassword row.email hash, .ok ()⟩] := by
  cases h with
  | known => exact .inl ⟨_, _, rfl, rfl⟩
  | written => exact .inr ⟨_, _, _, _, _, _, rfl, rfl, rfl⟩

theorem Position.of_store {c : ResetCall} {log : List (Entry Op Res)} {email digest : String} {k}
    (h : Position env c log (.call (.createPasswordReset email digest) k)) :
    ∃ uri user token, c = .recovery email uri ∧ digest = Crypto.hashToken env token ∧
      log = [⟨.findUserByEmail email, .ok (some user)⟩, ⟨.deletePasswordReset email, .ok ()⟩,
        ⟨.randomToken, token⟩] := by
  cases h
  exact ⟨_, _, _, rfl, rfl, rfl⟩

theorem Position.of_look {c : ResetCall} {log : List (Entry Op Res)} {digest : String} {k}
    (h : Position env c log (.call (.findPasswordByToken digest) k)) :
    log = [] ∧ ∃ token newPassword, c = .reset token newPassword ∧
      digest = Crypto.hashToken env token := by
  cases h
  exact ⟨rfl, _, _, rfl, rfl⟩

theorem Position.of_time {c : ResetCall} {log : List (Entry Op Res)} {k}
    (h : Position env c log (.call .utcNow k)) :
    ∃ token newPassword row, c = .reset token newPassword ∧
      log = [⟨.findPasswordByToken (Crypto.hashToken env token), .ok (some row)⟩] := by
  cases h
  exact ⟨_, _, _, rfl, rfl⟩

/-- A reset that goes on after it read the clock found its row in time. -/
theorem Position.inTime_of_running {c : ResetCall} {digest : String} {row : PasswordResetRow}
    {now : Timestamp} {o : Op} {k}
    (h : Position env c [⟨.findPasswordByToken digest, .ok (some row)⟩, ⟨.utcNow, now⟩]
      (.call o k)) : ¬ Expired row now := by
  cases h
  assumption

/-- After its `DELETE` a reset has returned `Ok`. -/
theorem Position.ok_of_removed {token newPassword : String} {log : List (Entry Op Res)}
    {rest : Prog Op Res (Except Error Unit)} {email : String}
    (h : Position env (.reset token newPassword) log rest)
    (hdel : Did log (.deletePasswordReset email)) : rest = .ret (.ok ()) := by
  cases h with
  | spent => rfl
  | _ => simp at hdel

/-- A reset that returned `Ok` found a row and deleted the rows of its address. -/
theorem Position.of_ok {token newPassword : String} {log : List (Entry Op Res)}
    (h : Position env (.reset token newPassword) log (.ret (.ok ()))) :
    ∃ row, (⟨.findPasswordByToken (Crypto.hashToken env token), .ok (some row)⟩ : Entry Op Res) ∈
        log ∧ (⟨.deletePasswordReset row.email, .ok ()⟩ : Entry Op Res) ∈ log := by
  cases h with
  | @spent _ _ _ _ row => exact ⟨row, by simp, by simp⟩

/-! ## What the next operation does -/

/-- The pending resets after `o`. -/
def resetsAfter (o : Op) (w : World) : List PasswordResetRow :=
  match o with
  | .deletePasswordReset email => deleteWhere (fun reset => reset.email == email) w.db.passwordResets
  | .createPasswordReset email digest => w.db.passwordResets ++ [⟨email, digest, w.clock⟩]
  | _ => w.db.passwordResets

theorem Position.resets (hup : Faults.StoreUp faults) {c : ResetCall} {log : List (Entry Op Res)}
    {o : Op} {k} (h : Position env c log (.call o k)) (w : World) :
    (exec env faults o w).2.db.passwordResets = resetsAfter o w := by
  cases h with
  | asked => rw [exec_findUserByEmail (hup _)]; rfl
  | known => rw [exec_deletePasswordReset (hup _)]; rfl
  | cleared => rfl
  | drew => rw [exec_createPasswordReset (hup _)]; rfl
  | stored => exact congrArg Db.passwordResets (exec_keepsCommitted env faults _ w trivial)
  | presented => rw [exec_findPasswordByToken (hup _)]; rfl
  | found => rfl
  | inTime => rfl
  | hashed => rw [exec_resetPassword (hup _)]; rfl
  | written => rw [exec_deletePasswordReset (hup _)]; rfl

end

/-! ## Reachable pools -/

section

variable {ι : Type} {env : Env} {faults : Faults} {calls : ι → ResetCall} {P Q : ResetPool ι}

def ReturnedOk (P : ResetPool ι) (i : ι) : Prop :=
  ∃ th, P.threads i = some th ∧ th.Returned (.ok ())

/-- Every thread is on a path of its call. -/
def Traced (env : Env) (faults : Faults) (calls : ι → ResetCall) (P : ResetPool ι) : Prop :=
  ∀ i th, P.threads i = some th →
    Pool.Answered (exec env faults) ((calls i).program env) th

theorem Traced.init (w : World) : Traced env faults calls (Pool.init w) := by
  intro i th hi
  cases hi

theorem Traced.position (hup : Faults.StoreUp faults) (hP : Traced env faults calls P) {i : ι}
    {th : ResetThread} (hi : P.threads i = some th) :
    Position env (calls i) th.log th.rest := by
  have hth := hP i th hi
  cases hc : calls i with
  | recovery email uri =>
    rw [hc] at hth
    exact position_recovery hup hth
  | reset token newPassword =>
    rw [hc] at hth
    exact position_reset hup hth

variable [DecidableEq ι]

theorem Traced.step {a : PoolAction ι Nat} (hP : Traced env faults calls P)
    (hstep : ResetStep env faults calls P a Q) : Traced env faults calls Q :=
  Pool.step_answered hstep hP

theorem resets_perform (hup : Faults.StoreUp faults) {i : ι} {o : Op}
    (hP : Traced env faults calls P) (hstep : ResetStep env faults calls P (.perform i) Q)
    (hnext : P.Next i o) : Q.state.db.passwordResets = resetsAfter o P.state := by
  obtain ⟨log, o', k, hi, hstate, -⟩ := Pool.perform_inv hstep
  obtain rfl : o = o' := hnext.unique ⟨log, k, hi⟩
  rw [hstate]
  exact (hP.position hup hi).resets hup P.state

/-- What an action does to the table of pending resets: nothing, or it is the `DELETE` or the
    `INSERT` of one of the threads. -/
theorem resets_cases (hup : Faults.StoreUp faults) {a : PoolAction ι Nat}
    (hP : Traced env faults calls P) (hstep : ResetStep env faults calls P a Q) :
    (Q.state.db.passwordResets = P.state.db.passwordResets) ∨
    (∃ i email, a = .perform i ∧ P.Next i (.deletePasswordReset email) ∧
      Q.state.db.passwordResets =
        deleteWhere (fun reset => reset.email == email) P.state.db.passwordResets) ∨
    ∃ i email digest, a = .perform i ∧ P.Next i (.createPasswordReset email digest) ∧
      Q.state.db.passwordResets =
        P.state.db.passwordResets ++ [⟨email, digest, P.state.clock⟩] := by
  rcases Pool.state_cases hstep with ⟨-, -, hstate⟩ | ⟨i, log, o, k, rfl, hi, -⟩ |
    ⟨micros, -, hstate⟩
  · exact .inl (by rw [hstate])
  · have hresets := resets_perform hup hP hstep ⟨log, k, hi⟩
    cases o with
    | deletePasswordReset email => exact .inr (.inl ⟨i, email, rfl, ⟨log, k, hi⟩, hresets⟩)
    | createPasswordReset email digest =>
      exact .inr (.inr ⟨i, email, digest, rfl, ⟨log, k, hi⟩, hresets⟩)
    | _ => exact .inl hresets
  · exact .inl (by rw [hstate]; rfl)

/-- A row of the table was there before the action, or the action inserts it. -/
theorem row_cases (hup : Faults.StoreUp faults) {a : PoolAction ι Nat}
    (hP : Traced env faults calls P) (hstep : ResetStep env faults calls P a Q)
    {row : PasswordResetRow} (hrow : row ∈ Q.state.db.passwordResets) :
    row ∈ P.state.db.passwordResets ∨ ∃ i email digest, a = .perform i ∧
      P.Next i (.createPasswordReset email digest) ∧ row = ⟨email, digest, P.state.clock⟩ := by
  rcases resets_cases hup hP hstep with hsame | ⟨i, email, -, -, hdel⟩ |
    ⟨i, email, digest, ha, hnext, hins⟩
  · exact .inl (hsame ▸ hrow)
  · rw [hdel] at hrow
    exact .inl (mem_deleteWhere.1 hrow).1
  · rw [hins] at hrow
    rcases List.mem_append.1 hrow with hold | hnew
    · exact .inl hold
    · exact .inr ⟨i, email, digest, ha, hnext, List.mem_singleton.1 hnew⟩

end

end ApiStarter.Security
