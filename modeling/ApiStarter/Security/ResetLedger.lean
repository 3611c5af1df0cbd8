import ApiStarter.Security.ResetCalls

/-
  Who knows which token, while recoveries and resets run concurrently.

  A row is known once it is in the table, and stays known to a reset that looked it up. The
  ledger says that a token is drawn once, that no known row carries the digest of a token that
  is not drawn, or is drawn and not yet stored, and that all known rows of one digest are for
  one address. Every action keeps it (`step_ledger`).
-/

namespace ApiStarter.Security

open ApiStarter.Auth ApiStarter.Database ApiStarter.Effect ApiStarter.Effect.Fallible
  ApiStarter.Provider ApiStarter.Relational

/-- The reset looked `row` up. -/
def Found (log : List (Entry Op Res)) (row : PasswordResetRow) : Prop :=
  ∃ digest, (⟨.findPasswordByToken digest, .ok (some row)⟩ : Entry Op Res) ∈ log

/-- The recovery drew the `n`-th token. -/
def Drew (env : Env) (log : List (Entry Op Res)) (n : Nat) : Prop :=
  (⟨.randomToken, env.randomToken n⟩ : Entry Op Res) ∈ log

/-- The recovery executed its `INSERT`. -/
def Stored (log : List (Entry Op Res)) : Prop :=
  ∃ email digest, Did log (.createPasswordReset email digest)

abbrev digestOf (env : Env) (n : Nat) : String := Crypto.hashToken env (env.randomToken n)

section

variable {ι : Type} {env : Env} {faults : Faults} {calls : ι → ResetCall} {P Q : ResetPool ι}

def Known (P : ResetPool ι) (row : PasswordResetRow) : Prop :=
  row ∈ P.state.db.passwordResets ∨ ∃ i th, P.threads i = some th ∧ Found th.log row

/-- Recovery `i` drew the `n`-th token and has not stored it. -/
def Unstored (env : Env) (P : ResetPool ι) (i : ι) (n : Nat) : Prop :=
  ∃ th, P.threads i = some th ∧ Drew env th.log n ∧ ¬ Stored th.log

structure Ledger (env : Env) (P : ResetPool ι) : Prop where
  known_drawn : ∀ row n, Known P row → row.token = digestOf env n → n < P.state.tokensDrawn
  drew_drawn : ∀ i th n, P.threads i = some th → Drew env th.log n → n < P.state.tokensDrawn
  drew_once : ∀ i j th th' n, P.threads i = some th → P.threads j = some th' →
    Drew env th.log n → Drew env th'.log n → i = j
  unstored_unknown : ∀ i n row, Unstored env P i n → Known P row → row.token ≠ digestOf env n
  one_address : ∀ row row', Known P row → Known P row' → row.token = row'.token →
    row.email = row'.email

/-- What the ledger asks of the world before the first call. -/
structure Issued (env : Env) (w : World) : Prop where
  drawn : ∀ row ∈ w.db.passwordResets, ∀ n, row.token = digestOf env n → n < w.tokensDrawn
  one_address : ∀ row ∈ w.db.passwordResets, ∀ row' ∈ w.db.passwordResets,
    row.token = row'.token → row.email = row'.email

theorem issued_of_empty {w : World} (hw : w.db.passwordResets = []) : Issued env w where
  drawn := by simp [hw]
  one_address := by simp [hw]

theorem Ledger.init {w : World} (hw : Issued env w) :
    Ledger env (Pool.init w : ResetPool ι) := by
  have hknown : ∀ row, Known (Pool.init w : ResetPool ι) row → row ∈ w.db.passwordResets := by
    rintro row (hmem | ⟨i, th, hi, -⟩)
    · exact hmem
    · cases hi
  exact {
    known_drawn := fun row n hrow => hw.drawn row (hknown row hrow) n
    drew_drawn := fun i th n hi => by cases hi
    drew_once := fun i j th th' n hi => by cases hi
    unstored_unknown := by rintro i n row ⟨th, hi, -⟩; cases hi
    one_address := fun row row' hrow hrow' =>
      hw.one_address row (hknown row hrow) row' (hknown row' hrow') }

/-! ## What the logs say -/

theorem not_found_nil (row : PasswordResetRow) : ¬ Found [] row := by
  rintro ⟨digest, hmem⟩
  cases hmem

/-- A row was found before the last operation, or that is the lookup that found it. -/
theorem Found.of_performed (hup : Faults.StoreUp faults) {log : List (Entry Op Res)}
    {row : PasswordResetRow} {o : Op} {w : World}
    (h : Found (log ++ [⟨o, (exec env faults o w).1⟩]) row) :
    Found log row ∨ ∃ digest, o = .findPasswordByToken digest ∧
      PostgresAuthStore.findPasswordByToken w.db digest = some row := by
  obtain ⟨digest, hmem⟩ := h
  rcases List.mem_append.1 hmem with hold | hnew
  · exact .inl ⟨digest, hold⟩
  · obtain ⟨rfl, hanswer⟩ := Sigma.mk.inj (List.mem_singleton.1 hnew)
    have hfind := eq_of_heq hanswer
    rw [exec_findPasswordByToken (hup _)] at hfind
    exact .inr ⟨digest, rfl, (Except.ok.inj hfind).symm⟩

/-- Only resets look rows up. -/
theorem reset_of_found {c : ResetCall} {log : List (Entry Op Res)}
    {rest : Prog Op Res (Except Errdef.Error Unit)} {row : PasswordResetRow}
    (hpos : Position env c log rest) (h : Found log row) :
    ∃ token newPassword, c = .reset token newPassword := by
  obtain ⟨digest, hmem⟩ := h
  cases c with
  | recovery email uri => cases hpos <;> simp at hmem
  | reset token newPassword => exact ⟨token, newPassword, rfl⟩

/-- A row that was looked up has the digest it was looked up by. -/
theorem found_token (hup : Faults.StoreUp faults) {p : Prog Op Res (Except Errdef.Error Unit)}
    {th : ResetThread} (hth : Pool.Answered (exec env faults) p th) {digest : String}
    {row : PasswordResetRow}
    (hmem : (⟨.findPasswordByToken digest, .ok (some row)⟩ : Entry Op Res) ∈ th.log) :
    row.token = digest := by
  obtain ⟨w, hanswer⟩ := hth.answers _ hmem
  rw [exec_findPasswordByToken (hup _)] at hanswer
  have hfind : PostgresAuthStore.findPasswordByToken w.db digest = some row := by
    simpa using hanswer.symm
  simpa using List.find?_some hfind

/-- A drawn token is one of the source's. -/
theorem drew_of_answered {p : Prog Op Res (Except Errdef.Error Unit)} {th : ResetThread}
    (hth : Pool.Answered (exec env faults) p th) {token : String}
    (hmem : (⟨.randomToken, token⟩ : Entry Op Res) ∈ th.log) :
    ∃ n, token = env.randomToken n ∧ Drew env th.log n := by
  obtain ⟨w, hanswer⟩ := hth.answers _ hmem
  refine ⟨w.tokensDrawn, hanswer, ?_⟩
  have htoken : token = env.randomToken w.tokensDrawn := hanswer
  rw [Drew, ← htoken]
  exact hmem

/-- A recovery about to insert inserts the digest of a token it drew and has not stored. -/
theorem unstored_of_store (hup : Faults.StoreUp faults) (hT : Traced env faults calls P) {i : ι}
    {email digest : String} (hnext : P.Next i (.createPasswordReset email digest)) :
    ∃ n, digest = digestOf env n ∧ Unstored env P i n := by
  obtain ⟨log, k, hi⟩ := hnext
  obtain ⟨uri, user, token, -, rfl, rfl⟩ := (hT.position hup hi).of_store
  have hmem : (⟨.randomToken, token⟩ : Entry Op Res) ∈
      [⟨.findUserByEmail email, .ok (some user)⟩, ⟨.deletePasswordReset email, .ok ()⟩,
        ⟨.randomToken, token⟩] := .tail _ (.tail _ (.head _))
  obtain ⟨n, rfl, hdrew⟩ := drew_of_answered (hT i _ hi) hmem
  exact ⟨n, rfl, _, hi, hdrew, by simp [Stored]⟩

/-! ## One action -/

section

variable [DecidableEq ι]

theorem drawn_cases {a : PoolAction ι Nat}
    (hstep : ResetStep env faults calls P a Q) :
    (Q.state.tokensDrawn = P.state.tokensDrawn ∧ ∀ i, a = .perform i → ¬ P.Next i .randomToken) ∨
    ∃ i, a = .perform i ∧ P.Next i .randomToken ∧
      Q.state.tokensDrawn = P.state.tokensDrawn + 1 := by
  rcases Pool.state_cases hstep with ⟨i, rfl, hstate⟩ | ⟨i, log, o, k, rfl, hi, hstate⟩ |
    ⟨micros, rfl, hstate⟩
  · exact .inl ⟨by rw [hstate], by simp⟩
  · by_cases ho : o = .randomToken
    · subst ho
      exact .inr ⟨i, rfl, ⟨log, k, hi⟩, by rw [hstate]; rfl⟩
    · refine .inl ⟨by rw [hstate, exec_tokensDrawn ho], fun j hj hnext => ?_⟩
      cases hj
      exact ho (Pool.Next.unique ⟨log, k, hi⟩ hnext)
  · exact .inl ⟨by rw [hstate]; rfl, by simp⟩

theorem known_step (hup : Faults.StoreUp faults) {a : PoolAction ι Nat}
    (hT : Traced env faults calls P) (hstep : ResetStep env faults calls P a Q)
    {row : PasswordResetRow} (hrow : Known Q row) :
    Known P row ∨ ∃ i email digest, a = .perform i ∧ P.Next i (.createPasswordReset email digest) ∧
      row = ⟨email, digest, P.state.clock⟩ := by
  rcases hrow with hmem | ⟨i, th, hi, hfound⟩
  · exact (row_cases hup hT hstep hmem).imp_left .inl
  · rcases Pool.thread_cases hstep hi with ⟨-, hold⟩ | ⟨-, -, rfl⟩ | ⟨log, o, k, -, hold, rfl⟩
    · exact .inl (.inr ⟨i, th, hold, hfound⟩)
    · exact absurd hfound (not_found_nil row)
    · rcases hfound.of_performed hup with hbefore | ⟨digest, -, hfind⟩
      · exact .inl (.inr ⟨i, _, hold, hbefore⟩)
      · exact .inl (.inl (List.mem_of_find?_eq_some hfind))

theorem drew_step (hfresh : env.FreshTokens) {a : PoolAction ι Nat}
    (hstep : ResetStep env faults calls P a Q) {i : ι} {th : ResetThread} {n : Nat}
    (hi : Q.threads i = some th) (hdrew : Drew env th.log n) :
    (∃ th', P.threads i = some th' ∧ Drew env th'.log n) ∨
    (a = .perform i ∧ P.Next i .randomToken ∧ n = P.state.tokensDrawn) := by
  rcases Pool.thread_cases hstep hi with ⟨-, hold⟩ | ⟨-, -, rfl⟩ | ⟨log, o, k, rfl, hold, rfl⟩
  · exact .inl ⟨th, hold, hdrew⟩
  · cases hdrew
  · rcases List.mem_append.1 hdrew with hbefore | hnew
    · exact .inl ⟨_, hold, hbefore⟩
    · obtain ⟨rfl, hanswer⟩ := Sigma.mk.inj (List.mem_singleton.1 hnew)
      have htoken : env.randomToken n = env.randomToken P.state.tokensDrawn := eq_of_heq hanswer
      exact .inr ⟨rfl, ⟨log, k, hold⟩, hfresh (congrArg env.crypto.sha256Hex htoken)⟩

theorem unstored_step (hfresh : env.FreshTokens) {a : PoolAction ι Nat}
    (hstep : ResetStep env faults calls P a Q) {i : ι} {n : Nat} (hi : Unstored env Q i n) :
    (Unstored env P i n ∧
      ∀ email digest, a = .perform i → ¬ P.Next i (.createPasswordReset email digest)) ∨
    (a = .perform i ∧ P.Next i .randomToken ∧ n = P.state.tokensDrawn) := by
  obtain ⟨th, hth, hdrew, hstored⟩ := hi
  rcases drew_step hfresh hstep hth hdrew with ⟨th', hth', hdrew'⟩ | hnew
  · obtain ⟨th'', hth'', hlog⟩ := Pool.log_grows hstep hth'
    rw [hth] at hth''
    cases hth''
    refine .inl ⟨⟨th', hth', hdrew', ?_⟩, ?_⟩
    · rintro ⟨email, digest, r, hmem⟩
      exact hstored ⟨email, digest, r, hlog.subset hmem⟩
    · rintro email digest rfl hnext
      obtain ⟨th'', hth'', hdid⟩ := Pool.did_of_perform hstep hnext
      rw [hth] at hth''
      cases hth''
      exact hstored ⟨email, digest, hdid⟩
  · exact .inr hnew

theorem step_ledger (hfresh : env.FreshTokens) (hup : Faults.StoreUp faults) {a : PoolAction ι Nat}
    (hT : Traced env faults calls P) (hP : Ledger env P)
    (hstep : ResetStep env faults calls P a Q) : Ledger env Q := by
  have hmono : P.state.tokensDrawn ≤ Q.state.tokensDrawn := by
    rcases drawn_cases hstep with ⟨hsame, -⟩ | ⟨i, -, -, hsucc⟩
    · exact hsame.ge
    · omega
  -- A row that appears carries the digest of a token its recovery drew and had not stored.
  have hnew : ∀ row, Known Q row → Known P row ∨ ∃ i n, a = .perform i ∧ Unstored env P i n ∧
      (∃ email, P.Next i (.createPasswordReset email (digestOf env n)) ∧
        row = ⟨email, digestOf env n, P.state.clock⟩) := by
    intro row hrow
    rcases known_step hup hT hstep hrow with hold | ⟨i, email, digest, ha, hnext, rfl⟩
    · exact .inl hold
    · obtain ⟨n, rfl, hunstored⟩ := unstored_of_store hup hT hnext
      exact .inr ⟨i, n, ha, hunstored, email, hnext, rfl⟩
  constructor
  case known_drawn =>
    intro row n hrow htoken
    rcases hnew row hrow with hold | ⟨i, m, -, ⟨th, hth, hdrew, -⟩, email, -, rfl⟩
    · exact (hP.known_drawn row n hold htoken).trans_le hmono
    · obtain rfl : m = n := hfresh htoken
      exact (hP.drew_drawn i th m hth hdrew).trans_le hmono
  case drew_drawn =>
    intro i th n hth hdrew
    rcases drew_step hfresh hstep hth hdrew with ⟨th', hth', hdrew'⟩ | ⟨ha, hnext, rfl⟩
    · exact (hP.drew_drawn i th' n hth' hdrew').trans_le hmono
    · rcases drawn_cases hstep with ⟨-, hnot⟩ | ⟨j, -, -, hsucc⟩
      · exact absurd hnext (hnot i ha)
      · omega
  case drew_once =>
    intro i j th th' n hi hj hdi hdj
    rcases drew_step hfresh hstep hi hdi with ⟨t₁, h₁, hd₁⟩ | ⟨ha, -, hn⟩
    · rcases drew_step hfresh hstep hj hdj with ⟨t₂, h₂, hd₂⟩ | ⟨-, -, hn⟩
      · exact hP.drew_once i j t₁ t₂ n h₁ h₂ hd₁ hd₂
      · exact absurd (hP.drew_drawn i t₁ n h₁ hd₁) (by omega)
    · rcases drew_step hfresh hstep hj hdj with ⟨t₂, h₂, hd₂⟩ | ⟨ha', -, -⟩
      · exact absurd (hP.drew_drawn j t₂ n h₂ hd₂) (by omega)
      · exact PoolAction.perform.inj (ha.symm.trans ha')
  case unstored_unknown =>
    intro i n row hunstored hrow htoken
    rcases unstored_step hfresh hstep hunstored with ⟨hold, hnot⟩ | ⟨ha, hnext, rfl⟩
    · rcases hnew row hrow with hknown | ⟨j, m, ha, ⟨th, hth, hdrew, -⟩, email, hnext, rfl⟩
      · exact hP.unstored_unknown i n row hold hknown htoken
      · -- The inserted row is that of another token, since `i` does not insert here.
        obtain rfl : m = n := hfresh htoken
        obtain ⟨th', hth', hdrew', -⟩ := hold
        obtain rfl := hP.drew_once i j th' th m hth' hth hdrew' hdrew
        exact hnot email _ ha hnext
    · rcases hnew row hrow with hknown | ⟨j, m, ha', -, email, hstore, -⟩
      · exact absurd (hP.known_drawn row _ hknown htoken) (lt_irrefl _)
      · obtain rfl : i = j := PoolAction.perform.inj (ha.symm.trans ha')
        exact absurd (hnext.unique hstore) (by simp)
  case one_address =>
    intro row row' hrow hrow' htoken
    rcases hnew row hrow with hknown | ⟨i, n, ha, hi, email, hnext, rfl⟩
    · rcases hnew row' hrow' with hknown' | ⟨i, n, -, hi, email, -, rfl⟩
      · exact hP.one_address row row' hknown hknown' htoken
      · exact absurd htoken (hP.unstored_unknown i n row hi hknown)
    · rcases hnew row' hrow' with hknown' | ⟨j, m, ha', -, email', hnext', rfl⟩
      · exact absurd htoken.symm (hP.unstored_unknown i n row' hi hknown')
      · obtain rfl : i = j := PoolAction.perform.inj (ha.symm.trans ha')
        exact (Op.createPasswordReset.inj (hnext.unique hnext')).1

end

end

end ApiStarter.Security
