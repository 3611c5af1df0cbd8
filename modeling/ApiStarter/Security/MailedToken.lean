import ApiStarter.Provider.SampleEnv
import ApiStarter.Security.ResetLedger

/-
  How long a mailed token stays acceptable, under concurrency.

  From the `INSERT` of its row on, a token stays acceptable until it is used, a recovery for its
  address that started later replaces it, or its fifteen minutes are over, provided that at the
  moment of the `INSERT` nothing older can still reach the row: no other row of the address is
  in time, no other recovery for the address has yet to insert, and no reset holds a row of the
  address it may still act on (`mailed_token_survives`).
-/

namespace ApiStarter.Security

open ApiStarter.Auth ApiStarter.Database ApiStarter.Effect ApiStarter.Effect.Fallible
  ApiStarter.Errdef ApiStarter.Provider ApiStarter.Relational

/-! ## Acceptable tokens -/

/-- A reset would find the row of the token, and in time. -/
def Acceptable (env : Env) (w : World) (token : String) : Prop :=
  ∃ row, PostgresAuthStore.findPasswordByToken w.db (Crypto.hashToken env token) = some row ∧
    ¬ Expired row w.clock

/-- A reset run alone refuses exactly the tokens that are not acceptable. -/
theorem refused_iff_not_acceptable {env : Env} {faults : Faults} (hup : Faults.StoreUp faults)
    (w : World) (token newPassword : String) :
    (runE (exec env faults) (AuthService.resetPassword env token newPassword) w).1 =
        some (.error (Error.badRequest "invalid or expired token")) ↔ ¬ Acceptable env w token := by
  rw [runE_resetPassword hup]
  unfold Acceptable
  cases PostgresAuthStore.findPasswordByToken w.db (Crypto.hashToken env token) with
  | none => simp
  | some row =>
    dsimp only
    by_cases hexpired : Expired row w.clock
    · simp [hexpired]
    · rw [if_neg hexpired]
      cases hhash : env.crypto.bcryptHash (env.salt w.saltsDrawn) newPassword with
      | error cause => simp [hexpired, Error.unknown, Error.badRequest, Error.new]
      | ok hash => simp [hexpired]

theorem expired_mono {row : PasswordResetRow} {now later : Timestamp} (h : Expired row now)
    (hle : now ≤ later) : Expired row later :=
  lt_of_lt_of_le h hle

section

variable {ι : Type} {env : Env} {faults : Faults} {calls : ι → ResetCall} {P Q : ResetPool ι}

/-- The next operation of recovery `c` is the `INSERT` for the token it drew. -/
def AboutToStore (env : Env) (calls : ι → ResetCall) (P : ResetPool ι) (c : ι) (email token : String) :
    Prop :=
  (∃ uri, calls c = .recovery email uri) ∧
    P.Next c (.createPasswordReset email (Crypto.hashToken env token)) ∧
    ∃ th, P.threads c = some th ∧ (⟨.randomToken, token⟩ : Entry Op Res) ∈ th.log

/-- Nothing older than the row `c` is about to insert for `email` can still reach it. -/
structure Undisturbed (calls : ι → ResetCall) (P : ResetPool ι) (c : ι) (email : String) :
    Prop where
  rows : ∀ row ∈ P.state.db.passwordResets, row.email = email → Expired row P.state.clock
  recoveries : ∀ i ≠ c, ∀ th, (∃ uri, calls i = .recovery email uri) → P.threads i = some th →
    th.Running → Stored th.log
  resets : ∀ i th row, P.threads i = some th → th.Running → Found th.log row →
    row.email = email → ¬ Did th.log .utcNow ∧ Expired row P.state.clock

/-- A reset carrying the token has returned `Ok`. -/
def Used (calls : ι → ResetCall) (P : ResetPool ι) (token : String) : Prop :=
  ∃ i, (∃ newPassword, calls i = .reset token newPassword) ∧ ReturnedOk P i

/-- A recovery for `email` that had not been started in `P₀` has executed its `DELETE`. -/
def Replaced (calls : ι → ResetCall) (P₀ P : ResetPool ι) (email : String) : Prop :=
  ∃ i, (∃ uri, calls i = .recovery email uri) ∧ P₀.threads i = none ∧
    ∃ th, P.threads i = some th ∧ Did th.log (.deletePasswordReset email)

/-! ## The row is alone -/

/-- The row of the `n`-th token, stored by `c`, is in the table, and whatever may still act on
    its address was started after `P₀`, or acts on this row. -/
structure Live (env : Env) (calls : ι → ResetCall) (P₀ : ResetPool ι) (c : ι) (n : Nat)
    (mine : PasswordResetRow) (P : ResetPool ι) : Prop where
  present : mine ∈ P.state.db.passwordResets
  rows : ∀ row ∈ P.state.db.passwordResets, row.email = mine.email →
    row = mine ∨ Expired row P.state.clock
  digest : ∀ row ∈ P.state.db.passwordResets, row.token = digestOf env n → row = mine
  stored : ∃ th, P.threads c = some th ∧ Drew env th.log n ∧ Stored th.log
  started : ∀ i, P.threads i = none → P₀.threads i = none
  older : ∀ i th, (∃ uri, calls i = .recovery mine.email uri) → P₀.threads i ≠ none →
    P.threads i = some th → th.Running → Stored th.log
  newer : ∀ i th, (∃ uri, calls i = .recovery mine.email uri) → P₀.threads i = none →
    P.threads i = some th → th.Running → ¬ Did th.log (.deletePasswordReset mine.email)
  resets : ∀ i th row, P.threads i = some th → th.Running → Found th.log row →
    row.email = mine.email → row = mine ∨ (¬ Did th.log .utcNow ∧ Expired row P.state.clock)

theorem Live.acceptable {P₀ : ResetPool ι} {c : ι} {n : Nat} {mine : PasswordResetRow}
    (hP : Live env calls P₀ c n mine P) (htoken : mine.token = digestOf env n)
    (hlive : ¬ Expired mine P.state.clock) : Acceptable env P.state (env.randomToken n) := by
  refine ⟨mine, ?_, hlive⟩
  unfold PostgresAuthStore.findPasswordByToken
  cases hfind : P.state.db.passwordResets.find? fun reset => decide (reset.token = digestOf env n) with
  | none =>
    have hnone := List.find?_eq_none.1 hfind mine hP.present
    exact absurd (decide_eq_true htoken) hnone
  | some row =>
    have hrow : row.token = digestOf env n := by simpa using List.find?_some hfind
    rw [hP.digest row (List.mem_of_find?_eq_some hfind) hrow]

variable [DecidableEq ι]

theorem clock_mono {a : PoolAction ι Nat} (hstep : ResetStep env faults calls P a Q) :
    P.state.clock ≤ Q.state.clock := by
  rcases Pool.state_cases hstep with ⟨-, -, hstate⟩ | ⟨i, log, o, k, -, -, hstate⟩ |
    ⟨micros, -, hstate⟩
  · rw [hstate]
  · rw [hstate, exec_clock]
  · rw [hstate]
    exact Int.le_add_of_nonneg_right (Int.natCast_nonneg micros)

/-! ## Right after the `INSERT` -/

theorem live_of_stored (hup : Faults.StoreUp faults) (hT : Traced env faults calls P)
    (hL : Ledger env P) {c : ι} {email : String} {n : Nat}
    (hstore : AboutToStore env calls P c email (env.randomToken n))
    (hquiet : Undisturbed calls P c email)
    (hstep : ResetStep env faults calls P (.perform c) Q) :
    Live env calls Q c n ⟨email, digestOf env n, P.state.clock⟩ Q := by
  obtain ⟨⟨uri, hcall⟩, hnext, th, hth, hdrew⟩ := hstore
  have hrows : Q.state.db.passwordResets =
      P.state.db.passwordResets ++ [⟨email, digestOf env n, P.state.clock⟩] :=
    resets_perform hup hT hstep hnext
  obtain ⟨log, k, hc⟩ := hnext
  obtain rfl : th = ⟨log, _⟩ := Option.some.inj (hth.symm.trans hc)
  obtain ⟨uri', user, token, hcall', -, rfl⟩ := (hT.position hup hc).of_store
  have hunstored : Unstored env P c n := ⟨_, hc, hdrew, by simp [Stored]⟩
  obtain ⟨th', hth', hlog⟩ := Pool.log_grows hstep hc
  have hstored : Stored th'.log := by
    obtain ⟨th'', hth'', hdid⟩ := Pool.did_of_perform hstep ⟨_, k, hc⟩
    rw [hth'] at hth''
    cases hth''
    exact ⟨_, _, hdid⟩
  have hclock : P.state.clock ≤ Q.state.clock := clock_mono hstep
  constructor
  case present => rw [hrows]; simp
  case rows =>
    intro row hrow hemail
    rw [hrows] at hrow
    rcases List.mem_append.1 hrow with hold | hnew
    · exact .inr (expired_mono (hquiet.rows row hold hemail) hclock)
    · exact .inl (List.mem_singleton.1 hnew)
  case digest =>
    intro row hrow htoken
    rw [hrows] at hrow
    rcases List.mem_append.1 hrow with hold | hnew
    · exact absurd htoken (hL.unstored_unknown c n row hunstored (.inl hold))
    · exact List.mem_singleton.1 hnew
  case stored => exact ⟨th', hth', hlog.subset hdrew, hstored⟩
  case started => exact fun i hi => hi
  case older =>
    intro i th₁ hi _ hth₁ hrunning
    by_cases hic : i = c
    · subst hic
      rw [hth'] at hth₁
      cases hth₁
      exact hstored
    · rw [Pool.threads_of_ne hstep hic] at hth₁
      exact hquiet.recoveries i hic th₁ hi hth₁ hrunning
  case newer =>
    intro i th₁ _ hnone hth₁
    rw [hnone] at hth₁
    cases hth₁
  case resets =>
    intro i th₁ row hth₁ hrunning hfound hemail
    by_cases hic : i = c
    · subst hic
      obtain ⟨token', newPassword, hreset⟩ :=
        reset_of_found ((hT.step hstep).position hup hth₁) hfound
      rw [hcall] at hreset
      cases hreset
    · rw [Pool.threads_of_ne hstep hic] at hth₁
      obtain ⟨hread, hexpired⟩ := hquiet.resets i th₁ row hth₁ hrunning hfound hemail
      exact .inr ⟨hread, expired_mono hexpired hclock⟩

/-! ## Every later action -/

section

variable {P₀ : ResetPool ι} {c : ι} {n : Nat} {mine : PasswordResetRow}

/-- A `DELETE` for the address is that of a reset carrying the token, or of a recovery that was
    started later. -/
theorem live_clear (hup : Faults.StoreUp faults)
    (hcol : ∀ i token newPassword, calls i = .reset token newPassword → env.NoCollision token)
    (hT : Traced env faults calls P) (hP : Live env calls P₀ c n mine P)
    (htoken : mine.token = digestOf env n) {i : ι}
    (hnext : P.Next i (.deletePasswordReset mine.email))
    (hstep : ResetStep env faults calls P (.perform i) Q) :
    Used calls Q (env.randomToken n) ∨ Replaced calls P₀ Q mine.email := by
  obtain ⟨th, hth, hdel⟩ := Pool.did_of_perform hstep hnext
  obtain ⟨log, k, hi⟩ := hnext
  rcases (hT.position hup hi).of_clear with ⟨uri, user, hcall, rfl⟩ |
    ⟨token, newPassword, row, now, salt, hash, hcall, hemail, rfl⟩
  · right
    refine ⟨i, ⟨uri, hcall⟩, ?_, th, hth, hdel⟩
    by_contra hstarted
    have hstored := hP.older i _ ⟨uri, hcall⟩ hstarted hi ⟨_, _, rfl⟩
    simp [Stored] at hstored
  · left
    have hmine : row = mine := by
      rcases hP.resets i _ row hi ⟨_, _, rfl⟩ ⟨_, List.mem_cons_self⟩ hemail with hsame | ⟨hread, -⟩
      · exact hsame
      · simp at hread
    have hdigest : row.token = Crypto.hashToken env token :=
      found_token hup (hT i _ hi) List.mem_cons_self
    have hsame : token = env.randomToken n := by
      rw [hmine, htoken] at hdigest
      exact hcol i token newPassword hcall n hdigest.symm
    have hpos := (hT.step hstep).position hup hth
    rw [hcall] at hpos
    exact ⟨i, ⟨newPassword, hsame ▸ hcall⟩, th, hth, hpos.ok_of_removed hdel⟩

omit [DecidableEq ι] in
/-- No `INSERT` for the address happens while the row is live. -/
theorem live_no_store (hup : Faults.StoreUp faults) (hT : Traced env faults calls P)
    (hP : Live env calls P₀ c n mine P) {i : ι} {digest : String} :
    ¬ P.Next i (.createPasswordReset mine.email digest) := by
  rintro ⟨log, k, hi⟩
  obtain ⟨uri, user, token, hcall, -, rfl⟩ := (hT.position hup hi).of_store
  by_cases hstarted : P₀.threads i = none
  · have hnot := hP.newer i _ ⟨uri, hcall⟩ hstarted hi ⟨_, _, rfl⟩
    simp at hnot
  · have hstored := hP.older i _ ⟨uri, hcall⟩ hstarted hi ⟨_, _, rfl⟩
    simp [Stored] at hstored

/-- A row that appears is for another address and of another token. -/
theorem live_row_cases (hfresh : env.FreshTokens) (hup : Faults.StoreUp faults)
    {a : PoolAction ι Nat} (hT : Traced env faults calls P) (hL : Ledger env P)
    (hP : Live env calls P₀ c n mine P) (hstep : ResetStep env faults calls P a Q)
    {row : PasswordResetRow} (hrow : row ∈ Q.state.db.passwordResets) :
    row ∈ P.state.db.passwordResets ∨ (row.email ≠ mine.email ∧ row.token ≠ digestOf env n) := by
  rcases row_cases hup hT hstep hrow with hold | ⟨i, email, digest, -, hnext, rfl⟩
  · exact .inl hold
  refine .inr ⟨?_, fun hdigest => ?_⟩
  · rintro rfl
    exact live_no_store hup hT hP hnext
  · obtain ⟨m, rfl, th, hth, hdrew, hunstored⟩ := unstored_of_store hup hT hnext
    obtain rfl : m = n := hfresh hdigest
    obtain ⟨th', hth', hdrew', hstored⟩ := hP.stored
    obtain rfl := hL.drew_once i c th th' m hth hth' hdrew hdrew'
    rw [hth] at hth'
    cases hth'
    exact hunstored hstored

/-- A row of the address that a reset may still act on is `mine`. -/
theorem live_found (hup : Faults.StoreUp faults) {a : PoolAction ι Nat}
    (hT : Traced env faults calls P) (hP : Live env calls P₀ c n mine P)
    (hstep : ResetStep env faults calls P a Q) {i : ι} {th : ResetThread} {row : PasswordResetRow}
    (hi : Q.threads i = some th) (hrunning : th.Running) (hfound : Found th.log row)
    (hemail : row.email = mine.email) :
    row = mine ∨ (¬ Did th.log .utcNow ∧ Expired row Q.state.clock) := by
  have hclock : P.state.clock ≤ Q.state.clock := clock_mono hstep
  rcases Pool.thread_cases hstep hi with ⟨-, hold⟩ | ⟨-, -, rfl⟩ | ⟨log, o, k, -, hold, rfl⟩
  · exact (hP.resets i th row hold hrunning hfound hemail).imp_right
      fun h => ⟨h.1, expired_mono h.2 hclock⟩
  · exact absurd hfound (not_found_nil row)
  have hpos := hT.position hup hold
  rcases hfound.of_performed hup with hbefore | ⟨digest, rfl, hfind⟩
  · refine (hP.resets i _ row hold ⟨o, k, rfl⟩ hbefore hemail).imp_right fun h => ?_
    obtain ⟨hread, hexpired⟩ := h
    refine ⟨fun hdid => ?_, expired_mono hexpired hclock⟩
    rcases did_append.1 hdid with hdone | rfl
    · exact hread hdone
    · -- The clock it reads is past the row's time, so it does not go on.
      obtain ⟨token, newPassword, row', -, rfl⟩ := hpos.of_time
      obtain ⟨digest, hmem⟩ := hbefore
      obtain ⟨o', k', hrest⟩ := hrunning
      have hpos' := (hT.step hstep).position hup hi
      rw [hrest] at hpos'
      cases List.mem_singleton.1 hmem
      exact hpos'.inTime_of_running hexpired
  · have hmem : row ∈ P.state.db.passwordResets := List.mem_of_find?_eq_some hfind
    refine (hP.rows row hmem hemail).imp_right fun h => ⟨?_, expired_mono h hclock⟩
    obtain ⟨rfl, -⟩ := hpos.of_look
    simp

theorem step_live (hfresh : env.FreshTokens) (hup : Faults.StoreUp faults) {a : PoolAction ι Nat}
    (hT : Traced env faults calls P) (hL : Ledger env P) (hP : Live env calls P₀ c n mine P)
    (hother : ∀ i, a = .perform i → ¬ P.Next i (.deletePasswordReset mine.email))
    (hstep : ResetStep env faults calls P a Q) : Live env calls P₀ c n mine Q := by
  have hclock : P.state.clock ≤ Q.state.clock := clock_mono hstep
  constructor
  case present =>
    rcases resets_cases hup hT hstep with hsame | ⟨i, email, ha, hnext, hdel⟩ |
      ⟨i, email, digest, -, hnext, hins⟩
    · exact hsame ▸ hP.present
    · rw [hdel]
      refine mem_deleteWhere.2 ⟨hP.present, ?_⟩
      by_contra hemail
      have hsame : mine.email = email := by simpa using hemail
      exact hother i ha (hsame ▸ hnext)
    · rw [hins]
      exact List.mem_append_left _ hP.present
  case rows =>
    intro row hrow hemail
    rcases live_row_cases hfresh hup hT hL hP hstep hrow with hold | ⟨hne, -⟩
    · exact (hP.rows row hold hemail).imp_right fun h => expired_mono h hclock
    · exact absurd hemail hne
  case digest =>
    intro row hrow htoken
    rcases live_row_cases hfresh hup hT hL hP hstep hrow with hold | ⟨-, hne⟩
    · exact hP.digest row hold htoken
    · exact absurd htoken hne
  case stored =>
    obtain ⟨th, hth, hdrew, email, digest, r, hmem⟩ := hP.stored
    obtain ⟨th', hth', hlog⟩ := Pool.log_grows hstep hth
    exact ⟨th', hth', hlog.subset hdrew, email, digest, r, hlog.subset hmem⟩
  case started =>
    intro i hi
    refine hP.started i ?_
    cases hold : P.threads i with
    | none => rfl
    | some th =>
      obtain ⟨th', hth', -⟩ := Pool.log_grows hstep hold
      rw [hi] at hth'
      cases hth'
  case older =>
    intro i th hcall hstarted hi hrunning
    rcases Pool.thread_cases hstep hi with ⟨-, hold⟩ | ⟨-, hnone, -⟩ | ⟨log, o, k, -, hold, rfl⟩
    · exact hP.older i th hcall hstarted hold hrunning
    · exact absurd (hP.started i hnone) hstarted
    · obtain ⟨email, digest, hdid⟩ := hP.older i _ hcall hstarted hold ⟨o, k, rfl⟩
      exact ⟨email, digest, did_append.2 (.inl hdid)⟩
  case newer =>
    intro i th hcall hfresh' hi hrunning hdel
    rcases Pool.thread_cases hstep hi with ⟨-, hold⟩ | ⟨-, -, rfl⟩ | ⟨log, o, k, ha, hold, rfl⟩
    · exact hP.newer i th hcall hfresh' hold hrunning hdel
    · exact not_did_nil _ hdel
    · rcases did_append.1 hdel with hbefore | rfl
      · exact hP.newer i _ hcall hfresh' hold ⟨o, k, rfl⟩ hbefore
      · exact hother i ha ⟨log, k, hold⟩
  case resets =>
    intro i th row hi hrunning hfound hemail
    exact live_found hup hT hP hstep hi hrunning hfound hemail

theorem Used.step {token : String} {a : PoolAction ι Nat} (h : Used calls P token)
    (hstep : ResetStep env faults calls P a Q) : Used calls Q token := by
  obtain ⟨i, hcall, th, hth, hret⟩ := h
  exact ⟨i, hcall, th, Pool.returned_stays hstep hth hret, hret⟩

theorem Replaced.step {email : String} {a : PoolAction ι Nat} (h : Replaced calls P₀ P email)
    (hstep : ResetStep env faults calls P a Q) : Replaced calls P₀ Q email := by
  obtain ⟨i, hcall, hnone, th, hth, r, hmem⟩ := h
  obtain ⟨th', hth', hlog⟩ := Pool.log_grows hstep hth
  exact ⟨i, hcall, hnone, th', hth', r, hlog.subset hmem⟩

theorem step_survives (hfresh : env.FreshTokens) (hup : Faults.StoreUp faults)
    (hcol : ∀ i token newPassword, calls i = .reset token newPassword → env.NoCollision token)
    (htoken : mine.token = digestOf env n) {a : PoolAction ι Nat}
    (hT : Traced env faults calls P) (hL : Ledger env P)
    (hP : Live env calls P₀ c n mine P ∨ Used calls P (env.randomToken n) ∨
      Replaced calls P₀ P mine.email)
    (hstep : ResetStep env faults calls P a Q) :
    Live env calls P₀ c n mine Q ∨ Used calls Q (env.randomToken n) ∨
      Replaced calls P₀ Q mine.email := by
  rcases hP with hlive | hused | hreplaced
  · by_cases hclear : ∃ i, a = .perform i ∧ P.Next i (.deletePasswordReset mine.email)
    · obtain ⟨i, rfl, hnext⟩ := hclear
      exact .inr (live_clear hup hcol hT hlive htoken hnext hstep)
    · refine .inl (step_live hfresh hup hT hL hlive (fun i ha hnext => ?_) hstep)
      exact hclear ⟨i, ha, hnext⟩
  · exact .inr (.inl (hused.step hstep))
  · exact .inr (.inr (hreplaced.step hstep))

end

theorem run_traced_ledger (hfresh : env.FreshTokens) (hup : Faults.StoreUp faults) {w : World}
    (hw : Issued env w) {actions : List (PoolAction ι Nat)}
    (hrun : Run (ResetStep env faults calls) (Pool.init w) actions P) :
    Traced env faults calls P ∧ Ledger env P :=
  hrun.inv (I := fun P => Traced env faults calls P ∧ Ledger env P)
    (fun _ _ _ h hstep => ⟨h.1.step hstep, step_ledger hfresh hup h.1 h.2 hstep⟩)
    ⟨Traced.init w, Ledger.init hw⟩

/-- A token whose row is inserted undisturbed stays acceptable until it is used, a recovery for
    its address that was started later replaces it, or its fifteen minutes are over. -/
theorem mailed_token_survives (hfresh : env.FreshTokens) (hup : Faults.StoreUp faults)
    (hcol : ∀ i token newPassword, calls i = .reset token newPassword → env.NoCollision token)
    {w : World} (hw : Issued env w) {before after : List (PoolAction ι Nat)} {P₁ P₂ P₃ : ResetPool ι}
    {c : ι} {email token : String}
    (hbefore : Run (ResetStep env faults calls) (Pool.init w) before P₁)
    (hstore : AboutToStore env calls P₁ c email token) (hquiet : Undisturbed calls P₁ c email)
    (hinsert : ResetStep env faults calls P₁ (.perform c) P₂)
    (hafter : Run (ResetStep env faults calls) P₂ after P₃) :
    Acceptable env P₃.state token ∨ Used calls P₃ token ∨ Replaced calls P₂ P₃ email ∨
      addMinutes P₁.state.clock passwordResetTtlMinutes < P₃.state.clock := by
  obtain ⟨hT₁, hL₁⟩ := run_traced_ledger hfresh hup hw hbefore
  obtain ⟨th, hth, hdrew⟩ := hstore.2.2
  obtain ⟨n, rfl, -⟩ := drew_of_answered (hT₁ c th hth) hdrew
  let mine : PasswordResetRow := ⟨email, digestOf env n, P₁.state.clock⟩
  have hlive : Live env calls P₂ c n mine P₂ :=
    live_of_stored hup hT₁ hL₁ hstore hquiet hinsert
  have hend : (Traced env faults calls P₃ ∧ Ledger env P₃) ∧ (Live env calls P₂ c n mine P₃ ∨
      Used calls P₃ (env.randomToken n) ∨ Replaced calls P₂ P₃ mine.email) := by
    refine hafter.inv (I := fun P => (Traced env faults calls P ∧ Ledger env P) ∧
      (Live env calls P₂ c n mine P ∨ Used calls P (env.randomToken n) ∨
        Replaced calls P₂ P mine.email)) (fun P a Q h hstep => ?_)
      ⟨⟨hT₁.step hinsert, step_ledger hfresh hup hT₁ hL₁ hinsert⟩, .inl hlive⟩
    obtain ⟨⟨hT, hL⟩, hP⟩ := h
    exact ⟨⟨hT.step hstep, step_ledger hfresh hup hT hL hstep⟩,
      step_survives hfresh hup hcol rfl hT hL hP hstep⟩
  rcases hend.2 with hlive₃ | hused | hreplaced
  · by_cases hexpired : Expired mine P₃.state.clock
    · exact .inr (.inr (.inr hexpired))
    · exact .inl (hlive₃.acceptable rfl hexpired)
  · exact .inr (.inl hused)
  · exact .inr (.inr (.inl hreplaced))

end

/-! ## A reset that is overtaken -/

/-- Two recoveries for the seeded administrator, and a reset with the token of the first. -/
def overtaken (i : Fin 3) : ResetCall :=
  if i = 2 then .reset "t" "N3w-Secret"
  else .recovery "admin@example.com" "https://example.com/"

def overtakenAfter (P : ResetPool (Fin 3)) (actions : List (PoolAction (Fin 3) Nat)) :
    Option (ResetPool (Fin 3)) :=
  P.execute (exec sampleEnv Faults.none) (fun i => (overtaken i).program sampleEnv) elapse actions

/-- The first recovery up to its `INSERT`. -/
def firstDrawn : ResetPool (Fin 3) :=
  (overtakenAfter (Pool.init sampleWorld)
    [.start 0, .perform 0, .perform 0, .perform 0]).get (by decide)

/-- It inserts, mails and returns; the reset looks its token up. -/
def firstStored : ResetPool (Fin 3) := (overtakenAfter firstDrawn [.perform 0]).get (by decide)

def firstFound : ResetPool (Fin 3) :=
  (overtakenAfter firstStored [.perform 0, .start 2, .perform 2]).get (by decide)

theorem mailed_token_survives_sample :
    Acceptable sampleEnv firstFound.state "t" ∨ Used overtaken firstFound "t" ∨
      Replaced overtaken firstStored firstFound "admin@example.com" ∨
      addMinutes firstDrawn.state.clock passwordResetTtlMinutes < firstFound.state.clock := by
  have hbefore : Run (ResetStep sampleEnv Faults.none overtaken) (Pool.init sampleWorld)
      [.start 0, .perform 0, .perform 0, .perform 0] firstDrawn :=
    Pool.run_of_execute rfl
  have hothers : ∀ i : Fin 3, i ≠ 0 → (firstDrawn.threads i).isNone := by decide
  have hstore : AboutToStore sampleEnv overtaken firstDrawn 0 "admin@example.com" "t" :=
    ⟨⟨_, rfl⟩, ⟨_, _, rfl⟩, _, rfl, .tail _ (.tail _ (.head _))⟩
  have hafter : Run (ResetStep sampleEnv Faults.none overtaken) firstStored
      [.perform 0, .start 2, .perform 2] firstFound :=
    Pool.run_of_execute rfl
  have hquiet : Undisturbed overtaken firstDrawn 0 "admin@example.com" := by
    have hnone : firstDrawn.state.db.passwordResets = [] := rfl
    constructor
    case rows =>
      intro row hrow
      rw [hnone] at hrow
      cases hrow
    case recoveries =>
      intro i hi th _ hth
      have habsent := hothers i hi
      rw [hth] at habsent
      cases habsent
    case resets =>
      intro i th row hth _ hfound
      by_cases hi : i = 0
      · obtain ⟨hT, -⟩ := run_traced_ledger sampleEnv_freshTokens (fun _ => rfl)
          (issued_of_empty rfl) hbefore
        obtain ⟨token, newPassword, hcall⟩ :=
          reset_of_found (hT.position (fun _ => rfl) hth) hfound
        subst hi
        cases hcall
      · have habsent := hothers i hi
        rw [hth] at habsent
        cases habsent
  exact mailed_token_survives sampleEnv_freshTokens (fun _ => rfl)
    (fun _ token _ _ => sampleEnv_noCollision token) (issued_of_empty rfl) hbefore hstore hquiet
    rfl hafter

/-- The reset has found its row and updated the password; the second recovery has deleted that
    row and drawn its own token. -/
def secondDrawn : ResetPool (Fin 3) :=
  (overtakenAfter firstFound [.perform 2, .perform 2, .perform 2,
    .start 1, .perform 1, .perform 1, .perform 1]).get (by decide)

def secondStored : ResetPool (Fin 3) := (overtakenAfter secondDrawn [.perform 1]).get (by decide)

/-- The second recovery mails its token and returns; the reset deletes by address. -/
def secondLost : ResetPool (Fin 3) :=
  (overtakenAfter secondStored [.perform 1, .perform 2]).get (by decide)

theorem mailed_token_lost :
    Run (ResetStep sampleEnv Faults.none overtaken) (Pool.init sampleWorld)
        ([.start 0, .perform 0, .perform 0, .perform 0] ++ [.perform 0] ++
          [.perform 0, .start 2, .perform 2] ++ [.perform 2, .perform 2, .perform 2,
            .start 1, .perform 1, .perform 1, .perform 1]) secondDrawn ∧
      AboutToStore sampleEnv overtaken secondDrawn 1 "admin@example.com" "tk" ∧
      ResetStep sampleEnv Faults.none overtaken secondDrawn (.perform 1) secondStored ∧
      Run (ResetStep sampleEnv Faults.none overtaken) secondStored [.perform 1, .perform 2]
        secondLost ∧
      ReturnedOk secondLost 1 ∧ ¬ (Acceptable sampleEnv secondLost.state "tk" ∨
        Used overtaken secondLost "tk" ∨
        Replaced overtaken secondStored secondLost "admin@example.com" ∨
        addMinutes secondDrawn.state.clock passwordResetTtlMinutes < secondLost.state.clock) := by
  refine ⟨Pool.run_of_execute rfl,
    ⟨⟨_, rfl⟩, ⟨_, _, rfl⟩, _, rfl, .tail _ (.tail _ (.head _))⟩, rfl,
    Pool.run_of_execute rfl, ⟨_, rfl, rfl⟩, ?_⟩
  rintro (⟨row, hrow, -⟩ | ⟨i, ⟨newPassword, hcall⟩, -⟩ | ⟨i, -, hnone, -⟩ | hlate)
  · cases hrow
  · have hpresented : (overtaken i).presented = some "tk" := by rw [hcall]; rfl
    revert hpresented
    clear hcall
    revert i
    decide
  · have hall : ∀ i : Fin 3, (secondStored.threads i).isSome := by decide
    have hsome := hall i
    rw [hnone] at hsome
    cases hsome
  · revert hlate
    decide

end ApiStarter.Security
