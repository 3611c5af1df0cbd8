import ApiStarter.Provider.SampleEnv
import ApiStarter.Security.ResetCalls

/-
  At most one pending reset per address, under concurrency.

  `password_recovery` keeps the rule by deleting the rows of the address before it inserts its
  own, in two statements. Between the two another recovery for the address may do the same, and
  both insert. As long as no recovery deletes while another one for its address is between
  its two statements, every reachable pool keeps the rule (`one_pending_per_address`).
-/

namespace ApiStarter.Security

open ApiStarter.Auth ApiStarter.Database ApiStarter.Effect ApiStarter.Effect.Fallible
  ApiStarter.Provider ApiStarter.Relational

section

variable {ι : Type} {env : Env} {faults : Faults} {calls : ι → ResetCall} {P Q : ResetPool ι}

def OnePerAddress (w : World) : Prop := (w.db.passwordResets.map PasswordResetRow.email).Nodup

/-- Recovery `i` for `email` is between its `DELETE` and its `INSERT`. -/
def InWindow (calls : ι → ResetCall) (P : ResetPool ι) (email : String) (i : ι) : Prop :=
  (∃ uri, calls i = .recovery email uri) ∧ ∃ th, P.threads i = some th ∧
    Did th.log (.deletePasswordReset email) ∧
    ¬ ∃ digest, Did th.log (.createPasswordReset email digest)

/-- If the action is the `DELETE` of a recovery, no recovery for its address is in its window. -/
def ClearsAlone (calls : ι → ResetCall) (P : ResetPool ι) (a : PoolAction ι Nat) : Prop :=
  ∀ i email uri, a = .perform i → calls i = .recovery email uri →
    P.Next i (.deletePasswordReset email) → ∀ j, ¬ InWindow calls P email j

structure OnePending (calls : ι → ResetCall) (P : ResetPool ι) : Prop where
  onePerAddress : OnePerAddress P.state
  window_empty : ∀ email i, InWindow calls P email i →
    ∀ row ∈ P.state.db.passwordResets, row.email ≠ email
  window_unique : ∀ email i j, InWindow calls P email i → InWindow calls P email j → i = j

variable [DecidableEq ι]

/-- A window that is open after an action was open before, and the action is not the `INSERT`
    of its call; or the action is the `DELETE` of its call. -/
theorem inWindow_step {a : PoolAction ι Nat} (hstep : ResetStep env faults calls P a Q)
    {email : String} {j : ι} (hj : InWindow calls Q email j) :
    (InWindow calls P email j ∧
      ∀ digest, a = .perform j → ¬ P.Next j (.createPasswordReset email digest)) ∨
    (a = .perform j ∧ P.Next j (.deletePasswordReset email)) := by
  obtain ⟨hcall, th, hth, hdel, hins⟩ := hj
  rcases Pool.thread_cases hstep hth with ⟨hne, hold⟩ | ⟨-, -, rfl⟩ | ⟨log, o, k, rfl, hold, rfl⟩
  · exact .inl ⟨⟨hcall, th, hold, hdel, hins⟩, fun _ heq => absurd heq hne⟩
  · exact absurd hdel (not_did_nil _)
  · rcases did_append.1 hdel with hbefore | rfl
    · have hins' : ∀ digest, ¬ Did log (.createPasswordReset email digest) :=
        fun digest hdid => hins ⟨digest, did_append.2 (.inl hdid)⟩
      refine .inl ⟨⟨hcall, _, hold, hbefore, fun ⟨digest, hdid⟩ => hins' digest hdid⟩, ?_⟩
      rintro digest - ⟨log', k', hnext⟩
      rw [hold] at hnext
      cases hnext
      exact hins ⟨digest, did_append.2 (.inr rfl)⟩
    · exact .inr ⟨rfl, log, k, hold⟩

omit [DecidableEq ι] in
/-- A recovery about to insert is in its window. -/
theorem inWindow_of_store (hup : Faults.StoreUp faults) (hP : Traced env faults calls P) {i : ι}
    {email digest : String} (hnext : P.Next i (.createPasswordReset email digest)) :
    InWindow calls P email i := by
  obtain ⟨log, k, hi⟩ := hnext
  obtain ⟨uri, user, token, hcall, -, rfl⟩ := (hP.position hup hi).of_store
  exact ⟨⟨uri, hcall⟩, _, hi, by simp, by simp⟩

theorem step_onePending (hup : Faults.StoreUp faults) {a : PoolAction ι Nat}
    (hT : Traced env faults calls P) (hP : OnePending calls P) (hguard : ClearsAlone calls P a)
    (hstep : ResetStep env faults calls P a Q) : OnePending calls Q where
  onePerAddress := by
    have hone : (P.state.db.passwordResets.map PasswordResetRow.email).Nodup := hP.onePerAddress
    unfold OnePerAddress
    rcases resets_cases hup hT hstep with hsame | ⟨i, email, -, -, hdel⟩ |
      ⟨i, email, digest, -, hnext, hins⟩
    · rw [hsame]
      exact hone
    · rw [hdel]
      exact hone.sublist (List.filter_sublist.map _)
    · have hempty := hP.window_empty email i (inWindow_of_store hup hT hnext)
      rw [hins, List.map_append, List.nodup_append]
      refine ⟨hone, by simp, fun other hother new hnew => ?_⟩
      obtain ⟨row, hrow, rfl⟩ := List.mem_map.1 hother
      obtain rfl : new = email := by simpa using hnew
      exact hempty row hrow
  window_empty := by
    intro email j hj row hrow
    rcases inWindow_step hstep hj with ⟨hopen, hnot⟩ | ⟨rfl, hnext⟩
    · have hempty := hP.window_empty email j hopen
      rcases row_cases hup hT hstep hrow with hold | ⟨i, email', digest, rfl, hnext, rfl⟩
      · exact hempty row hold
      · rintro rfl
        -- The inserting call is in its window too, so it is this one.
        have hsame := hP.window_unique _ i j (inWindow_of_store hup hT hnext) hopen
        subst hsame
        exact hnot digest rfl hnext
    · rw [resets_perform hup hT hstep hnext] at hrow
      simpa using (mem_deleteWhere.1 hrow).2
  window_unique := by
    intro email i j hi hj
    rcases inWindow_step hstep hi with ⟨hopen, -⟩ | ⟨rfl, hnext⟩
    · rcases inWindow_step hstep hj with ⟨hopen', -⟩ | ⟨rfl, hnext'⟩
      · exact hP.window_unique email i j hopen hopen'
      · obtain ⟨uri, hcall⟩ := hj.1
        exact absurd hopen (hguard j email uri rfl hcall hnext' i)
    · rcases inWindow_step hstep hj with ⟨hopen', -⟩ | ⟨heq, -⟩
      · obtain ⟨uri, hcall⟩ := hi.1
        exact absurd hopen' (hguard i email uri rfl hcall hnext j)
      · cases heq
        rfl

omit [DecidableEq ι] in
/-- A recovery in its window has begun and has not ended. -/
theorem running_of_inWindow (hup : Faults.StoreUp faults) (hT : Traced env faults calls P)
    {email : String} {j : ι} (hj : InWindow calls P email j) {th : ResetThread}
    (hth : P.threads j = some th) : th.log ≠ [] ∧ th.Running := by
  obtain ⟨⟨uri, hcall⟩, th', hth', hdel, hins⟩ := hj
  obtain rfl : th' = th := Option.some.inj (hth'.symm.trans hth)
  have hpos := hT.position hup hth
  rw [hcall] at hpos
  refine ⟨fun hlog => not_did_nil _ (hlog ▸ hdel), ?_⟩
  obtain ⟨log, rest⟩ := th'
  cases hpos with
  | unknown => simp at hdel
  | @mailed _ _ token =>
    exact absurd ⟨Crypto.hashToken env token, by simp⟩ hins
  | _ => exact ⟨_, _, rfl⟩

omit [DecidableEq ι] in
/-- Calls that run one after another meet the condition. -/
theorem clearsAlone_of_alone (hup : Faults.StoreUp faults) (hT : Traced env faults calls P)
    {a : PoolAction ι Nat} (ha : P.Alone a) : ClearsAlone calls P a := by
  rintro i email uri hi hcall ⟨log, k, hnext⟩ j hj
  have hopen : ∀ th, P.threads j = some th → th.log ≠ [] ∧ th.Running :=
    fun _ => running_of_inWindow hup hT hj
  obtain ⟨-, th, hth, hdel, -⟩ := hj
  obtain ⟨hlog, hrunning⟩ := hopen th hth
  by_cases hji : j = i
  · subst hji
    rw [hnext] at hth
    cases hth
    rcases (hT.position hup hnext).of_clear with ⟨_, _, -, rfl⟩ | ⟨_, _, _, _, _, _, hreset, -⟩
    · simp at hdel
    · rw [hcall] at hreset
      cases hreset
  · rcases ha i hi j hji th hth with hnone | hended
    · exact hlog hnone
    · exact hended hrunning

/-- While no recovery deletes inside the window of another one for its address, at most one
    reset is pending for each address. -/
theorem one_pending_per_address (hup : Faults.StoreUp faults) {w : World}
    (hw : OnePerAddress w) {actions : List (PoolAction ι Nat)}
    (hrun : Run (Guarded (ResetStep env faults calls) (ClearsAlone calls)) (Pool.init w) actions P) :
    OnePerAddress P.state := by
  have hinv : Traced env faults calls P ∧ OnePending calls P := by
    refine hrun.inv (I := fun P => Traced env faults calls P ∧ OnePending calls P)
      (fun P a Q hP hstep => ?_) ⟨Traced.init w, ?_⟩
    · exact ⟨hP.1.step hstep.2, step_onePending hup hP.1 hP.2 hstep.1 hstep.2⟩
    · have hnone : ∀ email i, ¬ InWindow calls (Pool.init w) email i := by
        rintro email i ⟨-, th, hth, -⟩
        cases hth
      exact { onePerAddress := hw
              window_empty := fun email i hi => absurd hi (hnone email i)
              window_unique := fun email i j hi => absurd hi (hnone email i) }
  exact hinv.2.onePerAddress

end

/-! ## Two recoveries for one address -/

/-- Both calls are recoveries for the seeded administrator. -/
def twoRecoveries (_ : Fin 2) : ResetCall :=
  .recovery "admin@example.com" "https://example.com/"

/-- Both start, and one deletes after the other has ended. -/
def oneDeletesLater : List (PoolAction (Fin 2) Nat) :=
  [.start 0, .start 1, .perform 0, .perform 0, .perform 0, .perform 0, .perform 0,
    .perform 1, .perform 1, .perform 1, .perform 1, .perform 1]

theorem one_pending_per_address_sample :
    ∃ P, Run (Guarded (ResetStep sampleEnv Faults.none twoRecoveries) (ClearsAlone twoRecoveries))
        (Pool.init sampleWorld) oneDeletesLater P ∧
      ReturnedOk P 0 ∧ ReturnedOk P 1 ∧ OnePerAddress P.state := by
  have hexec : ((Pool.init sampleWorld).executeAlone (List.finRange 2)
      (exec sampleEnv Faults.none) (fun i => (twoRecoveries i).program sampleEnv) elapse
      oneDeletesLater).map (fun P => (P.outcome 0, P.outcome 1)) =
        some (some (.ok ()), some (.ok ())) := by
    decide
  obtain ⟨P, hP, hend⟩ := Option.map_eq_some_iff.1 hexec
  obtain ⟨h₀, h₁⟩ := Prod.mk.inj hend
  have hrun : Run (Guarded (ResetStep sampleEnv Faults.none twoRecoveries)
      (ClearsAlone twoRecoveries)) (Pool.init sampleWorld) oneDeletesLater P :=
    (Pool.run_of_executeAlone List.mem_finRange hP).guarded_mono
      (I := Traced sampleEnv Faults.none twoRecoveries) (fun _ _ _ hT hstep => hT.step hstep)
      (fun _ _ hT => clearsAlone_of_alone (fun _ => rfl) hT) (Traced.init _)
  exact ⟨P, hrun, Pool.returned_of_outcome h₀, Pool.returned_of_outcome h₁,
    one_pending_per_address (fun _ => rfl) (by unfold OnePerAddress; decide) hrun⟩

/-- Both delete before either inserts. -/
def bothDeleteFirst : List (PoolAction (Fin 2) Nat) :=
  [.start 0, .start 1, .perform 0, .perform 1, .perform 0, .perform 1,
    .perform 0, .perform 0, .perform 0, .perform 1, .perform 1, .perform 1]

theorem two_pending_for_one_address :
    ∃ P, OnePerAddress sampleWorld ∧
      Run (ResetStep sampleEnv Faults.none twoRecoveries) (Pool.init sampleWorld)
        bothDeleteFirst P ∧
      P.Idle ∧ ¬ OnePerAddress P.state := by
  have hexec : ((Pool.init sampleWorld).execute (exec sampleEnv Faults.none)
      (fun i => (twoRecoveries i).program sampleEnv) elapse bothDeleteFirst).map
        (fun P => (P.outcome 0, P.outcome 1, P.state.db.passwordResets.map PasswordResetRow.email)) =
      some (some (.ok ()), some (.ok ()), ["admin@example.com", "admin@example.com"]) := by
    decide
  obtain ⟨P, hP, hend⟩ := Option.map_eq_some_iff.1 hexec
  simp only [Prod.mk.injEq] at hend
  obtain ⟨h₀, h₁, hrows⟩ := hend
  refine ⟨P, by unfold OnePerAddress; decide, Pool.run_of_execute hP, Pool.idle_of_outcome ?_, ?_⟩
  · exact Fin.forall_fin_two.2 ⟨by rw [h₀]; rfl, by rw [h₁]; rfl⟩
  · rw [OnePerAddress, hrows]
    decide

end ApiStarter.Security
