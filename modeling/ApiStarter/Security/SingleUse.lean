import ApiStarter.Provider.SampleEnv
import ApiStarter.Security.ResetLedger

/-
  A reset token under concurrency.

  `reset_password` looks the row up, hashes, updates and deletes, in separate statements. Two
  calls with one token may both find the row before either deletes it, and both return `Ok`.
  As long as a lookup that finds its row happens while no other call with the token is between
  its own lookup and its `DELETE`, at most one of them does (`token_used_once`).
-/

namespace ApiStarter.Security

open ApiStarter.Auth ApiStarter.Database ApiStarter.Effect ApiStarter.Effect.Fallible
  ApiStarter.Provider ApiStarter.Relational

section

variable {ι : Type} {env : Env} {faults : Faults} {calls : ι → ResetCall} {P Q : ResetPool ι}

/-- A reset carrying `token` is between a lookup that found a row and its `DELETE`. -/
def UsingToken (calls : ι → ResetCall) (P : ResetPool ι) (token : String) (i : ι) : Prop :=
  (∃ newPassword, calls i = .reset token newPassword) ∧ ∃ th, P.threads i = some th ∧
    (∃ row, Found th.log row) ∧ th.Running

/-- If the action is a lookup that finds a row, no other call with its token is using it. -/
def LooksUpAlone (env : Env) (calls : ι → ResetCall) (P : ResetPool ι) (a : PoolAction ι Nat) :
    Prop :=
  ∀ i token newPassword, a = .perform i → calls i = .reset token newPassword →
    P.Next i (.findPasswordByToken (Crypto.hashToken env token)) →
    (PostgresAuthStore.findPasswordByToken P.state.db (Crypto.hashToken env token)).isSome →
    ∀ j ≠ i, ¬ UsingToken calls P token j

/-- The call found its row, and has not failed since. -/
def ClaimsToken (calls : ι → ResetCall) (P : ResetPool ι) (token : String) (i : ι) : Prop :=
  (∃ newPassword, calls i = .reset token newPassword) ∧ ∃ th, P.threads i = some th ∧
    (∃ row, Found th.log row) ∧ (th.Running ∨ th.Returned (.ok ()))

structure UsedOnce (calls : ι → ResetCall) (P : ResetPool ι) : Prop where
  /-- Once a reset has deleted the rows of its address, no row carries its digest. -/
  gone : ∀ i th row, P.threads i = some th → Found th.log row →
    Did th.log (.deletePasswordReset row.email) →
    ∀ row' ∈ P.state.db.passwordResets, row'.token ≠ row.token
  claim_unique : ∀ token i j, ClaimsToken calls P token i → ClaimsToken calls P token j → i = j

/-- A reset that returned `Ok` claimed its row and deleted the rows of its address. -/
theorem claimsToken_of_ok (hup : Faults.StoreUp faults) (hT : Traced env faults calls P)
    {token newPassword : String} {i : ι} (hcall : calls i = .reset token newPassword)
    {th : ResetThread} (hi : P.threads i = some th) (hret : th.Returned (.ok ())) :
    ClaimsToken calls P token i ∧ ∃ row, Found th.log row ∧
      row.token = Crypto.hashToken env token ∧ Did th.log (.deletePasswordReset row.email) := by
  have hpos := hT.position hup hi
  rw [hcall, show th.rest = .ret (.ok ()) from hret] at hpos
  obtain ⟨row, hfound, hdel⟩ := hpos.of_ok
  refine ⟨⟨⟨newPassword, hcall⟩, th, hi, ⟨row, _, hfound⟩, .inr hret⟩, row, ⟨_, hfound⟩, ?_, _, hdel⟩
  exact found_token hup (hT i th hi) hfound

variable [DecidableEq ι]

/-- A digest that is known and absent from the table stays absent. -/
theorem absent_step (hup : Faults.StoreUp faults) {a : PoolAction ι Nat}
    (hT : Traced env faults calls P) (hL : Ledger env P)
    (hstep : ResetStep env faults calls P a Q) {row : PasswordResetRow} (hrow : Known P row)
    (habsent : ∀ row' ∈ P.state.db.passwordResets, row'.token ≠ row.token) :
    ∀ row' ∈ Q.state.db.passwordResets, row'.token ≠ row.token := by
  intro row' hrow'
  rcases row_cases hup hT hstep hrow' with hold | ⟨i, email, digest, -, hnext, rfl⟩
  · exact habsent row' hold
  · obtain ⟨n, rfl, hunstored⟩ := unstored_of_store hup hT hnext
    exact (hL.unstored_unknown i n row hunstored hrow).symm

theorem step_gone (hup : Faults.StoreUp faults) {a : PoolAction ι Nat}
    (hT : Traced env faults calls P) (hL : Ledger env P) (hP : UsedOnce calls P)
    (hstep : ResetStep env faults calls P a Q) {i : ι} {th : ResetThread}
    {row : PasswordResetRow} (hi : Q.threads i = some th) (hfound : Found th.log row)
    (hdel : Did th.log (.deletePasswordReset row.email)) :
    ∀ row' ∈ Q.state.db.passwordResets, row'.token ≠ row.token := by
  rcases Pool.thread_cases hstep hi with ⟨-, hold⟩ | ⟨-, -, rfl⟩ | ⟨log, o, k, rfl, hold, rfl⟩
  · exact absent_step hup hT hL hstep (.inr ⟨i, th, hold, hfound⟩) (hP.gone i th row hold hfound hdel)
  · exact absurd hdel (not_did_nil _)
  · rcases hfound.of_performed hup with hbefore | ⟨digest, rfl, -⟩
    · rcases did_append.1 hdel with hdone | rfl
      · exact absent_step hup hT hL hstep (.inr ⟨i, _, hold, hbefore⟩)
          (hP.gone i _ row hold hbefore hdone)
      · -- This is the `DELETE` itself, and all rows of the digest are for its address.
        intro row' hrow' htoken
        rw [resets_perform hup hT hstep ⟨log, k, hold⟩] at hrow'
        obtain ⟨hmem, hemail⟩ := mem_deleteWhere.1 hrow'
        have hsame := hL.one_address row' row (.inl hmem) (.inr ⟨i, _, hold, hbefore⟩) htoken
        simp [hsame] at hemail
    · obtain ⟨rfl, -⟩ := (hT.position hup hold).of_look
      simp at hdel

theorem claimsToken_step (hup : Faults.StoreUp faults) {a : PoolAction ι Nat}
    (hT : Traced env faults calls P) (hstep : ResetStep env faults calls P a Q) {token : String}
    {i : ι} (hi : ClaimsToken calls Q token i) :
    ClaimsToken calls P token i ∨
    (a = .perform i ∧ (∃ newPassword, calls i = .reset token newPassword) ∧
      P.Next i (.findPasswordByToken (Crypto.hashToken env token)) ∧
      (PostgresAuthStore.findPasswordByToken P.state.db (Crypto.hashToken env token)).isSome) := by
  obtain ⟨⟨newPassword, hcall⟩, th, hth, ⟨row, hfound⟩, hlive⟩ := hi
  rcases Pool.thread_cases hstep hth with ⟨-, hold⟩ | ⟨-, -, rfl⟩ | ⟨log, o, k, rfl, hold, rfl⟩
  · exact .inl ⟨⟨newPassword, hcall⟩, th, hold, ⟨row, hfound⟩, hlive⟩
  · exact absurd hfound (not_found_nil row)
  · rcases hfound.of_performed hup with hbefore | ⟨digest, rfl, hfind⟩
    · exact .inl ⟨⟨newPassword, hcall⟩, _, hold, ⟨row, hbefore⟩, .inl ⟨o, k, rfl⟩⟩
    · obtain ⟨-, token', newPassword', hcall', rfl⟩ := (hT.position hup hold).of_look
      obtain ⟨rfl, -⟩ := ResetCall.reset.inj (hcall.symm.trans hcall')
      refine .inr ⟨rfl, ⟨newPassword, hcall⟩, ⟨log, k, hold⟩, ?_⟩
      rw [hfind]
      rfl

theorem step_usedOnce (hup : Faults.StoreUp faults) {a : PoolAction ι Nat}
    (hT : Traced env faults calls P) (hL : Ledger env P) (hP : UsedOnce calls P)
    (hguard : LooksUpAlone env calls P a) (hstep : ResetStep env faults calls P a Q) :
    UsedOnce calls Q := by
  -- While a call claims the token, no other one finds a row for it.
  have hexclusive : ∀ token i j, j ≠ i → ClaimsToken calls P token j → a = .perform i →
      (∃ newPassword, calls i = .reset token newPassword) →
      P.Next i (.findPasswordByToken (Crypto.hashToken env token)) →
      (PostgresAuthStore.findPasswordByToken P.state.db (Crypto.hashToken env token)).isSome →
      False := by
    rintro token i j hne ⟨⟨newPassword', hcall'⟩, th, hth, hfound, hlive⟩ ha ⟨newPassword, hcall⟩
      hnext hsome
    rcases hlive with hrunning | hret
    · exact hguard i token newPassword ha hcall hnext hsome j hne
        ⟨⟨newPassword', hcall'⟩, th, hth, hfound, hrunning⟩
    · obtain ⟨-, row, hfound, htoken, hdel⟩ := claimsToken_of_ok hup hT hcall' hth hret
      obtain ⟨row', hrow'⟩ := Option.isSome_iff_exists.1 hsome
      have hmem := List.mem_of_find?_eq_some hrow'
      have hdigest : row'.token = Crypto.hashToken env token := by
        simpa using List.find?_some hrow'
      exact hP.gone j th row hth hfound hdel row' hmem (hdigest.trans htoken.symm)
  constructor
  case gone => exact fun i th row hi hfound hdel => step_gone hup hT hL hP hstep hi hfound hdel
  case claim_unique =>
    intro token i j hi hj
    by_contra hne
    rcases claimsToken_step hup hT hstep hi with hold | ⟨ha, hcall, hnext, hsome⟩
    · rcases claimsToken_step hup hT hstep hj with hold' | ⟨ha, hcall, hnext, hsome⟩
      · exact hne (hP.claim_unique token i j hold hold')
      · exact hexclusive token j i hne hold ha hcall hnext hsome
    · rcases claimsToken_step hup hT hstep hj with hold' | ⟨ha', -⟩
      · exact hexclusive token i j (Ne.symm hne) hold' ha hcall hnext hsome
      · exact hne (PoolAction.perform.inj (ha.symm.trans ha'))

omit [DecidableEq ι] in
/-- Calls that run one after another meet the condition. -/
theorem looksUpAlone_of_alone {a : PoolAction ι Nat} (ha : P.Alone a) :
    LooksUpAlone env calls P a := by
  rintro i token newPassword hi - - - j hne ⟨-, th, hth, ⟨row, hfound⟩, hrunning⟩
  rcases ha i hi j hne th hth with hlog | hended
  · rw [hlog] at hfound
    exact not_found_nil row hfound
  · exact hended hrunning

/-- While every lookup that finds its row happens alone, at most one reset with a given token
    returns `Ok`. -/
theorem token_used_once (hfresh : env.FreshTokens) (hup : Faults.StoreUp faults) {w : World}
    (hw : Issued env w) {actions : List (PoolAction ι Nat)}
    (hrun : Run (Guarded (ResetStep env faults calls) (LooksUpAlone env calls)) (Pool.init w)
      actions P)
    {token password password' : String} {i j : ι} (hi : calls i = .reset token password)
    (hj : calls j = .reset token password') (hiok : ReturnedOk P i) (hjok : ReturnedOk P j) :
    i = j := by
  have hinv : Traced env faults calls P ∧ Ledger env P ∧ UsedOnce calls P := by
    refine hrun.inv (I := fun P => Traced env faults calls P ∧ Ledger env P ∧ UsedOnce calls P)
      (fun P a Q h₁ hguarded => ?_) ⟨Traced.init w, Ledger.init hw, ?_⟩
    · obtain ⟨hT, hL, hP⟩ := h₁
      obtain ⟨hguard, hstep⟩ := hguarded
      exact ⟨hT.step hstep, step_ledger hfresh hup hT hL hstep,
        step_usedOnce hup hT hL hP hguard hstep⟩
    · exact { gone := fun i th row hi => by cases hi
              claim_unique := by rintro token i j ⟨-, th, hi, -⟩; cases hi }
  obtain ⟨hT, -, hP⟩ := hinv
  obtain ⟨th, hth, hret⟩ := hiok
  obtain ⟨th', hth', hret'⟩ := hjok
  exact hP.claim_unique token i j (claimsToken_of_ok hup hT hi hth hret).1
    (claimsToken_of_ok hup hT hj hth' hret').1

end

/-! ## Two resets with one token -/

/-- The calls of the runs below. -/
inductive SampleCall where
  | recovery
  | first
  | second
  deriving DecidableEq

def SampleCall.all : List SampleCall := [.recovery, .first, .second]

theorem SampleCall.mem_all (i : SampleCall) : i ∈ SampleCall.all := by
  cases i <;> decide

/-- A recovery for the seeded administrator, and two resets with the token it mails. -/
def resetsOfOne (i : SampleCall) : ResetCall :=
  match i with
  | .recovery => .recovery "admin@example.com" "https://example.com/"
  | .first => .reset "t" "N3w-Secret"
  | .second => .reset "t" "N3w-Secret"

/-- Both resets start, but one looks the token up after the other has ended. -/
def oneAfterAnother : List (PoolAction SampleCall Nat) :=
  [.start .recovery, .perform .recovery, .perform .recovery, .perform .recovery,
    .perform .recovery, .perform .recovery, .start .first, .start .second, .perform .first,
    .perform .first, .perform .first, .perform .first, .perform .first, .perform .second]

theorem token_used_once_sample :
    ∃ P, Run (Guarded (ResetStep sampleEnv Faults.none resetsOfOne)
        (LooksUpAlone sampleEnv resetsOfOne)) (Pool.init sampleWorld) oneAfterAnother P ∧
      ReturnedOk P .first ∧ P.Idle ∧
      ∀ j, resetsOfOne j = .reset "t" "N3w-Secret" → ReturnedOk P j → SampleCall.first = j := by
  have hexec : ((Pool.init sampleWorld).executeAlone SampleCall.all
      (exec sampleEnv Faults.none) (fun i => (resetsOfOne i).program sampleEnv) elapse
      oneAfterAnother).map (fun P => (P.outcome .first, SampleCall.all.all fun i =>
        (P.outcome i).isSome)) = some (some (.ok ()), true) := by
    decide
  obtain ⟨P, hP, hend⟩ := Option.map_eq_some_iff.1 hexec
  obtain ⟨hone, hall⟩ := Prod.mk.inj hend
  have hok : ReturnedOk P .first := Pool.returned_of_outcome hone
  have hidle : P.Idle :=
    Pool.idle_of_outcome fun i => List.all_eq_true.1 hall i (SampleCall.mem_all i)
  have hrun : Run (Guarded (ResetStep sampleEnv Faults.none resetsOfOne)
      (LooksUpAlone sampleEnv resetsOfOne)) (Pool.init sampleWorld) oneAfterAnother P :=
    (Pool.run_of_executeAlone SampleCall.mem_all hP).guarded_mono (I := fun _ => True)
      (fun _ _ _ _ _ => trivial) (fun _ _ _ => looksUpAlone_of_alone) trivial
  exact ⟨P, hrun, hok, hidle, fun j hj hjok => token_used_once sampleEnv_freshTokens
    (fun _ => rfl) (issued_of_empty rfl) hrun (show resetsOfOne .first = _ from rfl) hj hok hjok⟩

/-- After the recovery, both resets look the token up before either deletes. -/
def bothFinish : List (PoolAction SampleCall Nat) :=
  [.start .recovery, .perform .recovery, .perform .recovery, .perform .recovery,
    .perform .recovery, .perform .recovery, .start .first, .start .second, .perform .first,
    .perform .second, .perform .first, .perform .first, .perform .first, .perform .first,
    .perform .second, .perform .second, .perform .second, .perform .second]

theorem token_used_twice :
    ∃ P, Run (ResetStep sampleEnv Faults.none resetsOfOne) (Pool.init sampleWorld) bothFinish P ∧
      resetsOfOne .first = .reset "t" "N3w-Secret" ∧
      resetsOfOne .second = .reset "t" "N3w-Secret" ∧
      ReturnedOk P .first ∧ ReturnedOk P .second := by
  have hexec : ((Pool.init sampleWorld).execute (exec sampleEnv Faults.none)
      (fun i => (resetsOfOne i).program sampleEnv) elapse bothFinish).map
        (fun P => (P.outcome .first, P.outcome .second)) =
        some (some (.ok ()), some (.ok ())) := by
    decide
  obtain ⟨P, hP, hend⟩ := Option.map_eq_some_iff.1 hexec
  obtain ⟨h₁, h₂⟩ := Prod.mk.inj hend
  exact ⟨P, Pool.run_of_execute hP, rfl, rfl, Pool.returned_of_outcome h₁,
    Pool.returned_of_outcome h₂⟩

end ApiStarter.Security
