import ApiStarter.Effect.Prog
import ApiStarter.Effect.Run

/-
  Programs that run concurrently on one state.

  A `Pool` holds a state and, for each index, the thread of a program that has been started:
  what it has performed so far (`log`) and what is left of it (`rest`). A `PoolAction` starts a
  program, lets one thread perform its next operation, or changes the state from outside.
  Operations are atomic and the order of the actions is free, so a `Run` of `Pool.Step` is one
  interleaving.

  Rules, over arbitrary programs, indices, states and answers:
  * `Pool.thread_cases`, `Pool.state_cases`: what one action changes.
  * `Pool.step_answered`: the log of a thread stays a path of its program, along answers its
    surroundings gave.
  * `Pool.run_of_execute`: a computed schedule is a run.
  * `Pool.run_of_executeAlone`: the same for one in which no two threads are under way at once.
-/

namespace ApiStarter.Effect

structure Thread (Op : Type) (Res : Op → Type) (α : Type) where
  /-- Oldest first. -/
  log : List (Entry Op Res)
  rest : Prog Op Res α

structure Pool (ι Op : Type) (Res : Op → Type) (α S : Type) where
  state : S
  threads : ι → Option (Thread Op Res α)

inductive PoolAction (ι E : Type) where
  | start (i : ι)
  | perform (i : ι)
  | ambient (e : E)
  deriving DecidableEq, Repr

/-- `o` has been performed. -/
def Did {Op : Type} {Res : Op → Type} (log : List (Entry Op Res)) (o : Op) : Prop :=
  ∃ r, (⟨o, r⟩ : Entry Op Res) ∈ log

theorem did_append {Op : Type} {Res : Op → Type} {log : List (Entry Op Res)} {o o' : Op}
    {r : Res o} : Did (log ++ [⟨o, r⟩]) o' ↔ Did log o' ∨ o' = o := by
  constructor
  · rintro ⟨r', hmem⟩
    rcases List.mem_append.1 hmem with hold | hnew
    · exact .inl ⟨r', hold⟩
    · cases List.mem_singleton.1 hnew
      exact .inr rfl
  · rintro (⟨r', hmem⟩ | rfl)
    · exact ⟨r', List.mem_append_left _ hmem⟩
    · exact ⟨r, List.mem_append_right _ (List.mem_singleton.2 rfl)⟩

@[simp] theorem not_did_nil {Op : Type} {Res : Op → Type} (o : Op) :
    ¬ Did ([] : List (Entry Op Res)) o := by
  simp [Did]

@[simp] theorem did_cons {Op : Type} {Res : Op → Type} {log : List (Entry Op Res)}
    {e : Entry Op Res} {o : Op} : Did (e :: log) o ↔ o = e.1 ∨ Did log o := by
  constructor
  · rintro ⟨r, hmem⟩
    rcases List.mem_cons.1 hmem with rfl | hold
    · exact .inl rfl
    · exact .inr ⟨r, hold⟩
  · rintro (rfl | ⟨r, hmem⟩)
    · exact ⟨e.2, List.mem_cons_self⟩
    · exact ⟨r, List.mem_cons_of_mem _ hmem⟩

namespace Thread

variable {Op : Type} {Res : Op → Type} {α : Type}

/-- The thread has an operation left to perform. -/
def Running (th : Thread Op Res α) : Prop := ∃ o k, th.rest = .call o k

def Returned (th : Thread Op Res α) (a : α) : Prop := th.rest = .ret a

theorem Returned.not_running {th : Thread Op Res α} {a : α} (h : th.Returned a) :
    ¬ th.Running := by
  rintro ⟨o, k, hrest⟩
  rw [show th.rest = .ret a from h] at hrest
  cases hrest

/-- The thread has performed nothing yet, or has nothing left to perform. -/
def AtRest (th : Thread Op Res α) : Prop := th.log = [] ∨ ¬ th.Running

def isAtRest (th : Thread Op Res α) : Bool :=
  th.log.isEmpty || match th.rest with
    | .call _ _ => false
    | _ => true

theorem atRest_of_isAtRest {th : Thread Op Res α} (h : th.isAtRest = true) : th.AtRest := by
  rcases Bool.or_eq_true_iff.1 h with hlog | hrest
  · exact .inl (List.isEmpty_iff.1 hlog)
  · refine .inr ?_
    rintro ⟨o, k, hcall⟩
    rw [hcall] at hrest
    cases hrest

end Thread

namespace Pool

variable {ι Op : Type} {Res : Op → Type} {α S E : Type}

/-- No thread has been started yet. -/
def init (s : S) : Pool ι Op Res α S := { state := s, threads := fun _ => none }

/-- No thread has an operation left to perform. -/
def Idle (P : Pool ι Op Res α S) : Prop := ∀ i th, P.threads i = some th → ¬ th.Running

/-- `o` is the operation thread `i` performs next. -/
def Next (P : Pool ι Op Res α S) (i : ι) (o : Op) : Prop :=
  ∃ log k, P.threads i = some ⟨log, .call o k⟩

/-- The value thread `i` has ended in, if it has. -/
def outcome (P : Pool ι Op Res α S) (i : ι) : Option α :=
  match P.threads i with
  | some ⟨_, .ret a⟩ => some a
  | _ => none

theorem returned_of_outcome {P : Pool ι Op Res α S} {i : ι} {a : α} (h : P.outcome i = some a) :
    ∃ th, P.threads i = some th ∧ th.Returned a := by
  unfold outcome at h
  split at h
  · rename_i log b hi
    cases h
    exact ⟨⟨log, .ret a⟩, hi, rfl⟩
  · cases h

theorem idle_of_outcome {P : Pool ι Op Res α S} (h : ∀ i, (P.outcome i).isSome) : P.Idle := by
  intro i th hi
  obtain ⟨a, ha⟩ := Option.isSome_iff_exists.1 (h i)
  obtain ⟨th', hi', hret⟩ := returned_of_outcome ha
  rw [hi] at hi'
  cases hi'
  exact hret.not_running

variable [DecidableEq ι] (h : Handler Op Res S) (prog : ι → Prog Op Res α) (amb : E → S → S)

def next (P : Pool ι Op Res α S) : PoolAction ι E → Option (Pool ι Op Res α S)
  | .start i =>
    match P.threads i with
    | none => some { P with threads := Function.update P.threads i (some ⟨[], prog i⟩) }
    | some _ => none
  | .perform i =>
    match P.threads i with
    | some ⟨log, .call o k⟩ =>
      let (r, s) := h o P.state
      some {
        state := s
        threads := Function.update P.threads i (some ⟨log ++ [⟨o, r⟩], k r⟩) }
    | _ => none
  | .ambient e => some { P with state := amb e P.state }

/-- One action of the interleaving. -/
def Step (P : Pool ι Op Res α S) (a : PoolAction ι E) (Q : Pool ι Op Res α S) : Prop :=
  P.next h prog amb a = some Q

def execute (P : Pool ι Op Res α S) : List (PoolAction ι E) → Option (Pool ι Op Res α S)
  | [] => some P
  | a :: as => (P.next h prog amb a).bind fun Q => Q.execute as

variable {h prog amb} {P Q : Pool ι Op Res α S} {i : ι}

omit [DecidableEq ι] in
theorem Next.unique {o o' : Op} (ho : P.Next i o) (ho' : P.Next i o') : o = o' := by
  obtain ⟨log, k, hi⟩ := ho
  obtain ⟨log', k', hi'⟩ := ho'
  rw [hi] at hi'
  cases hi'
  rfl

theorem run_of_execute {as : List (PoolAction ι E)} (hrun : P.execute h prog amb as = some Q) :
    Run (Step h prog amb) P as Q := by
  induction as generalizing P with
  | nil =>
    cases hrun
    exact .nil _
  | cons a as ih =>
    obtain ⟨P₁, hstep, hrest⟩ := Option.bind_eq_some_iff.1 hrun
    exact .cons hstep (ih hrest)

/-! ## One thread after another -/

/-- While a thread performs, the others are at rest. -/
def Alone (P : Pool ι Op Res α S) (a : PoolAction ι E) : Prop :=
  ∀ i, a = .perform i → ∀ j, j ≠ i → ∀ th, P.threads j = some th → th.AtRest

/-- `Alone`, for the threads of a list. -/
def isAlone (is : List ι) (P : Pool ι Op Res α S) : PoolAction ι E → Bool
  | .perform i => is.all fun j => j == i || (P.threads j).all Thread.isAtRest
  | _ => true

theorem alone_of_isAlone {is : List ι} (his : ∀ j, j ∈ is) {a : PoolAction ι E}
    (ha : P.isAlone is a = true) : P.Alone a := by
  rintro i rfl j hne th hth
  have hj := List.all_eq_true.1 ha j (his j)
  rw [beq_eq_false_iff_ne.2 hne, Bool.false_or, hth] at hj
  exact Thread.atRest_of_isAtRest hj

def executeAlone (is : List ι) (h : Handler Op Res S) (prog : ι → Prog Op Res α) (amb : E → S → S)
    (P : Pool ι Op Res α S) : List (PoolAction ι E) → Option (Pool ι Op Res α S)
  | [] => some P
  | a :: as =>
    if P.isAlone is a then (P.next h prog amb a).bind fun Q => Q.executeAlone is h prog amb as
    else none

theorem run_of_executeAlone {is : List ι} (his : ∀ j, j ∈ is) {as : List (PoolAction ι E)}
    (hrun : P.executeAlone is h prog amb as = some Q) :
    Run (Guarded (Step h prog amb) Alone) P as Q := by
  induction as generalizing P with
  | nil =>
    cases hrun
    exact .nil _
  | cons a as ih =>
    unfold executeAlone at hrun
    split at hrun
    next ha =>
      obtain ⟨P₁, hstep, hrest⟩ := Option.bind_eq_some_iff.1 hrun
      exact .cons ⟨alone_of_isAlone his ha, hstep⟩ (ih hrest)
    next => cases hrun

/-! ## What one action changes -/

theorem perform_inv (hstep : Step h prog amb P (.perform i) Q) :
    ∃ log o k, P.threads i = some ⟨log, .call o k⟩ ∧ Q.state = (h o P.state).2 ∧
      Q.threads = Function.update P.threads i
        (some ⟨log ++ [⟨o, (h o P.state).1⟩], k (h o P.state).1⟩) := by
  cases hi : P.threads i with
  | none => simp [Step, next, hi] at hstep
  | some th =>
    obtain ⟨log, rest⟩ := th
    cases rest with
    | ret a => simp [Step, next, hi] at hstep
    | panic => simp [Step, next, hi] at hstep
    | call o k =>
      simp only [Step, next, hi] at hstep
      cases hstep
      exact ⟨log, o, k, rfl, rfl, rfl⟩

theorem start_inv (hstep : Step h prog amb P (.start i) Q) :
    P.threads i = none ∧ Q.state = P.state ∧
      Q.threads = Function.update P.threads i (some ⟨[], prog i⟩) := by
  cases hi : P.threads i with
  | none =>
    simp only [Step, next, hi] at hstep
    cases hstep
    exact ⟨rfl, rfl, rfl⟩
  | some th => simp [Step, next, hi] at hstep

theorem ambient_inv {e : E} (hstep : Step h prog amb P (.ambient e) Q) :
    Q = { P with state := amb e P.state } := by
  cases hstep
  rfl

/-- A thread after an action: untouched, just started, or one operation further. -/
theorem thread_cases {a : PoolAction ι E} (hstep : Step h prog amb P a Q) {j : ι}
    {th : Thread Op Res α} (hj : Q.threads j = some th) :
    (a ≠ .perform j ∧ P.threads j = some th) ∨
    (a = .start j ∧ P.threads j = none ∧ th = ⟨[], prog j⟩) ∨
    ∃ log o k, a = .perform j ∧ P.threads j = some ⟨log, .call o k⟩ ∧
      th = ⟨log ++ [⟨o, (h o P.state).1⟩], k (h o P.state).1⟩ := by
  cases a with
  | start i =>
    obtain ⟨hi, -, hthreads⟩ := start_inv hstep
    rw [hthreads] at hj
    by_cases hji : j = i
    · subst hji
      rw [Function.update_self] at hj
      cases hj
      exact .inr (.inl ⟨rfl, hi, rfl⟩)
    · rw [Function.update_of_ne hji] at hj
      exact .inl ⟨by simp, hj⟩
  | perform i =>
    obtain ⟨log, o, k, hi, -, hthreads⟩ := perform_inv hstep
    rw [hthreads] at hj
    by_cases hji : j = i
    · subst hji
      rw [Function.update_self] at hj
      cases hj
      exact .inr (.inr ⟨log, o, k, rfl, hi, rfl⟩)
    · rw [Function.update_of_ne hji] at hj
      refine .inl ⟨fun heq => ?_, hj⟩
      cases heq
      exact hji rfl
  | ambient e =>
    rw [ambient_inv hstep] at hj
    exact .inl ⟨by simp, hj⟩

theorem state_cases {a : PoolAction ι E} (hstep : Step h prog amb P a Q) :
    (∃ i, a = .start i ∧ Q.state = P.state) ∨
    (∃ i log o k, a = .perform i ∧ P.threads i = some ⟨log, .call o k⟩ ∧
      Q.state = (h o P.state).2) ∨
    ∃ e, a = .ambient e ∧ Q.state = amb e P.state := by
  cases a with
  | start i => exact .inl ⟨i, rfl, (start_inv hstep).2.1⟩
  | perform i =>
    obtain ⟨log, o, k, hi, hstate, -⟩ := perform_inv hstep
    exact .inr (.inl ⟨i, log, o, k, rfl, hi, hstate⟩)
  | ambient e =>
    rw [ambient_inv hstep]
    exact .inr (.inr ⟨e, rfl, rfl⟩)

/-- Once started, a thread keeps its log and may extend it. -/
theorem log_grows {a : PoolAction ι E} (hstep : Step h prog amb P a Q) {j : ι}
    {th : Thread Op Res α} (hj : P.threads j = some th) :
    ∃ th', Q.threads j = some th' ∧ th.log <+: th'.log := by
  cases a with
  | start i =>
    obtain ⟨hi, -, hthreads⟩ := start_inv hstep
    have hne : j ≠ i := by
      rintro rfl
      rw [hi] at hj
      cases hj
    exact ⟨th, by rw [hthreads, Function.update_of_ne hne, hj], List.prefix_refl _⟩
  | perform i =>
    obtain ⟨log, o, k, hi, -, hthreads⟩ := perform_inv hstep
    by_cases hji : j = i
    · subst hji
      rw [hi] at hj
      cases hj
      exact ⟨_, by rw [hthreads, Function.update_self], List.prefix_append _ _⟩
    · exact ⟨th, by rw [hthreads, Function.update_of_ne hji, hj], List.prefix_refl _⟩
  | ambient e =>
    rw [ambient_inv hstep]
    exact ⟨th, hj, List.prefix_refl _⟩

theorem threads_of_ne (hstep : Step h prog amb P (.perform i) Q) {j : ι} (hne : j ≠ i) :
    Q.threads j = P.threads j := by
  obtain ⟨log, o, k, -, -, hthreads⟩ := perform_inv hstep
  rw [hthreads, Function.update_of_ne hne]

/-- What a thread performs is in its log afterwards. -/
theorem did_of_perform (hstep : Step h prog amb P (.perform i) Q) {o : Op} (hnext : P.Next i o) :
    ∃ th, Q.threads i = some th ∧ Did th.log o := by
  obtain ⟨log, o', k, hi, -, hthreads⟩ := perform_inv hstep
  obtain rfl : o = o' := hnext.unique ⟨log, k, hi⟩
  exact ⟨_, by rw [hthreads, Function.update_self], did_append.2 (.inr rfl)⟩

theorem returned_stays {a : PoolAction ι E} (hstep : Step h prog amb P a Q) {j : ι}
    {th : Thread Op Res α} {b : α} (hj : P.threads j = some th) (hret : th.Returned b) :
    Q.threads j = some th := by
  obtain ⟨th', hj', -⟩ := log_grows hstep hj
  rcases thread_cases hstep hj' with ⟨-, hold⟩ | ⟨-, hnone, -⟩ | ⟨log, o, k, -, hold, -⟩
  · rw [hj', ← hold, hj]
  · rw [hnone] at hj
    cases hj
  · rw [hold] at hj
    cases hj
    exact absurd ⟨o, k, rfl⟩ hret.not_running

/-! ## Logs are paths -/

/-- `log` is a path of `p` that ends in `rest`, along answers `h` gives in some state. -/
structure Answered (h : Handler Op Res S) (p : Prog Op Res α) (th : Thread Op Res α) : Prop where
  path : p.Path th.log th.rest
  answers : ∀ e ∈ th.log, ∃ s, e.2 = (h e.1 s).1

theorem Answered.perform {p : Prog Op Res α} {log : List (Entry Op Res)} {o : Op}
    {k : Res o → Prog Op Res α} (hth : Answered h p ⟨log, .call o k⟩) (s : S) :
    Answered h p ⟨log ++ [⟨o, (h o s).1⟩], k (h o s).1⟩ where
  path := hth.path.append (.cons _ (.nil _))
  answers e he := by
    rcases List.mem_append.1 he with hold | hnew
    · exact hth.answers e hold
    · rw [List.mem_singleton.1 hnew]
      exact ⟨s, rfl⟩

theorem step_answered {a : PoolAction ι E} (hstep : Step h prog amb P a Q)
    (hP : ∀ i th, P.threads i = some th → Answered h (prog i) th) :
    ∀ i th, Q.threads i = some th → Answered h (prog i) th := by
  intro j th hj
  rcases thread_cases hstep hj with ⟨-, hold⟩ | ⟨-, -, rfl⟩ | ⟨log, o, k, -, hold, rfl⟩
  · exact hP j th hold
  · exact { path := .nil _, answers := by simp }
  · exact (hP j _ hold).perform P.state

end Pool

end ApiStarter.Effect
