import Mathlib.Logic.Function.Basic

/-
  Programs that ask their surroundings for operations.

  `Prog Op Res α` is a computation that performs operations `o : Op`, receives answers in
  `Res o` and ends in a value, or in a panic. The answers are left open, so one program can be
  run against a state (`Prog.run`), expanded into the operations of a lower layer
  (`Prog.interp`), or followed along every answer its surroundings might give (`Path`).

  Rules proved here, over arbitrary operations and answers:
  * `run_bind`, `runE_bind`: how a run composes.
  * `run_inv_of_uses`: a program that performs only operations preserving `I` preserves `I`.
  * `Path.bind_inv`: a path of `p >>= f` is a path of `p`, or a finished path of `p` followed
    by one of `f`.
  * `Uses.bind`: which operations a composed program performs.
-/

namespace ApiStarter.Effect

inductive Prog (Op : Type) (Res : Op → Type) (α : Type) : Type where
  | ret (a : α)
  | panic
  | call (o : Op) (k : Res o → Prog Op Res α)

/-- One performed operation and the answer it received. -/
abbrev Entry (Op : Type) (Res : Op → Type) := (o : Op) × Res o

/-- Surroundings with a state: each operation is answered at once and may change the state. -/
abbrev Handler (Op : Type) (Res : Op → Type) (S : Type) := (o : Op) → S → Res o × S

namespace Prog

variable {Op Op' : Type} {Res : Op → Type} {Res' : Op' → Type} {S α β γ ε : Type}

def bind : Prog Op Res α → (α → Prog Op Res β) → Prog Op Res β
  | ret a, f => f a
  | panic, _ => panic
  | call o k, f => call o fun r => (k r).bind f

instance : Monad (Prog Op Res) where
  pure := ret
  bind := bind

/-- The program that performs `o` and returns the answer. -/
def op (o : Op) : Prog Op Res (Res o) := call o ret

@[simp] theorem pure_eq_ret (a : α) : (pure a : Prog Op Res α) = ret a := rfl

@[simp] theorem bind_eq (p : Prog Op Res α) (f : α → Prog Op Res β) : p >>= f = p.bind f := rfl

@[simp] theorem ret_bind (a : α) (f : α → Prog Op Res β) : (ret a).bind f = f a := rfl

@[simp] theorem panic_bind (f : α → Prog Op Res β) :
    (panic : Prog Op Res α).bind f = panic := rfl

@[simp] theorem call_bind (o : Op) (k : Res o → Prog Op Res α) (f : α → Prog Op Res β) :
    (call o k).bind f = call o fun r => (k r).bind f := rfl

@[simp] theorem bind_ret (p : Prog Op Res α) : p.bind ret = p := by
  induction p with
  | ret a => rfl
  | panic => rfl
  | call o k ih => simp only [call_bind, ih]

theorem bind_assoc (p : Prog Op Res α) (f : α → Prog Op Res β) (g : β → Prog Op Res γ) :
    (p.bind f).bind g = p.bind fun a => (f a).bind g := by
  induction p with
  | ret a => rfl
  | panic => rfl
  | call o k ih => simp only [call_bind, ih]

instance : LawfulMonad (Prog Op Res) :=
  LawfulMonad.mk' _ (fun p => bind_ret p) (fun _ _ => rfl) (fun p f g => bind_assoc p f g)

/-! ## Running against a state -/

/-- The value the program ends in (`none` for a panic) and the state it leaves. -/
def run (h : Handler Op Res S) : Prog Op Res α → S → Option α × S
  | ret a, s => (some a, s)
  | panic, s => (none, s)
  | call o k, s => (k (h o s).1).run h (h o s).2

@[simp] theorem run_ret (h : Handler Op Res S) (a : α) (s : S) :
    (ret a : Prog Op Res α).run h s = (some a, s) := rfl

@[simp] theorem run_panic (h : Handler Op Res S) (s : S) :
    (panic : Prog Op Res α).run h s = (none, s) := rfl

@[simp] theorem run_call (h : Handler Op Res S) (o : Op) (k : Res o → Prog Op Res α) (s : S) :
    (call o k).run h s = (k (h o s).1).run h (h o s).2 := rfl

theorem run_bind (h : Handler Op Res S) (p : Prog Op Res α) (f : α → Prog Op Res β) (s : S) :
    (p.bind f).run h s =
      match p.run h s with
      | (some a, s') => (f a).run h s'
      | (none, s') => (none, s') := by
  induction p generalizing s with
  | ret a => rfl
  | panic => rfl
  | call o k ih => simpa only [call_bind, run_call] using ih _ _

/-! ## The operations a program may perform -/

/-- Whatever the answers, every operation of the program satisfies `P`. -/
def Uses (P : Op → Prop) : Prog Op Res α → Prop
  | ret _ => True
  | panic => True
  | call o k => P o ∧ ∀ r, (k r).Uses P

@[simp] theorem uses_ret (P : Op → Prop) (a : α) : (ret a : Prog Op Res α).Uses P := trivial

@[simp] theorem uses_panic (P : Op → Prop) : (panic : Prog Op Res α).Uses P := trivial

@[simp] theorem uses_call (P : Op → Prop) (o : Op) (k : Res o → Prog Op Res α) :
    (call o k).Uses P ↔ P o ∧ ∀ r, (k r).Uses P := Iff.rfl

theorem Uses.bind {P : Op → Prop} {p : Prog Op Res α} {f : α → Prog Op Res β}
    (hp : p.Uses P) (hf : ∀ a, (f a).Uses P) : (p.bind f).Uses P := by
  induction p with
  | ret a => exact hf a
  | panic => trivial
  | call o k ih => exact ⟨hp.1, fun r => ih r (hp.2 r)⟩

theorem Uses.mono {P Q : Op → Prop} (hPQ : ∀ o, P o → Q o) {p : Prog Op Res α}
    (hp : p.Uses P) : p.Uses Q := by
  induction p with
  | ret a => trivial
  | panic => trivial
  | call o k ih => exact ⟨hPQ o hp.1, fun r => ih r (hp.2 r)⟩

theorem Uses.and {P Q : Op → Prop} {p : Prog Op Res α} (hp : p.Uses P) (hq : p.Uses Q) :
    p.Uses fun o => P o ∧ Q o := by
  induction p with
  | ret a => trivial
  | panic => trivial
  | call o k ih => exact ⟨⟨hp.1, hq.1⟩, fun r => ih r (hp.2 r) (hq.2 r)⟩

/-- The invariant rule: `I` survives a run that performs only operations preserving it. -/
theorem run_inv_of_uses {P : Op → Prop} {I : S → Prop} {h : Handler Op Res S}
    (hstep : ∀ o s, P o → I s → I (h o s).2) {p : Prog Op Res α} (hp : p.Uses P) {s : S}
    (hs : I s) : I (p.run h s).2 := by
  induction p generalizing s with
  | ret a => exact hs
  | panic => exact hs
  | call o k ih => exact ih _ (hp.2 _) (hstep o s hp.1 hs)

/-! ## Expanding operations into programs of a lower layer -/

def interp (svc : (o : Op) → Prog Op' Res' (Res o)) : Prog Op Res α → Prog Op' Res' α
  | ret a => ret a
  | panic => panic
  | call o k => (svc o).bind fun r => (k r).interp svc

/-! ## Paths: following a program along any answers -/

/-- `Path p tr q`: after performing the operations of `tr` with the answers recorded there,
    `q` is what is left of `p`. -/
inductive Path : Prog Op Res α → List (Entry Op Res) → Prog Op Res α → Prop
  | nil (p : Prog Op Res α) : Path p [] p
  | cons {o : Op} {k : Res o → Prog Op Res α} {tr : List (Entry Op Res)} {q : Prog Op Res α}
      (r : Res o) (h : Path (k r) tr q) : Path (call o k) (⟨o, r⟩ :: tr) q

theorem Path.of_ret {a : α} {tr : List (Entry Op Res)} {q : Prog Op Res α}
    (h : Path (ret a) tr q) : tr = [] ∧ q = ret a := by
  cases h
  exact ⟨rfl, rfl⟩

theorem Path.of_panic {tr : List (Entry Op Res)} {q : Prog Op Res α}
    (h : Path panic tr q) : tr = [] ∧ q = panic := by
  cases h
  exact ⟨rfl, rfl⟩

theorem Path.of_call {o : Op} {k : Res o → Prog Op Res α} {tr : List (Entry Op Res)}
    {q : Prog Op Res α} (h : Path (call o k) tr q) :
    (tr = [] ∧ q = call o k) ∨ ∃ r tr', tr = ⟨o, r⟩ :: tr' ∧ Path (k r) tr' q := by
  cases h with
  | nil => exact .inl ⟨rfl, rfl⟩
  | cons r h => exact .inr ⟨r, _, rfl, h⟩

theorem Path.append {p q q' : Prog Op Res α} {tr tr' : List (Entry Op Res)} (h : Path p tr q)
    (h' : Path q tr' q') : Path p (tr ++ tr') q' := by
  induction h with
  | nil p => exact h'
  | cons r _ ih => exact .cons r (ih h')

/-- Every operation on a path of `p` is one that `p` may perform. -/
theorem Path.mem_uses {P : Op → Prop} {p q : Prog Op Res α} {tr : List (Entry Op Res)}
    (h : Path p tr q) (hp : p.Uses P) : ∀ e ∈ tr, P e.1 := by
  induction h with
  | nil p => simp
  | cons r _ ih =>
    intro e he
    rcases List.mem_cons.1 he with rfl | he
    · exact hp.1
    · exact ih (hp.2 r) e he

theorem Path.bind_inv {p : Prog Op Res α} {f : α → Prog Op Res β} {tr : List (Entry Op Res)}
    {q : Prog Op Res β} (h : Path (p.bind f) tr q) :
    (∃ p', Path p tr p' ∧ q = p'.bind f) ∨
      ∃ a tr₁ tr₂, tr = tr₁ ++ tr₂ ∧ Path p tr₁ (ret a) ∧ Path (f a) tr₂ q := by
  induction p generalizing tr with
  | ret a => exact .inr ⟨a, [], tr, rfl, .nil _, h⟩
  | panic =>
    obtain ⟨rfl, rfl⟩ := h.of_panic
    exact .inl ⟨panic, .nil _, rfl⟩
  | call o k ih =>
    cases h with
    | nil => exact .inl ⟨call o k, .nil _, rfl⟩
    | cons r h =>
      rcases ih r h with ⟨p', hp, rfl⟩ | ⟨a, tr₁, tr₂, rfl, h₁, h₂⟩
      · exact .inl ⟨p', .cons r hp, rfl⟩
      · exact .inr ⟨a, ⟨o, r⟩ :: tr₁, tr₂, rfl, .cons r h₁, h₂⟩

end Prog

/-! ## Fallible programs -/

/-- A program that ends in a value or in an error, with `?` as its bind. -/
abbrev Fallible (Op : Type) (Res : Op → Type) (ε : Type) := ExceptT ε (Prog Op Res)

namespace Fallible

variable {Op : Type} {Res : Op → Type} {S α β ε ε' : Type}

def ask (o : Op) : Fallible Op Res ε (Res o) := ExceptT.lift (Prog.op o)

/-- `result.map_err(f)?` -/
def mapErr (f : ε' → ε) : Except ε' α → Fallible Op Res ε α
  | .ok a => pure a
  | .error e => throw (f e)

/-- `option.ok_or_else(|| e)?` -/
def okOr (e : ε) : Option α → Fallible Op Res ε α
  | some a => pure a
  | none => throw e

/-- `option.expect(..)`, and arithmetic that panics when it has no result. -/
def expect : Option α → Fallible Op Res ε α
  | some a => pure a
  | none => ExceptT.mk Prog.panic

@[simp] theorem mapErr_ok (f : ε' → ε) (a : α) :
    (mapErr f (.ok a) : Fallible Op Res ε α) = pure a := rfl

@[simp] theorem mapErr_error (f : ε' → ε) (e : ε') :
    (mapErr f (.error e : Except ε' α) : Fallible Op Res ε α) = throw (f e) := rfl

@[simp] theorem okOr_some (e : ε) (a : α) : (okOr e (some a) : Fallible Op Res ε α) = pure a := rfl

@[simp] theorem okOr_none (e : ε) : (okOr e none : Fallible Op Res ε α) = throw e := rfl

@[simp] theorem expect_some (a : α) : (expect (some a) : Fallible Op Res ε α) = pure a := rfl

/-- `call(..).await.map_err(f)?` on a call that is itself a program. -/
def mapErrOf (f : ε' → ε) (p : Fallible Op Res ε' α) : Fallible Op Res ε α :=
  ExceptT.adapt f p

/-- The outcome of a run: `none` is a panic. -/
def runE (h : Handler Op Res S) (p : Fallible Op Res ε α) (s : S) : Option (Except ε α) × S :=
  Prog.run h (ExceptT.run p) s

variable (h : Handler Op Res S) (s : S)

@[simp] theorem runE_pure (a : α) :
    runE h (pure a : Fallible Op Res ε α) s = (some (.ok a), s) := rfl

@[simp] theorem runE_throw (e : ε) :
    runE h (throw e : Fallible Op Res ε α) s = (some (.error e), s) := rfl

@[simp] theorem runE_ask (o : Op) :
    runE h (ask o : Fallible Op Res ε (Res o)) s = (some (.ok (h o s).1), (h o s).2) := rfl

@[simp] theorem runE_expect_none :
    runE h (expect none : Fallible Op Res ε α) s = (none, s) := rfl

theorem runE_bind (p : Fallible Op Res ε α) (f : α → Fallible Op Res ε β) :
    runE h (p >>= f) s =
      match runE h p s with
      | (some (.ok a), s') => runE h (f a) s'
      | (some (.error e), s') => (some (.error e), s')
      | (none, s') => (none, s') := by
  have hbind : ExceptT.run (p >>= f) = Prog.bind (ExceptT.run p) (ExceptT.bindCont f) := rfl
  simp only [runE, hbind, Prog.run_bind]
  rcases Prog.run h (ExceptT.run p) s with ⟨_ | _ | _, s'⟩ <;> rfl

theorem runE_mapErrOf (f : ε' → ε) (p : Fallible Op Res ε' α) :
    runE h (mapErrOf f p) s =
      ((runE h p s).1.map fun r => r.mapError f, (runE h p s).2) := by
  have hadapt : ExceptT.run (mapErrOf f p) =
      Prog.bind (ExceptT.run p) fun r => Prog.ret (r.mapError f) := rfl
  simp only [runE, hadapt, Prog.run_bind]
  rcases Prog.run h (ExceptT.run p) s with ⟨_ | _, s'⟩ <;> rfl

/-! ### Runs that end in a value -/

section

variable {h s} {s' : S} {a : α} {b : β}

theorem runE_bind_ok {p : Fallible Op Res ε α} {f : α → Fallible Op Res ε β}
    (hrun : runE h (p >>= f) s = (some (.ok b), s')) :
    ∃ a s₁, runE h p s = (some (.ok a), s₁) ∧ runE h (f a) s₁ = (some (.ok b), s') := by
  rw [runE_bind] at hrun
  split at hrun
  · exact ⟨_, _, ‹_›, hrun⟩
  · cases hrun
  · cases hrun

/-- The run ended in an error or in a panic. -/
def Failed (outcome : Option (Except ε α)) : Prop := ∀ a, outcome ≠ some (.ok a)

theorem failed_error (e : ε) : Failed (some (.error e) : Option (Except ε α)) := by
  intro a h
  cases h

theorem failed_panic : Failed (none : Option (Except ε α)) := by
  intro a h
  cases h

/-- A sequence ends in its first part, which fails, or in its second. -/
theorem runE_bind_cases {p : Fallible Op Res ε α} {f : α → Fallible Op Res ε β}
    {outcome : Option (Except ε β)} (hrun : runE h (p >>= f) s = (outcome, s')) :
    (∃ first, Failed first ∧ runE h p s = (first, s')) ∨
      ∃ a s₁, runE h p s = (some (.ok a), s₁) ∧ runE h (f a) s₁ = (outcome, s') := by
  rw [runE_bind] at hrun
  split at hrun
  · exact .inr ⟨_, _, ‹_›, hrun⟩
  next e s₁ hp =>
    obtain ⟨-, rfl⟩ := Prod.mk.inj hrun
    exact .inl ⟨_, failed_error e, hp⟩
  next s₁ hp =>
    obtain ⟨-, rfl⟩ := Prod.mk.inj hrun
    exact .inl ⟨none, failed_panic, hp⟩

/-- `result.map_err(f)?` and what follows: the error, or the rest on the value. -/
theorem runE_mapErr_bind_cases {f : ε' → ε} {r : Except ε' α} {g : α → Fallible Op Res ε β}
    {outcome : Option (Except ε β)} (hrun : runE h (mapErr f r >>= g) s = (outcome, s')) :
    (∃ e, r = .error e ∧ outcome = some (.error (f e)) ∧ s' = s) ∨
      ∃ a, r = .ok a ∧ runE h (g a) s = (outcome, s') := by
  cases r with
  | error e =>
    obtain ⟨rfl, rfl⟩ := Prod.mk.inj (hrun.symm.trans (runE_throw h s (f e)))
    exact .inl ⟨e, rfl, rfl, rfl⟩
  | ok a => exact .inr ⟨a, rfl, hrun⟩

theorem runE_mapErr_ok {f : ε' → ε} {r : Except ε' α}
    (hrun : runE h (mapErr f r : Fallible Op Res ε α) s = (some (.ok a), s')) :
    r = .ok a ∧ s' = s := by
  cases r with
  | ok b => cases hrun; exact ⟨rfl, rfl⟩
  | error e => cases hrun

theorem runE_okOr_ok {e : ε} {r : Option α}
    (hrun : runE h (okOr e r : Fallible Op Res ε α) s = (some (.ok a), s')) :
    r = some a ∧ s' = s := by
  cases r with
  | some b => cases hrun; exact ⟨rfl, rfl⟩
  | none => cases hrun

theorem runE_expect_ok {r : Option α}
    (hrun : runE h (expect r : Fallible Op Res ε α) s = (some (.ok a), s')) :
    r = some a ∧ s' = s := by
  cases r with
  | some b => cases hrun; exact ⟨rfl, rfl⟩
  | none => cases hrun

theorem runE_ask_bind (o : Op) (f : Res o → Fallible Op Res ε β) :
    runE h (ask o >>= f) s = runE h (f (h o s).1) (h o s).2 := by
  rw [runE_bind, runE_ask]

/-- `call(..).await.map_err(f)?` that went through. -/
theorem runE_ask_ok {o : Op} {f : Res o → Fallible Op Res ε β}
    (hrun : runE h (ask o >>= f) s = (some (.ok b), s')) :
    runE h (f (h o s).1) (h o s).2 = (some (.ok b), s') := by
  rwa [runE_ask_bind] at hrun

theorem runE_mapErrOf_ok {f : ε' → ε} {p : Fallible Op Res ε' α}
    (hrun : runE h (mapErrOf f p) s = (some (.ok a), s')) :
    runE h p s = (some (.ok a), s') := by
  rw [runE_mapErrOf, Prod.mk.injEq] at hrun
  obtain ⟨hval, hstate⟩ := hrun
  cases hp : (runE h p s).1 with
  | none => rw [hp] at hval; cases hval
  | some r =>
    cases r with
    | error e => rw [hp] at hval; cases hval
    | ok a' =>
      rw [hp] at hval
      cases hval
      exact Prod.ext hp hstate

/-- Every result of a loop is the result of a call in it. -/
theorem runE_listMapM_ok {P : α → β → Prop} {f : α → Fallible Op Res ε β}
    (hf : ∀ {a b s s'}, runE h (f a) s = (some (.ok b), s') → P a b) {as : List α} {bs : List β}
    (hrun : runE h (as.mapM f) s = (some (.ok bs), s')) : ∀ b ∈ bs, ∃ a ∈ as, P a b := by
  induction as generalizing s bs with
  | nil =>
    rw [List.mapM_nil] at hrun
    cases hrun
    exact fun b hb => (List.not_mem_nil hb).elim
  | cons a as ih =>
    rw [List.mapM_cons] at hrun
    obtain ⟨b, s₁, hfirst, hrun⟩ := runE_bind_ok hrun
    obtain ⟨bs, s₂, hrest, hrun⟩ := runE_bind_ok hrun
    cases hrun
    rw [List.forall_mem_cons]
    refine ⟨⟨a, List.mem_cons_self, hf hfirst⟩, fun b' hb' => ?_⟩
    obtain ⟨a', ha', hP⟩ := ih hrest b' hb'
    exact ⟨a', List.mem_cons_of_mem _ ha', hP⟩

/-- The same, for calls that keep what their results are about. -/
theorem runE_listMapM_ok_of_inv {I : S → Prop} {P : α → β → Prop} {f : α → Fallible Op Res ε β}
    (hf : ∀ {a b s s'}, I s → runE h (f a) s = (some (.ok b), s') → P a b ∧ I s') {as : List α}
    {bs : List β} (hs : I s) (hrun : runE h (as.mapM f) s = (some (.ok bs), s')) :
    ∀ b ∈ bs, ∃ a ∈ as, P a b := by
  induction as generalizing s bs with
  | nil =>
    rw [List.mapM_nil] at hrun
    cases hrun
    exact fun b hb => (List.not_mem_nil hb).elim
  | cons a as ih =>
    rw [List.mapM_cons] at hrun
    obtain ⟨b, s₁, hfirst, hrun⟩ := runE_bind_ok hrun
    obtain ⟨bs, s₂, hrest, hrun⟩ := runE_bind_ok hrun
    cases hrun
    obtain ⟨hP, hs₁⟩ := hf hs hfirst
    rw [List.forall_mem_cons]
    refine ⟨⟨a, List.mem_cons_self, hP⟩, fun b' hb' => ?_⟩
    obtain ⟨a', ha', hP'⟩ := ih hs₁ hrest b' hb'
    exact ⟨a', List.mem_cons_of_mem _ ha', hP'⟩

end

/-! ### The operations a fallible program may perform -/

def UsesE (P : Op → Prop) (p : Fallible Op Res ε α) : Prop := Prog.Uses P (ExceptT.run p)

section

variable {P Q : Op → Prop}

@[simp] theorem usesE_pure (a : α) : UsesE P (pure a : Fallible Op Res ε α) := trivial

@[simp] theorem usesE_throw (e : ε) : UsesE P (throw e : Fallible Op Res ε α) := trivial

theorem usesE_ask {o : Op} (ho : P o) : UsesE P (ask o : Fallible Op Res ε (Res o)) :=
  ⟨ho, fun _ => trivial⟩

@[simp] theorem usesE_mapErr (f : ε' → ε) (r : Except ε' α) :
    UsesE P (mapErr f r : Fallible Op Res ε α) := by
  cases r <;> trivial

@[simp] theorem usesE_okOr (e : ε) (a : Option α) :
    UsesE P (okOr e a : Fallible Op Res ε α) := by
  cases a <;> trivial

@[simp] theorem usesE_expect (a : Option α) : UsesE P (expect a : Fallible Op Res ε α) := by
  cases a <;> trivial

theorem UsesE.bind {p : Fallible Op Res ε α} {f : α → Fallible Op Res ε β} (hp : UsesE P p)
    (hf : ∀ a, UsesE P (f a)) : UsesE P (p >>= f) := by
  refine Prog.Uses.bind hp fun r => ?_
  cases r with
  | ok a => exact hf a
  | error e => trivial

theorem UsesE.mapErrOf {f : ε' → ε} {p : Fallible Op Res ε' α} (hp : UsesE P p) :
    UsesE P (mapErrOf f p) :=
  Prog.Uses.bind hp fun _ => trivial

theorem UsesE.tryCatch {p : Fallible Op Res ε α} {f : ε → Fallible Op Res ε α}
    (hp : UsesE P p) (hf : ∀ e, UsesE P (f e)) : UsesE P (tryCatch p f) := by
  refine Prog.Uses.bind hp fun r => ?_
  cases r with
  | ok a => trivial
  | error e => exact hf e

theorem UsesE.listMapM {f : α → Fallible Op Res ε β} (hf : ∀ a, UsesE P (f a)) (as : List α) :
    UsesE P (as.mapM f) := by
  induction as with
  | nil => exact trivial
  | cons a as ih =>
    rw [List.mapM_cons]
    exact (hf a).bind fun b => ih.bind fun bs => usesE_pure _

/-- The invariant rule on a fallible program. -/
theorem runE_inv_of_uses {I : S → Prop} {h : Handler Op Res S}
    (hstep : ∀ o s, P o → I s → I (h o s).2) {p : Fallible Op Res ε α} (hp : UsesE P p) {s : S}
    (hs : I s) : I (runE h p s).2 :=
  Prog.run_inv_of_uses hstep hp hs

end

theorem runE_tryCatch (h : Handler Op Res S) (p : Fallible Op Res ε α)
    (f : ε → Fallible Op Res ε α) (s : S) :
    runE h (tryCatch p f) s =
      match runE h p s with
      | (some (.ok a), s') => (some (.ok a), s')
      | (some (.error e), s') => runE h (f e) s'
      | (none, s') => (none, s') := by
  have hcatch : ExceptT.run (tryCatch p f) = Prog.bind (ExceptT.run p) fun r =>
      match r with
      | .ok a => Prog.ret (.ok a)
      | .error e => ExceptT.run (f e) := by
    change Prog.bind _ _ = _
    congr 1
    funext r
    cases r <;> rfl
  simp only [runE, hcatch, Prog.run_bind]
  rcases Prog.run h (ExceptT.run p) s with ⟨_ | _ | _, s'⟩ <;> rfl

end Fallible

end ApiStarter.Effect
