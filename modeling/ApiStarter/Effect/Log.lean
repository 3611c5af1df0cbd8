import ApiStarter.Effect.Prog
import ApiStarter.Effect.Run

/-
  The log of a run, and programs that do not panic by themselves.

  * `Prog.path_record`: the operations a run performs, with their answers, are a path of the
    program.
  * `Prog.mem_collect_uses`: what is collected along a run comes from operations the program
    may perform.
  * `Prog.run_visits`: the operations of a run, each with the state it finds, label a run of
    the handler.
  * `Prog.Safe A`: as long as every answer satisfies `A`, the program does not panic.
    `Path.not_panic` is the rule that uses it.
  * `Prog.Once P`: the program performs at most one operation, and that one satisfies `P`.
    `Once.run_cases` says what a run of it does to the state.
-/

namespace ApiStarter.Effect

namespace Prog

variable {Op : Type} {Res : Op → Type} {S α β : Type}

/-! ## Logs -/

/-- The operations a run performs, with their answers, oldest first. -/
def record (h : Handler Op Res S) : Prog Op Res α → S → List (Entry Op Res)
  | ret _, _ => []
  | panic, _ => []
  | call o k, s => ⟨o, (h o s).1⟩ :: (k (h o s).1).record h (h o s).2

/-- The program that has ended in `a`, or in a panic. -/
def ended : Option α → Prog Op Res α
  | some a => ret a
  | none => panic

theorem path_record (h : Handler Op Res S) (p : Prog Op Res α) (s : S) :
    Path p (p.record h s) (ended (p.run h s).1) := by
  induction p generalizing s with
  | ret a => exact .nil _
  | panic => exact .nil _
  | call o k ih => exact .cons _ (ih _ _)

theorem mem_record_uses {P : Op → Prop} (h : Handler Op Res S) {p : Prog Op Res α}
    (hp : p.Uses P) (s : S) : ∀ e ∈ p.record h s, P e.1 :=
  (path_record h p s).mem_uses hp

/-- What `f` makes of the operations of a run and the states they are answered in. -/
def collect (h : Handler Op Res S) (f : Op → S → List β) : Prog Op Res α → S → List β
  | ret _, _ => []
  | panic, _ => []
  | call o k, s => f o s ++ (k (h o s).1).collect h f (h o s).2

theorem mem_collect_uses {P : Op → Prop} {Q : β → Prop} {h : Handler Op Res S}
    {f : Op → S → List β} (hf : ∀ o s, P o → ∀ b ∈ f o s, Q b) {p : Prog Op Res α}
    (hp : p.Uses P) (s : S) : ∀ b ∈ p.collect h f s, Q b := by
  induction p generalizing s with
  | ret a => simp [collect]
  | panic => simp [collect]
  | call o k ih =>
    intro b hb
    rcases List.mem_append.1 hb with hnow | hlater
    · exact hf o s hp.1 b hnow
    · exact ih _ (hp.2 _) _ b hlater

/-- The operations of a run, each with the state it is answered in. -/
def visits (h : Handler Op Res S) (p : Prog Op Res α) (s : S) : List (Op × S) :=
  p.collect h (fun o s => [(o, s)]) s

/-- The handler as a transition system: an operation that finds the state `s`. -/
def Answers (h : Handler Op Res S) (s : S) (l : Op × S) (s' : S) : Prop :=
  l.2 = s ∧ s' = (h l.1 s).2

theorem run_visits (h : Handler Op Res S) (p : Prog Op Res α) (s : S) :
    Run (Answers h) s (p.visits h s) (p.run h s).2 := by
  induction p generalizing s with
  | ret a => exact .nil s
  | panic => exact .nil s
  | call o k ih => exact .cons ⟨rfl, rfl⟩ (ih _ _)

/-- A path of a program whose value is only mapped is a path of the program. -/
theorem Path.of_map {p : Prog Op Res α} {f : α → β} {tr : List (Entry Op Res)}
    {q : Prog Op Res β} (h : Path (p.bind fun a => ret (f a)) tr q) : ∃ p', Path p tr p' := by
  rcases h.bind_inv with ⟨p', hp, -⟩ | ⟨a, tr₁, tr₂, rfl, hp, hret⟩
  · exact ⟨p', hp⟩
  · obtain ⟨rfl, -⟩ := hret.of_ret
    exact ⟨ret a, by rwa [List.append_nil]⟩

/-! ## No panic of its own -/

def Safe (A : (o : Op) → Res o → Prop) : Prog Op Res α → Prop
  | ret _ => True
  | panic => False
  | call o k => ∀ r, A o r → (k r).Safe A

variable {A : (o : Op) → Res o → Prop}

@[simp] theorem safe_ret (a : α) : (ret a : Prog Op Res α).Safe A := trivial

theorem Safe.bind {p : Prog Op Res α} {f : α → Prog Op Res β} (hp : p.Safe A)
    (hf : ∀ a, (f a).Safe A) : (p.bind f).Safe A := by
  induction p with
  | ret a => exact hf a
  | panic => exact hp.elim
  | call o k ih => exact fun r hr => ih r (hp r hr)

theorem Path.not_panic {p q : Prog Op Res α} {tr : List (Entry Op Res)} (h : Path p tr q)
    (hp : p.Safe A) (hA : ∀ e ∈ tr, A e.1 e.2) : q ≠ panic := by
  induction h with
  | nil p =>
    rintro rfl
    exact hp
  | cons r _ ih =>
    have hhead := hA _ List.mem_cons_self
    exact ih (hp r hhead) fun e he => hA e (List.mem_cons_of_mem _ he)

/-! ## One operation at most -/

def Quiet : Prog Op Res α → Prop
  | ret _ => True
  | panic => True
  | call _ _ => False

def Once (P : Op → Prop) : Prog Op Res α → Prop
  | ret _ => True
  | panic => True
  | call o k => P o ∧ ∀ r, (k r).Quiet

variable {P Q : Op → Prop}

theorem Quiet.run (h : Handler Op Res S) {p : Prog Op Res α} (hp : p.Quiet) (s : S) :
    (p.run h s).2 = s := by
  cases p with
  | ret a => rfl
  | panic => rfl
  | call o k => exact hp.elim

theorem Quiet.uses {p : Prog Op Res α} (hp : p.Quiet) : p.Uses P := by
  cases p with
  | ret a => trivial
  | panic => trivial
  | call o k => exact hp.elim

theorem Quiet.bind {p : Prog Op Res α} {f : α → Prog Op Res β} (hp : p.Quiet)
    (hf : ∀ a, (f a).Quiet) : (p.bind f).Quiet := by
  cases p with
  | ret a => exact hf a
  | panic => trivial
  | call o k => exact hp.elim

/-- What comes after the operation asks for nothing. -/
theorem Once.bind {p : Prog Op Res α} {f : α → Prog Op Res β} (hp : p.Once P)
    (hf : ∀ a, (f a).Quiet) : (p.bind f).Once P := by
  cases p with
  | ret a =>
    have hquiet := hf a
    rw [ret_bind]
    cases hfa : f a with
    | ret b => trivial
    | panic => trivial
    | call o k => rw [hfa] at hquiet; exact hquiet.elim
  | panic => trivial
  | call o k => exact ⟨hp.1, fun r => (hp.2 r).bind hf⟩

theorem Once.mono (hPQ : ∀ o, P o → Q o) {p : Prog Op Res α} (hp : p.Once P) : p.Once Q := by
  cases p with
  | ret a => trivial
  | panic => trivial
  | call o k => exact ⟨hPQ o hp.1, hp.2⟩

theorem Once.uses {p : Prog Op Res α} (hp : p.Once P) : p.Uses P := by
  cases p with
  | ret a => trivial
  | panic => trivial
  | call o k => exact ⟨hp.1, fun r => (hp.2 r).uses⟩

theorem Once.run_cases (h : Handler Op Res S) {p : Prog Op Res α} (hp : p.Once P) (s : S) :
    (p.run h s).2 = s ∨ ∃ o, P o ∧ (p.run h s).2 = (h o s).2 := by
  cases p with
  | ret a => exact .inl rfl
  | panic => exact .inl rfl
  | call o k => exact .inr ⟨o, hp.1, (hp.2 _).run h _⟩

end Prog

namespace Fallible

variable {Op : Type} {Res : Op → Type} {α β ε ε' : Type} {A : (o : Op) → Res o → Prop}

def SafeE (A : (o : Op) → Res o → Prop) (p : Fallible Op Res ε α) : Prop :=
  Prog.Safe A (ExceptT.run p)

@[simp] theorem safeE_pure (a : α) : SafeE A (pure a : Fallible Op Res ε α) := trivial

@[simp] theorem safeE_mapErr (f : ε' → ε) (r : Except ε' α) :
    SafeE A (mapErr f r : Fallible Op Res ε α) := by
  cases r <;> trivial

theorem SafeE.bind {p : Fallible Op Res ε α} {f : α → Fallible Op Res ε β} (hp : SafeE A p)
    (hf : ∀ a, SafeE A (f a)) : SafeE A (p >>= f) := by
  refine Prog.Safe.bind hp fun r => ?_
  cases r with
  | ok a => exact hf a
  | error e => trivial

variable {P : Op → Prop}

/-- After `result.map_err(f)?` the result is known. -/
theorem once_mapErr_bind {f : ε' → ε} {r : Except ε' α} {g : α → Fallible Op Res ε β}
    (hg : ∀ a, r = .ok a → Prog.Once P (ExceptT.run (g a))) :
    Prog.Once P (ExceptT.run (mapErr f r >>= g)) := by
  cases r with
  | ok a => exact hg a rfl
  | error e => trivial

end Fallible

end ApiStarter.Effect
