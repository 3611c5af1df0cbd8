import ApiStarter.Effect.Prog
import ApiStarter.Effect.Run

/-
  Programs that run concurrently, where operations may have to wait.

  A `Crew` holds a shared state and what is left of each program. In a step one program performs
  its next operation, as its own surroundings answer it, unless the operation has to wait. A `Run`
  of `Crew.Step` is one interleaving.

  `Prog.Follows Moves Ends p q` says that a program does only what an automaton in the state `q`
  may do: whatever the answers, each operation is a move, and the program ends where the automaton
  may. `Crew.run_follows` is the rule for what holds along an interleaving of such programs, and
  `Follows.run` the one for a program that runs alone.
-/

namespace ApiStarter.Effect

variable {ι Op : Type} {Res : Op → Type} {S Q α β ε ε' : Type}

/-! ## Automata -/

namespace Prog

variable {Moves : Q → (o : Op) → Res o → Q → Prop}

def Follows (Moves : Q → (o : Op) → Res o → Q → Prop) (Ends : Q → α → Prop) :
    Prog Op Res α → Q → Prop
  | ret a, q => Ends q a
  | panic, _ => True
  | call o k, q => ∀ r, ∃ q', Moves q o r q' ∧ (k r).Follows Moves Ends q'

theorem Follows.mono {Ends Ends' : Q → α → Prop} (hEnds : ∀ q a, Ends q a → Ends' q a)
    {p : Prog Op Res α} {q : Q} (hp : p.Follows Moves Ends q) : p.Follows Moves Ends' q := by
  induction p generalizing q with
  | ret a => exact hEnds q a hp
  | panic => trivial
  | call o k ih =>
    intro r
    obtain ⟨q', hmove, hk⟩ := hp r
    exact ⟨q', hmove, ih r hk⟩

theorem Follows.bind {Ends : Q → β → Prop} {p : Prog Op Res α} {f : α → Prog Op Res β} {q : Q}
    (hp : p.Follows Moves (fun q a => (f a).Follows Moves Ends q) q) :
    (p.bind f).Follows Moves Ends q := by
  induction p generalizing q with
  | ret a => exact hp
  | panic => trivial
  | call o k ih =>
    intro r
    obtain ⟨q', hmove, hk⟩ := hp r
    exact ⟨q', hmove, ih r hk⟩

/-- What every move preserves, a run preserves. -/
theorem Follows.run {Ends : Q → α → Prop} {h : Handler Op Res S} {I : S → Q → Prop}
    (hI : ∀ s q o q', I s q → Moves q o (h o s).1 q' → I (h o s).2 q') {p : Prog Op Res α} {q : Q}
    (hp : p.Follows Moves Ends q) {s : S} (hs : I s q) :
    ∃ q', I (p.run h s).2 q' ∧ ∀ a, (p.run h s).1 = some a → Ends q' a := by
  induction p generalizing q s with
  | ret a => exact ⟨q, hs, fun b hb => Option.some.inj hb ▸ hp⟩
  | panic => exact ⟨q, hs, fun b hb => nomatch hb⟩
  | call o k ih =>
    obtain ⟨q', hmove, hk⟩ := hp (h o s).1
    exact ih _ hk (hI s q o q' hs hmove)

end Prog

namespace Fallible

variable {Moves : Q → (o : Op) → Res o → Q → Prop}

def FollowsE (Moves : Q → (o : Op) → Res o → Q → Prop) (Ends : Q → Except ε α → Prop)
    (p : Fallible Op Res ε α) (q : Q) : Prop :=
  Prog.Follows Moves Ends (ExceptT.run p) q

variable {q : Q}

theorem FollowsE.run {Ends : Q → Except ε α → Prop} {h : Handler Op Res S} {I : S → Q → Prop}
    (hI : ∀ s q o q', I s q → Moves q o (h o s).1 q' → I (h o s).2 q')
    {p : Fallible Op Res ε α} (hp : FollowsE Moves Ends p q) {s : S} (hs : I s q) :
    ∃ q', I (runE h p s).2 q' ∧ ∀ r, (runE h p s).1 = some r → Ends q' r :=
  Prog.Follows.run hI hp hs

theorem followsE_mapErr {Ends : Q → Except ε α → Prop} {f : ε' → ε} {r : Except ε' α}
    (h : Ends q (r.mapError f)) : FollowsE Moves Ends (mapErr f r : Fallible Op Res ε α) q := by
  cases r <;> exact h

theorem followsE_bind {Ends : Q → Except ε β → Prop} {p : Fallible Op Res ε α}
    {f : α → Fallible Op Res ε β}
    (hp : FollowsE Moves (fun q r => match r with
      | .ok a => FollowsE Moves Ends (f a) q
      | .error e => Ends q (.error e)) p q) :
    FollowsE Moves Ends (p >>= f) q := by
  refine Prog.Follows.bind (Prog.Follows.mono (fun q r hr => ?_) hp)
  cases r <;> exact hr

theorem followsE_ask_bind {Ends : Q → Except ε β → Prop} {o : Op}
    {f : Res o → Fallible Op Res ε β}
    (h : ∀ r, ∃ q', Moves q o r q' ∧ FollowsE Moves Ends (f r) q') :
    FollowsE Moves Ends (ask o >>= f) q := h

/-- After `result.map_err(f)?` the result is known. -/
theorem followsE_mapErr_bind {Ends : Q → Except ε β → Prop} {f : ε' → ε} {r : Except ε' α}
    {g : α → Fallible Op Res ε β} (hok : ∀ a, r = .ok a → FollowsE Moves Ends (g a) q)
    (herror : ∀ e, r = .error e → Ends q (.error (f e))) :
    FollowsE Moves Ends (mapErr f r >>= g) q := by
  cases r with
  | ok a => exact hok a rfl
  | error e => exact herror e rfl

theorem followsE_mapErrOf {Ends : Q → Except ε α → Prop} {f : ε' → ε}
    {p : Fallible Op Res ε' α} (hp : FollowsE Moves (fun q r => Ends q (r.mapError f)) p q) :
    FollowsE Moves Ends (mapErrOf f p) q := by
  have hadapt : ExceptT.run (mapErrOf f p) =
      Prog.bind (ExceptT.run p) fun r => Prog.ret (r.mapError f) := rfl
  rw [FollowsE, hadapt]
  exact Prog.Follows.bind hp

theorem followsE_tryCatch {Ends : Q → Except ε α → Prop} {p : Fallible Op Res ε α}
    {f : ε → Fallible Op Res ε α}
    (hp : FollowsE Moves (fun q r => match r with
      | .ok a => Ends q (.ok a)
      | .error e => FollowsE Moves Ends (f e) q) p q) :
    FollowsE Moves Ends (tryCatch p f) q := by
  refine Prog.Follows.bind (Prog.Follows.mono (fun q r hr => ?_) hp)
  cases r <;> exact hr

end Fallible

/-! ## Crews -/

structure Crew (ι Op : Type) (Res : Op → Type) (α S : Type) where
  state : S
  rest : ι → Prog Op Res α

namespace Crew

/-- The value a program has ended in, if it has. -/
def outcome (C : Crew ι Op Res α S) (i : ι) : Option α :=
  match C.rest i with
  | .ret a => some a
  | _ => none

variable [DecidableEq ι] (h : ι → Handler Op Res S) (waits : ι → Op → S → Bool)

def next (C : Crew ι Op Res α S) (i : ι) : Option (Crew ι Op Res α S) :=
  match C.rest i with
  | .call o k =>
    if waits i o C.state then none
    else
      let (r, s) := h i o C.state
      some { state := s, rest := Function.update C.rest i (k r) }
  | _ => none

/-- One step of the interleaving. -/
def Step (C : Crew ι Op Res α S) (i : ι) (C' : Crew ι Op Res α S) : Prop :=
  C.next h waits i = some C'

def execute (C : Crew ι Op Res α S) : List ι → Option (Crew ι Op Res α S)
  | [] => some C
  | i :: is => (C.next h waits i).bind fun C' => C'.execute is

variable {h waits} {C C' : Crew ι Op Res α S} {i : ι}

theorem run_of_execute {is : List ι} (hrun : C.execute h waits is = some C') :
    Run (Step h waits) C is C' := by
  induction is generalizing C with
  | nil =>
    cases hrun
    exact .nil _
  | cons i is ih =>
    obtain ⟨C₁, hstep, hrest⟩ := Option.bind_eq_some_iff.1 hrun
    exact .cons hstep (ih hrest)

omit [DecidableEq ι] in
theorem rest_of_outcome {a : α} (h : C.outcome i = some a) : C.rest i = .ret a := by
  unfold outcome at h
  split at h
  · next b hb =>
    cases h
    exact hb
  · cases h

theorem step_inv (hstep : Step h waits C i C') :
    ∃ o k, C.rest i = .call o k ∧ waits i o C.state = false ∧
      C' = { state := (h i o C.state).2, rest := Function.update C.rest i (k (h i o C.state).1) } := by
  unfold Step next at hstep
  split at hstep
  · next o k hi =>
    split at hstep
    · cases hstep
    · next hwaits =>
      exact ⟨o, k, hi, Bool.eq_false_iff.2 hwaits, (Option.some.inj hstep).symm⟩
  · cases hstep

/-- What every move that does not have to wait preserves holds along an interleaving. -/
theorem run_follows {Moves : ι → Q → (o : Op) → Res o → Q → Prop} {Ends : ι → Q → α → Prop}
    {I : S → (ι → Q) → Prop}
    (hI : ∀ s qs i o q', waits i o s = false → I s qs → Moves i (qs i) o (h i o s).1 q' →
      I (h i o s).2 (Function.update qs i q'))
    {is : List ι} (hrun : Run (Step h waits) C is C') {qs : ι → Q}
    (hfollows : ∀ i, (C.rest i).Follows (Moves i) (Ends i) (qs i)) (hs : I C.state qs) :
    ∃ qs', (∀ i, (C'.rest i).Follows (Moves i) (Ends i) (qs' i)) ∧ I C'.state qs' := by
  induction hrun generalizing qs with
  | nil C => exact ⟨qs, hfollows, hs⟩
  | @cons C C₁ C₂ i is hstep _ ih =>
    obtain ⟨o, k, hi, hready, rfl⟩ := step_inv hstep
    have hcall := hfollows i
    rw [hi] at hcall
    obtain ⟨q', hmove, hk⟩ := hcall (h i o C.state).1
    refine @ih (Function.update qs i q') (fun j => ?_) (hI C.state qs i o q' hready hs hmove)
    dsimp only
    by_cases hji : j = i
    · subst hji
      rwa [Function.update_self, Function.update_self]
    · rw [Function.update_of_ne hji, Function.update_of_ne hji]
      exact hfollows j

end Crew

end ApiStarter.Effect
