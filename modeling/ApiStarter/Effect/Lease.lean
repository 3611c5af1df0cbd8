import ApiStarter.Effect.Crew
import ApiStarter.Effect.Log
import Mathlib.Data.DFinsupp.WellFounded
import Mathlib.Data.Fintype.Card

/-
  Programs that lease connections from a pool of `n`.

  `leased` spells out when a program takes a connection and when it gives it back: a statement
  takes one for as long as it runs, an opening operation keeps the one it takes, a closing one
  gives it back, and a program that ends, by a panic too, drops the one it holds. In a `Crew` of
  such programs an `acquire` waits while `n` connections are out.

  A program is `Orderly` if it never takes a connection while it holds one. For a crew of orderly
  programs, whatever their surroundings answer:
  * `run_orderly`: nobody holds more than one connection, and no more than `n` are out.
  * `all_ended_of_stuck`: a state without a next step is one where every program has ended and
    every connection is back, so there is no deadlock.
  * `no_endless_run`: every run ends.
-/

namespace ApiStarter.Effect

variable {ι Op : Type} {Res : Op → Type} {S T α β : Type}

/-! ## Leases -/

inductive LeaseOp (Op : Type) where
  | acquire
  | release
  | work (o : Op)

abbrev LeaseRes (Res : Op → Type) : LeaseOp Op → Type
  | .acquire => Unit
  | .release => Unit
  | .work o => Res o

/-- What an operation does with a connection. -/
inductive Lease where
  /-- It needs none, or works on the one that is held. -/
  | none
  /-- It takes one for each of its statements, and gives it back. -/
  | statement
  /-- It takes one, and keeps it if it goes through. -/
  | opens
  /-- It gives back the one that is held. -/
  | closes
  deriving DecidableEq, Repr

structure Leasing (Op : Type) (Res : Op → Type) where
  lease : Op → Lease
  /-- An opening operation went through. -/
  opened : (o : Op) → Res o → Bool
  /-- How many more statements an operation turns out to be. -/
  more : (o : Op) → Res o → Nat

namespace Prog

/-- `n` statements, one after another. -/
def statements (p : Prog (LeaseOp Op) (LeaseRes Res) α) : Nat → Prog (LeaseOp Op) (LeaseRes Res) α
  | 0 => p
  | n + 1 => call .acquire fun _ => call .release fun _ => statements p n

/-- The end of a program: a connection it still holds is dropped. -/
def dropped (held : Bool) (outcome : Option α) : Prog (LeaseOp Op) (LeaseRes Res) (Option α) :=
  if held then call .release fun _ => ret outcome else ret outcome

def leased (L : Leasing Op Res) :
    Prog Op Res α → Bool → Prog (LeaseOp Op) (LeaseRes Res) (Option α)
  | ret a, held => dropped held (some a)
  | panic, held => dropped held Option.none
  | call o k, held =>
    match L.lease o with
    | .none => call (.work o) fun r => (k r).leased L held
    | .statement => call .acquire fun _ => call (.work o) fun r => call .release fun _ =>
        statements ((k r).leased L held) (L.more o r)
    | .opens => call .acquire fun _ => call (.work o) fun r =>
        if L.opened o r then (k r).leased L true
        else call .release fun _ => (k r).leased L held
    | .closes => call (.work o) fun r => call .release fun _ => (k r).leased L false

/-! ## Order -/

section

variable {Q : Type} {Moves Moves' : Q → (o : Op) → Res o → Q → Prop} {Ends : Q → α → Prop} {q : Q}

theorem Follows.moves_mono (hMoves : ∀ q o r q', Moves q o r q' → Moves' q o r q')
    {p : Prog Op Res α} (hp : p.Follows Moves Ends q) : p.Follows Moves' Ends q := by
  induction p generalizing q with
  | ret a => exact hp
  | panic => trivial
  | call o k ih =>
    intro r
    obtain ⟨q', hmove, hk⟩ := hp r
    exact ⟨q', hMoves _ _ _ _ hmove, ih r hk⟩

/-- A program whose operations may all be done in the state `q` stays there. -/
theorem follows_of_uses {p : Prog Op Res α} (hp : p.Uses fun o => ∀ r, Moves q o r q) :
    p.Follows Moves (fun q' _ => q' = q) q := by
  induction p with
  | ret a => exact rfl
  | panic => trivial
  | call o k ih => exact fun r => ⟨q, hp.1 r, ih r (hp.2 r)⟩

/-- A program of parts that each end where they start. -/
theorem follows_interp {Op' : Type} {Res' : Op' → Type}
    {svc : (o : Op') → Prog Op Res (Res' o)}
    (hsvc : ∀ o, (svc o).Follows Moves (fun q' _ => q' = q) q) (p : Prog Op' Res' α) :
    (p.interp svc).Follows Moves (fun q' _ => q' = q) q := by
  induction p with
  | ret a => exact rfl
  | panic => trivial
  | call o k ih =>
    refine Follows.bind ((hsvc o).mono fun q' r hq => ?_)
    rw [hq]
    exact ih r

end

/-- What an operation may find held, and what it leaves held. -/
def Orders (L : Leasing Op Res) (held : Bool) (o : Op) (r : Res o) (held' : Bool) : Prop :=
  match L.lease o with
  | .none => held' = held
  | .statement => held = false ∧ held' = false
  | .opens => held = false ∧ held' = L.opened o r
  | .closes => held = true ∧ held' = false

/-- The program takes a connection only when it holds none, and ends holding none. -/
def Orderly (L : Leasing Op Res) (p : Prog Op Res α) (held : Bool) : Prop :=
  p.Follows (Orders L) (fun held _ => held = false) held

/-- A connection is taken when none is held, and given back when one is. -/
def LeaseMoves (held : Bool) (o : LeaseOp Op) (_ : LeaseRes Res o) (held' : Bool) : Prop :=
  match o with
  | .acquire => held = false ∧ held' = true
  | .release => held = true ∧ held' = false
  | .work _ => held' = held

abbrev Balanced (p : Prog (LeaseOp Op) (LeaseRes Res) α) (held : Bool) : Prop :=
  p.Follows LeaseMoves (fun held _ => held = false) held

theorem balanced_dropped (held : Bool) (outcome : Option α) :
    (dropped held outcome : Prog (LeaseOp Op) (LeaseRes Res) (Option α)).Balanced held := by
  cases held with
  | false => exact rfl
  | true => exact fun _ => ⟨false, ⟨rfl, rfl⟩, rfl⟩

theorem balanced_statements {p : Prog (LeaseOp Op) (LeaseRes Res) α} (hp : p.Balanced false)
    (n : Nat) : (statements p n).Balanced false := by
  induction n with
  | zero => exact hp
  | succ n ih => exact fun _ => ⟨true, ⟨rfl, rfl⟩, fun _ => ⟨false, ⟨rfl, rfl⟩, ih⟩⟩

/-- An orderly program takes and gives back in turns. -/
theorem balanced_leased {L : Leasing Op Res} (hres : ∀ o, Nonempty (Res o)) {p : Prog Op Res α}
    {held : Bool} (hp : p.Orderly L held) : (p.leased L held).Balanced held := by
  induction p generalizing held with
  | ret a => exact balanced_dropped held _
  | panic => exact balanced_dropped held _
  | call o k ih =>
    have hnext : ∀ r, ∃ held', Orders L held o r held' ∧ (k r).Orderly L held' := hp
    unfold leased
    obtain ⟨r₀⟩ := hres o
    obtain ⟨held₀, hmove₀, -⟩ := hnext r₀
    unfold Orders at hnext hmove₀
    cases hlease : L.lease o with
    | none =>
      intro r
      obtain ⟨held', hmove, hk⟩ := hnext r
      simp only [hlease] at hmove
      exact ⟨held, rfl, ih r (hmove ▸ hk)⟩
    | statement =>
      simp only [hlease] at hnext hmove₀
      obtain ⟨rfl, -⟩ := hmove₀
      refine fun _ => ⟨true, ⟨rfl, rfl⟩, fun r => ⟨true, rfl, fun _ => ⟨false, ⟨rfl, rfl⟩, ?_⟩⟩⟩
      obtain ⟨held', ⟨-, rfl⟩, hk⟩ := hnext r
      exact balanced_statements (ih r hk) _
    | opens =>
      simp only [hlease] at hnext hmove₀
      obtain ⟨rfl, -⟩ := hmove₀
      refine fun _ => ⟨true, ⟨rfl, rfl⟩, fun r => ⟨true, rfl, ?_⟩⟩
      obtain ⟨held', ⟨-, rfl⟩, hk⟩ := hnext r
      dsimp only
      split
      next hopened => exact ih r (hopened ▸ hk)
      next hfailed =>
        rw [Bool.not_eq_true] at hfailed
        exact fun _ => ⟨false, ⟨rfl, rfl⟩, ih r (hfailed ▸ hk)⟩
    | closes =>
      simp only [hlease] at hnext hmove₀
      obtain ⟨rfl, -⟩ := hmove₀
      refine fun r => ⟨true, rfl, fun _ => ⟨false, ⟨rfl, rfl⟩, ?_⟩⟩
      obtain ⟨held', ⟨-, rfl⟩, hk⟩ := hnext r
      exact ih r hk

/-! ## No panic is left -/

/-- A panic has become an outcome. -/
abbrev Settled (p : Prog (LeaseOp Op) (LeaseRes Res) α) : Prop := p.Safe fun _ _ => True

theorem settled_dropped (held : Bool) (outcome : Option α) :
    (dropped held outcome : Prog (LeaseOp Op) (LeaseRes Res) (Option α)).Settled := by
  cases held with
  | false => trivial
  | true => exact fun _ _ => trivial

theorem settled_statements {p : Prog (LeaseOp Op) (LeaseRes Res) α} (hp : p.Settled) (n : Nat) :
    (statements p n).Settled := by
  induction n with
  | zero => exact hp
  | succ n ih => exact fun _ _ _ _ => ih

theorem settled_leased (L : Leasing Op Res) (p : Prog Op Res α) (held : Bool) :
    (p.leased L held).Settled := by
  induction p generalizing held with
  | ret a => exact settled_dropped held _
  | panic => exact settled_dropped held _
  | call o k ih =>
    unfold leased
    cases L.lease o with
    | none => exact fun r _ => ih r held
    | statement => exact fun _ _ r _ _ _ => settled_statements (ih r held) _
    | opens =>
      intro _ _ r _
      dsimp only
      split
      · exact ih r true
      · exact fun _ _ => ih r held
    | closes => exact fun r _ _ _ => ih r false

/-! ## What is left becomes less -/

/-- `q` goes on where `p` was answered. -/
inductive After : Prog Op Res α → Prog Op Res α → Prop
  | intro (o : Op) (k : Res o → Prog Op Res α) (r : Res o) : After (k r) (call o k)

theorem wellFounded_after : WellFounded (After : Prog Op Res α → Prog Op Res α → Prop) := by
  refine ⟨fun p => ?_⟩
  induction p with
  | ret a => exact ⟨_, fun q hq => nomatch hq⟩
  | panic => exact ⟨_, fun q hq => nomatch hq⟩
  | call o k ih =>
    refine ⟨_, fun q hq => ?_⟩
    cases hq with
    | intro _ _ r => exact ih r

end Prog

/-! ## The pool -/

structure Desk (ι T : Type) where
  surroundings : T
  holding : ι → Bool

namespace Desk

variable [Fintype ι]

/-- The connections that are out. -/
def inUse (s : Desk ι T) : Nat := (Finset.univ.filter fun i => s.holding i = true).card

variable [DecidableEq ι]

def handle (h : ι → Handler Op Res T) (i : ι) : Handler (LeaseOp Op) (LeaseRes Res) (Desk ι T)
  | .acquire, s => ((), { s with holding := Function.update s.holding i true })
  | .release, s => ((), { s with holding := Function.update s.holding i false })
  | .work o, s => ((h i o s.surroundings).1, { s with surroundings := (h i o s.surroundings).2 })

omit [DecidableEq ι] in
/-- Only a program that wants a connection waits, while all of them are out. -/
def full (n : Nat) (_ : ι) (o : LeaseOp Op) (s : Desk ι T) : Bool :=
  match o with
  | .acquire => decide (n ≤ s.inUse)
  | _ => false

theorem inUse_acquire (s : Desk ι T) {i : ι} (hi : s.holding i = false) :
    ({ s with holding := Function.update s.holding i true } : Desk ι T).inUse = s.inUse + 1 := by
  unfold inUse
  dsimp only
  have hset : (Finset.univ.filter fun j => Function.update s.holding i true j = true) =
      insert i (Finset.univ.filter fun j => s.holding j = true) := by
    ext j
    simp only [Finset.mem_filter, Finset.mem_univ, true_and, Finset.mem_insert]
    by_cases hji : j = i
    · subst hji
      simp
    · rw [Function.update_of_ne hji]
      simp [hji]
  rw [hset, Finset.card_insert_of_notMem (by simp [hi])]

theorem inUse_release_le (s : Desk ι T) (i : ι) :
    ({ s with holding := Function.update s.holding i false } : Desk ι T).inUse ≤ s.inUse := by
  refine Finset.card_le_card fun j hj => ?_
  simp only [Finset.mem_filter, Finset.mem_univ, true_and] at hj ⊢
  by_cases hji : j = i
  · subst hji
    rw [Function.update_self] at hj
    cases hj
  · rwa [Function.update_of_ne hji] at hj

end Desk

/-! ## Crews of orderly programs -/

section

variable [Fintype ι] [DecidableEq ι] {h : ι → Handler Op Res T} {n : Nat}

/-- One step of programs that share `n` connections. -/
abbrev LeaseStep (h : ι → Handler Op Res T) (n : Nat) :
    Crew ι (LeaseOp Op) (LeaseRes Res) (Option α) (Desk ι T) → ι →
      Crew ι (LeaseOp Op) (LeaseRes Res) (Option α) (Desk ι T) → Prop :=
  Crew.Step (Desk.handle h) (Desk.full n)

/-- What holds along every interleaving: a program holds a connection exactly when it is to give
    one back, no more than `n` are out, and no panic is left. -/
structure OrderlyCrew (n : Nat)
    (C : Crew ι (LeaseOp Op) (LeaseRes Res) (Option α) (Desk ι T)) : Prop where
  balanced : ∀ i, (C.rest i).Balanced (C.state.holding i)
  settled : ∀ i, (C.rest i).Settled
  bounded : C.state.inUse ≤ n

def crewOf (L : Leasing Op Res) (p : ι → Prog Op Res α) (t : T) :
    Crew ι (LeaseOp Op) (LeaseRes Res) (Option α) (Desk ι T) where
  state := { surroundings := t, holding := fun _ => false }
  rest i := (p i).leased L false

omit [DecidableEq ι] in
theorem orderlyCrew_crewOf {L : Leasing Op Res} (hres : ∀ o, Nonempty (Res o))
    {p : ι → Prog Op Res α} (hp : ∀ i, (p i).Orderly L false) (t : T) :
    OrderlyCrew n (crewOf L p t) where
  balanced i := Prog.balanced_leased hres (hp i)
  settled i := Prog.settled_leased L (p i) false
  bounded := by simp [crewOf, Desk.inUse]

variable {C C' : Crew ι (LeaseOp Op) (LeaseRes Res) (Option α) (Desk ι T)} {i : ι}

theorem step_orderly (hstep : LeaseStep h n C i C') (hC : OrderlyCrew n C) : OrderlyCrew n C' := by
  obtain ⟨o, k, hi, hready, rfl⟩ := Crew.step_inv hstep
  have hbalanced := hC.balanced i
  have hsettled := hC.settled i
  rw [hi] at hbalanced hsettled
  obtain ⟨held, hmove, hk⟩ := hbalanced (Desk.handle h i o C.state).1
  -- What the step leaves held, and how many are out then.
  have hleft : (Desk.handle h i o C.state).2.holding = Function.update C.state.holding i held ∧
      (Desk.handle h i o C.state).2.inUse ≤ n := by
    cases o with
    | acquire =>
      obtain ⟨hfree, rfl⟩ := hmove
      refine ⟨rfl, ?_⟩
      have hroom : ¬ n ≤ C.state.inUse := by simpa [Desk.full] using hready
      have hout := Desk.inUse_acquire C.state hfree
      simp only [Desk.handle]
      omega
    | release =>
      obtain ⟨-, rfl⟩ := hmove
      exact ⟨rfl, (Desk.inUse_release_le C.state i).trans hC.bounded⟩
    | work o =>
      have hheld : held = C.state.holding i := hmove
      refine ⟨?_, hC.bounded⟩
      rw [hheld, Function.update_eq_self]
      rfl
  obtain ⟨hholding, hbounded⟩ := hleft
  refine ⟨fun j => ?_, fun j => ?_, hbounded⟩
  · dsimp only
    rw [hholding]
    by_cases hji : j = i
    · subst hji
      rwa [Function.update_self, Function.update_self]
    · rw [Function.update_of_ne hji, Function.update_of_ne hji]
      exact hC.balanced j
  · dsimp only
    by_cases hji : j = i
    · subst hji
      rw [Function.update_self]
      exact hsettled _ trivial
    · rw [Function.update_of_ne hji]
      exact hC.settled j

theorem run_orderly {is : List ι} (hrun : Run (LeaseStep h n) C is C') (hC : OrderlyCrew n C) :
    OrderlyCrew n C' :=
  hrun.inv (fun _ _ _ hC hstep => step_orderly hstep hC) hC

theorem step_of_ready {o : LeaseOp Op}
    {k : LeaseRes Res o → Prog (LeaseOp Op) (LeaseRes Res) (Option α)}
    (hi : C.rest i = .call o k) (hready : Desk.full n i o C.state = false) :
    ∃ C', LeaseStep h n C i C' := by
  refine ⟨⟨(Desk.handle h i o C.state).2,
    Function.update C.rest i (k (Desk.handle h i o C.state).1)⟩, ?_⟩
  unfold LeaseStep Crew.Step Crew.next
  rw [hi]
  dsimp only
  rw [hready]
  rfl

/-- No deadlock: where nothing can go on, everything has ended, and every connection is back. -/
theorem all_ended_of_stuck (hn : 0 < n) (hC : OrderlyCrew n C)
    (hstuck : ∀ i C', ¬ LeaseStep h n C i C') :
    ∀ i, (C.outcome i).isSome ∧ C.state.holding i = false := by
  -- A program that holds a connection could go on: its next operation is no `acquire`.
  have hnone : ∀ i, C.state.holding i = false := by
    intro i
    by_contra hheld
    rw [Bool.not_eq_false] at hheld
    have hbalanced := hC.balanced i
    have hsettled := hC.settled i
    rw [hheld] at hbalanced
    cases hrest : C.rest i with
    | ret a => rw [hrest] at hbalanced; cases hbalanced
    | panic => rw [hrest] at hsettled; exact hsettled
    | call o k =>
      have hready : Desk.full n i o C.state = false := by
        cases o with
        | acquire =>
          rw [hrest] at hbalanced
          obtain ⟨held, hmove, -⟩ := hbalanced ()
          cases hmove.1
        | release => rfl
        | work o => rfl
      obtain ⟨C', hstep⟩ := step_of_ready (h := h) hrest hready
      exact hstuck i C' hstep
  refine fun i => ⟨?_, hnone i⟩
  have hsettled := hC.settled i
  cases hrest : C.rest i with
  | ret a => simp [Crew.outcome, hrest]
  | panic => rw [hrest] at hsettled; exact hsettled.elim
  | call o k =>
    have hready : Desk.full n i o C.state = false := by
      have hout : C.state.inUse = 0 := by simp [Desk.inUse, hnone]
      cases o with
      | acquire => simp only [Desk.full, decide_eq_false_iff_not]; omega
      | release => rfl
      | work o => rfl
    obtain ⟨C', hstep⟩ := step_of_ready (h := h) hrest hready
    exact (hstuck i C' hstep).elim

/-- Every step leaves one program less to do, and the others what they had. -/
theorem step_after (hstep : LeaseStep h n C i C') :
    (C'.rest i).After (C.rest i) ∧ ∀ j, j ≠ i → C'.rest j = C.rest j := by
  obtain ⟨o, k, hi, -, rfl⟩ := Crew.step_inv hstep
  refine ⟨?_, fun j hj => Function.update_of_ne hj _ _⟩
  dsimp only
  rw [Function.update_self, hi]
  exact .intro o k _

theorem no_endless_run (f : Nat → Crew ι (LeaseOp Op) (LeaseRes Res) (Option α) (Desk ι T))
    (hf : ∀ k, ∃ i, LeaseStep h n (f k) i (f (k + 1))) : False := by
  have hwf : WellFounded (Pi.Lex WellOrderingRel fun {_ : ι} =>
      (Prog.After : Prog (LeaseOp Op) (LeaseRes Res) (Option α) → _ → Prop)) :=
    Pi.Lex.wellFounded _ fun _ => Prog.wellFounded_after
  have hless : ∀ k, Pi.Lex WellOrderingRel (fun {_ : ι} =>
      (Prog.After : Prog (LeaseOp Op) (LeaseRes Res) (Option α) → _ → Prop))
      (f (k + 1)).rest (f k).rest := by
    intro k
    obtain ⟨i, hstep⟩ := hf k
    obtain ⟨hafter, hothers⟩ := step_after hstep
    exact ⟨i, fun j hj => hothers j (ne_of_irrefl hj), hafter⟩
  -- There is no endless descent in a well-founded order.
  have hdescent : ∀ x, ∀ k, (f k).rest = x → False := by
    intro x
    induction x using hwf.induction with
    | h x ih =>
      intro k hk
      exact ih _ (hk ▸ hless k) (k + 1) rfl
  exact hdescent _ 0 rfl

end

end ApiStarter.Effect
