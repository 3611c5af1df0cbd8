import Mathlib.Data.List.Basic

/-
  Finite runs of a labelled transition system.

  `Run Step s ls s'` says that the labels `ls` lead from `s` to `s'`. The rules here are over
  arbitrary states and labels:
  * `Run.inv`: what every step preserves, every run preserves.
  * `Run.inv_of_labels`: the same for steps whose labels are all allowed by `P`.
  * `Run.append_inv`, `Run.append`: runs split and compose at any point.
  * `Run.mono`: a run in a relation that allows more.
  * `Run.simulates`: a step-by-step simulation carries over to runs, label by label.
  * `Run.abstracts`: the same for a function of the state, where some steps may leave it alone.
-/

namespace ApiStarter.Effect

variable {S T L M : Type}

inductive Run (Step : S → L → S → Prop) : S → List L → S → Prop
  | nil (s : S) : Run Step s [] s
  | cons {s s' s'' : S} {l : L} {ls : List L} (hstep : Step s l s') (hrun : Run Step s' ls s'') :
      Run Step s (l :: ls) s''

namespace Run

variable {Step : S → L → S → Prop} {s s' s'' : S} {ls ls' : List L}

theorem append (h₁ : Run Step s ls s') (h₂ : Run Step s' ls' s'') :
    Run Step s (ls ++ ls') s'' := by
  induction h₁ with
  | nil s => exact h₂
  | cons hstep _ ih => exact .cons hstep (ih h₂)

theorem append_inv (h : Run Step s (ls ++ ls') s'') :
    ∃ s', Run Step s ls s' ∧ Run Step s' ls' s'' := by
  induction ls generalizing s with
  | nil => exact ⟨s, .nil s, h⟩
  | cons l ls ih =>
    cases h with
    | cons hstep hrun =>
      obtain ⟨s', h₁, h₂⟩ := ih hrun
      exact ⟨s', .cons hstep h₁, h₂⟩

theorem cons_inv {l : L} (h : Run Step s (l :: ls) s'') :
    ∃ s', Step s l s' ∧ Run Step s' ls s'' := by
  cases h with
  | cons hstep hrun => exact ⟨_, hstep, hrun⟩

/-- The invariant rule, for runs whose labels all satisfy `P`. -/
theorem inv_of_labels {P : L → Prop} {I : S → Prop}
    (hI : ∀ s l s', P l → I s → Step s l s' → I s') (h : Run Step s ls s')
    (hP : ∀ l ∈ ls, P l) (hs : I s) : I s' := by
  induction h with
  | nil s => exact hs
  | cons hstep _ ih =>
    have hhead := hI _ _ _ (hP _ List.mem_cons_self) hs hstep
    exact ih (fun l hl => hP l (List.mem_cons_of_mem _ hl)) hhead

theorem inv {I : S → Prop} (hI : ∀ s l s', I s → Step s l s' → I s') (h : Run Step s ls s')
    (hs : I s) : I s' :=
  h.inv_of_labels (P := fun _ => True) (fun s l s' _ => hI s l s') (fun _ _ => trivial) hs

theorem mono {Step' : S → L → S → Prop} (hStep : ∀ s l s', Step s l s' → Step' s l s')
    (h : Run Step s ls s') : Run Step' s ls s' := by
  induction h with
  | nil s => exact .nil s
  | cons hstep _ ih => exact .cons (hStep _ _ _ hstep) ih

/-- Forward simulation: if every step from related states is matched by a step with the
    translated label that ends in related states, then so is every run. -/
theorem simulates {P : L → Prop} {Abs : T → M → T → Prop} {R : S → T → Prop} {f : L → M}
    (hR : ∀ s l s' t, P l → R s t → Step s l s' → ∃ t', Abs t (f l) t' ∧ R s' t')
    (h : Run Step s ls s') (hP : ∀ l ∈ ls, P l) {t : T} (hst : R s t) :
    ∃ t', Run Abs t (ls.map f) t' ∧ R s' t' := by
  induction h generalizing t with
  | nil s => exact ⟨t, .nil t, hst⟩
  | cons hstep _ ih =>
    obtain ⟨t₁, habs, hst₁⟩ := hR _ _ _ _ (hP _ List.mem_cons_self) hst hstep
    obtain ⟨t₂, hrun, hst₂⟩ := ih (fun l hl => hP l (List.mem_cons_of_mem _ hl)) hst₁
    exact ⟨t₂, .cons habs hrun, hst₂⟩

/-- Forward simulation with stuttering: a step whose label has no translation leaves the abstract
    state alone. -/
theorem abstracts {I : S → Prop} {Abs : T → M → T → Prop} {g : S → T} {f : L → Option M}
    (hI : ∀ s l s', I s → Step s l s' → I s')
    (hg : ∀ s l s', I s → Step s l s' → (f l).elim (g s' = g s) fun m => Abs (g s) m (g s'))
    (h : Run Step s ls s') (hs : I s) : Run Abs (g s) (ls.filterMap f) (g s') := by
  induction h with
  | nil s => exact .nil _
  | @cons s s₁ s' l ls hstep _ ih =>
    have hhead := hg s l s₁ hs hstep
    have htail := ih (hI s l s₁ hs hstep)
    rw [List.filterMap_cons]
    cases hl : f l with
    | none =>
      rw [hl] at hhead
      rwa [show g s₁ = g s from hhead] at htail
    | some m =>
      rw [hl] at hhead
      exact .cons hhead htail

end Run

/-- The steps of `Step` that are taken from a state where `G` allows them. -/
def Guarded (Step : S → L → S → Prop) (G : S → L → Prop) (s : S) (l : L) (s' : S) : Prop :=
  G s l ∧ Step s l s'

/-- A guard that follows from another one wherever an invariant holds. -/
theorem Run.guarded_mono {Step : S → L → S → Prop} {G G' : S → L → Prop} {I : S → Prop} {s s' : S}
    {ls : List L} (hI : ∀ s l s', I s → Step s l s' → I s') (hG : ∀ s l, I s → G s l → G' s l)
    (h : Run (Guarded Step G) s ls s') (hs : I s) : Run (Guarded Step G') s ls s' := by
  induction h with
  | nil s => exact .nil s
  | cons hstep _ ih =>
    exact .cons ⟨hG _ _ hs hstep.1, hstep.2⟩ (ih (hI _ _ _ hs hstep.2))

end ApiStarter.Effect
