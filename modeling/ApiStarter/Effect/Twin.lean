import ApiStarter.Effect.Prog
import Mathlib.Data.List.Forall2

/-
  Two programs side by side.

  `Twin P alike V p q`: the programs `p` and `q` perform the same operations, all of them in `P`,
  as long as `alike` relates the answers they receive, and they end in values that `V` relates.
  `Twin.run` is the two-run rule: surroundings that keep a relation between their states, and
  answer alike in related ones, lead twins to related ends. `twin_refl` says which programs are
  twins of themselves, and `TwinE.bind` and the rules around it compose fallible ones.

  `TwinUpTo view` is for fallible programs that end in the same value, or in errors of which a
  `view` shows the same; the rules say what `?` and the handlers of errors make of the view.
-/

namespace ApiStarter.Effect

variable {Op : Type} {Res : Op → Type} {S T α β γ δ ε ε' : Type} {P : Op → Prop}
  {alike : (o : Op) → Res o → Res o → Prop}

namespace Prog

inductive Twin (P : Op → Prop) (alike : (o : Op) → Res o → Res o → Prop) (V : α → β → Prop) :
    Prog Op Res α → Prog Op Res β → Prop
  | ret {a : α} {b : β} (h : V a b) : Twin P alike V (ret a) (ret b)
  | panic : Twin P alike V panic panic
  | call {o : Op} {k : Res o → Prog Op Res α} {k' : Res o → Prog Op Res β} (ho : P o)
      (h : ∀ r r', alike o r r' → Twin P alike V (k r) (k' r')) :
      Twin P alike V (call o k) (call o k')

theorem Twin.bind {V : α → β → Prop} {W : γ → δ → Prop} {p : Prog Op Res α} {q : Prog Op Res β}
    {f : α → Prog Op Res γ} {g : β → Prog Op Res δ} (hp : Twin P alike V p q)
    (hf : ∀ a b, V a b → Twin P alike W (f a) (g b)) : Twin P alike W (p.bind f) (q.bind g) := by
  induction hp with
  | ret h => exact hf _ _ h
  | panic => exact .panic
  | call ho _ ih => exact .call ho fun r r' hr => ih r r' hr

/-- A program that does not ask for anything two runs could see differently. -/
theorem twin_refl {p : Prog Op Res α}
    (hp : p.Uses fun o => P o ∧ ∀ r r', alike o r r' → r = r') : Twin P alike Eq p p := by
  induction p with
  | ret a => exact .ret rfl
  | panic => exact .panic
  | call o k ih =>
    refine .call hp.1.1 fun r r' hr => ?_
    rw [hp.1.2 r r' hr]
    exact ih r' (hp.2 r')

theorem Twin.run {V : α → β → Prop} {R : S → T → Prop} {h : Handler Op Res S}
    {h' : Handler Op Res T}
    (hR : ∀ o s t, P o → R s t → alike o (h o s).1 (h' o t).1 ∧ R (h o s).2 (h' o t).2)
    {p : Prog Op Res α} {q : Prog Op Res β} (hp : Twin P alike V p q) {s : S} {t : T}
    (hs : R s t) : Option.Rel V (p.run h s).1 (q.run h' t).1 ∧ R (p.run h s).2 (q.run h' t).2 := by
  induction hp generalizing s t with
  | ret hv => exact ⟨.some hv, hs⟩
  | panic => exact ⟨.none, hs⟩
  | call ho _ ih =>
    have hstep := hR _ s t ho hs
    exact ih _ _ hstep.1 hstep.2

end Prog

namespace Fallible

/-- Both went through, with related values, or both failed with the same error. -/
inductive Matching (V : α → β → Prop) : Except ε α → Except ε β → Prop
  | ok {a : α} {b : β} (h : V a b) : Matching V (.ok a) (.ok b)
  | error (e : ε) : Matching V (.error e) (.error e)

theorem matching_of_map_eq {f : α → γ} {g : β → γ} {r : Except ε α} {r' : Except ε β}
    (h : r.map f = r'.map g) : Matching (fun a b => f a = g b) r r' := by
  cases r with
  | error e =>
    cases r' with
    | error e' => cases h; exact .error e
    | ok b => cases h
  | ok a =>
    cases r' with
    | error e' => cases h
    | ok b => exact .ok (Except.ok.inj h)

def TwinE (P : Op → Prop) (alike : (o : Op) → Res o → Res o → Prop) (V : α → β → Prop)
    (p : Fallible Op Res ε α) (q : Fallible Op Res ε β) : Prop :=
  Prog.Twin P alike (Matching V) (ExceptT.run p) (ExceptT.run q)

variable {V : α → β → Prop} {W : γ → δ → Prop}

theorem twinE_pure {a : α} {b : β} (h : V a b) :
    TwinE P alike V (pure a : Fallible Op Res ε α) (pure b) :=
  .ret (.ok h)

theorem twinE_throw (e : ε) :
    TwinE P alike V (throw e : Fallible Op Res ε α) (throw e : Fallible Op Res ε β) :=
  .ret (.error e)

theorem twinE_ask {o : Op} (ho : P o) :
    TwinE P alike (alike o) (ask o : Fallible Op Res ε (Res o)) (ask o) :=
  .call ho fun _ _ hr => .ret (.ok hr)

theorem twinE_mapErr {f : ε' → ε} {r : Except ε' α} {r' : Except ε' β} (h : Matching V r r') :
    TwinE P alike V (mapErr f r : Fallible Op Res ε α) (mapErr f r') := by
  cases h with
  | ok h => exact twinE_pure h
  | error e => exact twinE_throw _

theorem twinE_okOr {e : ε} {a : Option α} {b : Option β} (h : Option.Rel V a b) :
    TwinE P alike V (okOr e a : Fallible Op Res ε α) (okOr e b) := by
  cases h with
  | some h => exact twinE_pure h
  | none => exact twinE_throw e

theorem TwinE.bind {p : Fallible Op Res ε α} {q : Fallible Op Res ε β}
    {f : α → Fallible Op Res ε γ} {g : β → Fallible Op Res ε δ} (hp : TwinE P alike V p q)
    (hf : ∀ a b, V a b → TwinE P alike W (f a) (g b)) : TwinE P alike W (p >>= f) (q >>= g) := by
  refine Prog.Twin.bind hp fun r r' hr => ?_
  cases hr with
  | ok h => exact hf _ _ h
  | error e => exact twinE_throw e

/-- After `result.map_err(f)?` the result, the same on both sides, is known. -/
theorem twinE_mapErr_bind {f : ε' → ε} {r : Except ε' α} {g : α → Fallible Op Res ε γ}
    {g' : α → Fallible Op Res ε δ} (h : ∀ a, r = .ok a → TwinE P alike W (g a) (g' a)) :
    TwinE P alike W (mapErr f r >>= g) (mapErr f r >>= g') := by
  cases r with
  | ok a => exact h a rfl
  | error e => exact twinE_throw _

theorem TwinE.mapErrOf {f : ε' → ε} {p : Fallible Op Res ε' α} {q : Fallible Op Res ε' β}
    (hp : TwinE P alike V p q) : TwinE P alike V (mapErrOf f p) (mapErrOf f q) := by
  refine Prog.Twin.bind hp fun r r' hr => ?_
  cases hr with
  | ok h => exact .ret (.ok h)
  | error e => exact .ret (.error _)

theorem TwinE.listMapM {f : α → Fallible Op Res ε γ} {g : β → Fallible Op Res ε δ}
    (hf : ∀ a b, V a b → TwinE P alike W (f a) (g b)) {as : List α} {bs : List β}
    (h : List.Forall₂ V as bs) : TwinE P alike (List.Forall₂ W) (as.mapM f) (bs.mapM g) := by
  induction h with
  | nil => exact twinE_pure .nil
  | cons hab _ ih =>
    rw [List.mapM_cons, List.mapM_cons]
    refine (hf _ _ hab).bind fun c d hcd => ih.bind fun cs ds hcds => ?_
    exact twinE_pure (.cons hcd hcds)

/-- The same program twice, where nothing it asks for is seen differently. -/
theorem twinE_refl {p : Fallible Op Res ε α}
    (hp : UsesE (fun o => P o ∧ ∀ r r', alike o r r' → r = r') p) : TwinE P alike Eq p p := by
  have htwin : Prog.Twin P alike Eq (ExceptT.run p) (ExceptT.run p) := Prog.twin_refl hp
  have hmono : ∀ r : Except ε α, Matching Eq r r := by
    intro r
    cases r with
    | ok a => exact .ok rfl
    | error e => exact .error e
  have hbind := htwin.bind (f := Prog.ret) (g := Prog.ret) (W := Matching Eq)
    fun r r' hr => hr ▸ .ret (hmono r)
  rwa [Prog.bind_ret] at hbind

/-! ### Up to a view of the errors -/

section

variable {V₁ V₂ : Type} {view : ε → V₁} {seen : ε' → V₂}

theorem mapError_eq_cases {r r' : Except ε α} (h : r.mapError view = r'.mapError view) :
    (∃ a, r = .ok a ∧ r' = .ok a) ∨
      ∃ e e', r = .error e ∧ r' = .error e' ∧ view e = view e' := by
  cases r with
  | ok a =>
    cases r' with
    | ok a' => cases h; exact .inl ⟨a, rfl, rfl⟩
    | error e' => cases h
  | error e =>
    cases r' with
    | ok a' => cases h
    | error e' => exact .inr ⟨e, e', rfl, rfl, Except.error.inj h⟩

def TwinUpTo (P : Op → Prop) (alike : (o : Op) → Res o → Res o → Prop) (view : ε → V₁)
    (p q : Fallible Op Res ε α) : Prop :=
  Prog.Twin P alike (fun r r' : Except ε α => r.mapError view = r'.mapError view)
    (ExceptT.run p) (ExceptT.run q)

theorem upTo_throw {e e' : ε} (h : view e = view e') :
    TwinUpTo P alike view (throw e : Fallible Op Res ε α) (throw e') :=
  .ret (congrArg Except.error h)

theorem upTo_refl {p : Fallible Op Res ε α}
    (hp : UsesE (fun o => P o ∧ ∀ r r', alike o r r' → r = r') p) : TwinUpTo P alike view p p := by
  have htwin : Prog.Twin P alike Eq (ExceptT.run p) (ExceptT.run p) := Prog.twin_refl hp
  have hbind := htwin.bind (f := Prog.ret) (g := Prog.ret)
    (W := fun r r' : Except ε α => r.mapError view = r'.mapError view)
    fun r r' hr => hr ▸ .ret rfl
  rwa [Prog.bind_ret] at hbind

theorem TwinUpTo.bind {p q : Fallible Op Res ε α} {f g : α → Fallible Op Res ε β}
    (hp : TwinUpTo P alike view p q) (hf : ∀ a, TwinUpTo P alike view (f a) (g a)) :
    TwinUpTo P alike view (p >>= f) (q >>= g) := by
  refine Prog.Twin.bind hp fun r r' hr => ?_
  obtain ⟨a, rfl, rfl⟩ | ⟨e, e', rfl, rfl, he⟩ := mapError_eq_cases hr
  · exact hf a
  · exact upTo_throw he

theorem upTo_ask_bind {o : Op} {f g : Res o → Fallible Op Res ε β} (ho : P o)
    (h : ∀ r r', alike o r r' → TwinUpTo P alike view (f r) (g r')) :
    TwinUpTo P alike view (ask o >>= f) (ask o >>= g) :=
  .call ho h

theorem upTo_mapErr {f : ε' → ε} {r r' : Except ε' α} (h : r.mapError seen = r'.mapError seen)
    (hf : ∀ e e', seen e = seen e' → view (f e) = view (f e')) :
    TwinUpTo P alike view (mapErr f r : Fallible Op Res ε α) (mapErr f r') := by
  obtain ⟨a, rfl, rfl⟩ | ⟨e, e', rfl, rfl, he⟩ := mapError_eq_cases h
  · exact .ret rfl
  · exact upTo_throw (hf e e' he)

theorem TwinUpTo.mapErrOf {f : ε' → ε} {p q : Fallible Op Res ε' α}
    (hp : TwinUpTo P alike seen p q)
    (hf : ∀ e e', seen e = seen e' → view (f e) = view (f e')) :
    TwinUpTo P alike view (mapErrOf f p) (mapErrOf f q) := by
  refine Prog.Twin.bind hp fun r r' hr => ?_
  obtain ⟨a, rfl, rfl⟩ | ⟨e, e', rfl, rfl, he⟩ := mapError_eq_cases hr
  · exact .ret rfl
  · exact .ret (congrArg Except.error (hf e e' he))

theorem TwinUpTo.tryCatch {p q : Fallible Op Res ε α} {f g : ε → Fallible Op Res ε α}
    (hp : TwinUpTo P alike view p q)
    (hf : ∀ e e', view e = view e' → TwinUpTo P alike view (f e) (g e')) :
    TwinUpTo P alike view (tryCatch p f) (tryCatch q g) := by
  refine Prog.Twin.bind hp fun r r' hr => ?_
  obtain ⟨a, rfl, rfl⟩ | ⟨e, e', rfl, rfl, he⟩ := mapError_eq_cases hr
  · exact .ret rfl
  · exact hf e e' he

theorem upTo_listMapM {f : α → Fallible Op Res ε β} (hf : ∀ a, TwinUpTo P alike view (f a) (f a))
    (as : List α) : TwinUpTo P alike view (as.mapM f) (as.mapM f) := by
  induction as with
  | nil => exact .ret rfl
  | cons a as ih =>
    rw [List.mapM_cons]
    exact (hf a).bind fun b => ih.bind fun bs => .ret rfl

end

end Fallible

end ApiStarter.Effect
