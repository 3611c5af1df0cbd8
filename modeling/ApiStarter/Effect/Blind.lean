import ApiStarter.Effect.Prog

/-
  Programs that do not tell certain answers apart.

  `alike` relates two answers to one operation. `Blind alike p` says that at related answers `p`
  goes on in the same way, however far it has come. `Blind.run_eq` is the two-run rule: two
  surroundings that always answer alike, and leave the same states, give the same run.
-/

namespace ApiStarter.Effect

namespace Prog

variable {Op : Type} {Res : Op → Type} {S α β : Type} {alike : (o : Op) → Res o → Res o → Prop}

def Blind (alike : (o : Op) → Res o → Res o → Prop) : Prog Op Res α → Prop
  | ret _ => True
  | panic => True
  | call o k => (∀ r r', alike o r r' → k r = k r') ∧ ∀ r, (k r).Blind alike

theorem Blind.bind {p : Prog Op Res α} {f : α → Prog Op Res β} (hp : p.Blind alike)
    (hf : ∀ a, (f a).Blind alike) : (p.bind f).Blind alike := by
  induction p with
  | ret a => exact hf a
  | panic => trivial
  | call o k ih =>
    refine ⟨fun r r' h => ?_, fun r => ih r (hp.2 r)⟩
    exact congrArg (fun p => p.bind f) (hp.1 r r' h)

theorem Blind.run_eq {h h' : Handler Op Res S}
    (halike : ∀ o s, alike o (h o s).1 (h' o s).1 ∧ (h o s).2 = (h' o s).2)
    {p : Prog Op Res α} (hp : p.Blind alike) (s : S) : p.run h s = p.run h' s := by
  induction p generalizing s with
  | ret a => rfl
  | panic => rfl
  | call o k ih =>
    rw [run_call, run_call, (halike o s).2, hp.1 _ _ (halike o s).1]
    exact ih _ (hp.2 _) _

end Prog

namespace Fallible

variable {Op : Type} {Res : Op → Type} {α β ε ε' : Type}
  {alike : (o : Op) → Res o → Res o → Prop}

theorem blind_mapErr_bind {f : ε' → ε} {r : Except ε' α} {g : α → Fallible Op Res ε β}
    (hg : ∀ a, Prog.Blind alike (ExceptT.run (g a))) :
    Prog.Blind alike (ExceptT.run (mapErr f r >>= g)) := by
  cases r with
  | ok a => exact hg a
  | error e => trivial

end Fallible

end ApiStarter.Effect
