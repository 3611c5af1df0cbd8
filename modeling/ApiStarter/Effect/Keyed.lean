import Mathlib.Logic.Function.Basic

/-
  Objects under keys, and events that are each about one of them.

  `apply` lets an event act on the object under its key and on no other. So the object under a key
  is what the events about it make of it, one after the other (`applyAll_apply`), and how the
  events about different keys are interleaved makes no difference (`applyAll_congr`).
-/

namespace ApiStarter.Effect.Keyed

variable {K E A : Type} [DecidableEq K] (key : E → K) (act : E → A → A)

def apply (d : K → A) (e : E) : K → A := Function.update d (key e) (act e (d (key e)))

def applyAll (es : List E) (d : K → A) : K → A := es.foldl (apply key act) d

/-- The events about `k`. -/
def about (k : K) (es : List E) : List E := es.filter fun e => key e = k

variable {key act}

theorem apply_self (d : K → A) (e : E) : apply key act d e (key e) = act e (d (key e)) :=
  Function.update_self _ _ _

theorem apply_of_ne (d : K → A) {e : E} {k : K} (h : key e ≠ k) : apply key act d e k = d k :=
  Function.update_of_ne (Ne.symm h) _ _

/-- Two events in a row that are about different keys may change places. -/
theorem about_swap {e e' : E} (h : key e ≠ key e') (k : K) (es : List E) :
    about key k (e :: e' :: es) = about key k (e' :: e :: es) := by
  unfold about
  by_cases hk : key e = k
  · have hk' : ¬ key e' = k := fun h' => h (hk.trans h'.symm)
    simp only [List.filter_cons, hk, hk', decide_true, decide_false, Bool.false_eq_true, if_true,
      if_false]
  · simp only [List.filter_cons, hk, decide_false, Bool.false_eq_true, if_false]

theorem applyAll_apply (es : List E) (d : K → A) (k : K) :
    applyAll key act es d k = (about key k es).foldl (fun a e => act e a) (d k) := by
  induction es generalizing d with
  | nil => rfl
  | cons e es ih =>
    have hrest : applyAll key act (e :: es) d k = _ := ih (apply key act d e)
    rw [hrest]
    by_cases he : key e = k
    · subst he
      rw [apply_self, about, about, List.filter_cons_of_pos (by simp), List.foldl_cons]
    · rw [apply_of_ne d he, about, about, List.filter_cons_of_neg (by simpa using he)]

/-- Only the order of the events about the same key matters. -/
theorem applyAll_congr {es es' : List E} (h : ∀ k, about key k es = about key k es') (d : K → A) :
    applyAll key act es d = applyAll key act es' d := by
  funext k
  rw [applyAll_apply, applyAll_apply, h]

/-- An event that does nothing the second time may come as often as it likes. -/
theorem applyAll_apply_of_idempotent {e : E} (hidem : ∀ a, act e (act e a) = act e a)
    {es : List E} (hes : ∀ e' ∈ es, key e' = key e → e' = e) (d : K → A) :
    (e ∈ es → applyAll key act es d (key e) = act e (d (key e))) ∧
      (e ∉ es → applyAll key act es d (key e) = d (key e)) := by
  have hmany : ∀ (n : Nat) (a : A), (List.replicate (n + 1) e).foldl (fun a e => act e a) a =
      act e a := by
    intro n
    induction n with
    | zero => exact fun a => rfl
    | succ n ih =>
      intro a
      rw [List.replicate_succ, List.foldl_cons, ih, hidem]
  have hmem : ∀ e' ∈ about key (key e) es, e' = e := fun e' he' => by
    obtain ⟨he', hkey⟩ := List.mem_filter.1 he'
    exact hes e' he' (by simpa using hkey)
  rw [applyAll_apply, List.eq_replicate_of_mem hmem]
  constructor
  · intro he
    have hpos : 0 < (about key (key e) es).length :=
      List.length_pos_of_mem (List.mem_filter.2 ⟨he, by simp⟩)
    obtain ⟨n, hn⟩ := Nat.exists_eq_succ_of_ne_zero (Nat.ne_of_gt hpos)
    rw [hn]
    exact hmany n _
  · intro he
    have hnone : about key (key e) es = [] := by
      refine List.eq_nil_iff_forall_not_mem.2 fun e' he' => he ?_
      rw [← hmem e' he']
      exact (List.mem_filter.1 he').1
    rw [hnone]
    rfl

end ApiStarter.Effect.Keyed
