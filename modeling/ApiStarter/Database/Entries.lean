import Mathlib.Data.List.Induction
import Mathlib.Data.List.Nodup

/-
  Maps as lists of entries, and lists of pairs in which the last one of a key counts.

  A map has at most one entry for each key (`Keyed`); two of them with the same look-ups are the
  same up to the order of their entries. `last` is the value of the last pair of a key, and
  `SameOccurrences` compares two lists of pairs key by key: they may differ in how the pairs of
  different keys are interleaved, and in nothing else.
-/

namespace ApiStarter.Entries

variable {κ β : Type} [DecidableEq κ]

/-! ## Maps -/

def Keyed (entries : List (κ × β)) : Prop := (entries.map Prod.fst).Nodup

theorem lookup_cons_ite (key k : κ) (v : β) (entries : List (κ × β)) :
    ((k, v) :: entries).lookup key = if key = k then some v else entries.lookup key := by
  rw [List.lookup_cons]
  by_cases h : key = k
  · rw [if_pos h, beq_iff_eq.2 h]
  · rw [if_neg h, beq_eq_false_iff_ne.2 h]

theorem mem_of_lookup {entries : List (κ × β)} {key : κ} {v : β}
    (h : entries.lookup key = some v) : (key, v) ∈ entries := by
  induction entries with
  | nil => cases h
  | cons entry entries ih =>
    obtain ⟨k, v'⟩ := entry
    rw [lookup_cons_ite] at h
    split at h
    next heq =>
      cases h
      rw [heq]
      exact List.mem_cons_self
    next => exact List.mem_cons_of_mem _ (ih h)

/-- A map answers with its entries. -/
theorem Keyed.lookup_eq_some_iff {entries : List (κ × β)} (h : Keyed entries) {key : κ} {v : β} :
    entries.lookup key = some v ↔ (key, v) ∈ entries := by
  refine ⟨mem_of_lookup, fun hmem => ?_⟩
  induction entries with
  | nil => cases hmem
  | cons entry entries ih =>
    obtain ⟨k, v'⟩ := entry
    unfold Keyed at h
    rw [List.map_cons, List.nodup_cons] at h
    rw [lookup_cons_ite]
    rcases List.mem_cons.1 hmem with heq | hrest
    · cases heq
      rw [if_pos rfl]
    · have hne : key ≠ k := by
        intro heq
        subst heq
        exact h.1 (List.mem_map.2 ⟨_, hrest, rfl⟩)
      rw [if_neg hne]
      exact ih h.2 hrest

/-- The look-ups determine a map up to the order of its entries. -/
theorem Keyed.perm_of_lookup {xs ys : List (κ × β)} (hxs : Keyed xs) (hys : Keyed ys)
    (h : ∀ key, xs.lookup key = ys.lookup key) : xs.Perm ys := by
  refine (List.perm_ext_iff_of_nodup (List.Nodup.of_map _ hxs) (List.Nodup.of_map _ hys)).2 ?_
  intro entry
  obtain ⟨key, v⟩ := entry
  rw [← hxs.lookup_eq_some_iff, h, hys.lookup_eq_some_iff]

theorem lookup_filter_ne {entries : List (κ × β)} {key k : κ} (h : key ≠ k) :
    (entries.filter fun kv => kv.1 ≠ k).lookup key = entries.lookup key := by
  induction entries with
  | nil => rfl
  | cons entry entries ih =>
    obtain ⟨k', v⟩ := entry
    rw [List.filter_cons, lookup_cons_ite, ← ih]
    by_cases hk : k' = k
    · have hne : key ≠ k' := fun heq => h (heq.trans hk)
      rw [if_neg (by simp [hk]), if_neg hne]
    · rw [if_pos (by simp [hk]), lookup_cons_ite]

/-! ## The last pair of a key -/

def last (key : κ) (pairs : List (κ × β)) : Option β := pairs.reverse.lookup key

theorem last_concat (key : κ) (pairs : List (κ × β)) (pair : κ × β) :
    last key (pairs ++ [pair]) = if key = pair.1 then some pair.2 else last key pairs := by
  obtain ⟨k, v⟩ := pair
  unfold last
  rw [List.reverse_append, List.reverse_singleton, List.singleton_append, lookup_cons_ite]

/-- What a fold makes of a list of pairs, where only the pairs of one key count. -/
theorem foldl_last {σ α : Type} {step : σ → κ × β → σ} {f : σ → α} {key : κ} {g : β → α}
    (hstep : ∀ s pair, f (step s pair) = if key = pair.1 then g pair.2 else f s)
    (s : σ) (pairs : List (κ × β)) :
    f (pairs.foldl step s) = ((last key pairs).map g).getD (f s) := by
  induction pairs using List.reverseRecOn with
  | nil => rfl
  | append_singleton pairs pair ih =>
    rw [List.foldl_append, List.foldl_cons, List.foldl_nil, hstep, last_concat, ih]
    split <;> rfl

theorem last_filter (key : κ) (pairs : List (κ × β)) :
    last key (pairs.filter fun pair => decide (pair.1 = key)) = last key pairs := by
  induction pairs using List.reverseRecOn with
  | nil => rfl
  | append_singleton pairs pair ih =>
    rw [List.filter_append, last_concat]
    by_cases h : pair.1 = key
    · simp only [List.filter_cons, List.filter_nil, h, decide_true, if_true, last_concat]
    · simp only [List.filter_cons, List.filter_nil, h, decide_false, Bool.false_eq_true, if_false,
        List.append_nil, Ne.symm h, ih]

/-! ## Interleavings -/

/-- The same pairs in the same order for each key. -/
def SameOccurrences (pairs pairs' : List (κ × β)) : Prop :=
  ∀ key, pairs.filter (fun pair => decide (pair.1 = key)) =
    pairs'.filter fun pair => decide (pair.1 = key)

theorem SameOccurrences.last {pairs pairs' : List (κ × β)} (h : SameOccurrences pairs pairs')
    (key : κ) : last key pairs = last key pairs' := by
  rw [← last_filter, h key, last_filter]

/-- Two neighbours with different keys may change places. -/
theorem sameOccurrences_swap {a b : κ × β} (h : a.1 ≠ b.1) (front back : List (κ × β)) :
    SameOccurrences (front ++ a :: b :: back) (front ++ b :: a :: back) := by
  intro key
  rw [List.filter_append, List.filter_append]
  congr 1
  simp only [List.filter_cons, decide_eq_true_eq]
  by_cases ha : a.1 = key
  · have hb : b.1 ≠ key := fun heq => h (ha.trans heq.symm)
    rw [if_pos ha, if_neg hb, if_neg hb, if_pos ha]
  · rw [if_neg ha, if_neg ha]

end ApiStarter.Entries
