import ApiStarter.Database.Relational
import Mathlib.Logic.Function.Basic

/-
  A table without keys that holds a partial map.

  `Represents key rows m` says that the rows with key `k` are none, or exactly the one that
  `m k` names. Deleting by key and inserting under a free key are then an update of the map,
  and a search by another column finds what the map holds.
-/

namespace ApiStarter.Relational

variable {ρ κ : Type} [DecidableEq κ] {key : ρ → κ} {rows : List ρ} {m : κ → Option ρ}

def Represents (key : ρ → κ) (rows : List ρ) (m : κ → Option ρ) : Prop :=
  ∀ k, (rows.filter fun r => key r = k) = (m k).toList

theorem represents_nil : Represents key [] fun _ => none := fun _ => rfl

theorem Represents.mem_iff (h : Represents key rows m) {r : ρ} :
    r ∈ rows ↔ m (key r) = some r := by
  have hfilter : r ∈ rows ↔ r ∈ rows.filter fun r' => key r' = key r := by
    simp [List.mem_filter]
  rw [hfilter, h (key r), Option.mem_toList]

theorem Represents.key_eq (h : Represents key rows m) {k : κ} {r : ρ} (hr : m k = some r) :
    key r = k := by
  have hmem : r ∈ rows.filter fun r' => key r' = k := by
    rw [h k, hr]
    exact List.mem_singleton_self r
  simpa using (List.mem_filter.1 hmem).2

theorem Represents.delete (h : Represents key rows m) (k : κ) :
    Represents key (deleteWhere (fun r => key r == k) rows) (Function.update m k none) := by
  intro k'
  unfold deleteWhere
  rw [List.filter_filter]
  by_cases hk : k' = k
  · subst hk
    rw [Function.update_self]
    refine List.filter_eq_nil_iff.2 fun r _ => ?_
    by_cases hr : key r = k' <;> simp [hr]
  · rw [Function.update_of_ne hk, ← h k']
    refine List.filter_congr fun r _ => ?_
    by_cases hr : key r = k'
    · have hne : key r ≠ k := fun heq => hk (hr.symm.trans heq)
      simp [hr, hk]
    · simp [hr]

theorem Represents.insert (h : Represents key rows m) {r : ρ} (hfree : m (key r) = none) :
    Represents key (rows ++ [r]) (Function.update m (key r) (some r)) := by
  intro k
  rw [List.filter_append, h k]
  by_cases hk : k = key r
  · subst hk
    rw [Function.update_self, hfree]
    simp
  · rw [Function.update_of_ne hk]
    have hne : ¬ key r = k := fun heq => hk heq.symm
    simp [hne]

/-- A search finds the row of the only slot that satisfies the condition. -/
theorem Represents.find?_eq_some (h : Represents key rows m) {p : ρ → Bool} {k : κ} {r : ρ}
    (hslot : m k = some r) (hp : p r = true)
    (honly : ∀ k' r', m k' = some r' → p r' = true → k' = k) : rows.find? p = some r := by
  have hkey : key r = k := h.key_eq hslot
  have hmem : r ∈ rows := h.mem_iff.2 (hkey ▸ hslot)
  cases hfind : rows.find? p with
  | none =>
    have hnone := List.find?_eq_none.1 hfind r hmem
    exact absurd hp hnone
  | some r' =>
    have hslot' : m (key r') = some r' := h.mem_iff.1 (List.mem_of_find?_eq_some hfind)
    have hk : key r' = k := honly _ _ hslot' (List.find?_some hfind)
    rw [hk, hslot] at hslot'
    exact hslot'.symm

theorem Represents.find?_eq_none (h : Represents key rows m) {p : ρ → Bool}
    (hnone : ∀ k r, m k = some r → p r = false) : rows.find? p = none := by
  refine List.find?_eq_none.2 fun r hr => ?_
  rw [hnone _ r (h.mem_iff.1 hr)]
  simp

end ApiStarter.Relational
