import Mathlib.Data.List.Nodup
import Mathlib.Data.List.Sort
import Mathlib.Tactic.IntervalCases

/-
  Tables as lists of rows: joins, updates and deletes.

  The row types and the conditions are arbitrary. `innerJoin` lists every matching pair;
  `updateWhere` rewrites the matching rows in place; `deleteWhere` keeps the others.
-/

namespace ApiStarter.Relational

variable {α β κ : Type}

/-- `xs INNER JOIN ys ON ..`: one row for each matching pair. -/
def innerJoin (xs : List α) (ys : List β) (on : α → β → Bool) : List (α × β) :=
  xs.flatMap fun x => (ys.filter (on x)).map fun y => (x, y)

theorem mem_innerJoin {xs : List α} {ys : List β} {on : α → β → Bool} {x : α} {y : β} :
    (x, y) ∈ innerJoin xs ys on ↔ x ∈ xs ∧ y ∈ ys ∧ on x y = true := by
  simp only [innerJoin, List.mem_flatMap, List.mem_map, List.mem_filter, Prod.mk.injEq]
  constructor
  · rintro ⟨x', hx, y', ⟨hy, hon⟩, rfl, rfl⟩
    exact ⟨hx, hy, hon⟩
  · rintro ⟨hx, hy, hon⟩
    exact ⟨x, hx, y, ⟨hy, hon⟩, rfl, rfl⟩

/-- A join of rewritten rows, on a condition that reads them as before. -/
theorem innerJoin_map {γ : Type} (f : α → γ) (xs : List α) (ys : List β) (on : α → β → Bool)
    {on' : γ → β → Bool} (hon : ∀ x y, on' (f x) y = on x y) :
    innerJoin (xs.map f) ys on' = (innerJoin xs ys on).map (Prod.map f id) := by
  unfold innerJoin
  rw [List.flatMap_map, List.map_flatMap]
  refine congrArg (fun g => xs.flatMap g) (funext fun x => ?_)
  rw [List.map_map, show on' (f x) = on x from funext (hon x)]
  rfl

/-- At most one row has a given value in a column without duplicates. -/
theorem length_filter_key_le_one [BEq κ] [LawfulBEq κ] {key : α → κ} {xs : List α}
    (hnd : (xs.map key).Nodup) (k : κ) : (xs.filter fun x => k == key x).length ≤ 1 := by
  induction xs with
  | nil => simp
  | cons x xs ih =>
    rw [List.map_cons, List.nodup_cons] at hnd
    by_cases hx : k = key x
    · have hnone : xs.filter (fun y => k == key y) = [] := by
        refine List.filter_eq_nil_iff.2 fun y hy heq => hnd.1 ?_
        rw [← hx, beq_iff_eq.1 heq]
        exact List.mem_map_of_mem hy
      rw [List.filter_cons_of_pos (by simpa using hx), hnone]
      simp
    · rw [List.filter_cons_of_neg (by simpa using hx)]
      exact ih hnd.2

/-- Where every row has at most one partner, a join keeps the rows that have one. -/
theorem map_fst_innerJoin (xs : List α) (ys : List β) (on : α → β → Bool)
    (hone : ∀ x, (ys.filter (on x)).length ≤ 1) :
    (innerJoin xs ys on).map Prod.fst = xs.filter fun x => ys.any (on x) := by
  induction xs with
  | nil => rfl
  | cons x xs ih =>
    have hcons : (innerJoin (x :: xs) ys on).map Prod.fst =
        List.replicate (ys.filter (on x)).length x ++ (innerJoin xs ys on).map Prod.fst := by
      rw [innerJoin, List.flatMap_cons, List.map_append, List.map_map]
      exact congrArg (· ++ _) List.map_const'
    rw [hcons, ih]
    have hle := hone x
    have hany : ys.any (on x) = true ↔ 0 < (ys.filter (on x)).length := by
      rw [List.length_pos_iff_exists_mem, List.any_eq_true]
      simp only [List.mem_filter]
    by_cases hpartner : ys.any (on x) = true
    · rw [List.filter_cons, if_pos hpartner]
      have hlength : (ys.filter (on x)).length = 1 := by have := hany.1 hpartner; omega
      rw [hlength]
      rfl
    · rw [List.filter_cons, if_neg hpartner]
      have hlength : (ys.filter (on x)).length = 0 := by
        by_contra hne
        exact hpartner (hany.2 (by omega))
      rw [hlength]
      rfl

theorem map_fst_innerJoin_sublist (xs : List α) (ys : List β) (on : α → β → Bool)
    (hone : ∀ x, (ys.filter (on x)).length ≤ 1) :
    ((innerJoin xs ys on).map Prod.fst).Sublist xs := by
  rw [map_fst_innerJoin xs ys on hone]
  exact List.filter_sublist

/-- `UPDATE .. SET f WHERE p` -/
def updateWhere (p : α → Bool) (f : α → α) (xs : List α) : List α :=
  xs.map fun x => if p x then f x else x

/-- `DELETE .. WHERE p` -/
def deleteWhere (p : α → Bool) (xs : List α) : List α := xs.filter fun x => !p x

theorem mem_deleteWhere {p : α → Bool} {xs : List α} {x : α} :
    x ∈ deleteWhere p xs ↔ x ∈ xs ∧ p x = false := by
  simp [deleteWhere, List.mem_filter]

theorem mem_updateWhere {p : α → Bool} {f : α → α} {xs : List α} {y : α} :
    y ∈ updateWhere p f xs ↔ ∃ x ∈ xs, y = if p x then f x else x := by
  simp only [updateWhere, List.mem_map, eq_comm]

/-- An update that leaves a column alone leaves the list of its values alone. -/
theorem map_updateWhere {p : α → Bool} {f : α → α} {key : α → κ}
    (hkey : ∀ x, key (f x) = key x) (xs : List α) :
    (updateWhere p f xs).map key = xs.map key := by
  simp only [updateWhere, List.map_map]
  refine List.map_congr_left fun x _ => ?_
  simp only [Function.comp_apply]
  split
  · exact hkey x
  · rfl

/-- On a column without duplicates, two rows with the same value are the same row. -/
theorem eq_of_key_eq {key : α → κ} {xs : List α} (hnd : (xs.map key).Nodup) {x y : α}
    (hx : x ∈ xs) (hy : y ∈ xs) (hxy : key x = key y) : x = y :=
  List.inj_on_of_nodup_map hnd hx hy hxy

/-- Rows whose keys are those of a table, each once, are the rows of the table. -/
theorem perm_of_key_perm {key : α → κ} {xs ys : List α} (hnd : (ys.map key).Nodup)
    (hsub : ∀ x ∈ xs, x ∈ ys) (h : (xs.map key).Perm (ys.map key)) : xs.Perm ys := by
  have hxs : xs.Nodup := List.Nodup.of_map key (h.nodup_iff.2 hnd)
  refine (List.perm_ext_iff_of_nodup hxs (List.Nodup.of_map key hnd)).2 fun y => ⟨hsub y, ?_⟩
  intro hy
  obtain ⟨x, hx, hkey⟩ := List.mem_map.1 (h.symm.subset (List.mem_map_of_mem hy))
  rwa [← eq_of_key_eq hnd (hsub x hx) hy hkey]

/-- `find?` on a column without duplicates finds the only row with that value. -/
theorem find?_key_eq_some [DecidableEq κ] {key : α → κ} {xs : List α}
    (hnd : (xs.map key).Nodup) {k : κ} {x : α} :
    xs.find? (fun y => decide (key y = k)) = some x ↔ x ∈ xs ∧ key x = k := by
  constructor
  · intro h
    exact ⟨List.mem_of_find?_eq_some h, by simpa using List.find?_some h⟩
  · rintro ⟨hx, rfl⟩
    cases hfind : xs.find? (fun y => decide (key y = key x)) with
    | none =>
      have hnone := List.find?_eq_none.1 hfind x hx
      simp at hnone
    | some y =>
      have hy : y ∈ xs := List.mem_of_find?_eq_some hfind
      have hkey : key y = key x := by simpa using List.find?_some hfind
      rw [eq_of_key_eq hnd hy hx hkey]

/-- One more row keeps a column without duplicates exactly if no other row has its value. -/
theorem nodup_map_concat {key : α → κ} {xs : List α} (h : (xs.map key).Nodup)
    {x : α} : ((xs ++ [x]).map key).Nodup ↔ ∀ y ∈ xs, key y ≠ key x := by
  rw [List.map_append, List.nodup_append]
  constructor
  · intro hboth y hy
    exact hboth.2.2 _ (List.mem_map_of_mem hy) _ (List.mem_singleton_self _)
  · intro hne
    refine ⟨h, List.nodup_singleton _, fun k hk k' hk' => ?_⟩
    obtain ⟨y, hy, rfl⟩ := List.mem_map.mp hk
    rw [List.mem_singleton.mp hk']
    exact hne y hy

/-- A column rewritten in one row has no duplicates exactly if no other row has the value. -/
theorem nodup_map_rewritten {ι : Type} [DecidableEq ι] {key : α → ι} {column : α → κ}
    {xs : List α} (hkeys : (xs.map key).Nodup) (hcolumn : (xs.map column).Nodup) {x : α}
    (hx : x ∈ xs) (v : κ) :
    (xs.map fun y => if key y = key x then v else column y).Nodup ↔
      ∀ y ∈ xs, key y ≠ key x → column y ≠ v := by
  obtain ⟨front, back, rfl⟩ := List.append_of_mem hx
  rw [List.map_append, List.map_cons, List.nodup_middle, List.nodup_cons, ← List.map_append]
    at hkeys hcolumn
  have hothers : ∀ y ∈ front ++ back, key y ≠ key x := fun y hy heq =>
    hkeys.1 (heq ▸ List.mem_map_of_mem hy)
  have hsame : ∀ ys ⊆ front ++ back,
      ys.map (fun y => if key y = key x then v else column y) = ys.map column := fun ys hys =>
    List.map_congr_left fun y hy => if_neg (hothers y (hys hy))
  rw [List.map_append, List.map_cons, if_pos rfl, hsame front (List.subset_append_left _ _),
    hsame back (List.subset_append_right _ _), List.nodup_middle, List.nodup_cons,
    ← List.map_append, and_iff_left hcolumn.2]
  constructor
  · intro hnone y hy hne heq
    have hother : y ∈ front ++ back := by
      simp only [List.mem_append, List.mem_cons] at hy ⊢
      obtain hfront | rfl | hback := hy
      · exact .inl hfront
      · exact absurd rfl hne
      · exact .inr hback
    exact hnone (List.mem_map.mpr ⟨y, hother, heq⟩)
  · intro hall hmem
    obtain ⟨y, hy, heq⟩ := List.mem_map.mp hmem
    refine hall y ?_ (hothers y hy) heq
    simp only [List.mem_append, List.mem_cons] at hy ⊢
    exact hy.imp_right .inr

end ApiStarter.Relational
