import Mathlib.Data.List.Sort

/-
  Pages cut out of sorted arrangements of a list.

  `le` is a total preorder on rows, so rows of equal rank may stand in either order and a list
  has several sorted arrangements. Where each page is cut out of an arrangement of its own, the
  pages hold every row once for all arrangements exactly if no run of equal rows reaches across
  the start of a page (`pages_perm_iff`).
-/

namespace ApiStarter.Relational

variable {α : Type}

/-- A permutation of the rows in which none stands before one that it should follow. -/
structure Arrangement (le : α → α → Bool) (rows arranged : List α) : Prop where
  perm : arranged.Perm rows
  sorted : arranged.Pairwise fun x y => le x y = true

/-- The rows that stand before `x` in every arrangement. -/
def countBelow (le : α → α → Bool) (rows : List α) (x : α) : Nat := rows.countP fun y => !le x y

/-- The rows that do not stand behind `x` in every arrangement, `x` included. -/
def countUpTo (le : α → α → Bool) (rows : List α) (x : α) : Nat := rows.countP fun y => le y x

/-- No run of equal rows has rows on both sides of the `n`-th place. -/
def CutsBetweenRuns (le : α → α → Bool) (rows : List α) (n : Nat) : Prop :=
  ∀ x ∈ rows, countBelow le rows x < n → countUpTo le rows x ≤ n

/-- The `i`-th page of `size` rows, counted from zero. -/
def page (size i : Nat) (rows : List α) : List α := (rows.drop (i * size)).take size

theorem pages_same (size count : Nat) (rows : List α) :
    ((List.range count).flatMap fun i => page size i rows) = rows.take (count * size) := by
  induction count with
  | zero => simp
  | succ count ih =>
    rw [List.range_succ, List.flatMap_append, ih, List.flatMap_singleton, page, ← List.take_add,
      Nat.succ_mul]

/-- Pages cut out of one list before the `i`-th and out of another from there on. -/
theorem pages_switch {size i rest : Nat} {rows rows' : List α}
    (hcover : rows'.length ≤ (i + rest) * size) :
    ((List.range (i + rest)).flatMap fun j => page size j (if j < i then rows else rows')) =
      rows.take (i * size) ++ rows'.drop (i * size) := by
  have hbefore : ((List.range i).flatMap fun j => page size j (if j < i then rows else rows')) =
      rows.take (i * size) := by
    rw [← pages_same]
    refine List.flatMap_congr fun j hj => ?_
    rw [if_pos (List.mem_range.1 hj)]
  have hafter : (((List.range rest).map fun j => i + j).flatMap fun j =>
      page size j (if j < i then rows else rows')) = rows'.drop (i * size) := by
    have hall := pages_same size (i + rest) rows'
    rw [List.range_add, List.flatMap_append, pages_same, List.take_of_length_le hcover] at hall
    have hdrop := List.append_cancel_left (hall.trans (List.take_append_drop (i * size) rows').symm)
    rw [← hdrop, List.flatMap_map, List.flatMap_map]
    refine List.flatMap_congr fun j _ => ?_
    rw [if_neg (by omega)]
  rw [List.range_add, List.flatMap_append, hbefore, hafter]

theorem page_subset {size i : Nat} {rows : List α} {x : α} (h : x ∈ page size i rows) : x ∈ rows :=
  List.mem_of_mem_drop (List.mem_of_mem_take h)

section

variable {le : α → α → Bool} (htotal : ∀ x y, le x y = true ∨ le y x = true)
  {rows arranged : List α}

theorem Arrangement.countUpTo (h : Arrangement le rows arranged) (x : α) :
    Relational.countUpTo le arranged x = Relational.countUpTo le rows x := h.perm.countP_eq _

theorem Arrangement.countBelow (h : Arrangement le rows arranged) (x : α) :
    Relational.countBelow le arranged x = Relational.countBelow le rows x := h.perm.countP_eq _

/-- The two rows beside the cut, exchanged. -/
theorem Arrangement.swap {before after : List α} {u v : α}
    (h : Arrangement le rows (before ++ u :: v :: after)) (hvu : le v u = true) :
    Arrangement le rows (before ++ v :: u :: after) where
  perm := ((List.Perm.swap u v after).append_left before).trans h.perm
  sorted := by
    have hsorted := h.sorted
    simp only [List.pairwise_append, List.pairwise_cons, List.mem_cons, forall_eq_or_imp] at hsorted ⊢
    obtain ⟨hb, ⟨⟨huv, hu⟩, hv, ha⟩, hall⟩ := hsorted
    exact ⟨hb, ⟨⟨hvu, hv⟩, hu, ha⟩, fun x hx => ⟨(hall x hx).2.1, (hall x hx).1, (hall x hx).2.2⟩⟩

/-! ## Where a row can stand -/

include htotal

theorem countBelow_lt_of_mem_take (hsorted : arranged.Pairwise fun x y => le x y = true)
    {n : Nat} {x : α} (hx : x ∈ arranged.take n) : countBelow le arranged x < n := by
  rw [← List.take_append_drop n arranged, List.pairwise_append] at hsorted
  have hbehind : (arranged.drop n).countP (fun y => !le x y) = 0 := by
    rw [List.countP_eq_zero]
    intro y hy
    simp [hsorted.2.2 x hx y hy]
  have hself : le x x = true := (htotal x x).elim id id
  have hbefore : (arranged.take n).countP (fun y => !le x y) < (arranged.take n).length := by
    refine Nat.lt_of_le_of_ne List.countP_le_length fun hall => ?_
    have hnot := List.countP_eq_length.1 hall x hx
    simp [hself] at hnot
  have hlength : (arranged.take n).length ≤ n := List.length_take_le n _
  rw [countBelow, ← List.take_append_drop n arranged, List.countP_append, hbehind]
  omega

theorem lt_countUpTo_of_mem_drop (hsorted : arranged.Pairwise fun x y => le x y = true)
    {n : Nat} {x : α} (hx : x ∈ arranged.drop n) : n < countUpTo le arranged x := by
  have hn : n < arranged.length := by
    by_contra hle
    rw [List.drop_eq_nil_of_le (Nat.le_of_not_lt hle)] at hx
    cases hx
  rw [← List.take_append_drop n arranged, List.pairwise_append] at hsorted
  have hbefore : (arranged.take n).countP (fun y => le y x) = n := by
    rw [List.countP_eq_length.2 fun y hy => hsorted.2.2 y hy x hx, List.length_take_of_le hn.le]
  have hself : 0 < (arranged.drop n).countP (fun y => le y x) :=
    List.countP_pos_iff.2 ⟨x, hx, (htotal x x).elim id id⟩
  rw [countUpTo, ← List.take_append_drop n arranged, List.countP_append, hbefore]
  omega

/-! ## Cuts between runs -/

/-- Cut between runs, every arrangement has the same rows on either side. -/
theorem Arrangement.take_eq_filter (h : Arrangement le rows arranged) {n : Nat}
    (hcut : CutsBetweenRuns le rows n) :
    arranged.take n = arranged.filter fun x => decide (Relational.countUpTo le rows x ≤ n) := by
  have hfilter := congrArg (List.filter fun x => decide (Relational.countUpTo le rows x ≤ n))
    (List.take_append_drop n arranged)
  rw [List.filter_append] at hfilter
  rw [← hfilter, List.filter_eq_self.2, List.filter_eq_nil_iff.2, List.append_nil]
  · intro x hx
    have hlt := lt_countUpTo_of_mem_drop htotal h.sorted hx
    rw [h.countUpTo] at hlt
    simp only [decide_eq_true_eq]
    omega
  · intro x hx
    have hlt := countBelow_lt_of_mem_take htotal h.sorted hx
    rw [h.countBelow] at hlt
    exact decide_eq_true (hcut x (h.perm.subset (List.mem_of_mem_take hx)) hlt)

theorem Arrangement.take_perm {other : List α} (h : Arrangement le rows arranged)
    (h' : Arrangement le rows other) {n : Nat} (hcut : CutsBetweenRuns le rows n) :
    (arranged.take n).Perm (other.take n) := by
  rw [h.take_eq_filter htotal hcut, h'.take_eq_filter htotal hcut]
  exact (h.perm.trans h'.perm.symm).filter _

/-- The first pages, each of an arrangement of its own, are the first rows of any. -/
theorem pages_perm_take {f : Nat → List α} (hf : ∀ i, Arrangement le rows (f i)) {size : Nat}
    (hcut : ∀ i, CutsBetweenRuns le rows (i * size)) (count : Nat)
    (h : Arrangement le rows arranged) :
    ((List.range count).flatMap fun i => page size i (f i)).Perm
      (arranged.take (count * size)) := by
  induction count generalizing arranged with
  | zero => simp
  | succ count ih =>
    have hnext : (f count).take (count * size) ++ page size count (f count) =
        (f count).take ((count + 1) * size) := by
      rw [page, ← List.take_add, Nat.succ_mul]
    rw [List.range_succ, List.flatMap_append, List.flatMap_singleton]
    refine ((ih (hf count)).append_right _).trans ?_
    rw [hnext]
    exact (hf count).take_perm htotal h (hcut _)

/-! ## A run across a cut -/

variable (htrans : ∀ x y z, le x y = true → le y z = true → le x z = true)
include htrans

theorem arrangement_insertionSort (rows : List α) :
    Arrangement le rows (rows.insertionSort fun x y => le x y = true) := by
  have : Std.Total fun x y => le x y = true := ⟨htotal⟩
  have : IsTrans α fun x y => le x y = true := ⟨htrans⟩
  exact ⟨List.perm_insertionSort _ _, List.pairwise_insertionSort _ _⟩

/-- Where a run reaches across a place, the two rows beside it are equal. -/
theorem exists_run_across {n : Nat} (h : Arrangement le rows arranged)
    (hcut : ¬ CutsBetweenRuns le rows n) :
    ∃ before u v after, arranged = before ++ u :: v :: after ∧ before.length + 1 = n ∧
      le v u = true := by
  simp only [CutsBetweenRuns, not_forall, Nat.not_le] at hcut
  obtain ⟨x, -, hbelow, hupTo⟩ := hcut
  rw [← h.countBelow] at hbelow
  rw [← h.countUpTo] at hupTo
  have hlength : n < arranged.length := Nat.lt_of_lt_of_le hupTo List.countP_le_length
  obtain ⟨m, rfl⟩ : ∃ m, n = m + 1 := ⟨n - 1, by omega⟩
  have hsplit : arranged = arranged.take m ++ arranged[m] :: arranged[m + 1] ::
      arranged.drop (m + 2) := by
    rw [List.getElem_cons_drop, List.getElem_cons_drop, List.take_append_drop]
  refine ⟨arranged.take m, arranged[m], arranged[m + 1], arranged.drop (m + 2), hsplit, ?_, ?_⟩
  · rw [List.length_take_of_le (by omega)]
  -- `x` is equal to both: it cannot stand before the cut altogether, nor behind it.
  have hleft : le x arranged[m] = true := by
    by_contra hnot
    have hall : ∀ y ∈ arranged.take (m + 1), (!le x y) = true := by
      intro y hy
      rw [Bool.not_eq_true']
      by_contra hxy
      rw [Bool.not_eq_false] at hxy
      obtain ⟨i, hi, rfl⟩ := List.getElem_of_mem hy
      rw [List.getElem_take] at hxy
      rw [List.length_take] at hi
      have hle : le arranged[i] arranged[m] = true := by
        rcases Nat.lt_or_ge i m with hlt | hge
        · exact List.pairwise_iff_getElem.1 h.sorted i m (by omega) (by omega) hlt
        · obtain rfl : i = m := by omega
          exact (htotal _ _).elim id id
      exact hnot (htrans _ _ _ hxy hle)
    have hcount : (arranged.take (m + 1)).countP (fun y => !le x y) = m + 1 := by
      rw [List.countP_eq_length.2 hall, List.length_take_of_le (by omega)]
    have hle : (arranged.take (m + 1)).countP (fun y => !le x y) ≤ countBelow le arranged x :=
      (List.take_sublist _ _).countP_le
    omega
  have hright : le arranged[m + 1] x = true := by
    by_contra hnot
    have hnone : (arranged.drop (m + 1)).countP (fun y => le y x) = 0 := by
      rw [List.countP_eq_zero]
      intro y hy hyx
      obtain ⟨i, hi, rfl⟩ := List.getElem_of_mem hy
      rw [List.getElem_drop] at hyx
      rw [List.length_drop] at hi
      have hle : le arranged[m + 1] arranged[m + 1 + i] = true := by
        rcases Nat.eq_zero_or_pos i with rfl | hpos
        · exact (htotal _ _).elim id id
        · exact List.pairwise_iff_getElem.1 h.sorted _ _ (by omega) (by omega) (by omega)
      exact hnot (htrans _ _ _ hle hyx)
    have hcount : countUpTo le arranged x ≤ m + 1 := by
      rw [countUpTo, ← List.take_append_drop (m + 1) arranged, List.countP_append, hnone]
      have := List.countP_le_length (p := fun y => le y x) (l := arranged.take (m + 1))
      rw [List.length_take] at this
      omega
    omega
  exact htrans _ _ _ hright hleft

/-- Where no two rows are equal, every cut is between runs. -/
theorem cutsBetweenRuns_of_antisymm (hnodup : rows.Nodup)
    (hanti : ∀ x ∈ rows, ∀ y ∈ rows, le x y = true → le y x = true → x = y) (n : Nat) :
    CutsBetweenRuns le rows n := by
  by_contra hcut
  have hsome := arrangement_insertionSort htotal htrans rows
  obtain ⟨before, u, v, after, heq, -, hvu⟩ := exists_run_across htotal htrans hsome hcut
  have hsorted := hsome.sorted
  have hdistinct := hsome.perm.nodup_iff.2 hnodup
  rw [heq] at hsome hsorted hdistinct
  have huv : le u v = true :=
    (List.pairwise_cons.1 (List.pairwise_append.1 hsorted).2.1).1 v List.mem_cons_self
  have hsame := hanti u (hsome.perm.subset (by simp)) v (hsome.perm.subset (by simp)) huv hvu
  have hnot := (List.nodup_cons.1 (List.nodup_append.1 hdistinct).2.1).1
  exact hnot (hsame ▸ List.mem_cons_self)

/-- Pages cut out of arrangements of their own hold every row once, whatever the arrangements,
    exactly if no page starts within a run of equal rows. -/
theorem pages_perm_iff (hnodup : rows.Nodup) {size count : Nat}
    (hcover : rows.length ≤ count * size) :
    (∀ f : Nat → List α, (∀ i, Arrangement le rows (f i)) →
      ((List.range count).flatMap fun i => page size i (f i)).Perm rows) ↔
      ∀ i, CutsBetweenRuns le rows (i * size) := by
  have hsome := arrangement_insertionSort htotal htrans rows
  constructor
  · intro hpages i
    by_contra hcut
    obtain ⟨before, u, v, after, heq, hlength, hvu⟩ :=
      exists_run_across htotal htrans hsome hcut
    rw [heq] at hsome
    have hswapped := hsome.swap hvu
    -- The pages before the run see it one way, those from it on the other way round.
    have hlt : i * size < count * size := by
      have hrows := hsome.perm.length_eq
      simp only [List.length_append, List.length_cons] at hrows
      omega
    obtain ⟨rest, rfl⟩ : ∃ rest, count = i + rest :=
      Nat.exists_eq_add_of_le (Nat.lt_of_mul_lt_mul_right hlt).le
    have hall := hpages
      (fun j => if j < i then before ++ u :: v :: after else before ++ v :: u :: after)
      (fun j => by split <;> assumption)
    rw [pages_switch (by rw [hswapped.perm.length_eq]; exact hcover)] at hall
    have hleft : (before ++ u :: v :: after).take (i * size) = before ++ [u] := by
      rw [← hlength, List.take_append, List.take_of_length_le (by omega)]
      simp
    have hright : (before ++ v :: u :: after).drop (i * size) = u :: after := by
      rw [← hlength, List.drop_append, List.drop_eq_nil_of_le (by omega)]
      simp
    rw [hleft, hright] at hall
    -- One of the two equal rows is on both pages.
    have htwice := (List.nodup_append.1 (hall.nodup_iff.2 hnodup)).2.2
    exact htwice u (by simp) u (by simp) rfl
  · intro hcut f hf
    refine (pages_perm_take htotal hf hcut count hsome).trans ?_
    rw [List.take_of_length_le (by rw [hsome.perm.length_eq]; exact hcover)]
    exact hsome.perm

end

end ApiStarter.Relational
