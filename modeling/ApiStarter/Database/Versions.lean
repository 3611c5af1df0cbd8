import ApiStarter.Database.Relational

/-
  Row versions of transactions that are still open.

  A transaction sees a table as it is committed, under its own versions of the rows it has
  written: `version` is the row of a keyed table it sees, and `patched` the rows of a table
  without updates, where rows have been inserted and deleted. Rows, keys and columns are
  arbitrary. `nodup_map_merged` says when a column stays unique under the versions of two
  transactions together.
-/

namespace ApiStarter.Relational

variable {α κ β : Type}

theorem contains_eq_false_iff [BEq β] [LawfulBEq β] {xs : List β} {x : β} :
    xs.contains x = false ↔ x ∉ xs := by
  rw [← Bool.not_eq_true, List.contains_iff_mem]

variable [DecidableEq κ]

/-- The row as a transaction sees it that has written `versions`. -/
def version (key : α → κ) (versions : List α) (row : α) : α :=
  (versions.find? fun v => decide (key v = key row)).getD row

/-- The versions after those of `written` were added, the older ones of these rows dropped. -/
def renew (key : α → κ) (written versions : List α) : List α :=
  written ++ versions.filter fun v => !(written.map key).contains (key v)

section

variable {key : α → κ} {versions written : List α} {row v : α}

theorem version_cases (key : α → κ) (versions : List α) (row : α) :
    (version key versions row ∈ versions ∧ key (version key versions row) = key row) ∨
      version key versions row = row ∧ ∀ v ∈ versions, key v ≠ key row := by
  unfold version
  cases hfind : versions.find? fun v => decide (key v = key row) with
  | none =>
    refine .inr ⟨rfl, fun v hv heq => ?_⟩
    have hnone := List.find?_eq_none.1 hfind v hv
    simp [heq] at hnone
  | some v =>
    exact .inl ⟨List.mem_of_find?_eq_some hfind, by simpa using List.find?_some hfind⟩

theorem key_version (key : α → κ) (versions : List α) (row : α) :
    key (version key versions row) = key row := by
  rcases version_cases key versions row with ⟨-, h⟩ | ⟨h, -⟩
  · exact h
  · rw [h]

theorem version_of_ne (h : ∀ v ∈ versions, key v ≠ key row) : version key versions row = row := by
  rcases version_cases key versions row with ⟨hmem, hkey⟩ | ⟨hrow, -⟩
  · exact absurd hkey (h _ hmem)
  · exact hrow

theorem version_mem (hv : v ∈ versions) (hkey : key v = key row) :
    version key versions row ∈ versions := by
  rcases version_cases key versions row with ⟨hmem, -⟩ | ⟨-, hnone⟩
  · exact hmem
  · exact absurd hkey (hnone v hv)

theorem mem_renew : v ∈ renew key written versions ↔
    v ∈ written ∨ v ∈ versions ∧ key v ∉ written.map key := by
  simp only [renew, List.mem_append, List.mem_filter, Bool.not_eq_true', contains_eq_false_iff]

/-- After an update of the row with the key `k`, whose result is added to the versions, the
    transaction sees what the update left. -/
theorem map_version_renew {rows : List α} {g : α → α} {k : κ} (hnd : (rows.map key).Nodup)
    (hkey : ∀ x, key (g x) = key x) (hg : ∀ x, key x ≠ k → g x = x) :
    rows.map (version key (renew key
        (((rows.map (version key versions)).map g).filter fun x => decide (key x = k)) versions)) =
      (rows.map (version key versions)).map g := by
  generalize hwritten :
    ((rows.map (version key versions)).map g).filter (fun x => decide (key x = k)) = written
  have hversion := fun x => key_version key versions x
  rw [List.map_map]
  refine List.map_congr_left fun x hx => ?_
  have hmem : ∀ v ∈ written, ∃ y ∈ rows, key y = k ∧ g (version key versions y) = v := by
    intro v hv
    rw [← hwritten, List.mem_filter, List.map_map] at hv
    obtain ⟨y, hy, rfl⟩ := List.mem_map.1 hv.1
    have hk := of_decide_eq_true hv.2
    rw [Function.comp_apply, hkey, hversion] at hk
    exact ⟨y, hy, hk, rfl⟩
  rw [Function.comp_apply]
  by_cases hxk : key x = k
  · -- The version of the updated row is the one result with its key.
    have hown : g (version key versions x) ∈ written := by
      rw [← hwritten, List.mem_filter]
      refine ⟨List.mem_map_of_mem (List.mem_map_of_mem hx), decide_eq_true ?_⟩
      rw [hkey, hversion, hxk]
    have hkeyOwn : key (g (version key versions x)) = key x := by rw [hkey, hversion]
    have hfound : version key (renew key written versions) x ∈ renew key written versions :=
      version_mem (mem_renew.2 (.inl hown)) hkeyOwn
    have hfoundKey := key_version key (renew key written versions) x
    rcases mem_renew.1 hfound with hnew | ⟨-, hold⟩
    · obtain ⟨y, hy, hyk, heq⟩ := hmem _ hnew
      rw [← heq, eq_of_key_eq hnd hy hx (hyk.trans hxk.symm)]
    · rw [hfoundKey, ← hkeyOwn] at hold
      exact absurd (List.mem_map_of_mem hown) hold
  · have hother : g (version key versions x) = version key versions x :=
      hg _ (by rwa [hversion])
    have hnone : written.find? (fun v => decide (key v = key x)) = none := by
      rw [List.find?_eq_none]
      intro v hv heq
      obtain ⟨y, -, hyk, rfl⟩ := hmem v hv
      rw [decide_eq_true_eq, hkey, hversion, hyk] at heq
      exact hxk heq.symm
    have hkept : ∀ v, key v = key x → (written.map key).contains (key v) = false := by
      intro v hv
      rw [contains_eq_false_iff]
      intro hmap
      obtain ⟨u, hu, huv⟩ := List.mem_map.1 hmap
      obtain ⟨y, -, hyk, rfl⟩ := hmem u hu
      rw [hkey, hversion, hyk, hv] at huv
      exact hxk huv.symm
    rw [hother, version, version, renew, List.find?_append, hnone, Option.none_or,
      List.find?_filter]
    congr 2
    funext v
    by_cases hv : key v = key x
    · simp only [hkept v hv, Bool.not_false, true_and, Bool.decide_eq_true]
    · simp [hv]

/-- The rows of a table without its deleted rows and with its inserted ones. -/
def patched [BEq β] (inserted deleted rows : List β) : List β :=
  deleteWhere deleted.contains rows ++ inserted

theorem mem_patched [BEq β] [LawfulBEq β] {inserted deleted rows : List β} {x : β} :
    x ∈ patched inserted deleted rows ↔ (x ∈ rows ∧ x ∉ deleted) ∨ x ∈ inserted := by
  rw [patched, List.mem_append, mem_deleteWhere, contains_eq_false_iff]

theorem patched_nil [BEq β] (rows : List β) : patched [] [] rows = rows := by
  simp [patched, deleteWhere]

/-- What a transaction saw before a statement and after it tells what the statement inserted and
    deleted. -/
theorem mem_patched_diff [BEq β] [LawfulBEq β] {inserted deleted rows after : List β} {x : β} :
    x ∈ patched
        (inserted.filter after.contains ++
          after.filter fun y => !(patched inserted deleted rows).contains y)
        (deleted ++ (patched inserted deleted rows).filter fun y => !after.contains y) rows ↔
      x ∈ after := by
  simp only [mem_patched, List.mem_append, List.mem_filter, List.contains_iff_mem,
    Bool.not_eq_true', contains_eq_false_iff]
  tauto

/-! ## Two transactions -/

theorem version_congr {row' : α} (hkey : key row = key row') (hv : v ∈ versions)
    (hrow : key v = key row) : version key versions row = version key versions row' := by
  unfold version
  rw [hkey]
  cases hfind : versions.find? fun v => decide (key v = key row') with
  | none =>
    have hnone := List.find?_eq_none.1 hfind v hv
    simp [hrow, hkey] at hnone
  | some w => rfl

/-- A column that is unique under the versions of either transaction, and in which their versions
    do not meet, is unique under the versions of both. -/
theorem nodup_map_merged {rows vs ws : List α} {column : α → β}
    (hvs : ((rows.map (version key vs)).map column).Nodup)
    (hws : ((rows.map (version key ws)).map column).Nodup)
    (hmeet : ∀ v ∈ vs, ∀ w ∈ ws, column v ≠ column w) :
    (((rows.map (version key ws)).map (version key vs)).map column).Nodup := by
  rw [List.map_map] at hvs hws ⊢
  rw [List.map_map]
  have hrows : rows.Nodup := hvs.of_map _
  have hvs := (List.nodup_map_iff_inj_on hrows).1 hvs
  have hws := (List.nodup_map_iff_inj_on hrows).1 hws
  refine (List.nodup_map_iff_inj_on hrows).2 ?_
  -- A row of the first transaction stands as that one wrote it, any other as the second sees it.
  have hmine : ∀ x, (∃ v ∈ vs, key v = key x) →
      version key vs (version key ws x) = version key vs x := by
    rintro x ⟨v, hv, hkey⟩
    exact version_congr (key_version key ws x) hv (hkey.trans (key_version key ws x).symm)
  have hother : ∀ x, (∀ v ∈ vs, key v ≠ key x) →
      version key vs (version key ws x) = version key ws x := fun x hx =>
    version_of_ne fun v hv => by rw [key_version key ws x]; exact hx v hv
  have hmixed : ∀ x ∈ rows, ∀ y ∈ rows, (∃ v ∈ vs, key v = key x) → (∀ v ∈ vs, key v ≠ key y) →
      column (version key vs x) = column (version key ws y) → x = y := by
    rintro x hx y hy ⟨v, hv, hkey⟩ hne heq
    by_cases hw : ∃ w ∈ ws, key w = key y
    · obtain ⟨w, hw, hkey'⟩ := hw
      exact absurd heq (hmeet _ (version_mem hv hkey) _ (version_mem hw hkey'))
    · simp only [not_exists, not_and] at hw
      rw [version_of_ne hw, ← version_of_ne hne] at heq
      exact hvs x hx y hy heq
  intro x hx y hy heq
  simp only [Function.comp_apply] at heq
  by_cases hxv : ∃ v ∈ vs, key v = key x <;> by_cases hyv : ∃ v ∈ vs, key v = key y
  · rw [hmine x hxv, hmine y hyv] at heq
    exact hvs x hx y hy heq
  · simp only [not_exists, not_and] at hyv
    rw [hmine x hxv, hother y hyv] at heq
    exact hmixed x hx y hy hxv hyv heq
  · simp only [not_exists, not_and] at hxv
    rw [hother x hxv, hmine y hyv] at heq
    exact (hmixed y hy x hx hyv hxv heq.symm).symm
  · simp only [not_exists, not_and] at hxv hyv
    rw [hother x hxv, hother y hyv] at heq
    exact hws x hx y hy heq

end

end ApiStarter.Relational
