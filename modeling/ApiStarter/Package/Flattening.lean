import ApiStarter.Database.Entries
import ApiStarter.Package.Validation
import Mathlib

/-
  What `to_error` makes of a tree of validation errors.

  A tree is listed in the order its maps are iterated in, so a statement for all trees is one for
  all iteration orders. `leaves` is the tree read as paths: each field whose rules were checked,
  with the names and indices that lead to it. `collect` pushes the messages of the leaves one
  after another (`collect_eq`); names without dots keep the texts of two paths apart
  (`pathText_injOn`), so each leaf fills an entry of its own (`toError_flattens`).
-/

namespace ApiStarter.Validation

open ApiStarter.Entries ApiStarter.Errdef

/-! ## Paths -/

/-- Names and indices joined by dots. -/
def pathText (path : List String) : String := ".".intercalate path

/-- A name as Rust fields have it. -/
structure FieldName (name : String) : Prop where
  nonempty : name ≠ ""
  noDot : '.' ∉ name.toList

theorem fieldName_toString (index : Nat) : FieldName (toString index) where
  nonempty := fun h => by
    have hlist := congrArg String.toList h
    simp at hlist
  noDot := fun h => by
    have hdigits : (toString index).toList = Nat.toDigits 10 index := by
      simp [Nat.repr]
    rw [hdigits] at h
    exact absurd (Nat.isDigit_of_mem_toDigits (by omega) (by omega) h) (by decide)

theorem pathText_ne_empty {path : List String} (hne : path ≠ [])
    (h : ∀ name ∈ path, FieldName name) :
    pathText path ≠ "" := by
  cases path with
  | nil => exact absurd rfl hne
  | cons name rest =>
    have hname := (h name List.mem_cons_self).nonempty
    unfold pathText
    by_cases hrest : rest = []
    · rw [hrest, String.intercalate_singleton]
      exact hname
    · rw [String.intercalate_cons_of_ne_nil hrest]
      intro hempty
      have hlength := congrArg String.length hempty
      simp at hlength

theorem pathText_concat {path : List String} (h : path ≠ []) (name : String) :
    pathText (path ++ [name]) = pathText path ++ "." ++ name := by
  unfold pathText
  rw [String.intercalate_append_of_ne_nil h (List.cons_ne_nil _ _), String.intercalate_singleton]

theorem joinPath_pathText {path : List String} (h : ∀ name ∈ path, FieldName name) (name : String) :
    joinPath (pathText path) name = pathText (path ++ [name]) := by
  unfold joinPath
  by_cases hpath : path = []
  · subst hpath
    rfl
  · have hne := pathText_ne_empty hpath h
    rw [if_neg (by simpa using hne), pathText_concat hpath]

/-- The dots of a path are those between its names. -/
theorem pathText_injOn {path path' : List String} (hne : path ≠ []) (hne' : path' ≠ [])
    (h : ∀ name ∈ path, FieldName name) (h' : ∀ name ∈ path', FieldName name)
    (heq : pathText path = pathText path') : path = path' := by
  have hsplit : ∀ {path : List String}, path ≠ [] → (∀ name ∈ path, FieldName name) →
      (pathText path).toList.splitOn '.' = path.map String.toList := by
    intro path hne h
    unfold pathText
    rw [String.toList_intercalate]
    refine List.splitOn_intercalate '.' ?_ (by simpa using hne)
    intro chars hchars
    obtain ⟨name, hname, rfl⟩ := List.mem_map.1 hchars
    exact (h name hname).noDot
  have hlists : path.map String.toList = path'.map String.toList := by
    rw [← hsplit hne h, ← hsplit hne' h', heq]
  exact List.map_injective_iff.2 (fun _ _ => String.toList_injective) hlists

/-! ## Leaves -/

abbrev Leaf := List String × List FieldError

/-- The leaf, seen from above the name. -/
def below (name : String) (leaf : Leaf) : Leaf := (name :: leaf.1, leaf.2)

mutual

def leaves : List (String × ErrorsKind) → List Leaf
  | [] => []
  | (name, kind) :: rest => (leavesOfKind kind).map (below name) ++ leaves rest

def leavesOfKind : ErrorsKind → List Leaf
  | .field errors => [([], errors)]
  | .struct fields => leaves fields
  | .list items => leavesOfItems items

def leavesOfItems : List (Nat × List (String × ErrorsKind)) → List Leaf
  | [] => []
  | (index, nested) :: rest => (leaves nested).map (below (toString index)) ++ leavesOfItems rest

end

mutual

/-- Maps have each key once, and the names are plain. -/
def WellFormed : List (String × ErrorsKind) → Prop
  | [] => True
  | (name, kind) :: rest =>
    (FieldName name ∧ name ∉ rest.map Prod.fst) ∧ WellFormedKind kind ∧ WellFormed rest

def WellFormedKind : ErrorsKind → Prop
  | .field _ => True
  | .struct fields => WellFormed fields
  | .list items => WellFormedItems items

def WellFormedItems : List (Nat × List (String × ErrorsKind)) → Prop
  | [] => True
  | (index, nested) :: rest =>
    index ∉ rest.map Prod.fst ∧ WellFormed nested ∧ WellFormedItems rest

end

/-! ## What is pushed -/

/-- The violations of a leaf below a path. -/
def pushed (base : List String) (leaf : Leaf) : List (String × String) :=
  leaf.2.map fun error => (pathText (base ++ leaf.1), messageFor error)

def pushAll (target : Error) (violations : List (String × String)) : Error :=
  violations.foldl (fun target violation => target.pushViolation violation.1 violation.2) target

theorem pushed_below (base : List String) (name : String) :
    pushed base ∘ below name = pushed (base ++ [name]) := by
  funext leaf
  unfold pushed below
  rw [Function.comp_apply, List.append_assoc, List.singleton_append]

theorem pushAll_append (target : Error) (violations violations' : List (String × String)) :
    pushAll target (violations ++ violations') = pushAll (pushAll target violations) violations' :=
  List.foldl_append

theorem fieldName_concat {base : List String} (h : ∀ name ∈ base, FieldName name) {name : String}
    (hname : FieldName name) : ∀ name' ∈ base ++ [name], FieldName name' := by
  intro name' hmem
  rcases List.mem_append.1 hmem with hold | hnew
  · exact h name' hold
  · rw [List.mem_singleton.1 hnew]
    exact hname

mutual

/-- `collect` pushes the messages of the leaves, each under its path. -/
theorem collect_eq {base : List String} (hbase : ∀ name ∈ base, FieldName name) (target : Error) :
    ∀ fields, WellFormed fields → collect (pathText base) target fields =
      pushAll target ((leaves fields).flatMap (pushed base))
  | [], _ => rfl
  | (name, kind) :: rest, h => by
    unfold WellFormed at h
    obtain ⟨⟨hname, -⟩, hkind, hrest⟩ := h
    have hhead := collectKind_eq (fieldName_concat hbase hname) (by simp) target kind hkind
    unfold collect leaves
    rw [joinPath_pathText hbase, hhead, collect_eq hbase _ rest hrest, List.flatMap_append,
      List.flatMap_map, pushAll_append]
    rw [show (fun leaf => pushed base (below name leaf)) = pushed (base ++ [name]) from
      pushed_below base name]

theorem collectKind_eq {base : List String} (hbase : ∀ name ∈ base, FieldName name)
    (hne : base ≠ [])
    (target : Error) : ∀ kind, WellFormedKind kind → collectKind (pathText base) target kind =
      pushAll target ((leavesOfKind kind).flatMap (pushed base))
  | .field errors, _ => by
    unfold collectKind leavesOfKind pushAll
    rw [List.flatMap_singleton, pushed, List.foldl_map, List.append_nil]
  | .struct fields, h => by
    unfold collectKind leavesOfKind
    exact collect_eq hbase target fields (by unfold WellFormedKind at h; exact h)
  | .list items, h => by
    unfold collectKind leavesOfKind
    exact collectItems_eq hbase hne target items (by unfold WellFormedKind at h; exact h)

theorem collectItems_eq {base : List String} (hbase : ∀ name ∈ base, FieldName name)
    (hne : base ≠ [])
    (target : Error) : ∀ items, WellFormedItems items → collectItems (pathText base) target items =
      pushAll target ((leavesOfItems items).flatMap (pushed base))
  | [], _ => rfl
  | (index, nested) :: rest, h => by
    unfold WellFormedItems at h
    obtain ⟨-, hnested, hrest⟩ := h
    have hhead := collect_eq (fieldName_concat hbase (fieldName_toString index)) target nested
      hnested
    unfold collectItems leavesOfItems
    rw [← pathText_concat hne, hhead, collectItems_eq hbase hne _ rest hrest, List.flatMap_append,
      List.flatMap_map, pushAll_append]
    rw [show (fun leaf => pushed base (below (toString index) leaf)) =
      pushed (base ++ [toString index]) from pushed_below base _]

end

/-! ## What is filed -/

theorem lookup_pushInto (key field message : String) (violations : List (String × List String)) :
    (Error.pushInto field message violations).lookup key =
      if key = field then some ((violations.lookup field).getD [] ++ [message])
      else violations.lookup key := by
  induction violations with
  | nil => exact lookup_cons_ite key field [message] []
  | cons entry violations ih =>
    obtain ⟨k, messages⟩ := entry
    unfold Error.pushInto
    by_cases hk : k = field
    · subst hk
      rw [if_pos rfl, lookup_cons_ite, lookup_cons_ite, lookup_cons_ite, if_pos rfl]
      split <;> rfl
    · rw [if_neg hk, lookup_cons_ite, lookup_cons_ite, lookup_cons_ite, if_neg (Ne.symm hk), ih]
      by_cases hkey : key = k
      · subst hkey
        rw [if_pos rfl, if_neg hk, if_pos rfl]
      · rw [if_neg hkey, if_neg hkey]

theorem keys_pushInto (field message : String) (violations : List (String × List String)) :
    (Error.pushInto field message violations).map Prod.fst =
      if field ∈ violations.map Prod.fst then violations.map Prod.fst
      else violations.map Prod.fst ++ [field] := by
  induction violations with
  | nil => rfl
  | cons entry violations ih =>
    obtain ⟨k, messages⟩ := entry
    unfold Error.pushInto
    by_cases hk : k = field
    · subst hk
      rw [if_pos rfl, List.map_cons, List.map_cons, if_pos List.mem_cons_self]
    · rw [if_neg hk, List.map_cons, ih, List.map_cons]
      simp only [List.mem_cons, Ne.symm hk, false_or]
      split <;> rfl

/-- The map after the violations have been pushed one by one. -/
def filed (violations : List (String × String)) : List (String × List String) :=
  violations.foldl (fun filed violation => Error.pushInto violation.1 violation.2 filed) []

theorem filed_concat (violations : List (String × String)) (violation : String × String) :
    filed (violations ++ [violation]) =
      Error.pushInto violation.1 violation.2 (filed violations) := by
  unfold filed
  rw [List.foldl_append, List.foldl_cons, List.foldl_nil]

theorem keyed_filed (violations : List (String × String)) : Keyed (filed violations) := by
  induction violations using List.reverseRecOn with
  | nil => exact List.nodup_nil
  | append_singleton violations violation ih =>
    unfold Keyed
    rw [filed_concat, keys_pushInto]
    split
    · exact ih
    next hnew =>
      refine List.nodup_append.2 ⟨ih, List.nodup_singleton _, ?_⟩
      intro key hkey key' hkey' heq
      rw [List.mem_singleton.1 hkey'] at heq
      exact hnew (heq ▸ hkey)

/-- The messages that were pushed under a key. -/
def under (key : String) (violations : List (String × String)) : List String :=
  (violations.filter fun violation => decide (violation.1 = key)).map Prod.snd

theorem under_append (key : String) (violations violations' : List (String × String)) :
    under key (violations ++ violations') = under key violations ++ under key violations' := by
  unfold under
  rw [List.filter_append, List.map_append]

theorem lookup_filed (key : String) (violations : List (String × String)) :
    (filed violations).lookup key =
      if under key violations = [] then none else some (under key violations) := by
  induction violations using List.reverseRecOn with
  | nil => rfl
  | append_singleton violations violation ih =>
    rw [filed_concat, lookup_pushInto, under_append]
    by_cases hkey : violation.1 = key
    · subst hkey
      have hone : under violation.1 [violation] = [violation.2] := by simp [under]
      have hne : under violation.1 violations ++ [violation.2] ≠ [] := by simp
      rw [if_pos rfl, ih, hone, if_neg hne]
      split
      next hnone => rw [hnone]; rfl
      next => rfl
    · have hone : under key [violation] = [] := by simp [under, hkey]
      rw [if_neg (Ne.symm hkey), hone, List.append_nil, ih]

theorem pushAll_validation (err : ValidationError) (violations : List (String × String)) :
    pushAll (.validation err) violations = .validation { err with
      fieldViolations := violations.foldl
        (fun filed violation => Error.pushInto violation.1 violation.2 filed)
        err.fieldViolations } := by
  induction violations generalizing err with
  | nil => rfl
  | cons violation violations ih => exact ih _

theorem toError_eq {errors : ValidationErrors} (h : WellFormed errors) :
    toError errors = .validation { message := "failed payload validation"
                                   fieldViolations := filed ((leaves errors).flatMap (pushed [])) } := by
  have hcollect := @collect_eq [] (fun _ hmem => absurd hmem List.not_mem_nil)
    (Error.invalid "failed payload validation") errors h
  exact hcollect.trans (pushAll_validation _ _)

/-! ## Each leaf for itself -/

mutual

theorem fieldName_leaves : ∀ fields, WellFormed fields → ∀ leaf ∈ leaves fields,
    ∀ name ∈ leaf.1, FieldName name
  | [], _ => fun _ hleaf => absurd hleaf List.not_mem_nil
  | (name, kind) :: rest, h => by
    unfold WellFormed at h
    obtain ⟨⟨hname, -⟩, hkind, hrest⟩ := h
    intro leaf hleaf
    unfold leaves at hleaf
    rcases List.mem_append.1 hleaf with hhead | htail
    · obtain ⟨inner, hinner, rfl⟩ := List.mem_map.1 hhead
      exact List.forall_mem_cons.2 ⟨hname, fieldName_leavesOfKind kind hkind inner hinner⟩
    · exact fieldName_leaves rest hrest leaf htail

theorem fieldName_leavesOfKind : ∀ kind, WellFormedKind kind → ∀ leaf ∈ leavesOfKind kind,
    ∀ name ∈ leaf.1, FieldName name
  | .field errors, _ => by
    intro leaf hleaf
    unfold leavesOfKind at hleaf
    rw [List.mem_singleton.1 hleaf]
    exact fun _ hmem => absurd hmem List.not_mem_nil
  | .struct fields, h => by
    unfold WellFormedKind at h
    unfold leavesOfKind
    exact fieldName_leaves fields h
  | .list items, h => by
    unfold WellFormedKind at h
    unfold leavesOfKind
    exact fieldName_leavesOfItems items h

theorem fieldName_leavesOfItems : ∀ items, WellFormedItems items → ∀ leaf ∈ leavesOfItems items,
    ∀ name ∈ leaf.1, FieldName name
  | [], _ => fun _ hleaf => absurd hleaf List.not_mem_nil
  | (index, nested) :: rest, h => by
    unfold WellFormedItems at h
    obtain ⟨-, hnested, hrest⟩ := h
    intro leaf hleaf
    unfold leavesOfItems at hleaf
    rcases List.mem_append.1 hleaf with hhead | htail
    · obtain ⟨inner, hinner, rfl⟩ := List.mem_map.1 hhead
      exact List.forall_mem_cons.2
        ⟨fieldName_toString index, fieldName_leaves nested hnested inner hinner⟩
    · exact fieldName_leavesOfItems rest hrest leaf htail

end

/-- The first name of a leaf's path is a key of the map. -/
theorem leaves_head : ∀ {fields leaf}, leaf ∈ leaves fields →
    ∃ name ∈ fields.map Prod.fst, ∃ path, leaf.1 = name :: path
  | (name, kind) :: rest, leaf, hleaf => by
    unfold leaves at hleaf
    rcases List.mem_append.1 hleaf with hhead | htail
    · obtain ⟨inner, -, rfl⟩ := List.mem_map.1 hhead
      exact ⟨name, List.mem_cons_self, inner.1, rfl⟩
    · obtain ⟨name', hname', path, hpath⟩ := leaves_head htail
      exact ⟨name', List.mem_cons_of_mem _ hname', path, hpath⟩

theorem leavesOfItems_head : ∀ {items leaf}, leaf ∈ leavesOfItems items →
    ∃ index ∈ items.map Prod.fst, ∃ path, leaf.1 = toString index :: path
  | (index, nested) :: rest, leaf, hleaf => by
    unfold leavesOfItems at hleaf
    rcases List.mem_append.1 hleaf with hhead | htail
    · obtain ⟨inner, -, rfl⟩ := List.mem_map.1 hhead
      exact ⟨index, List.mem_cons_self, inner.1, rfl⟩
    · obtain ⟨index', hindex', path, hpath⟩ := leavesOfItems_head htail
      exact ⟨index', List.mem_cons_of_mem _ hindex', path, hpath⟩

/-- A new name in front keeps paths apart. -/
theorem keyed_below_append {name : String} {inner outer : List Leaf} (hinner : Keyed inner)
    (houter : Keyed outer) (hnew : ∀ leaf ∈ outer, ∀ path, leaf.1 ≠ name :: path) :
    Keyed (inner.map (below name) ++ outer) := by
  unfold Keyed
  rw [List.map_append, List.map_map]
  refine List.nodup_append.2 ⟨?_, houter, ?_⟩
  · rw [show Prod.fst ∘ below name = (name :: ·) ∘ Prod.fst from rfl, ← List.map_map]
    exact List.Nodup.map (List.cons_injective) hinner
  · intro path hpath path' hpath' heq
    subst heq
    obtain ⟨leaf, -, rfl⟩ := List.mem_map.1 hpath
    obtain ⟨leaf', hleaf', hsame⟩ := List.mem_map.1 hpath'
    exact hnew leaf' hleaf' leaf.1 hsame

mutual

/-- No two leaves have the same path. -/
theorem keyed_leaves : ∀ fields, WellFormed fields → Keyed (leaves fields)
  | [], _ => List.nodup_nil
  | (name, kind) :: rest, h => by
    unfold WellFormed at h
    obtain ⟨⟨-, hnew⟩, hkind, hrest⟩ := h
    unfold leaves
    refine keyed_below_append (keyed_leavesOfKind kind hkind) (keyed_leaves rest hrest) ?_
    intro leaf hleaf path hpath
    obtain ⟨name', hname', path', hpath'⟩ := leaves_head hleaf
    rw [hpath] at hpath'
    exact hnew ((List.cons.inj hpath').1 ▸ hname')

theorem keyed_leavesOfKind : ∀ kind, WellFormedKind kind → Keyed (leavesOfKind kind)
  | .field errors, _ => by
    unfold leavesOfKind
    exact List.nodup_singleton _
  | .struct fields, h => by
    unfold WellFormedKind at h
    unfold leavesOfKind
    exact keyed_leaves fields h
  | .list items, h => by
    unfold WellFormedKind at h
    unfold leavesOfKind
    exact keyed_leavesOfItems items h

theorem keyed_leavesOfItems : ∀ items, WellFormedItems items → Keyed (leavesOfItems items)
  | [], _ => List.nodup_nil
  | (index, nested) :: rest, h => by
    unfold WellFormedItems at h
    obtain ⟨hnew, hnested, hrest⟩ := h
    unfold leavesOfItems
    refine keyed_below_append (keyed_leaves nested hnested) (keyed_leavesOfItems rest hrest) ?_
    intro leaf hleaf path hpath
    obtain ⟨index', hindex', path', hpath'⟩ := leavesOfItems_head hleaf
    rw [hpath] at hpath'
    have hindex : index = index' := Nat.repr_injective (List.cons.inj hpath').1
    exact hnew (hindex ▸ hindex')

end

theorem leaves_ne_nil {fields : List (String × ErrorsKind)} {leaf : Leaf}
    (h : leaf ∈ leaves fields) : leaf.1 ≠ [] := by
  obtain ⟨name, -, path, hpath⟩ := leaves_head h
  rw [hpath]
  exact List.cons_ne_nil _ _

/-- No two leaves share the text of their paths. -/
theorem nodup_pathText_leaves {errors : ValidationErrors} (h : WellFormed errors) :
    ((leaves errors).map fun leaf => pathText leaf.1).Nodup := by
  have hpaths : ((leaves errors).map Prod.fst).Nodup := keyed_leaves errors h
  rw [show (fun leaf : Leaf => pathText leaf.1) = pathText ∘ Prod.fst from rfl, ← List.map_map]
  refine List.Nodup.map_on ?_ hpaths
  intro path hpath path' hpath' heq
  obtain ⟨leaf, hleaf, rfl⟩ := List.mem_map.1 hpath
  obtain ⟨leaf', hleaf', rfl⟩ := List.mem_map.1 hpath'
  exact pathText_injOn (leaves_ne_nil hleaf) (leaves_ne_nil hleaf')
    (fieldName_leaves errors h leaf hleaf)
    (fieldName_leaves errors h leaf' hleaf') heq

theorem under_pushed_of_eq (leaf : Leaf) :
    under (pathText leaf.1) (pushed [] leaf) = leaf.2.map messageFor := by
  unfold under pushed
  rw [List.filter_eq_self.2 (by simp), List.map_map]
  rfl

theorem under_pushed_of_ne {leaf : Leaf} {key : String} (h : pathText leaf.1 ≠ key) :
    under key (pushed [] leaf) = [] := by
  unfold under pushed
  rw [List.filter_eq_nil_iff.2 (by simpa using fun _ _ => h), List.map_nil]

theorem under_flatMap_of_not_mem {found : List Leaf} {key : String}
    (h : key ∉ found.map fun leaf => pathText leaf.1) :
    under key (found.flatMap (pushed [])) = [] := by
  induction found with
  | nil => rfl
  | cons leaf found ih =>
    rw [List.map_cons, List.mem_cons, not_or] at h
    rw [List.flatMap_cons, under_append, under_pushed_of_ne (Ne.symm h.1), ih h.2, List.nil_append]

/-- Under the path of a leaf stand the messages of that leaf alone. -/
theorem under_flatMap_of_mem {found : List Leaf}
    (hnodup : (found.map fun leaf => pathText leaf.1).Nodup) {leaf : Leaf} (hleaf : leaf ∈ found) :
    under (pathText leaf.1) (found.flatMap (pushed [])) = leaf.2.map messageFor := by
  induction found with
  | nil => cases hleaf
  | cons head found ih =>
    rw [List.map_cons, List.nodup_cons] at hnodup
    rw [List.flatMap_cons, under_append]
    rcases List.mem_cons.1 hleaf with rfl | hrest
    · rw [under_pushed_of_eq, under_flatMap_of_not_mem hnodup.1, List.append_nil]
    · have hne : pathText head.1 ≠ pathText leaf.1 := fun heq =>
        hnodup.1 (heq ▸ List.mem_map_of_mem (f := fun leaf : Leaf => pathText leaf.1) hrest)
      rw [under_pushed_of_ne hne, List.nil_append, ih hnodup.2 hrest]

/-- The entry of each path at which rules failed. -/
theorem lookup_filed_leaves {errors : ValidationErrors} (h : WellFormed errors) {key : String}
    {messages : List String} :
    (filed ((leaves errors).flatMap (pushed []))).lookup key = some messages ↔
      ∃ path failed, (path, failed) ∈ leaves errors ∧ failed ≠ [] ∧ pathText path = key ∧
        failed.map messageFor = messages := by
  have hnodup := nodup_pathText_leaves h
  rw [lookup_filed]
  by_cases hkey : key ∈ (leaves errors).map fun leaf => pathText leaf.1
  · obtain ⟨leaf, hleaf, rfl⟩ := List.mem_map.1 hkey
    rw [under_flatMap_of_mem hnodup hleaf]
    constructor
    · intro hsome
      split at hsome
      · cases hsome
      next hne =>
        cases hsome
        exact ⟨leaf.1, leaf.2, hleaf, fun hnil => hne (by rw [hnil]; rfl), rfl, rfl⟩
    · intro hfound
      obtain ⟨path, failed, hmem, hne, htext, rfl⟩ := hfound
      have hsame : (path, failed) = leaf := List.inj_on_of_nodup_map hnodup hmem hleaf htext
      rw [← hsame, if_neg (by simpa using hne)]
  · rw [under_flatMap_of_not_mem hkey, if_pos rfl]
    constructor
    · intro hsome
      cases hsome
    · intro hfound
      obtain ⟨path, failed, hmem, -, htext, -⟩ := hfound
      exact absurd (List.mem_map.2 ⟨_, hmem, htext⟩) hkey

/-! ## Iteration orders -/

mutual

/-- The same tree, with its hash maps listed in another order. The elements of a list come by
    their index. -/
def SameTree : List (String × ErrorsKind) → List (String × ErrorsKind) → Prop
  | [], other => other = []
  | (name, kind) :: rest, other => ∃ front kind' back, other = front ++ (name, kind') :: back ∧
      SameKind kind kind' ∧ SameTree rest (front ++ back)

def SameKind : ErrorsKind → ErrorsKind → Prop
  | .field errors, other => other = .field errors
  | .struct fields, other => ∃ fields', other = .struct fields' ∧ SameTree fields fields'
  | .list items, other => ∃ items', other = .list items' ∧ SameItems items items'

def SameItems : List (Nat × List (String × ErrorsKind)) →
    List (Nat × List (String × ErrorsKind)) → Prop
  | [], other => other = []
  | (index, nested) :: rest, other => ∃ nested' rest', other = (index, nested') :: rest' ∧
      SameTree nested nested' ∧ SameItems rest rest'

end

theorem leaves_append (fields fields' : List (String × ErrorsKind)) :
    leaves (fields ++ fields') = leaves fields ++ leaves fields' := by
  induction fields with
  | nil => rfl
  | cons entry fields ih =>
    obtain ⟨name, kind⟩ := entry
    rw [List.cons_append, leaves, leaves, ih, List.append_assoc]

mutual

theorem perm_leaves : ∀ fields fields', SameTree fields fields' →
    (leaves fields).Perm (leaves fields')
  | [], fields', h => by
    unfold SameTree at h
    rw [h]
  | (name, kind) :: rest, fields', h => by
    unfold SameTree at h
    obtain ⟨front, kind', back, rfl, hkind, hrest⟩ := h
    have hhead := (perm_leavesOfKind kind kind' hkind).map (below name)
    have htail := perm_leaves rest (front ++ back) hrest
    rw [leaves_append] at htail
    rw [leaves_append, leaves, leaves]
    refine (hhead.append htail).trans ?_
    rw [← List.append_assoc, ← List.append_assoc]
    exact List.Perm.append_right _ List.perm_append_comm

theorem perm_leavesOfKind : ∀ kind kind', SameKind kind kind' →
    (leavesOfKind kind).Perm (leavesOfKind kind')
  | .field errors, kind', h => by
    unfold SameKind at h
    rw [h]
  | .struct fields, kind', h => by
    unfold SameKind at h
    obtain ⟨fields', rfl, hfields⟩ := h
    unfold leavesOfKind
    exact perm_leaves fields fields' hfields
  | .list items, kind', h => by
    unfold SameKind at h
    obtain ⟨items', rfl, hitems⟩ := h
    unfold leavesOfKind
    exact perm_leavesOfItems items items' hitems

theorem perm_leavesOfItems : ∀ items items', SameItems items items' →
    (leavesOfItems items).Perm (leavesOfItems items')
  | [], items', h => by
    unfold SameItems at h
    rw [h]
  | (index, nested) :: rest, items', h => by
    unfold SameItems at h
    obtain ⟨nested', rest', rfl, hnested, hrest⟩ := h
    unfold leavesOfItems
    exact ((perm_leaves nested nested' hnested).map _).append (perm_leavesOfItems rest rest' hrest)

end

theorem wellFormed_iff {fields : List (String × ErrorsKind)} :
    WellFormed fields ↔
      Keyed fields ∧ ∀ entry ∈ fields, FieldName entry.1 ∧ WellFormedKind entry.2 := by
  induction fields with
  | nil => simp [WellFormed, Keyed]
  | cons entry fields ih =>
    obtain ⟨name, kind⟩ := entry
    unfold Keyed at ih ⊢
    unfold WellFormed
    rw [ih, List.map_cons, List.nodup_cons, List.forall_mem_cons]
    tauto

mutual

theorem wellFormed_of_sameTree : ∀ fields fields', SameTree fields fields' → WellFormed fields →
    WellFormed fields' ∧ (fields.map Prod.fst).Perm (fields'.map Prod.fst)
  | [], fields', h, _ => by
    unfold SameTree at h
    rw [h]
    exact ⟨trivial, List.Perm.refl _⟩
  | (name, kind) :: rest, fields', h, hwf => by
    unfold SameTree at h
    obtain ⟨front, kind', back, rfl, hkind, hrest⟩ := h
    unfold WellFormed at hwf
    obtain ⟨⟨hname, hnew⟩, hkindWf, hrestWf⟩ := hwf
    obtain ⟨hrestWf', hkeys⟩ := wellFormed_of_sameTree rest (front ++ back) hrest hrestWf
    have hkindWf' := wellFormedKind_of_sameKind kind kind' hkind hkindWf
    have hperm : (front ++ (name, kind') :: back).Perm ((name, kind') :: (front ++ back)) :=
      List.perm_middle
    have hcons : WellFormed ((name, kind') :: (front ++ back)) := by
      unfold WellFormed
      exact ⟨⟨hname, fun hmem => hnew (hkeys.symm.subset hmem)⟩, hkindWf', hrestWf'⟩
    rw [wellFormed_iff] at hcons
    refine ⟨wellFormed_iff.2 ⟨?_, fun entry hentry => hcons.2 entry (hperm.subset hentry)⟩, ?_⟩
    · exact ((hperm.map Prod.fst).nodup_iff).2 hcons.1
    · exact (hkeys.cons name).trans (hperm.map Prod.fst).symm

theorem wellFormedKind_of_sameKind : ∀ kind kind', SameKind kind kind' → WellFormedKind kind →
    WellFormedKind kind'
  | .field errors, kind', h, _ => by
    unfold SameKind at h
    rw [h]
    trivial
  | .struct fields, kind', h, hwf => by
    unfold SameKind at h
    obtain ⟨fields', rfl, hfields⟩ := h
    unfold WellFormedKind at hwf ⊢
    exact (wellFormed_of_sameTree fields fields' hfields hwf).1
  | .list items, kind', h, hwf => by
    unfold SameKind at h
    obtain ⟨items', rfl, hitems⟩ := h
    unfold WellFormedKind at hwf ⊢
    exact (wellFormedItems_of_sameItems items items' hitems hwf).1

theorem wellFormedItems_of_sameItems : ∀ items items', SameItems items items' →
    WellFormedItems items → WellFormedItems items' ∧ items.map Prod.fst = items'.map Prod.fst
  | [], items', h, _ => by
    unfold SameItems at h
    rw [h]
    exact ⟨trivial, rfl⟩
  | (index, nested) :: rest, items', h, hwf => by
    unfold SameItems at h
    obtain ⟨nested', rest', rfl, hnested, hrest⟩ := h
    unfold WellFormedItems at hwf
    obtain ⟨hnew, hnestedWf, hrestWf⟩ := hwf
    obtain ⟨hrestWf', hkeys⟩ := wellFormedItems_of_sameItems rest rest' hrest hrestWf
    refine ⟨?_, by rw [List.map_cons, List.map_cons, hkeys]⟩
    unfold WellFormedItems
    exact ⟨hkeys ▸ hnew, (wellFormed_of_sameTree nested nested' hnested hnestedWf).1, hrestWf'⟩

end

/-- In whatever order its maps are iterated, a tree becomes an entry for each path at which rules
    failed, with the messages of exactly those rules, in their order. -/
theorem toError_flattens {errors : ValidationErrors} (h : WellFormed errors) :
    ((leaves errors).map fun leaf => pathText leaf.1).Nodup ∧
    ∀ iterated, SameTree errors iterated →
      ∃ violations, toError iterated = .validation { message := "failed payload validation"
                                                     fieldViolations := violations } ∧
        Keyed violations ∧
        ∀ key messages, violations.lookup key = some messages ↔
          ∃ path failed, (path, failed) ∈ leaves errors ∧ failed ≠ [] ∧ pathText path = key ∧
            failed.map messageFor = messages := by
  refine ⟨nodup_pathText_leaves h, fun iterated hsame => ?_⟩
  have hwf : WellFormed iterated := (wellFormed_of_sameTree errors iterated hsame h).1
  refine ⟨_, toError_eq hwf, keyed_filed _, fun key messages => ?_⟩
  rw [lookup_filed_leaves hwf]
  simp only [(perm_leaves errors iterated hsame).mem_iff]

def sampleEmailError : FieldError := { code := "email", message := none, params := [] }

/-- A short name, and no addresses in a nested struct and in the second element of a list. -/
def sampleErrors : ValidationErrors := [
  ("name", .field [{ code := "length", message := none, params := [("min", "2")] }]),
  ("inner", .struct [("email", .field [sampleEmailError])]),
  ("items", .list [(1, [("email", .field [sampleEmailError])])])]

theorem fieldName_sample : ∀ name ∈ ["name", "inner", "items", "email"], FieldName name := by
  intro name hname
  simp only [List.mem_cons, List.not_mem_nil, or_false] at hname
  rcases hname with rfl | rfl | rfl | rfl <;> exact ⟨by decide, by decide⟩

theorem wellFormed_sampleErrors : WellFormed sampleErrors := by
  simp only [sampleErrors, WellFormed, WellFormedKind, WellFormedItems]
  simp [fieldName_sample]

theorem toError_flattens_sample : ∃ violations,
    toError sampleErrors.reverse = .validation { message := "failed payload validation"
                                                 fieldViolations := violations } ∧
      violations.lookup "items.1.email" = some ["field must be of email format"] := by
  have hsame : SameTree sampleErrors sampleErrors.reverse := by
    have hinner : SameTree [("email", .field [sampleEmailError])]
        [("email", .field [sampleEmailError])] := ⟨[], _, [], rfl, rfl, rfl⟩
    refine ⟨[sampleErrors[2], sampleErrors[1]], _, [], rfl, rfl, [sampleErrors[2]], _, [], rfl,
      ⟨_, rfl, hinner⟩, [], _, [], rfl, ⟨_, rfl, ?_⟩, rfl⟩
    exact ⟨_, [], rfl, hinner, rfl⟩
  obtain ⟨violations, hviolations, -, hlookup⟩ :=
    (toError_flattens wellFormed_sampleErrors).2 _ hsame
  refine ⟨violations, hviolations,
    (hlookup _ _).2 ⟨["items", "1", "email"], [sampleEmailError], ?_⟩⟩
  exact ⟨.tail _ (.tail _ (.head _)), List.cons_ne_nil _ _, by decide, rfl⟩

end ApiStarter.Validation
