import ApiStarter.Package.PageArithmetic

/-
  What a list request makes of the pairs of its query string.

  The loop of `from_query` overwrites, so of each key the last pair counts, and `normalize` looks
  at what the loop left and at nothing earlier. `filters` is a `HashMap`: two requests are the
  same (`SameRequest`) up to the order in which its entries are listed.
-/

namespace ApiStarter.Pagination

open ApiStarter.Entries

/-! ## The filters -/

/-- The keys that are fields of the request. -/
def reserved : List String := ["page", "per_page", "sort_by", "order"]

theorem lookup_insertFilter (key k value : String) (filters : List (String × String)) :
    (ListRequest.insertFilter k value filters).lookup key =
      if key = k then some value else filters.lookup key := by
  unfold ListRequest.insertFilter
  rw [lookup_cons_ite]
  split
  · rfl
  next h => exact lookup_filter_ne h

theorem keyed_insertFilter (k value : String) {filters : List (String × String)}
    (h : Keyed filters) : Keyed (ListRequest.insertFilter k value filters) := by
  unfold Keyed ListRequest.insertFilter
  rw [List.map_cons, List.nodup_cons]
  refine ⟨?_, List.Nodup.sublist (List.filter_sublist.map _) h⟩
  intro hmem
  obtain ⟨entry, hentry, rfl⟩ := List.mem_map.1 hmem
  simpa using (List.mem_filter.1 hentry).2

/-- A pair writes the filter of its key, unless the key is a field. -/
theorem take_filters (request : ListRequest) (pair : String × String) :
    (request.take pair).filters =
      if pair.1 ∈ reserved then request.filters
      else ListRequest.insertFilter pair.1 pair.2 request.filters := by
  unfold ListRequest.take reserved
  grind

theorem keyed_foldl_take (pairs : List (String × String)) :
    Keyed (pairs.foldl ListRequest.take ListRequest.default).filters := by
  induction pairs using List.reverseRecOn with
  | nil => exact List.nodup_nil
  | append_singleton pairs pair ih =>
    rw [List.foldl_append, List.foldl_cons, List.foldl_nil, take_filters]
    split
    · exact ih
    · exact keyed_insertFilter _ _ ih

theorem lookup_foldl_take (pairs : List (String × String)) (key : String) :
    (pairs.foldl ListRequest.take ListRequest.default).filters.lookup key =
      if key ∈ reserved then none else last key pairs := by
  induction pairs using List.reverseRecOn with
  | nil => exact (ite_self none).symm
  | append_singleton pairs pair ih =>
    rw [List.foldl_append, List.foldl_cons, List.foldl_nil, take_filters, last_concat]
    by_cases hpair : pair.1 ∈ reserved
    · rw [if_pos hpair, ih]
      split
      · rfl
      next hkey =>
        have hne : key ≠ pair.1 := fun heq => hkey (heq ▸ hpair)
        rw [if_neg hne]
    · rw [if_neg hpair, lookup_insertFilter, ih]
      split
      next heq => rw [if_neg (heq ▸ hpair)]
      next => rfl

/-! ## The fields -/

/-- The page a last value asks for. -/
def pageOf (value : Option String) : Int64 :=
  match value.bind parseI64 with
  | some n => if 1 ≤ n then n else 1
  | none => 1

/-- The rows a page a last value asks for. -/
def perPageOf (value : Option String) : Int64 :=
  match value.bind parseI64 with
  | some n => if 1 ≤ n ∧ n ≤ maxPerPage then n else defaultPerPage
  | none => defaultPerPage

/-- The direction a last value asks for. -/
def orderOf (value : Option String) : String :=
  match value with
  | some order => if order = "asc" ∨ order = "desc" then order else ""
  | none => ""

theorem ofPairs_page_last (pairs : List (String × String)) :
    (ListRequest.ofPairs pairs).page = pageOf (last "page" pairs) := by
  rw [ofPairs_page, pageAsked, asked, pageOf, last]
  cases (pairs.reverse.lookup "page").bind parseI64 with
  | none => rfl
  | some n => rfl

theorem ofPairs_perPage_last (pairs : List (String × String)) :
    (ListRequest.ofPairs pairs).perPage = perPageOf (last "per_page" pairs) := by
  rw [ofPairs_perPage, perPageAsked, asked, perPageOf, last]
  cases (pairs.reverse.lookup "per_page").bind parseI64 with
  | none => rfl
  | some n => rfl

theorem ofPairs_sortBy_last (pairs : List (String × String)) :
    (ListRequest.ofPairs pairs).sortBy = (last "sort_by" pairs).getD "" := by
  have htake : ∀ (request : ListRequest) pair, (request.take pair).sortBy =
      if "sort_by" = pair.1 then pair.2 else request.sortBy := by
    intro request pair
    unfold ListRequest.take
    grind
  have hfold := foldl_last (f := ListRequest.sortBy) (g := id) htake .default pairs
  rw [Option.map_id] at hfold
  exact hfold

theorem ofPairs_order_last (pairs : List (String × String)) :
    (ListRequest.ofPairs pairs).order = orderOf (last "order" pairs) := by
  have htake : ∀ (request : ListRequest) pair, (request.take pair).order =
      if "order" = pair.1 then pair.2 else request.order := by
    intro request pair
    unfold ListRequest.take
    grind
  have hfold := foldl_last (f := ListRequest.order) (g := id) htake .default pairs
  unfold ListRequest.ofPairs ListRequest.normalize orderOf
  rw [hfold]
  cases last "order" pairs with
  | none => rfl
  | some order =>
    show (if order ≠ "asc" ∧ order ≠ "desc" then "" else order) = _
    grind

/-! ## Ranges -/

theorem one_le_pageOf (value : Option String) : 1 ≤ pageOf value := by
  unfold pageOf
  split
  · split
    next h => exact h
    next => exact Int64.le_refl 1
  · exact Int64.le_refl 1

theorem perPageOf_range (value : Option String) : 1 ≤ perPageOf value ∧ perPageOf value ≤ 100 := by
  have hdefault : 1 ≤ defaultPerPage ∧ defaultPerPage ≤ 100 := by decide
  unfold perPageOf
  split
  · split
    next h => exact h
    next => exact hdefault
  · exact hdefault

theorem orderOf_mem (value : Option String) : orderOf value ∈ ["", "asc", "desc"] := by
  unfold orderOf
  split
  · split
    next h => simpa using .inr h
    next => simp
  · simp

/-! ## The request -/

structure SameRequest (request request' : ListRequest) : Prop where
  page : request.page = request'.page
  perPage : request.perPage = request'.perPage
  sortBy : request.sortBy = request'.sortBy
  order : request.order = request'.order
  filters : request.filters.Perm request'.filters

theorem sameRequest_of_last {pairs pairs' : List (String × String)}
    (h : ∀ key, last key pairs = last key pairs') :
    SameRequest (ListRequest.ofPairs pairs) (ListRequest.ofPairs pairs') where
  page := by rw [ofPairs_page_last, ofPairs_page_last, h]
  perPage := by rw [ofPairs_perPage_last, ofPairs_perPage_last, h]
  sortBy := by rw [ofPairs_sortBy_last, ofPairs_sortBy_last, h]
  order := by rw [ofPairs_order_last, ofPairs_order_last, h]
  filters := (keyed_foldl_take pairs).perm_of_lookup (keyed_foldl_take pairs') fun key =>
    (lookup_foldl_take pairs key).trans (h key ▸ (lookup_foldl_take pairs' key).symm)

/-- The pairs of a query string. -/
def pairsOf (urldecode : String → Option (List (String × String))) (query : String) :
    List (String × String) :=
  (urldecode query).getD []

/-- Of each key the last value counts, the result is in range, and the order of pairs with
    different keys does not matter. -/
theorem fromQuery_last_value_wins (urldecode : String → Option (List (String × String)))
    (query : String) :
    let pairs := pairsOf urldecode query
    let request := ListRequest.fromQuery urldecode query
    (1 ≤ request.page ∧ (1 ≤ request.perPage ∧ request.perPage ≤ 100) ∧
      request.order ∈ ["", "asc", "desc"]) ∧
    (Keyed request.filters ∧ ∀ key, request.filters.lookup key =
      if key ∈ reserved then none else last key pairs) ∧
    (request.page = pageOf (last "page" pairs) ∧
      request.perPage = perPageOf (last "per_page" pairs) ∧
      request.sortBy = (last "sort_by" pairs).getD "" ∧
      request.order = orderOf (last "order" pairs)) ∧
    ∀ urldecode' query', SameOccurrences pairs (pairsOf urldecode' query') →
      SameRequest request (ListRequest.fromQuery urldecode' query') := by
  intro pairs request
  have hpage : request.page = pageOf (last "page" pairs) := ofPairs_page_last pairs
  have hperPage : request.perPage = perPageOf (last "per_page" pairs) := ofPairs_perPage_last pairs
  have horder : request.order = orderOf (last "order" pairs) := ofPairs_order_last pairs
  refine ⟨⟨?_, ?_, ?_⟩, ⟨keyed_foldl_take pairs, lookup_foldl_take pairs⟩,
    ⟨hpage, hperPage, ofPairs_sortBy_last pairs, horder⟩, ?_⟩
  · rw [hpage]
    exact one_le_pageOf _
  · rw [hperPage]
    exact perPageOf_range _
  · rw [horder]
    exact orderOf_mem _
  · exact fun urldecode' query' h => sameRequest_of_last h.last

/-- The repeated page and the role, in either order. -/
theorem fromQuery_last_value_wins_sample :
    SameRequest
      (ListRequest.fromQuery (fun _ => some [("page", "3"), ("page", "x"), ("role", "Admin")])
        "page=3&page=x&role=Admin")
      (ListRequest.fromQuery (fun _ => some [("page", "3"), ("role", "Admin"), ("page", "x")])
        "page=3&role=Admin&page=x") :=
  (fromQuery_last_value_wins _ _).2.2.2 _ _ (sameOccurrences_swap (by decide) [("page", "3")] [])

/-- A page that does not parse undoes the one before it. -/
example : pageOf (last "page" [("page", "3"), ("role", "Admin"), ("page", "x")]) = 1 := by decide

end ApiStarter.Pagination
