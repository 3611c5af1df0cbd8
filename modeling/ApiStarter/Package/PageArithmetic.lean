import ApiStarter.Database.Entries
import ApiStarter.Numeric.Checked
import ApiStarter.Package.Pagination

/-
  The arithmetic of `package/pagination.rs` with its overflows.

  `ListRequest.offsetChecked` and `Data.newChecked` fail where a debug build panics. Where they
  succeed they are `offset` and `Data.new`, which wrap as a release build does. `normalize`
  bounds the page from below only, so both can fail (`fromQuery_computes_iff` says when).
-/

namespace ApiStarter.Pagination

open ApiStarter.Entries ApiStarter.Numeric

def ListRequest.offsetChecked (request : ListRequest) : Option Int64 := do
  let skipped ← checkedSub request.page 1
  checkedMul skipped request.perPage

/-- The first half of `Data::new`. -/
def totalPagesChecked (totalCount perPage : Int64) : Option Int64 := do
  let totalPages ← checkedDiv totalCount perPage
  let remainder ← checkedRem totalCount perPage
  if remainder ≠ 0 then checkedAdd totalPages 1 else pure totalPages

def Data.newChecked {α : Type} (data : List α) (totalCount currentPage perPage : Int64) :
    Option (Data α) := do
  let perPage := max perPage 1
  let totalPages ← totalPagesChecked totalCount perPage
  let next ← checkedAdd currentPage 1
  let previous ← checkedSub currentPage 1
  pure
    { data := data
      metaData :=
        { totalCount := totalCount
          totalPages := totalPages
          currentPage := currentPage
          perPage := perPage
          nextPage := (some next).filter fun page => decide (page ≤ totalPages)
          previousPage := (some previous).filter fun page =>
            decide (page ≥ 1) && decide (page ≤ totalPages) } }

/-! ## The wrapping operations -/

theorem ListRequest.offset_of_offsetChecked {request : ListRequest} {n : Int64}
    (h : request.offsetChecked = some n) : n = request.offset := by
  obtain ⟨skipped, hskipped, hproduct⟩ := Option.bind_eq_some_iff.1 h
  rw [eq_mul_of_checkedMul hproduct, eq_sub_of_checkedSub hskipped, offset]

theorem totalPages_of_totalPagesChecked {total perPage pages : Int64}
    (h : totalPagesChecked total perPage = some pages) :
    pages = if total % perPage ≠ 0 then total / perPage + 1 else total / perPage := by
  obtain ⟨quotient, hquotient, h⟩ := Option.bind_eq_some_iff.1 h
  obtain ⟨remainder, hremainder, h⟩ := Option.bind_eq_some_iff.1 h
  rw [← eq_rem_of_checkedRem hremainder, ← eq_div_of_checkedDiv hquotient]
  split at h
  next hrest => rw [if_pos hrest, eq_add_of_checkedAdd h]
  next hrest => rw [if_neg hrest, Option.some.inj h]

theorem Data.new_of_newChecked {α : Type} {data : List α} {total current perPage : Int64}
    {page : Data α} (h : Data.newChecked data total current perPage = some page) :
    page = Data.new data total current perPage := by
  obtain ⟨pages, hpages, h⟩ := Option.bind_eq_some_iff.1 h
  obtain ⟨next, hnext, h⟩ := Option.bind_eq_some_iff.1 h
  obtain ⟨previous, hprevious, h⟩ := Option.bind_eq_some_iff.1 h
  rw [← Option.some.inj h, eq_add_of_checkedAdd hnext, eq_sub_of_checkedSub hprevious,
    totalPages_of_totalPagesChecked hpages]
  rfl

/-! ## Where the operations fail -/

theorem toInt_max_one (n : Int64) : (max n 1).toInt = max n.toInt 1 := by
  change (if n ≤ 1 then (1 : Int64) else n).toInt = _
  have hone : n ≤ 1 ↔ n.toInt ≤ 1 := by rw [Int64.le_iff_toInt_le, Int64.toInt_one]
  split
  next h =>
    have := hone.1 h
    rw [Int64.toInt_one]
    omega
  next h =>
    have := mt hone.2 h
    omega

theorem nonneg_iff {n : Int64} : 0 ≤ n ↔ 0 ≤ n.toInt := Int64.le_iff_toInt_le

/-- From the first page on only the product can fail. -/
theorem ListRequest.offsetChecked_eq {request : ListRequest} (hpage : 1 ≤ request.page.toInt) :
    request.offsetChecked = narrow ((request.page.toInt - 1) * request.perPage.toInt) := by
  have hlt := request.page.toInt_lt
  obtain ⟨skipped, hskipped⟩ : ∃ n, checkedSub request.page 1 = some n :=
    Option.isSome_iff_exists.1 (narrow_isSome.2 (by rw [Int64.toInt_one]; omega))
  have hvalue : skipped.toInt = request.page.toInt - 1 := checkedSub_eq_some.1 hskipped
  rw [offsetChecked, hskipped, ← hvalue]
  rfl

theorem ListRequest.offsetChecked_isSome {request : ListRequest}
    (hpage : 1 ≤ request.page.toInt) (hperPage : 1 ≤ request.perPage.toInt) :
    request.offsetChecked.isSome ↔
      (request.page.toInt - 1) * request.perPage.toInt < 2 ^ 63 := by
  have hnonneg : 0 ≤ (request.page.toInt - 1) * request.perPage.toInt :=
    Int.mul_nonneg (by omega) (by omega)
  rw [offsetChecked_eq hpage, narrow_isSome]
  omega

theorem ListRequest.offsetChecked_nonneg {request : ListRequest} {n : Int64}
    (hpage : 1 ≤ request.page.toInt) (hperPage : 1 ≤ request.perPage.toInt)
    (h : request.offsetChecked = some n) : 0 ≤ n := by
  rw [offsetChecked_eq hpage] at h
  rw [nonneg_iff, narrow_eq_some.1 h]
  exact Int.mul_nonneg (by omega) (by omega)

/-- The number of pages fits whenever the number of rows does. -/
theorem totalPagesChecked_isSome {total perPage : Int64} (htotal : 0 ≤ total.toInt)
    (hperPage : 0 < perPage.toInt) : ∃ pages, totalPagesChecked total perPage = some pages := by
  simp only [totalPagesChecked, checkedDiv_of_pos _ hperPage, checkedRem_of_pos _ hperPage,
    Option.bind_eq_bind, Option.bind_some]
  split
  next hrest =>
    refine Option.isSome_iff_exists.1 (narrow_isSome.2 ?_)
    have hlt := total.toInt_lt
    have hquotient : (total / perPage).toInt = total.toInt / perPage.toInt := by
      rw [Int64.toInt_div_of_ne_right, Int.tdiv_eq_ediv_of_nonneg htotal]
      rintro rfl
      exact absurd hperPage (by decide)
    have hremainder : total.toInt % perPage.toInt ≠ 0 := by
      intro h
      refine hrest (Int64.toInt_inj.1 ?_)
      rw [Int64.toInt_mod, Int.tmod_eq_emod_of_nonneg htotal, h]
      rfl
    -- a remainder means at least two rows a page
    have htwo : 2 ≤ perPage.toInt := by
      by_contra h
      rw [show perPage.toInt = 1 by omega, Int.emod_one] at hremainder
      exact hremainder rfl
    have hnonneg : 0 ≤ total.toInt / perPage.toInt := Int.ediv_nonneg htotal (by omega)
    have hhalf : total.toInt / perPage.toInt * 2 ≤ total.toInt :=
      Int.le_trans (Int.mul_le_mul_of_nonneg_left htwo hnonneg) (Int.ediv_mul_le _ (by omega))
    rw [hquotient, Int64.toInt_one]
    omega
  · exact ⟨_, rfl⟩

/-- Of the envelope's sums only `current_page + 1` can leave the range. -/
theorem Data.newChecked_isSome {α : Type} (data : List α) {total current : Int64}
    (perPage : Int64) (htotal : 0 ≤ total) (hcurrent : 1 ≤ current.toInt) :
    (Data.newChecked data total current perPage).isSome ↔ current.toInt < 2 ^ 63 - 1 := by
  have hpos : 0 < (max perPage 1).toInt := by
    rw [toInt_max_one]
    omega
  obtain ⟨pages, hpages⟩ := totalPagesChecked_isSome (nonneg_iff.1 htotal) hpos
  obtain ⟨previous, hprevious⟩ : ∃ n, checkedSub current 1 = some n := by
    have hlt := current.toInt_lt
    exact Option.isSome_iff_exists.1 (narrow_isSome.2 (by rw [Int64.toInt_one]; omega))
  have hnew : (Data.newChecked data total current perPage).isSome =
      (checkedAdd current 1).isSome := by
    simp only [newChecked, hpages, hprevious, Option.bind_eq_bind, Option.bind_some]
    cases checkedAdd current 1 with
    | none => rfl
    | some next => rfl
  rw [hnew, checkedAdd, narrow_isSome, Int64.toInt_one]
  omega

/-! ## What a query string asks for -/

/-- The number of the last pair of that name. -/
def asked (key : String) (fallback : Int64) (pairs : List (String × String)) : Int64 :=
  ((pairs.reverse.lookup key).bind parseI64).getD fallback

/-- The page a query asks for: no page before the first. -/
def pageAsked (pairs : List (String × String)) : Int64 :=
  if 1 ≤ asked "page" 1 pairs then asked "page" 1 pairs else 1

/-- The rows a page that a query asks for: one to a hundred, else ten. -/
def perPageAsked (pairs : List (String × String)) : Int64 :=
  if 1 ≤ asked "per_page" defaultPerPage pairs ∧ asked "per_page" defaultPerPage pairs ≤ 100 then
    asked "per_page" defaultPerPage pairs
  else defaultPerPage

/-- The last pair of a key decides a field that the pairs of other keys leave alone. -/
theorem foldl_take_asked {key : String} {fallback : Int64} {field : ListRequest → Int64}
    (hdefault : field ListRequest.default = fallback)
    (htake : ∀ request pair, field (ListRequest.take request pair) =
      if key = pair.1 then (parseI64 pair.2).getD fallback else field request)
    (pairs : List (String × String)) :
    field (pairs.foldl ListRequest.take ListRequest.default) = asked key fallback pairs := by
  rw [foldl_last (g := fun v => (parseI64 v).getD fallback) htake, hdefault, asked, last]
  cases pairs.reverse.lookup key with
  | none => rfl
  | some v => rfl

theorem foldl_take_page (pairs : List (String × String)) :
    (pairs.foldl ListRequest.take ListRequest.default).page = asked "page" 1 pairs := by
  have hdefault : ListRequest.default.page = 1 := rfl
  refine foldl_take_asked hdefault (fun request pair => ?_) pairs
  unfold ListRequest.take
  grind

theorem foldl_take_perPage (pairs : List (String × String)) :
    (pairs.foldl ListRequest.take ListRequest.default).perPage =
      asked "per_page" defaultPerPage pairs := by
  have hdefault : ListRequest.default.perPage = defaultPerPage := rfl
  refine foldl_take_asked hdefault (fun request pair => ?_) pairs
  unfold ListRequest.take
  grind

theorem ofPairs_page (pairs : List (String × String)) :
    (ListRequest.ofPairs pairs).page = pageAsked pairs := by
  rw [ListRequest.ofPairs, ListRequest.normalize, foldl_take_page, pageAsked]
  grind [Int64.not_le]

theorem ofPairs_perPage (pairs : List (String × String)) :
    (ListRequest.ofPairs pairs).perPage = perPageAsked pairs := by
  rw [ListRequest.ofPairs, ListRequest.normalize, foldl_take_perPage, perPageAsked, maxPerPage]
  grind [Int64.not_le]

theorem one_le_pageAsked (pairs : List (String × String)) : 1 ≤ (pageAsked pairs).toInt := by
  unfold pageAsked
  split
  next h => exact Int64.le_iff_toInt_le.1 h
  · exact Int.le_refl 1

theorem one_le_perPageAsked (pairs : List (String × String)) :
    1 ≤ (perPageAsked pairs).toInt := by
  unfold perPageAsked
  split
  next h => exact Int64.le_iff_toInt_le.1 h.1
  · decide

/-! ## Which requests compute -/

/-- The offset of the request and the envelope of its page are computed without an overflow, and so
    to the same in both builds. -/
structure ListRequest.Computes (request : ListRequest) : Prop where
  offset : request.offsetChecked = some request.offset
  offset_nonneg : 0 ≤ request.offset
  envelope : ∀ {α : Type} (rows : List α) (total : Int64), 0 ≤ total →
    Data.newChecked rows total request.page request.perPage =
      some (Data.new rows total request.page request.perPage)

theorem fromQuery_computes_iff (urldecode : String → Option (List (String × String)))
    (query : String) :
    (ListRequest.fromQuery urldecode query).Computes ↔
      (pageAsked ((urldecode query).getD [])).toInt < 2 ^ 63 - 1 ∧
      ((pageAsked ((urldecode query).getD [])).toInt - 1) *
        (perPageAsked ((urldecode query).getD [])).toInt < 2 ^ 63 := by
  rw [ListRequest.fromQuery]
  generalize (urldecode query).getD [] = pairs
  have hpage : 1 ≤ (ListRequest.ofPairs pairs).page.toInt := by
    rw [ofPairs_page]
    exact one_le_pageAsked pairs
  have hperPage : 1 ≤ (ListRequest.ofPairs pairs).perPage.toInt := by
    rw [ofPairs_perPage]
    exact one_le_perPageAsked pairs
  rw [← ofPairs_page, ← ofPairs_perPage]
  constructor
  · rintro ⟨hoffset, -, henvelope⟩
    exact ⟨(Data.newChecked_isSome ([] : List Unit) _ (Int64.le_refl 0) hpage).1
      (Option.isSome_iff_exists.2 ⟨_, henvelope [] 0 (Int64.le_refl 0)⟩),
      (ListRequest.offsetChecked_isSome hpage hperPage).1
        (Option.isSome_iff_exists.2 ⟨_, hoffset⟩)⟩
  · rintro ⟨hlast, hproduct⟩
    obtain ⟨n, hn⟩ := Option.isSome_iff_exists.1
      ((ListRequest.offsetChecked_isSome hpage hperPage).2 hproduct)
    obtain rfl := ListRequest.offset_of_offsetChecked hn
    refine ⟨hn, ListRequest.offsetChecked_nonneg hpage hperPage hn, fun rows total htotal => ?_⟩
    obtain ⟨page, hnew⟩ := Option.isSome_iff_exists.1
      ((Data.newChecked_isSome rows _ htotal hpage).2 hlast)
    rw [hnew, Data.new_of_newChecked hnew]

/-- `page=9223372036854775807` -/
def largestPage : ListRequest :=
  ListRequest.fromQuery (fun _ => some [("page", "9223372036854775807")])
    "page=9223372036854775807"

/-- A debug build panics on it, a release build asks PostgreSQL for a negative offset. -/
theorem largest_page_overflows :
    ¬ largestPage.Computes ∧ largestPage.offset = -20 ∧
      Data.newChecked ([] : List Unit) 0 largestPage.page largestPage.perPage = none := by
  have hoffset : largestPage.offsetChecked = none := by decide +kernel
  refine ⟨?_, by decide +kernel, by decide +kernel⟩
  rintro ⟨hsome, -, -⟩
  rw [hoffset] at hsome
  cases hsome

end ApiStarter.Pagination
