import Mathlib.Algebra.Group.Int.Defs
import Mathlib.Algebra.Group.Nat.Defs
import Mathlib.Data.List.Basic

/-
  `package/pagination.rs`: list requests, filters and the page envelope.

  The counters are `i64`, so arithmetic is `Int64`'s, which wraps as the release profile does.
  `ListRequest.ofPairs` is `from_query` after `serde_urlencoded` has split the query string.
-/

namespace ApiStarter.Pagination

def defaultPerPage : Int64 := 10
def maxPerPage : Int64 := 100

def digitsValue (ds : List Char) : Option Nat :=
  if ds ≠ [] ∧ ds.all Char.isDigit then
    some (ds.foldl (fun n c => 10 * n + (c.toNat - '0'.toNat)) 0)
  else none

/-- `str::parse` at a signed integer type with the range `lo..=hi`. -/
def parseInt (lo hi : Int) (s : String) : Option Int :=
  let value : Option Int :=
    match s.toList with
    | '+' :: ds => (digitsValue ds).map Int.ofNat
    | '-' :: ds => (digitsValue ds).map fun n => -Int.ofNat n
    | ds => (digitsValue ds).map Int.ofNat
  value.filter fun i => decide (lo ≤ i) && decide (i ≤ hi)

def parseI64 (s : String) : Option Int64 := (parseInt (-2 ^ 63) (2 ^ 63 - 1) s).map Int64.ofInt

def parseI32 (s : String) : Option Int := parseInt (-2 ^ 31) (2 ^ 31 - 1) s

structure ListRequest where
  page : Int64
  perPage : Int64
  sortBy : String
  order : String
  filters : List (String × String)
  deriving DecidableEq

namespace ListRequest

def default : ListRequest :=
  { page := 1, perPage := defaultPerPage, sortBy := "", order := "", filters := [] }

/-- `HashMap::insert` on the list of entries. -/
def insertFilter (key value : String) (filters : List (String × String)) :
    List (String × String) :=
  (key, value) :: filters.filter fun kv => kv.1 ≠ key

/-- The loop body of `from_query`. -/
def take (request : ListRequest) (pair : String × String) : ListRequest :=
  if pair.1 = "page" then { request with page := (parseI64 pair.2).getD 1 }
  else if pair.1 = "per_page" then
    { request with perPage := (parseI64 pair.2).getD defaultPerPage }
  else if pair.1 = "sort_by" then { request with sortBy := pair.2 }
  else if pair.1 = "order" then { request with order := pair.2 }
  else { request with filters := insertFilter pair.1 pair.2 request.filters }

def normalize (request : ListRequest) : ListRequest :=
  { request with
    page := if request.page < 1 then 1 else request.page
    perPage :=
      if request.perPage < 1 ∨ request.perPage > maxPerPage then defaultPerPage
      else request.perPage
    order := if request.order ≠ "asc" ∧ request.order ≠ "desc" then "" else request.order }

def ofPairs (pairs : List (String × String)) : ListRequest :=
  (pairs.foldl take default).normalize

/-- `from_query`, given what `serde_urlencoded` makes of the query string. -/
def fromQuery (urldecode : String → Option (List (String × String))) (query : String) :
    ListRequest :=
  ofPairs ((urldecode query).getD [])

def offset (request : ListRequest) : Int64 := (request.page - 1) * request.perPage

/-- A filter that is absent or empty is no filter. -/
def filter (request : ListRequest) (key : String) : Option String :=
  (request.filters.lookup key).filter fun value => value ≠ ""

end ListRequest

structure MetaData where
  totalCount : Int64
  totalPages : Int64
  currentPage : Int64
  perPage : Int64
  nextPage : Option Int64
  previousPage : Option Int64
  deriving DecidableEq

structure Data (α : Type) where
  data : List α
  metaData : MetaData

/-- `Data::new` -/
def Data.new {α : Type} (data : List α) (totalCount currentPage perPage : Int64) : Data α :=
  let perPage := max perPage 1
  let totalPages :=
    if totalCount % perPage ≠ 0 then totalCount / perPage + 1 else totalCount / perPage
  { data := data
    metaData :=
      { totalCount := totalCount
        totalPages := totalPages
        currentPage := currentPage
        perPage := perPage
        nextPage := (some (currentPage + 1)).filter fun page => decide (page ≤ totalPages)
        previousPage := (some (currentPage - 1)).filter fun page =>
          decide (page ≥ 1) && decide (page ≤ totalPages) } }

def Data.map {α β : Type} (f : α → β) (page : Data α) : Data β :=
  { data := page.data.map f, metaData := page.metaData }

/-! ## On natural numbers -/

/-- How many pages of `size` rows `total` rows fill. -/
def pageCount (total size : Nat) : Nat :=
  if total % size ≠ 0 then total / size + 1 else total / size

theorem lt_pageCount {total size i : Nat} (hsize : 0 < size) :
    i < pageCount total size ↔ i * size < total := by
  unfold pageCount
  have hmod := Nat.mod_lt total hsize
  have hdiv := Nat.div_add_mod' total size
  split
  · rw [Nat.lt_succ_iff, Nat.le_div_iff_mul_le hsize]
    refine ⟨fun h => Nat.lt_of_le_of_ne h ?_, Nat.le_of_lt⟩
    rintro rfl
    exact ‹¬ _› (Nat.mul_mod_left i size)
  · rw [← Nat.mul_lt_mul_right hsize]
    omega

theorem pageCount_le {total size : Nat} (hsize : 0 < size) : pageCount total size ≤ total := by
  by_contra h
  rw [Nat.not_le, lt_pageCount hsize] at h
  exact absurd h (Nat.not_lt.2 (Nat.le_mul_of_pos_right _ hsize))

theorem le_pageCount_mul {total size : Nat} (hsize : 0 < size) :
    total ≤ pageCount total size * size := by
  have h : pageCount total size < pageCount total size ↔ pageCount total size * size < total :=
    lt_pageCount hsize
  omega

theorem le_max_pageCount_mul {total size : Nat} (hsize : 0 < size) :
    total ≤ max 1 (pageCount total size) * size :=
  Nat.le_trans (le_pageCount_mul hsize) (Nat.mul_le_mul_right size (Nat.le_max_right 1 _))

theorem ofNat_le_ofNat {n m : Nat} (hn : n < 2 ^ 63) (hm : m < 2 ^ 63) :
    Int64.ofNat n ≤ Int64.ofNat m ↔ n ≤ m := by
  rw [Int64.le_iff_toInt_le, Int64.toInt_ofNat_of_lt hn, Int64.toInt_ofNat_of_lt hm]
  omega

theorem ofNat_div {n m : Nat} (hn : n < 2 ^ 63) (hm : m < 2 ^ 63) :
    Int64.ofNat n / Int64.ofNat m = Int64.ofNat (n / m) := by
  have hle := Nat.div_le_self n m
  rw [← Int64.toInt_inj, Int64.toInt_div_of_ne_left, Int64.toInt_ofNat_of_lt hn,
    Int64.toInt_ofNat_of_lt hm, Int64.toInt_ofNat_of_lt (by omega)]
  · rfl
  · intro h
    have := congrArg Int64.toInt h
    rw [Int64.toInt_ofNat_of_lt hn] at this
    simp at this

theorem ofNat_mod_ne_zero {n m : Nat} (hn : n < 2 ^ 63) (hm : m < 2 ^ 63) :
    Int64.ofNat n % Int64.ofNat m ≠ 0 ↔ n % m ≠ 0 := by
  rw [ne_eq, ne_eq, ← Int64.toInt_inj, Int64.toInt_mod, Int64.toInt_ofNat_of_lt hn,
    Int64.toInt_ofNat_of_lt hm, Int64.toInt_zero, ← Int.ofNat_tmod]
  omega

theorem max_ofNat_one {size : Nat} (hsize : 0 < size) (hsize' : size < 2 ^ 63) :
    max (Int64.ofNat size) 1 = Int64.ofNat size := by
  change (if Int64.ofNat size ≤ Int64.ofNat 1 then Int64.ofNat 1 else Int64.ofNat size) = _
  simp only [ofNat_le_ofNat hsize' (show 1 < 2 ^ 63 by omega)]
  split
  · rw [show size = 1 by omega]
  · rfl

/-- `total_pages` counts the pages. -/
theorem Data.new_totalPages {α : Type} (data : List α) {size total : Nat} (current : Int64)
    (hsize : 0 < size) (hsize' : size < 2 ^ 63) (htotal : total < 2 ^ 63) :
    (Data.new data (Int64.ofNat total) current (Int64.ofNat size)).metaData.totalPages =
      Int64.ofNat (pageCount total size) := by
  simp only [Data.new, max_ofNat_one hsize hsize', ofNat_mod_ne_zero htotal hsize',
    ofNat_div htotal hsize', pageCount]
  split
  · rw [Int64.ofNat_add]
    rfl
  · rfl

/-- The next page after the one that starts after `i` full ones. -/
theorem Data.new_nextPage {α : Type} (data : List α) {i size total : Nat} (hsize : 0 < size)
    (hsize' : size < 2 ^ 63) (htotal : total < 2 ^ 63) (hi : i + 2 < 2 ^ 63) :
    (Data.new data (Int64.ofNat total) (Int64.ofNat (i + 1)) (Int64.ofNat size)).metaData.nextPage =
      if i + 1 < pageCount total size then some (Int64.ofNat (i + 2)) else none := by
  have hcount : pageCount total size ≤ total := pageCount_le hsize
  change (some (Int64.ofNat (i + 1) + 1)).filter (fun page => decide (page ≤
    (Data.new data (Int64.ofNat total) (Int64.ofNat (i + 1))
      (Int64.ofNat size)).metaData.totalPages)) = _
  rw [Data.new_totalPages data _ hsize hsize' htotal,
    show Int64.ofNat (i + 1) + 1 = Int64.ofNat (i + 2) from (Int64.ofNat_add (i + 1) 1).symm]
  have hle : Int64.ofNat (i + 2) ≤ Int64.ofNat (pageCount total size) ↔
      i + 1 < pageCount total size := ofNat_le_ofNat hi (by omega)
  simp only [Option.filter, hle, decide_eq_true_eq]

theorem ListRequest.offset_ofNat (request : ListRequest) {size : Nat}
    (hsize : request.perPage = Int64.ofNat size) (i : Nat) :
    ({ request with page := Int64.ofNat (i + 1) } : ListRequest).offset = Int64.ofNat (i * size) := by
  simp only [offset, hsize, Int64.ofNat_add, Int64.ofNat_mul]
  rw [show Int64.ofNat 1 = 1 from rfl, Int64.add_sub_cancel]

/-- A parsed request asks for one to a hundred rows a page. -/
theorem ListRequest.ofPairs_perPage (pairs : List (String × String)) :
    ∃ size, 0 < size ∧ size ≤ 100 ∧ (ofPairs pairs).perPage = Int64.ofNat size := by
  simp only [ofPairs, normalize]
  generalize (pairs.foldl take default).perPage = perPage
  split
  · exact ⟨10, by omega, by omega, rfl⟩
  next h =>
    rw [not_or, Int64.not_lt, Int64.not_lt, Int64.le_iff_toInt_le, Int64.le_iff_toInt_le] at h
    have hlow : (1 : Int) ≤ perPage.toInt := h.1
    have hhigh : perPage.toInt ≤ 100 := h.2
    refine ⟨perPage.toInt.toNat, by omega, by omega, ?_⟩
    rw [← Int64.toInt_inj, Int64.toInt_ofNat_of_lt (by omega)]
    omega

end ApiStarter.Pagination
