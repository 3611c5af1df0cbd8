import ApiStarter.Package.PageArithmetic
import Mathlib.Data.Set.Lattice
import Mathlib.Order.CompletePartialOrder

/-
  Pages as windows of the rows, and the links between them.

  The offset and the envelope of a page are computed apart. `page_windows_tile` relates them:
  the windows of the pages up to `total_pages` tile the rows, and a link leads to a page exactly
  where its window shows a row.
-/

namespace ApiStarter.Pagination

/-- A request for a page, with the defaults for the rest. -/
def pageRequest (page perPage : Int64) : ListRequest :=
  { ListRequest.default with page := page, perPage := perPage }

/-- The row indices of a page, among `total` rows. -/
def window (total perPage page : Int64) : Set Nat :=
  { i | (pageRequest page perPage).offset.toInt ≤ i ∧
    (i : Int) < (pageRequest page perPage).offset.toInt + perPage.toInt ∧ (i : Int) < total.toInt }

/-- Neither the offset nor the envelope of the page overflows. -/
structure Fits (total perPage page : Int64) : Prop where
  offset : (pageRequest page perPage).offsetChecked.isSome
  envelope : (Data.newChecked ([] : List Unit) total page perPage).isSome

section

variable {α : Type} (rows : Int64 → List α) (total perPage : Int64)

def envelope (page : Int64) : MetaData := (Data.new (rows page) total page perPage).metaData

/-- `Follows page pages`: from `page` on, the links lead through `pages` and stop. -/
inductive Follows : Int64 → List Int64 → Prop
  | last {page : Int64} : (envelope rows total perPage page).nextPage = none →
      Follows page [page]
  | link {page next : Int64} {pages : List Int64} :
      (envelope rows total perPage page).nextPage = some next → Follows next pages →
      Follows page (page :: pages)

end

/-- The pages `1..=n`. -/
def pagesUpTo (n : Int64) : List Int64 :=
  (List.range n.toInt.toNat).map fun i => Int64.ofNat (i + 1)

/-! ## Windows on natural numbers -/

section

variable {size total i k : Nat}

theorem offset_pageRequest (i size : Nat) :
    (pageRequest (Int64.ofNat (i + 1)) (Int64.ofNat size)).offset = Int64.ofNat (i * size) :=
  ListRequest.offset_ofNat (pageRequest 1 (Int64.ofNat size)) rfl i

theorem mem_window (hsize' : size < 2 ^ 63) (htotal : total < 2 ^ 63) (hi : i * size < 2 ^ 63) :
    k ∈ window (Int64.ofNat total) (Int64.ofNat size) (Int64.ofNat (i + 1)) ↔
      i * size ≤ k ∧ k < (i + 1) * size ∧ k < total := by
  change (pageRequest _ _).offset.toInt ≤ k ∧ (k : Int) < (pageRequest _ _).offset.toInt + _ ∧
    (k : Int) < _ ↔ _
  rw [offset_pageRequest, Int64.toInt_ofNat_of_lt hi, Int64.toInt_ofNat_of_lt hsize',
    Int64.toInt_ofNat_of_lt htotal, Nat.succ_mul]
  omega

/-- An offset just past the range wraps below every row. -/
theorem window_eq_empty (hsize : size ≤ 100) (hi : 2 ^ 63 ≤ i * size)
    (hi' : i * size < 2 ^ 63 + 100) :
    window (Int64.ofNat total) (Int64.ofNat size) (Int64.ofNat (i + 1)) = ∅ := by
  have hoffset : (Int64.ofNat (i * size)).toInt = (i * size : Nat) - 2 ^ 64 := by
    rw [Int64.toInt_ofNat', Int64.size, Int.bmod]
    omega
  refine Set.eq_empty_iff_forall_notMem.2 fun k hk => ?_
  have hend := hk.2.1
  rw [offset_pageRequest, hoffset, Int64.toInt_ofNat_of_lt (show size < 2 ^ 63 by omega)] at hend
  omega

/-- A window shows a row exactly where the rows before it leave some. -/
theorem window_nonempty (hsize : 0 < size) (hsize' : size ≤ 100) (htotal : total < 2 ^ 63)
    (hi : i * size < 2 ^ 63 + 100) :
    (window (Int64.ofNat total) (Int64.ofNat size) (Int64.ofNat (i + 1))).Nonempty ↔
      i < pageCount total size := by
  rw [lt_pageCount hsize]
  rcases Nat.lt_or_ge (i * size) (2 ^ 63) with hlt | hge
  · constructor
    · rintro ⟨k, hk⟩
      obtain ⟨hlow, -, htop⟩ := (mem_window (by omega) htotal hlt).1 hk
      omega
    · intro h
      refine ⟨i * size, (mem_window (by omega) htotal hlt).2 ⟨Nat.le_refl _, ?_, h⟩⟩
      rw [Nat.succ_mul]
      omega
  · rw [window_eq_empty hsize' hge hi]
    refine ⟨fun h => absurd h Set.not_nonempty_empty, fun h => ?_⟩
    omega

/-- The links of the page that starts after `i` full ones. -/
theorem envelope_nextPage {α : Type} (rows : Int64 → List α) (hsize : 0 < size)
    (hsize' : size ≤ 100) (htotal : total < 2 ^ 63) (hi : i + 2 < 2 ^ 63) :
    (envelope rows (Int64.ofNat total) (Int64.ofNat size) (Int64.ofNat (i + 1))).nextPage =
      if i + 1 < pageCount total size then some (Int64.ofNat (i + 2)) else none :=
  Data.new_nextPage _ hsize (by omega) htotal hi

theorem envelope_previousPage {α : Type} (rows : Int64 → List α) (hsize : 0 < size)
    (hsize' : size ≤ 100) (htotal : total < 2 ^ 63) (hi : i + 1 < 2 ^ 63) :
    (envelope rows (Int64.ofNat total) (Int64.ofNat size) (Int64.ofNat (i + 1))).previousPage =
      if 1 ≤ i ∧ i ≤ pageCount total size then some (Int64.ofNat i) else none := by
  have hcount : pageCount total size ≤ total := pageCount_le hsize
  change (some (Int64.ofNat (i + 1) - 1)).filter (fun page => decide (page ≥ 1) &&
    decide (page ≤ (Data.new (rows (Int64.ofNat (i + 1))) (Int64.ofNat total) (Int64.ofNat (i + 1))
      (Int64.ofNat size)).metaData.totalPages)) = _
  rw [Data.new_totalPages _ _ hsize (by omega) htotal,
    show Int64.ofNat (i + 1) - 1 = Int64.ofNat i by
      rw [Int64.ofNat_add]; exact Int64.add_sub_cancel _ _]
  have hlow : Int64.ofNat i ≥ 1 ↔ 1 ≤ i :=
    ofNat_le_ofNat (show 1 < 2 ^ 63 by omega) (by omega)
  have hhigh : Int64.ofNat i ≤ Int64.ofNat (pageCount total size) ↔ i ≤ pageCount total size :=
    ofNat_le_ofNat (by omega) (by omega)
  simp only [Option.filter, hlow, hhigh, Bool.and_eq_true, decide_eq_true_eq]

/-- From the page after `i` full ones the links lead to the last. -/
theorem follows_iff {α : Type} (rows : Int64 → List α) (hsize : 0 < size) (hsize' : size ≤ 100)
    (htotal : total < 2 ^ 63) (hlast : pageCount total size + 1 < 2 ^ 63) (left : Nat) :
    ∀ i, max 1 (pageCount total size) = i + 1 + left → ∀ pages,
      Follows rows (Int64.ofNat total) (Int64.ofNat size) (Int64.ofNat (i + 1)) pages ↔
        pages = (List.range' i (left + 1)).map fun i => Int64.ofNat (i + 1) := by
  induction left with
  | zero =>
    intro i hi pages
    have hnext := envelope_nextPage rows hsize hsize' htotal (show i + 2 < 2 ^ 63 by omega)
    rw [if_neg (by omega)] at hnext
    constructor
    · rintro (⟨-⟩ | ⟨hlink, -⟩)
      · rfl
      · rw [hnext] at hlink
        cases hlink
    · rintro rfl
      exact Follows.last hnext
  | succ left ih =>
    intro i hi pages
    have hnext := envelope_nextPage rows hsize hsize' htotal (show i + 2 < 2 ^ 63 by omega)
    rw [if_pos (by omega)] at hnext
    have hrest := ih (i + 1) (by omega)
    rw [List.range'_succ, List.map_cons]
    constructor
    · rintro (⟨hstop⟩ | ⟨hlink, hpages⟩)
      · rw [hnext] at hstop
        cases hstop
      · rw [hnext] at hlink
        cases hlink
        rw [(hrest _).1 hpages]
    · rintro rfl
      exact Follows.link hnext ((hrest _).2 rfl)

end

/-! ## Tiling -/

/-- `total_pages`, which is the same for every page. -/
def totalPages (total perPage : Int64) : Int64 :=
  (Data.new ([] : List Unit) total 1 perPage).metaData.totalPages

/-- The windows of the pages tile the rows, and the links lead through them. -/
structure Tiles {α : Type} (rows : Int64 → List α) (total perPage : Int64) : Prop where
  count : ∀ page, (envelope rows total perPage page).totalPages = totalPages total perPage
  offsets : ∀ page, 1 ≤ page → page ≤ totalPages total perPage →
    (pageRequest page perPage).offsetChecked.isSome
  nonempty : ∀ page, 1 ≤ page → page ≤ totalPages total perPage →
    (window total perPage page).Nonempty
  disjoint : ∀ page, 1 ≤ page → page ≤ totalPages total perPage →
    ∀ other, 1 ≤ other → other ≤ totalPages total perPage → page ≠ other →
      Disjoint (window total perPage page) (window total perPage other)
  cover : ∀ i : Nat, (i : Int) < total.toInt ↔
    ∃ page, 1 ≤ page ∧ page ≤ totalPages total perPage ∧ i ∈ window total perPage page
  next : ∀ page, 1 ≤ page → Fits total perPage page → ∀ link,
    (envelope rows total perPage page).nextPage = some link ↔
      link = page + 1 ∧ (window total perPage (page + 1)).Nonempty
  previous : ∀ page, 1 ≤ page → Fits total perPage page → ∀ link,
    (envelope rows total perPage page).previousPage = some link ↔
      link = page - 1 ∧ 1 ≤ page - 1 ∧ (window total perPage (page - 1)).Nonempty
  walk : (∀ page, 1 ≤ page → page ≤ totalPages total perPage → Fits total perPage page) →
    ∀ pages, Follows rows total perPage 1 pages ↔
      pages = pagesUpTo (max 1 (totalPages total perPage))

theorem exists_ofNat {n : Int64} (h : 0 ≤ n) : ∃ k, k < 2 ^ 63 ∧ n = Int64.ofNat k := by
  have hnonneg := nonneg_iff.1 h
  have hlt := n.toInt_lt
  refine ⟨n.toInt.toNat, by omega, ?_⟩
  rw [← Int64.toInt_inj, Int64.toInt_ofNat_of_lt (by omega), Int.toNat_of_nonneg hnonneg]

theorem exists_ofNat_succ {page : Int64} (h : 1 ≤ page) :
    ∃ i, i + 1 < 2 ^ 63 ∧ page = Int64.ofNat (i + 1) := by
  have hone : 1 ≤ page.toInt := Int64.le_iff_toInt_le.1 h
  obtain ⟨k, hk, rfl⟩ := exists_ofNat (nonneg_iff.2 (Int.le_trans Int.one_nonneg hone))
  rw [Int64.toInt_ofNat_of_lt hk] at hone
  exact ⟨k - 1, by omega, by rw [Nat.sub_add_cancel (by omega)]⟩

theorem pagesUpTo_ofNat {n : Nat} (hn : n < 2 ^ 63) :
    pagesUpTo (max 1 (Int64.ofNat n)) =
      (List.range (max 1 n)).map fun i => Int64.ofNat (i + 1) := by
  have hmax : max 1 (Int64.ofNat n) = Int64.ofNat (max 1 n) := by
    change (if Int64.ofNat 1 ≤ Int64.ofNat n then Int64.ofNat n else Int64.ofNat 1) = _
    simp only [ofNat_le_ofNat (show 1 < 2 ^ 63 by omega) hn]
    split
    · rw [Nat.max_eq_right (by omega)]
    · rw [Nat.max_eq_left (by omega)]
  rw [hmax, pagesUpTo, Int64.toInt_ofNat_of_lt (by omega), Int.toNat_natCast]

theorem ofNat_succ_sub_one (i : Nat) : Int64.ofNat (i + 1) - 1 = Int64.ofNat i := by
  rw [Int64.ofNat_add]
  exact Int64.add_sub_cancel _ _

theorem mul_lt_of_lt_pageCount {size total i : Nat} (hsize : 0 < size) (htotal : total < 2 ^ 63)
    (hi : i < pageCount total size) : i * size < 2 ^ 63 :=
  Nat.lt_trans ((lt_pageCount hsize).1 hi) htotal

section

variable {size total : Nat} (hsize : 0 < size) (hsize' : size ≤ 100) (htotal : total < 2 ^ 63)
include hsize hsize'

/-- The checked offset of the page after `i` full ones. -/
theorem offsetChecked_pageRequest {i : Nat} (hi : i + 1 < 2 ^ 63) :
    (pageRequest (Int64.ofNat (i + 1)) (Int64.ofNat size)).offsetChecked.isSome ↔
      i * size < 2 ^ 63 := by
  have hpage : (pageRequest (Int64.ofNat (i + 1)) (Int64.ofNat size)).page.toInt = (i + 1 : Nat) :=
    Int64.toInt_ofNat_of_lt hi
  have hperPage : (pageRequest (Int64.ofNat (i + 1)) (Int64.ofNat size)).perPage.toInt = size :=
    Int64.toInt_ofNat_of_lt (by omega)
  rw [ListRequest.offsetChecked_isSome (by omega) (by omega), hpage, hperPage,
    show ((i + 1 : Nat) : Int) - 1 = i by omega]
  exact_mod_cast Iff.rfl

include htotal

theorem le_totalPages {i : Nat} (hi : i + 1 < 2 ^ 63) :
    Int64.ofNat (i + 1) ≤ totalPages (Int64.ofNat total) (Int64.ofNat size) ↔
      i < pageCount total size := by
  have hcount : pageCount total size ≤ total := pageCount_le hsize
  rw [totalPages, Data.new_totalPages _ _ hsize (by omega) htotal]
  exact ofNat_le_ofNat hi (by omega)

theorem Fits.bounds {i : Nat} (hi : i + 1 < 2 ^ 63)
    (h : Fits (Int64.ofNat total) (Int64.ofNat size) (Int64.ofNat (i + 1))) :
    i * size < 2 ^ 63 ∧ i + 2 < 2 ^ 63 := by
  have hpage : (Int64.ofNat (i + 1)).toInt = (i + 1 : Nat) := Int64.toInt_ofNat_of_lt hi
  have hrows : 0 ≤ Int64.ofNat total := by
    rw [nonneg_iff, Int64.toInt_ofNat_of_lt htotal]
    omega
  have hnext := (Data.newChecked_isSome _ _ hrows (by omega)).1 h.envelope
  rw [hpage] at hnext
  exact ⟨(offsetChecked_pageRequest hsize hsize' hi).1 h.offset, by omega⟩

theorem disjoint_windows {i j : Nat} (hi : i < pageCount total size)
    (hj : j < pageCount total size) (hne : i ≠ j) :
    Disjoint (window (Int64.ofNat total) (Int64.ofNat size) (Int64.ofNat (i + 1)))
      (window (Int64.ofNat total) (Int64.ofNat size) (Int64.ofNat (j + 1))) := by
  refine Set.disjoint_left.2 fun k hk hk' => hne ?_
  obtain ⟨hlow, hhigh, -⟩ :=
    (mem_window (by omega) htotal (mul_lt_of_lt_pageCount hsize htotal hi)).1 hk
  obtain ⟨hlow', hhigh', -⟩ :=
    (mem_window (by omega) htotal (mul_lt_of_lt_pageCount hsize htotal hj)).1 hk'
  have hij : i < j + 1 := Nat.lt_of_mul_lt_mul_right (Nat.lt_of_le_of_lt hlow hhigh')
  have hji : j < i + 1 := Nat.lt_of_mul_lt_mul_right (Nat.lt_of_le_of_lt hlow' hhigh)
  omega

/-- Row `k` is on the page after `k / size` full ones. -/
theorem cover_windows (k : Nat) :
    (k : Int) < (Int64.ofNat total).toInt ↔
      ∃ page, 1 ≤ page ∧ page ≤ totalPages (Int64.ofNat total) (Int64.ofNat size) ∧
        k ∈ window (Int64.ofNat total) (Int64.ofNat size) page := by
  rw [Int64.toInt_ofNat_of_lt htotal]
  constructor
  · intro hk
    have hstart := Nat.div_mul_le_self k size
    have hself : k / size + 1 < 2 ^ 63 :=
      Nat.lt_of_le_of_lt (Nat.succ_le_succ (Nat.div_le_self k size)) (by omega)
    have hpage : k / size < pageCount total size := (lt_pageCount hsize).2 (by omega)
    refine ⟨Int64.ofNat (k / size + 1), ?_, ?_, ?_⟩
    · exact (ofNat_le_ofNat (show 1 < 2 ^ 63 by omega) hself).2 (Nat.le_add_left 1 _)
    · exact (le_totalPages hsize hsize' htotal hself).2 hpage
    · exact (mem_window (by omega) htotal (by omega)).2
        ⟨hstart, by rw [Nat.succ_mul]; exact Nat.lt_div_mul_add hsize, by omega⟩
  · rintro ⟨page, -, -, -, -, hk⟩
    rwa [Int64.toInt_ofNat_of_lt htotal] at hk

theorem nextPage_iff {α : Type} (rows : Int64 → List α) {i : Nat} (hi : i + 2 < 2 ^ 63)
    (hoffset : i * size < 2 ^ 63) (link : Int64) :
    (envelope rows (Int64.ofNat total) (Int64.ofNat size) (Int64.ofNat (i + 1))).nextPage =
        some link ↔
      link = Int64.ofNat (i + 1) + 1 ∧ (window (Int64.ofNat total) (Int64.ofNat size)
        (Int64.ofNat (i + 1) + 1)).Nonempty := by
  rw [envelope_nextPage rows hsize hsize' htotal hi,
    show Int64.ofNat (i + 1) + 1 = Int64.ofNat (i + 1 + 1) from (Int64.ofNat_add (i + 1) 1).symm,
    window_nonempty hsize hsize' htotal (by rw [Nat.succ_mul]; omega)]
  split
  next h => exact ⟨fun hlink => ⟨(Option.some.inj hlink).symm, h⟩, fun hlink => by rw [hlink.1]⟩
  next h => exact ⟨fun hlink => (by cases hlink), fun hlink => absurd hlink.2 h⟩

theorem previousPage_iff {α : Type} (rows : Int64 → List α) {i : Nat} (hi : i + 1 < 2 ^ 63)
    (hoffset : i * size < 2 ^ 63) (link : Int64) :
    (envelope rows (Int64.ofNat total) (Int64.ofNat size) (Int64.ofNat (i + 1))).previousPage =
        some link ↔
      link = Int64.ofNat (i + 1) - 1 ∧ 1 ≤ Int64.ofNat (i + 1) - 1 ∧
        (window (Int64.ofNat total) (Int64.ofNat size) (Int64.ofNat (i + 1) - 1)).Nonempty := by
  have hone : 1 ≤ Int64.ofNat i ↔ 1 ≤ i := ofNat_le_ofNat (show 1 < 2 ^ 63 by omega) (by omega)
  have hshows : 1 ≤ i → ((window (Int64.ofNat total) (Int64.ofNat size) (Int64.ofNat i)).Nonempty ↔
      i ≤ pageCount total size) := by
    intro h
    obtain ⟨j, rfl⟩ := Nat.exists_eq_add_of_le' h
    rw [Nat.succ_mul] at hoffset
    rw [window_nonempty hsize hsize' htotal (by omega)]
    exact Nat.lt_iff_add_one_le
  rw [envelope_previousPage rows hsize hsize' htotal hi, ofNat_succ_sub_one, hone]
  split
  next h =>
    refine ⟨fun hlink => ⟨(Option.some.inj hlink).symm, h.1, (hshows h.1).2 h.2⟩, ?_⟩
    rintro ⟨rfl, -⟩
    rfl
  next h =>
    refine ⟨fun hlink => (by cases hlink), ?_⟩
    rintro ⟨-, hfirst, hrow⟩
    exact absurd ⟨hfirst, (hshows hfirst).1 hrow⟩ h

/-- The walk from page 1, where the last page fits. -/
theorem walk_iff {α : Type} (rows : Int64 → List α)
    (hfits : ∀ page, 1 ≤ page → page ≤ totalPages (Int64.ofNat total) (Int64.ofNat size) →
      Fits (Int64.ofNat total) (Int64.ofNat size) page) (pages : List Int64) :
    Follows rows (Int64.ofNat total) (Int64.ofNat size) 1 pages ↔
      pages = pagesUpTo (max 1 (totalPages (Int64.ofNat total) (Int64.ofNat size))) := by
  have hcount : pageCount total size ≤ total := pageCount_le hsize
  have hlast : pageCount total size + 1 < 2 ^ 63 := by
    rcases Nat.eq_zero_or_pos (pageCount total size) with hzero | hpos
    · omega
    · obtain ⟨i, hi⟩ := Nat.exists_eq_add_of_le' hpos
      have hfirst : 1 ≤ Int64.ofNat (i + 1) :=
        (ofNat_le_ofNat (show 1 < 2 ^ 63 by omega) (by omega)).2 (by omega)
      have hbound := (le_totalPages hsize hsize' htotal (show i + 1 < 2 ^ 63 by omega)).2 (by omega)
      have := ((hfits _ hfirst hbound).bounds hsize hsize' htotal (by omega)).2
      omega
  rw [totalPages, Data.new_totalPages _ _ hsize (by omega) htotal, pagesUpTo_ofNat (by omega)]
  have h := follows_iff rows hsize hsize' htotal hlast (max 1 (pageCount total size) - 1) 0
    (by omega) pages
  rwa [Nat.sub_add_cancel (by omega), ← List.range_eq_range'] at h

end

theorem page_windows_tile {α : Type} (rows : Int64 → List α) {total perPage : Int64}
    (htotal : 0 ≤ total) (hlow : 1 ≤ perPage) (hhigh : perPage ≤ 100) :
    Tiles rows total perPage := by
  obtain ⟨t, ht, rfl⟩ := exists_ofNat htotal
  obtain ⟨n, hn, rfl⟩ := exists_ofNat_succ hlow
  have hsize' : n + 1 ≤ 100 := (ofNat_le_ofNat hn (show 100 < 2 ^ 63 by omega)).1 hhigh
  have hsize : 0 < n + 1 := by omega
  constructor
  case count => exact fun page => rfl
  case offsets =>
    intro page hpage hlast
    obtain ⟨i, hi, rfl⟩ := exists_ofNat_succ hpage
    exact (offsetChecked_pageRequest hsize hsize' hi).2 (mul_lt_of_lt_pageCount hsize ht
      ((le_totalPages hsize hsize' ht hi).1 hlast))
  case nonempty =>
    intro page hpage hlast
    obtain ⟨i, hi, rfl⟩ := exists_ofNat_succ hpage
    have hi' := (le_totalPages hsize hsize' ht hi).1 hlast
    exact (window_nonempty hsize hsize' ht
      (Nat.lt_add_right _ (mul_lt_of_lt_pageCount hsize ht hi'))).2 hi'
  case disjoint =>
    intro page hpage hlast other hother hotherLast hne
    obtain ⟨i, hi, rfl⟩ := exists_ofNat_succ hpage
    obtain ⟨j, hj, rfl⟩ := exists_ofNat_succ hother
    exact disjoint_windows hsize hsize' ht ((le_totalPages hsize hsize' ht hi).1 hlast)
      ((le_totalPages hsize hsize' ht hj).1 hotherLast) fun hij => hne (by rw [hij])
  case cover => exact cover_windows hsize hsize' ht
  case next =>
    intro page hpage hfits
    obtain ⟨i, hi, rfl⟩ := exists_ofNat_succ hpage
    obtain ⟨hoffset, hnext⟩ := hfits.bounds hsize hsize' ht hi
    exact nextPage_iff hsize hsize' ht rows hnext hoffset
  case previous =>
    intro page hpage hfits
    obtain ⟨i, hi, rfl⟩ := exists_ofNat_succ hpage
    exact previousPage_iff hsize hsize' ht rows hi (hfits.bounds hsize hsize' ht hi).1
  case walk => exact walk_iff hsize hsize' ht rows

theorem page_windows_tile_sample :
    (0 : Int64) ≤ 25 ∧ (1 : Int64) ≤ 10 ∧ (10 : Int64) ≤ 100 ∧
      Tiles (fun _ => ([] : List Unit)) 25 10 :=
  ⟨by decide, by decide, by decide,
    page_windows_tile _ (by decide) (by decide) (by decide)⟩

/-- With no row there is no page up to `total_pages`, but the walk visits the first. -/
theorem walk_without_rows :
    Follows (fun _ => ([] : List Unit)) 0 10 1 [1] ∧ pagesUpTo (totalPages 0 10) = [] ∧
      Fits 0 10 1 := by
  refine ⟨Follows.last (by decide), by decide, ?_⟩
  exact ⟨by decide, by decide⟩

end ApiStarter.Pagination
