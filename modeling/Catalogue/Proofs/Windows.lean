import Mathlib.Algebra.Order.Floor.Div
import Catalogue.Proofs.Answering

/-! One window of a query, as a slice and as a page. A slice reads one row past its window to see whether any
follows, a page counts all rows and divides them into pages; both come to the same. -/

set_option autoImplicit false

namespace Catalogue

theorem toNat_pos {size : UInt32} (sized : size ≠ 0) : 0 < size.toNat :=
  Nat.pos_of_ne_zero fun zero => sized (UInt32.toNat_inj.mp zero)

theorem lt_ceilDiv_iff {total size number : Nat} (positive : 0 < size) :
    number < total ⌈/⌉ size ↔ number * size < total := by
  rw [← not_le, ceilDiv_le_iff_le_mul positive, not_le, mul_comm]

namespace Window

variable {α β : Type}

theorem map_cut (f : α → β) (window : Window) (xs : List α) : (window.cut xs).map f = window.cut (xs.map f) := by
  unfold cut
  split
  · exact List.map_drop
  · rw [List.map_take, List.map_drop]

end Window

namespace PageRequest

variable {α : Type} {request : PageRequest}

def beyond (request : PageRequest) (xs : List α) : List α :=
  match request.size with
  | none => []
  | some size => xs.drop (request.offset + size.toNat)

def sliceOf (request : PageRequest) (xs : List α) : Slice α :=
  ⟨(request.window 0).cut xs, request, !(request.beyond xs).isEmpty⟩

theorem cut_window_of_none (whole : request.size = none) (extra : Nat) (xs : List α) :
    (request.window extra).cut xs = xs := by
  simp [window, offset, whole, Window.cut]

theorem cut_window_unpaged (sort : Sorting) (extra : Nat) (xs : List α) :
    ((unpaged.withSort sort).window extra).cut xs = xs :=
  cut_window_of_none rfl extra xs

theorem cut_window_of_some {size : UInt32} (sized : request.size = some size) (extra : Nat) (xs : List α) :
    (request.window extra).cut xs = (xs.drop request.offset).take (size.toNat + extra) := by
  simp [window, sized, Window.cut]

theorem Granted.unpaged (granted : request.Granted) : (PageRequest.unpaged.withSort request.sort).Granted :=
  ⟨granted.known, granted.short, by simp [PageRequest.unpaged, withSort], granted_unpaged.offset⟩

theorem offset_of_some {size : UInt32} (sized : request.size = some size) :
    request.offset = request.number.toNat * size.toNat := by
  rw [offset, sized]

end PageRequest

namespace Page

variable {α : Type} {page : Page α} {size : UInt32}

theorem totalPages_of_none (whole : page.request.size = none) : page.totalPages ≤ 1 := by
  rw [totalPages, whole]
  dsimp only
  split <;> omega

theorem lt_totalPages_iff (sized : page.request.size = some size) (positive : size ≠ 0) {number : Nat} :
    number < page.totalPages ↔ number * size.toNat < page.totalSize := by
  rw [← lt_ceilDiv_iff (toNat_pos positive), totalPages, sized]
  simp only [if_pos (UInt32.pos_iff_ne_zero.mpr positive)]
  rfl

/-- A page of a list, which it counts as a whole: the numbers that it gives for its request. -/
structure Counts (page : Page α) (request : PageRequest) (xs : List α) : Prop where
  asked : page.request = request
  content : page.content = (request.window 0).cut xs
  totalSize : page.totalSize = xs.length
  -- The rows of the window, of which there are none past the end.
  elements : page.numberOfElements = match request.size with
    | none => page.totalSize
    | some size => min size.toNat (page.totalSize - request.offset)
  hasNext : page.hasNext = true ↔ ∃ x, x ∈ request.beyond xs
  -- The pages that are not empty are those with a number below the number of pages.
  nonempty : ∀ size, request.size = some size → (page.content ≠ [] ↔ request.number.toNat < page.totalPages)

theorem counts_cut {request : PageRequest} (sized : request.size ≠ some 0) (xs : List α) :
    Counts ⟨(request.window 0).cut xs, request, xs.length⟩ request xs := by
  cases size : request.size with
  | none =>
    refine ⟨rfl, rfl, rfl, ?_, ?_, by simp [size]⟩
    · rw [size, numberOfElements, request.cut_window_of_none size]
    · have one : totalPages ⟨(request.window 0).cut xs, request, xs.length⟩ ≤ 1 := totalPages_of_none size
      simp only [hasNext, PageRequest.beyond, size, decide_eq_true_eq, List.not_mem_nil, exists_false, iff_false]
      omega
  | some size' =>
    have positive : size' ≠ 0 := fun zero => sized (by rw [size, zero])
    have within {number : Nat} : number < totalPages ⟨(request.window 0).cut xs, request, xs.length⟩ ↔
        number * size'.toNat < xs.length := lt_totalPages_iff size positive
    refine ⟨rfl, rfl, rfl, ?_, ?_, fun _ _ => ?_⟩
    · rw [size, numberOfElements, request.cut_window_of_some size, List.length_take, List.length_drop, Nat.add_zero]
    · rw [hasNext, decide_eq_true_eq, within, ← List.isEmpty_eq_false_iff_exists_mem, List.isEmpty_eq_false_iff,
        PageRequest.beyond, size, Nat.succ_mul, PageRequest.offset_of_some size, ne_eq, List.drop_eq_nil_iff, not_le]
    · rw [within, request.cut_window_of_some size, ← PageRequest.offset_of_some size, ne_eq, List.take_eq_nil_iff,
        List.drop_eq_nil_iff]
      have := toNat_pos positive
      omega

end Page

namespace Store

variable {store : Store} {filter : Filter} {request : PageRequest}

def sorted (store : Store) (filter : Filter) (sort : Sorting) : List Book :=
  (sortRows sort.terms (store.books.rows.filter (filter.picks store))).map store.bookOf

theorem sorted_perm (store : Store) (filter : Filter) (sort : Sorting) :
    (store.sorted filter sort).Perm ((store.books.rows.filter (filter.picks store)).map store.bookOf) :=
  (List.mergeSort_perm _ _).map _

theorem length_sorted (store : Store) (filter : Filter) (sort : Sorting) :
    (store.sorted filter sort).length = store.books.count (filter.picks store) := by
  rw [(store.sorted_perm filter sort).length_eq, List.length_map, Table.count, List.countP_eq_length_filter]

theorem length_sorted_le (store : Store) (filter : Filter) (sort : Sorting) :
    (store.sorted filter sort).length ≤ store.books.rows.length := by
  rw [length_sorted, Table.count]
  exact List.countP_le_length

theorem map_rowsOf (store : Store) (filter : Filter) (request : PageRequest) (extra : Nat) :
    (store.rowsOf filter request extra).map store.bookOf =
      (request.window extra).cut (store.sorted filter request.sort) :=
  Window.map_cut _ _ _

namespace Sound

theorem findBooks_cut (sound : store.Sound) (picked : filter.Granted) (granted : request.Granted) (extra : Nat) :
    findBooks store filter request extra = .ok ((request.window extra).cut (store.sorted filter request.sort)) := by
  rw [sound.findBooks_eq picked granted, map_rowsOf]

-- The row past the window is there if the window is not the last.
theorem slice_eq (sound : store.Sound) (granted : request.Granted) :
    Books.slice store request = .ok (request.sliceOf (store.sorted .everything request.sort)) := by
  have everything : Filter.everything.Granted := trivial
  rw [Books.slice, sound.findBooks_cut everything granted, PageRequest.sliceOf]
  generalize store.sorted .everything request.sort = xs
  cases size : request.size with
  | none =>
    rw [request.cut_window_of_none size, request.cut_window_of_none size, PageRequest.beyond, size]
    rfl
  | some size' =>
    rw [request.cut_window_of_some size, request.cut_window_of_some size, PageRequest.beyond, size]
    refine congrArg Except.ok (Slice.mk.injEq _ _ _ _ _ _ ▸ ⟨?_, rfl, ?_⟩)
    · exact List.take_take.trans (by rw [min_eq_left (Nat.le_succ _)]; rfl)
    · rw [Bool.eq_iff_iff]
      simp only [decide_eq_true_eq, List.length_take, List.length_drop, Bool.not_eq_true', List.isEmpty_eq_false_iff,
        ne_eq, List.drop_eq_nil_iff]
      omega

theorem pageOf_cut (sound : store.Sound) (picked : filter.Granted) (granted : request.Granted) :
    Books.pageOf store filter request =
      .ok ⟨(request.window 0).cut (store.sorted filter request.sort), request,
        (store.sorted filter request.sort).length⟩ := by
  rw [sound.pageOf_eq picked granted, map_rowsOf, length_sorted]

theorem pageOf_counts (sound : store.Sound) (filter : Filter) (granted : request.Granted) :
    (∃ whole page, Books.pageOf store filter (PageRequest.unpaged.withSort request.sort) = .ok whole ∧
        Books.pageOf store filter request = .ok page ∧ page.Counts request whole.content ∧
        countBooks store filter = .ok page.totalSize) ∨
      ¬ filter.Granted ∧ Books.pageOf store filter request = .error (.engine .patternTooComplex) ∧
        countBooks store filter = .error (.engine .patternTooComplex) := by
  rcases Filter.select_eq_or store filter with selected | ⟨refused, long⟩
  · refine .inl ⟨_, _, sound.readable.pageOf_of_select selected granted.unpaged,
      sound.readable.pageOf_of_select selected granted, ?_, countBooks_of_select selected⟩
    simp only [map_rowsOf, ← length_sorted store filter request.sort]
    rw [PageRequest.cut_window_unpaged]
    exact Page.counts_cut granted.sized _
  · refine .inr ⟨long, ?_, ?_⟩
    · rw [Books.pageOf, findBooks_of_select_error refused granted]
      rfl
    · rw [countBooks, refused]
      rfl

end Sound

end Store

namespace Books

/-- A slice and a page of all books hold the same window and agree on whether any book follows; and a page counts
what its query counts, whichever window it is of. -/
theorem slice_agrees_with_page {c : Connection} (reached : Reached c) {request : PageRequest}
    (granted : request.Granted) :
    (∃ whole slice page, Books.page c.store (PageRequest.unpaged.withSort request.sort) = .ok whole ∧
        Books.slice c.store request = .ok slice ∧ Books.page c.store request = .ok page ∧
        slice.content = page.content ∧ slice.hasNext = page.hasNext ∧ page.Counts request whole.content ∧
        count c.store = .ok page.totalSize) ∧
      ∀ pattern,
        (∃ whole page, titleLike c.store pattern (PageRequest.unpaged.withSort request.sort) = .ok whole ∧
            titleLike c.store pattern request = .ok page ∧ page.Counts request whole.content ∧
            countTitleLike c.store pattern = .ok page.totalSize) ∨
          ¬ (Filter.titleLike pattern).Granted ∧
            titleLike c.store pattern request = .error (.engine .patternTooComplex) ∧
            countTitleLike c.store pattern = .error (.engine .patternTooComplex) := by
  have sound := reached.sound.store
  refine ⟨?_, fun pattern => sound.pageOf_counts (.titleLike pattern) granted⟩
  rcases sound.pageOf_counts .everything granted with ⟨whole, page, all, asked, counts, counted⟩ | ⟨refused, -⟩
  · have same : whole.content = c.store.sorted .everything request.sort := by
      have everything : Filter.everything.Granted := trivial
      rw [sound.pageOf_cut everything granted.unpaged] at all
      rw [← Except.ok.inj all]
      exact PageRequest.cut_window_unpaged request.sort 0 _
    refine ⟨whole, _, page, all, sound.slice_eq granted, asked, ?_, ?_, counts, counted⟩
    · rw [counts.content, same]
      rfl
    · rw [Bool.eq_iff_iff, counts.hasNext, same, PageRequest.sliceOf, Bool.not_eq_true',
        List.isEmpty_eq_false_iff_exists_mem]
  · exact absurd trivial refused

theorem slice_agrees_with_page_sample :
    let request : PageRequest := ⟨1, some 1, .on ⟨"title", .desc⟩⟩
    request.Granted ∧
      (∃ slice page, Books.slice Connection.sample.store request = .ok slice ∧
        Books.page Connection.sample.store request = .ok page ∧ slice.content = page.content ∧
        slice.hasNext = page.hasNext) ∧
      ∃ page, titleLike Connection.sample.store "D%" request = .ok page ∧
        countTitleLike Connection.sample.store "D%" = .ok page.totalSize := by
  intro request
  have granted : request.Granted := ⟨by simp [request, Sorting.on], by decide, by decide, by decide⟩
  obtain ⟨⟨-, slice, page, -, sliced, paged, content, hasNext, -⟩, search⟩ :=
    slice_agrees_with_page reached_sample granted
  refine ⟨granted, ⟨slice, page, sliced, paged, content, hasNext⟩, ?_⟩
  rcases search "D%" with ⟨-, page, -, found, -, counted⟩ | ⟨refused, -⟩
  · exact ⟨page, found, counted⟩
  · exact absurd (by decide +kernel) refused

-- With the id behind them, so many terms are one too many, and neither is answered.
theorem slice_and_page_refused :
    let request := PageRequest.unpaged.withSort ⟨List.replicate 2000 ⟨"title", .asc⟩⟩
    Reached .sample ∧ (∀ term ∈ request.sort.orders, term.property ∈ ["id", "title", "pages"]) ∧ request.size = none ∧
      request.offset ≤ IntRange.int64.high ∧
      Books.slice Connection.sample.store request = .error (.engine .tooManySortTerms) ∧
      Books.page Connection.sample.store request = .error (.engine .tooManySortTerms) := by
  intro request
  have known : ∀ term ∈ request.sort.orders, term.property ∈ ["id", "title", "pages"] := by
    intro term member
    rw [List.eq_of_mem_replicate member]
    decide
  have sized : request.size ≠ some 0 := by decide
  have offset : request.offset ≤ IntRange.int64.high := by decide
  have terms : sortTermLimit < request.sort.terms.length := by decide +kernel
  refine ⟨reached_sample, known, rfl, offset, ?_, ?_⟩
  · rw [slice, Store.findBooks_tooManyTerms known sized offset terms]
    rfl
  · rw [page, pageOf, Store.findBooks_tooManyTerms known sized offset terms]
    rfl

end Books

end Catalogue
