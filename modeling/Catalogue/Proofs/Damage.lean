import Catalogue.Proofs.Paging
import Catalogue.Store.Direct

/-! Queries of a store in which rows stand that cannot be read. A query reads the rows of its window and the reviews
of their books, and it is answered where all of these can be read, whatever the other rows hold. The window of a slice
has one row more than the slice. -/

set_option autoImplicit false

namespace Catalogue

theorem exists_mapM_eq_ok_iff {ε α β : Type} {f : α → Except ε β} {xs : List α} :
    (∃ ys, xs.mapM f = .ok ys) ↔ ∀ x ∈ xs, ∃ y, f x = .ok y := by
  induction xs with
  | nil => simp [pure, Except.pure]
  | cons x rest ih =>
    rw [List.forall_mem_cons, ← ih]
    simp only [List.mapM_cons, bind_eq_ok, pure, Except.pure, Except.ok.injEq]
    constructor
    · rintro ⟨_, y, first, ys, later, -⟩
      exact ⟨⟨y, first⟩, ys, later⟩
    · rintro ⟨⟨y, first⟩, ys, later⟩
      exact ⟨_, y, first, ys, later, rfl⟩

theorem exists_bind_pure_iff {ε α β : Type} {x : Except ε α} {f : α → β} :
    (∃ b, (x >>= fun a => .ok (f a)) = .ok b) ↔ ∃ a, x = .ok a := by
  simp [bind_eq_ok]

theorem exists_mapError_iff {ε ζ α : Type} {x : Except ε α} {f : ε → ζ} :
    (∃ a, x.mapError f = .ok a) ↔ ∃ a, x = .ok a := by
  simp [mapError_eq_ok]

/-- A cell that holds text, be it kept as a string or as its bytes. -/
def Cell.HoldsText : Cell → Prop
  | .text _ => True
  | .garbled bytes => ∃ s, Text.decode bytes = .ok s
  | _ => False

theorem Cell.exists_toText_iff {cell : Cell} {index : Nat} {column : String} :
    (∃ s, cell.toText index column = .ok s) ↔ cell.HoldsText := by
  cases cell with
  | text s => simp [toText, HoldsText]
  | garbled bytes =>
    rw [toText, HoldsText]
    cases Text.decode bytes <;> simp
  | null | int _ | real _ | blob _ => simp [toText, HoldsText]

structure Row.HoldsBook (row : Row BookCells) : Prop where
  title : row.cells.title.HoldsText
  pages : ∃ n, row.cells.pages = .int n ∧ 0 ≤ n ∧ n ≤ IntRange.int32.high

structure Row.HoldsReview (row : Row ReviewCells) : Prop where
  reviewer : row.cells.reviewer.HoldsText
  content : row.cells.content.HoldsText
  bookId : row.cells.bookId = .null ∨ ∃ n, row.cells.bookId = .int n

namespace Row

theorem exists_toReview_iff {row : Row ReviewCells} : (∃ review, row.toReview = .ok review) ↔ row.HoldsReview := by
  have key : (∃ id?, row.cells.bookId.toKey? 3 "book_id" = .ok id?) ↔
      row.cells.bookId = .null ∨ ∃ n, row.cells.bookId = .int n := by
    cases row.cells.bookId <;> simp [Cell.toKey?]
  unfold toReview
  constructor
  · rintro ⟨review, read⟩
    obtain ⟨s, reviewer, read⟩ := bind_eq_ok.mp read
    obtain ⟨t, content, read⟩ := bind_eq_ok.mp read
    obtain ⟨id?, bookId, -⟩ := bind_eq_ok.mp read
    exact ⟨Cell.exists_toText_iff.mp ⟨s, reviewer⟩, Cell.exists_toText_iff.mp ⟨t, content⟩, key.mp ⟨id?, bookId⟩⟩
  · intro holds
    obtain ⟨s, reviewer⟩ := Cell.exists_toText_iff.mpr holds.reviewer
    obtain ⟨t, content⟩ := Cell.exists_toText_iff.mpr holds.content
    obtain ⟨id?, bookId⟩ := key.mpr holds.bookId
    exact ⟨_, bind_eq_ok.mpr ⟨s, reviewer, bind_eq_ok.mpr ⟨t, content, bind_eq_ok.mpr ⟨id?, bookId, rfl⟩⟩⟩⟩

theorem toBook_eq_ok_iff {row : Row BookCells} {book : Book} :
    row.toBook = .ok book ↔ ∃ title pages, row.cells.title.toText 1 "title" = .ok title ∧
      row.cells.pages.toInt32 2 "pages" = .ok pages ∧ ¬ pages < 0 ∧ book = ⟨some row.id, title, pages, []⟩ := by
  unfold toBook
  simp only [bind_eq_ok, mapError_eq_ok, Book.validate, pure, Except.pure, Except.ok.injEq]
  constructor
  · rintro ⟨title, text, pages, number, _, valid, rfl⟩
    refine ⟨title, pages, text, number, fun negative => ?_, rfl⟩
    simp [negative] at valid
  · rintro ⟨title, pages, text, number, valid, rfl⟩
    exact ⟨title, text, pages, number, (), if_neg valid, rfl⟩

theorem exists_toInt32_iff {cell : Cell} {index : Nat} {column : String} :
    (∃ pages : Int32, cell.toInt32 index column = .ok pages ∧ ¬ pages < 0) ↔
      ∃ n, cell = .int n ∧ 0 ≤ n ∧ n ≤ IntRange.int32.high := by
  cases cell with
  | int n =>
    simp only [Cell.toInt32, Cell.int.injEq, exists_eq_left', IntRange.contains_iff, IntRange.int32]
    by_cases fits : -2147483648 ≤ n ∧ n ≤ 2147483647
    · rw [if_pos fits]
      have same : (Int32.ofInt n).toInt = n := Int32.toInt_ofInt_of_le (by omega) (by omega)
      simp only [Except.ok.injEq, exists_eq_left', Int32.lt_iff_toInt_lt, same]
      simp
      omega
    · rw [if_neg fits]
      simp
      omega
  | null | real _ | text _ | garbled _ | blob _ => simp [Cell.toInt32]

theorem exists_toBook_iff {row : Row BookCells} : (∃ book, row.toBook = .ok book) ↔ row.HoldsBook := by
  simp only [toBook_eq_ok_iff]
  constructor
  · rintro ⟨_, title, pages, text, number, valid, -⟩
    exact ⟨Cell.exists_toText_iff.mp ⟨title, text⟩, exists_toInt32_iff.mp ⟨pages, number, valid⟩⟩
  · intro holds
    obtain ⟨title, text⟩ := Cell.exists_toText_iff.mpr holds.title
    obtain ⟨pages, number, valid⟩ := exists_toInt32_iff.mpr holds.pages
    exact ⟨_, title, pages, text, number, valid, rfl⟩

theorem ids_of_mapM_toBook {rows : List (Row BookCells)} {books : List Book} (read : rows.mapM toBook = .ok books) :
    books.filterMap (·.id) = rows.map (·.id) := by
  induction rows generalizing books with
  | nil =>
    cases read
    rfl
  | cons row rest ih =>
    rw [List.mapM_cons] at read
    obtain ⟨book, first, tail⟩ := bind_eq_ok.mp read
    obtain ⟨later, rest, same⟩ := bind_eq_ok.mp tail
    cases same
    obtain ⟨_, _, -, -, -, rfl⟩ := toBook_eq_ok_iff.mp first
    simp [ih rest]

end Row

namespace Store

variable {store : Store}

structure Legible (store : Store) (row : Row BookCells) : Prop where
  book : row.HoldsBook
  reviews : ∀ review ∈ store.reviews.rows, review.isOf row.id = true → review.HoldsReview

theorem exists_reviewsOfAll_iff {books : List BookId} :
    (∃ reviews, reviewsOfAll store books = .ok reviews) ↔
      ∀ book ∈ books, ∀ review ∈ store.reviews.rows, review.isOf book = true → review.HoldsReview := by
  rw [reviewsOfAll, exists_mapM_eq_ok_iff]
  simp only [List.mem_filter, List.any_eq_true, Row.exists_toReview_iff]
  constructor
  · exact fun read book listed review member ofBook => read review ⟨member, book, listed, ofBook⟩
  · rintro read review ⟨member, book, listed, ofBook⟩
    exact read book listed review member ofBook

-- The reviews are read in chunks, and each book is in one of them.
theorem exists_attachReviews_iff {books : List Book} :
    (∃ read, attachReviews store books = .ok read) ↔
      ∀ book ∈ books.filterMap (·.id), ∀ review ∈ store.reviews.rows, review.isOf book = true →
        review.HoldsReview := by
  rw [attachReviews]
  refine exists_bind_pure_iff.trans ?_
  rw [exists_mapM_eq_ok_iff]
  have whole : (chunks reviewChunk (books.filterMap (·.id))).flatten = books.filterMap (·.id) :=
    flatten_chunks (by decide) _
  simp only [exists_reviewsOfAll_iff]
  conv_rhs => rw [← whole]
  simp only [List.mem_flatten]
  constructor
  · rintro read book ⟨piece, among, listed⟩
    exact read piece among book listed
  · exact fun read piece among book listed => read book ⟨piece, among, listed⟩

/-- A granted query is answered where the rows of its window can be read, and nowhere else. -/
theorem exists_findBooks_iff {filter : Filter}
    (selected : filter.select store = .ok (store.books.rows.filter (filter.picks store))) {request : PageRequest}
    (granted : request.Granted) (extra : Nat) :
    (∃ books, findBooks store filter request extra = .ok books) ↔
      ∀ row ∈ store.rowsOf filter request extra, store.Legible row := by
  have rows : selectRows store filter request.sort.terms (request.window extra) =
      .ok (store.rowsOf filter request extra) := by
    rw [selectRows, if_neg (Nat.not_lt.mpr granted.short), selected]
    rfl
  have asked : findBooks store filter request extra = (store.rowsOf filter request extra).mapM Row.toBook >>=
      fun books => (attachReviews store books).mapError .engine := by
    simp only [findBooks, Sorting.resolve_eq granted.known, Window.ofRequest_eq granted.sized granted.offset, rows,
      mapError_ok, bind, Except.bind]
  rw [asked]
  constructor
  · rintro ⟨answer, found⟩ row member
    obtain ⟨books, read, attached⟩ := bind_eq_ok.mp found
    have reviews := exists_attachReviews_iff.mp (exists_mapError_iff.mp ⟨answer, attached⟩)
    rw [Row.ids_of_mapM_toBook read] at reviews
    exact ⟨Row.exists_toBook_iff.mp (exists_mapM_eq_ok_iff.mp ⟨books, read⟩ row member),
      reviews row.id (List.mem_map_of_mem member)⟩
  · intro legible
    obtain ⟨books, read⟩ :=
      exists_mapM_eq_ok_iff.mpr fun row member => Row.exists_toBook_iff.mpr (legible row member).book
    have reviews : ∀ id ∈ books.filterMap (·.id), ∀ review ∈ store.reviews.rows, review.isOf id = true →
        review.HoldsReview := by
      rw [Row.ids_of_mapM_toBook read, List.forall_mem_map]
      exact fun row member => (legible row member).reviews
    obtain ⟨answer, attached⟩ := exists_mapError_iff.mpr (exists_attachReviews_iff.mpr reviews)
    exact ⟨answer, bind_eq_ok.mpr ⟨books, read, attached⟩⟩

def matching (store : Store) (filter : Filter) (sort : Sorting) : List (Row BookCells) :=
  sortRows sort.terms (store.books.rows.filter (filter.picks store))

theorem matching_unsorted (store : Store) (filter : Filter) :
    store.matching filter .unsorted = store.books.rows.filter (filter.picks store) := by
  refine List.mergeSort_of_pairwise ((store.books.ascending.filter _).imp fun {a b} below => ?_)
  change ((compare a.id b.id).then .eq).isLE = true
  rw [compare_lt_iff_lt.mpr below]
  rfl

/-- Of these rows, those from one place on and before another can be read with their reviews. -/
def LegibleBetween (store : Store) (rows : List (Row BookCells)) (first past : Nat) : Prop :=
  ∀ place row, first ≤ place → place < past → rows[place]? = some row → store.Legible row

theorem Readable.legible (readable : store.Readable) {row : Row BookCells} (member : row ∈ store.books.rows) :
    store.Legible row :=
  ⟨Row.exists_toBook_iff.mp ⟨_, readable.toBook_eq member⟩,
    fun _ listed _ => Row.exists_toReview_iff.mp ⟨_, readable.toReview_eq listed⟩⟩

theorem Readable.legibleBetween (readable : store.Readable) (filter : Filter) (sort : Sorting) (first past : Nat) :
    store.LegibleBetween (store.matching filter sort) first past := by
  intro place row _ _ there
  have member := List.mem_mergeSort.mp (List.mem_of_getElem? there)
  exact readable.legible (List.mem_filter.mp member).1

theorem forall_mem_rowsOf_iff {filter : Filter} {request : PageRequest} {size : UInt32}
    (sized : request.size = some size) (extra : Nat) :
    (∀ row ∈ store.rowsOf filter request extra, store.Legible row) ↔
      store.LegibleBetween (store.matching filter request.sort) request.offset
        (request.offset + size.toNat + extra) := by
  rw [rowsOf, request.cut_window_of_some sized]
  simp only [List.mem_iff_getElem?, List.getElem?_take, List.getElem?_drop]
  constructor
  · intro legible place row from_ before there
    refine legible row ⟨place - request.offset, ?_⟩
    rw [if_pos (by omega), Nat.add_sub_cancel' from_]
    exact there
  · rintro legible row ⟨index, there⟩
    split at there
    · exact legible _ row (Nat.le_add_right _ index) (by omega) there
    · cases there

theorem legibleBetween_succ_iff {rows : List (Row BookCells)} {first past : Nat} (ordered : first ≤ past) :
    store.LegibleBetween rows first (past + 1) ↔
      store.LegibleBetween rows first past ∧ ∀ row, rows[past]? = some row → store.Legible row := by
  constructor
  · exact fun legible => ⟨fun place row from_ before => legible place row from_ (by omega),
      fun row => legible past row ordered (by omega)⟩
  · rintro ⟨legible, last⟩ place row from_ before there
    rcases Nat.lt_succ_iff_lt_or_eq.mp before with earlier | rfl
    · exact legible place row from_ earlier there
    · exact last row there

end Store

theorem PageRequest.granted_first {size : UInt32} (positive : size ≠ 0) : (ofSize 0 size).Granted where
  known := by simp [ofSize, Sorting.unsorted]
  short := (by decide : Sorting.unsorted.terms.length ≤ sortTermLimit)
  sized := by simpa [ofSize] using positive
  offset := by simp [offset, ofSize, IntRange.int64]

def Store.damaged : Store := (Direct.putBook .null (.text "Ulysses") (.int (-1)) .sample).connection.store

namespace Books

variable {store : Store} {request : PageRequest} {size : UInt32}

theorem exists_pageOf_iff {filter : Filter}
    (selected : filter.select store = .ok (store.books.rows.filter (filter.picks store))) (granted : request.Granted)
    (sized : request.size = some size) :
    (∃ page, pageOf store filter request = .ok page) ↔
      store.LegibleBetween (store.matching filter request.sort) request.offset (request.offset + size.toNat) := by
  rw [pageOf, Store.countBooks_of_select selected]
  refine exists_bind_pure_iff.trans ((Store.exists_findBooks_iff selected granted 0).trans ?_)
  exact Store.forall_mem_rowsOf_iff sized 0

theorem exists_slice_iff (granted : request.Granted) (sized : request.size = some size) :
    (∃ answer, slice store request = .ok answer) ↔
      store.LegibleBetween (store.matching .everything request.sort) request.offset
        (request.offset + size.toNat + 1) := by
  rw [slice, sized]
  refine exists_bind_pure_iff.trans ((Store.exists_findBooks_iff ?_ granted 1).trans ?_)
  · exact Filter.select_eq store trivial
  · exact Store.forall_mem_rowsOf_iff sized 1

/-- A query of a window is answered where the rows of the window can be read with their reviews, whatever the other
rows hold; only the row right behind the window of a slice is read as well. A search for a pattern that is too long
may be refused instead. -/
theorem windows_read_alone (store : Store) {request : PageRequest} {size : UInt32} (granted : request.Granted)
    (sized : request.size = some size) :
    let first := request.offset
    let past := request.offset + size.toNat
    let rows := fun filter : Filter => store.matching filter request.sort
    ((∃ answer, page store request = .ok answer) ↔ store.LegibleBetween (rows .everything) first past) ∧
      (∀ pages, (∃ answer, longerThan store pages request = .ok answer) ↔
        store.LegibleBetween (rows (.longerThan pages)) first past) ∧
      (∀ pattern, ((∃ answer, titleLike store pattern request = .ok answer) ↔
          store.LegibleBetween (rows (.titleLike pattern)) first past) ∨
        ¬ (Filter.titleLike pattern).Granted ∧
          titleLike store pattern request = .error (.engine .patternTooComplex)) ∧
      ((∃ answer, slice store request = .ok answer) ↔
        store.LegibleBetween (rows .everything) first (past + 1)) ∧
      ((∃ answer, slice store request = .ok answer) ↔
        (∃ answer, page store request = .ok answer) ∧
          ∀ row, (rows .everything)[past]? = some row → store.Legible row) := by
  intro first past rows
  have whole : (∃ answer, page store request = .ok answer) ↔ store.LegibleBetween (rows .everything) first past :=
    exists_pageOf_iff (Filter.select_eq store trivial) granted sized
  have next : (∃ answer, slice store request = .ok answer) ↔
      store.LegibleBetween (rows .everything) first (past + 1) := exists_slice_iff granted sized
  refine ⟨whole, fun pages => ?_, fun pattern => ?_, next, ?_⟩
  · refine (Store.exists_findBooks_iff ?_ granted 0).trans (Store.forall_mem_rowsOf_iff sized 0)
    exact Filter.select_eq store trivial
  · rcases Filter.select_eq_or store (.titleLike pattern) with selected | ⟨refused, long⟩
    · exact .inl (exists_pageOf_iff selected granted sized)
    · refine .inr ⟨long, ?_⟩
      rw [titleLike, pageOf, Store.findBooks_of_select_error refused granted]
      rfl
  · rw [next, whole]
    exact Store.legibleBetween_succ_iff (Nat.le_add_right _ _)

theorem matching_damaged :
    Store.damaged.matching .everything .unsorted =
      [⟨1, ⟨.text "Dune", .int 412⟩⟩, ⟨2, ⟨.text "Emma", .int 474⟩⟩, ⟨3, ⟨.text "Ulysses", .int (-1)⟩⟩] := by
  rw [Store.matching_unsorted]
  decide +kernel

theorem legible_damaged :
    Store.damaged.LegibleBetween (Store.damaged.matching .everything .unsorted) 0 2 := by
  have reviews : Store.damaged.reviews.rows =
      [⟨1, ⟨.text "Ann", .text "Vast", .int 1⟩⟩, ⟨2, ⟨.text "Bob", .text "Long", .int 1⟩⟩] := by decide +kernel
  have readable : ∀ review ∈ Store.damaged.reviews.rows, review.HoldsReview := by
    rw [reviews, List.forall_mem_cons, List.forall_mem_singleton]
    exact ⟨⟨trivial, trivial, .inr ⟨1, rfl⟩⟩, ⟨trivial, trivial, .inr ⟨1, rfl⟩⟩⟩
  rw [matching_damaged]
  intro place row _ before there
  refine ⟨?_, fun review member _ => readable review member⟩
  match place, before with
  | 0, _ =>
    cases there
    exact ⟨trivial, 412, rfl, by decide, by decide⟩
  | 1, _ =>
    cases there
    exact ⟨trivial, 474, rfl, by decide, by decide⟩

theorem windows_read_alone_before_damage :
    let request := PageRequest.ofSize 0 1
    request.Granted ∧ request.size = some 1 ∧ (∃ answer, slice Store.damaged request = .ok answer) ∧
      ∃ answer, page Store.damaged request = .ok answer := by
  intro request
  have granted : request.Granted := PageRequest.granted_first (by decide)
  obtain ⟨-, -, -, next, both⟩ := windows_read_alone Store.damaged granted rfl
  have answered := next.mpr legible_damaged
  exact ⟨granted, rfl, answered, (both.mp answered).1⟩

theorem titleLike_tooComplex {row : Row BookCells} (member : row ∈ store.books.rows) (granted : request.Granted) :
    titleLike store (String.ofList (List.replicate 50001 '_')) request = .error (.engine .patternTooComplex) := by
  have long : ¬ (Filter.titleLike (String.ofList (List.replicate 50001 '_'))).Granted := by
    rw [Filter.Granted, Like.toGlob_replicate, utf8ByteSize_replicate]
    decide
  have first : (TitleSearch.ofLike store (String.ofList (List.replicate 50001 '_'))).glob.head? = some '?' := by
    rw [TitleSearch.ofLike, Like.toGlob_replicate, List.head?_replicate]
    rfl
  have examined := TitleSearch.examines_of_wildcard first row.cells.title
  rw [titleLike, pageOf, Store.findBooks_tooComplex granted long member examined]
  rfl

theorem windows_read_with_next_row :
    let request := PageRequest.ofSize 0 2
    let pattern := String.ofList (List.replicate 50001 '_')
    request.Granted ∧ request.size = some 2 ∧
      Store.damaged.LegibleBetween (Store.damaged.matching .everything request.sort) request.offset
        (request.offset + 2) ∧
      (∃ answer, page Store.damaged request = .ok answer) ∧ (¬ ∃ answer, slice Store.damaged request = .ok answer) ∧
      Connection.sample.store.LegibleBetween (Connection.sample.store.matching (.titleLike pattern) request.sort)
        request.offset (request.offset + 2) ∧
      titleLike Connection.sample.store pattern request = .error (.engine .patternTooComplex) := by
  intro request pattern
  have granted : request.Granted := PageRequest.granted_first (by decide)
  have everything : Filter.everything.select Store.damaged = .ok _ := Filter.select_eq Store.damaged trivial
  have stored : ⟨2, .text "Emma", .int 474⟩ ∈ Connection.sample.store.books.rows := by decide +kernel
  have readable := reached_sample.sound.store.readable
  refine ⟨granted, rfl, legible_damaged, (exists_pageOf_iff everything granted rfl).mpr legible_damaged, ?_,
    readable.legibleBetween _ _ _ _, titleLike_tooComplex stored granted⟩
  intro answered
  have legible := (exists_slice_iff granted rfl).mp answered
  have third : (Store.damaged.matching .everything request.sort)[2]? = some ⟨3, ⟨.text "Ulysses", .int (-1)⟩⟩ := by
    rw [show request.sort = .unsorted from rfl, matching_damaged]
    rfl
  obtain ⟨pages, same, positive, -⟩ := (legible 2 _ (by decide) (by decide) third).book.pages
  cases same
  exact absurd positive (by decide)

end Books

end Catalogue
