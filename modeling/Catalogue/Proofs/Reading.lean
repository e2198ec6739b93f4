import Catalogue.History
import Catalogue.Proofs.Soundness

/-! What is read from a sound store: every row can be read, so each query comes down to an equation
about the rows, and only the checks of a request are left to refuse it. That the rows can be read is all that a query
needs of a store. -/

set_option autoImplicit false

namespace Catalogue

theorem mapM_eq_ok_map {ε α β : Type} {f : α → Except ε β} {g : α → β} {xs : List α}
    (each : ∀ x ∈ xs, f x = .ok (g x)) : xs.mapM f = .ok (xs.map g) := by
  induction xs with
  | nil => rfl
  | cons x rest ih =>
    obtain ⟨head, tail⟩ := List.forall_mem_cons.mp each
    rw [List.mapM_cons, head, ih tail]
    rfl

theorem flatten_chunks {α : Type} {size : Nat} (positive : size ≠ 0) (xs : List α) : (chunks size xs).flatten = xs := by
  fun_induction chunks size xs with
  | case1 xs stop => simpa [positive, eq_comm] using stop
  | case2 xs more ih => rw [List.flatten_cons, ih, List.take_append_drop]

namespace Store

variable {store : Store}

def reviewsOf (store : Store) (book : BookId) : List Review :=
  (store.reviews.rows.filter (·.isOf book)).map Row.review

def bookOf (store : Store) (row : Row BookCells) : Book := { row.book with reviews := store.reviewsOf row.id }

/-- Each book row holds a book that may be stored, and each review row a review of some book. -/
structure Readable (store : Store) : Prop where
  books : ∀ row ∈ store.books.rows, ∃ book : Book, row.cells = book.cells ∧ ¬ book.pages < 0
  reviews : ∀ row ∈ store.reviews.rows, ∃ (review : Review) (owner : BookId), row.cells = review.cells owner

theorem Sound.readable (sound : store.Sound) : store.Readable where
  books row member := (sound.books row member).2
  reviews row member := by
    obtain ⟨-, review, owner, cells, -⟩ := sound.reviews row member
    exact ⟨review, owner, cells⟩

namespace Readable

theorem toBook_eq (readable : store.Readable) {row : Row BookCells} (member : row ∈ store.books.rows) :
    row.toBook = .ok row.book := by
  obtain ⟨book, cells, valid⟩ := readable.books row member
  obtain ⟨id, _⟩ := row
  subst cells
  exact Row.toBook_cells id valid

theorem toReview_eq (readable : store.Readable) {row : Row ReviewCells} (member : row ∈ store.reviews.rows) :
    row.toReview = .ok row.review := by
  obtain ⟨review, owner, cells⟩ := readable.reviews row member
  obtain ⟨id, _⟩ := row
  subst cells
  exact Row.toReview_cells id review owner

theorem bookId_eq_iff (readable : store.Readable) {row : Row ReviewCells} (member : row ∈ store.reviews.rows)
    (book : BookId) : (row.review.bookId == some book) = row.isOf book := by
  obtain ⟨review, owner, cells⟩ := readable.reviews row member
  obtain ⟨id, _⟩ := row
  subst cells
  rw [Row.isOf_cells, Row.review_of_cells]
  rfl

theorem eq_of_isOf (readable : store.Readable) {row : Row ReviewCells} (member : row ∈ store.reviews.rows)
    {book other : BookId} (first : row.isOf book = true) (second : row.isOf other = true) : book = other := by
  rw [← readable.bookId_eq_iff member, beq_iff_eq] at first second
  exact Option.some.inj (first.symm.trans second)

theorem reviewsOfAll_eq (readable : store.Readable) (books : List BookId) :
    reviewsOfAll store books = .ok ((store.reviews.rows.filter fun row => books.any row.isOf).map Row.review) :=
  mapM_eq_ok_map fun _ member => readable.toReview_eq (List.mem_filter.mp member).1

-- Among the reviews read for some books, those of one book are all that it has, if it is among them.
theorem filter_read (readable : store.Readable) (books : List BookId) (book : BookId) :
    (((store.reviews.rows.filter fun row => books.any row.isOf).map Row.review).filter (·.bookId == some book)) =
      if book ∈ books then store.reviewsOf book else [] := by
  rw [List.filter_map, List.filter_filter]
  split
  · rename_i listed
    refine congrArg _ (List.filter_congr fun row member => ?_)
    rw [Function.comp_apply, readable.bookId_eq_iff member, Bool.and_eq_left_iff_imp, List.any_eq_true]
    exact fun ofBook => ⟨book, listed, ofBook⟩
  · rename_i unlisted
    rw [List.map_eq_nil_iff, List.filter_eq_nil_iff]
    intro row member both
    rw [Function.comp_apply, readable.bookId_eq_iff member, Bool.and_eq_true, List.any_eq_true] at both
    obtain ⟨ofBook, other, listed, ofOther⟩ := both
    exact unlisted (readable.eq_of_isOf member ofBook ofOther ▸ listed)

theorem filter_chunks (readable : store.Readable) {pieces : List (List BookId)} (distinct : pieces.flatten.Nodup)
    (book : BookId) :
    (pieces.map fun books => (store.reviews.rows.filter fun row => books.any row.isOf).map Row.review).flatten.filter
        (·.bookId == some book) =
      if book ∈ pieces.flatten then store.reviewsOf book else [] := by
  induction pieces with
  | nil => rfl
  | cons books rest ih =>
    rw [List.flatten_cons, List.nodup_append] at distinct
    obtain ⟨-, distinct, apart⟩ := distinct
    rw [List.map_cons, List.flatten_cons, List.filter_append, ih distinct, readable.filter_read, List.flatten_cons]
    -- The book is in the first chunk or in a later one and never in both, or its reviews would be read twice.
    by_cases first : book ∈ books
    · have later : book ∉ rest.flatten := fun again => apart book first book again rfl
      simp [first, later]
    · simp [first]

theorem attachReviews_eq (readable : store.Readable) {rows : List (Row BookCells)} (distinct : (rows.map (·.id)).Nodup) :
    attachReviews store (rows.map Row.book) = .ok (rows.map store.bookOf) := by
  have ids : (rows.map Row.book).filterMap (·.id) = rows.map (·.id) := by
    rw [List.filterMap_map]
    exact congrFun List.filterMap_eq_map rows
  unfold attachReviews
  rw [ids, mapM_eq_ok_map fun books _ => readable.reviewsOfAll_eq books]
  refine congrArg Except.ok ?_
  rw [List.map_map]
  refine List.map_congr_left fun row member => ?_
  have whole : (chunks reviewChunk (rows.map (·.id))).flatten = rows.map (·.id) := flatten_chunks (by decide) _
  have read := readable.filter_chunks (by rw [whole]; exact distinct) row.id
  rw [whole, if_pos (List.mem_map_of_mem member)] at read
  simp only [Function.comp_apply, bookOf, ← read]
  rfl

end Readable

namespace Sound

theorem find?_eq (sound : store.Sound) (id : BookId) :
    Books.find? store id = .ok ((store.books.find? id).map store.bookOf) := by
  unfold Books.find?
  cases found : store.books.find? id with
  | none => rfl
  | some row =>
    have read := sound.readable.toBook_eq (Table.find?_eq_some_iff.mp found).1
    have single : ([row].map (·.id)).Nodup := List.nodup_singleton row.id
    have attached : attachReviews store [row.book] = .ok [store.bookOf row] :=
      sound.readable.attachReviews_eq single
    simp only [read, attached, mapError_ok, bind, Except.bind, pure, Except.pure, List.head?_cons, Option.map_some]

theorem valid_of_find? (sound : store.Sound) {id : BookId} {book : Book}
    (found : Books.find? store id = .ok (some book)) : ¬ book.pages < 0 := by
  rw [sound.find?_eq] at found
  obtain ⟨row, stored, rfl⟩ := Option.map_eq_some_iff.mp (Except.ok.inj found)
  obtain ⟨-, kept, cells, valid⟩ := sound.books row (Table.find?_eq_some_iff.mp stored).1
  obtain ⟨id, _⟩ := row
  subst cells
  rw [bookOf, Row.book_of_cells]
  exact valid

theorem find?_eq_none (sound : store.Sound) {id : BookId} (absent : store.books.contains id = false) :
    Books.find? store id = .ok none := by
  rw [sound.find?_eq, Table.find?_eq_none_iff.mpr absent, Option.map_none]

theorem find?_eq_some (sound : store.Sound) {id : BookId} (stored : store.books.contains id = true) :
    ∃ book, Books.find? store id = .ok (some book) := by
  obtain ⟨row, found⟩ := Table.contains_iff_find?.mp stored
  exact ⟨store.bookOf row, by rw [sound.find?_eq, found, Option.map_some]⟩

theorem contains_of_find? (sound : store.Sound) {id : BookId} {book : Book}
    (found : Books.find? store id = .ok (some book)) : store.books.contains id = true := by
  rw [← Bool.not_eq_false]
  intro absent
  simp [sound.find?_eq_none absent] at found

theorem contains_of_review (sound : store.Sound) {id : BookId} {book : Book}
    (found : Books.find? store id = .ok (some book)) {review : Review} (member : review ∈ book.reviews) {key : ReviewId}
    (named : review.id = some key) : store.reviews.contains key = true := by
  rw [sound.find?_eq] at found
  obtain ⟨bookRow, -, rfl⟩ := Option.map_eq_some_iff.mp (Except.ok.inj found)
  obtain ⟨row, ofBook, rfl⟩ := List.mem_map.mp member
  obtain rfl : row.id = key := Option.some.inj named
  exact Table.contains_of_mem (List.mem_filter.mp ofBook).1

end Sound

end Store

end Catalogue
