import Catalogue.Proofs.Saving
import Catalogue.Proofs.Windows

/-! All ways to read a store agree. Whichever query lists a book, in whatever order and window, lists it as it is found
under its id, with the reviews that are found as its own; and the counts count what is listed. -/

set_option autoImplicit false

namespace Catalogue

theorem sum_countP_cons {α β : Type} (belongs : α → β → Bool) (xs : List α) (y : β) (ys : List β) :
    (xs.map fun x => (y :: ys).countP (belongs x)).sum =
      (xs.map fun x => ys.countP (belongs x)).sum + xs.countP (belongs · y) := by
  induction xs with
  | nil => rfl
  | cons x rest ih =>
    rw [List.map_cons, List.sum_cons, ih, List.map_cons, List.sum_cons, List.countP_cons, List.countP_cons]
    omega

-- Each `y` belongs to one `x`, so counting by `x` counts all of them.
theorem sum_countP_eq_length {α β : Type} {belongs : α → β → Bool} {xs : List α} {ys : List β}
    (once : ∀ y ∈ ys, xs.countP (belongs · y) = 1) : (xs.map fun x => ys.countP (belongs x)).sum = ys.length := by
  induction ys with
  | nil => simp
  | cons y rest ih =>
    obtain ⟨first, later⟩ := List.forall_mem_cons.mp once
    rw [sum_countP_cons, ih later, first, List.length_cons]

def Query.books : (query : Query) → query.Answer → List Book
  | find _, book? => Option.toList book?
  | all, books | longerThan _ _, books => books
  | page _, answer | titleLike _ _, answer => answer.content
  | slice _, answer => answer.content
  | contains _, _ | count, _ | countTitleLike _, _ | review _, _ | reviewsOf _, _ | countReviews, _
  | countReviewsOf _, _ => []

namespace Store

variable {store : Store}

theorem length_reviewsOf (store : Store) (book : BookId) :
    (store.reviewsOf book).length = Reviews.countOfBook store book := by
  rw [reviewsOf, List.length_map, Reviews.countOfBook, Table.count, List.countP_eq_length_filter]

theorem everything_perm (store : Store) (sort : Sorting) :
    (store.sorted .everything sort).Perm (store.books.rows.map store.bookOf) := by
  have every : store.books.rows.filter (Filter.everything.picks store) = store.books.rows :=
    List.filter_eq_self.mpr fun _ _ => rfl
  have perm := store.sorted_perm .everything sort
  rwa [every] at perm

theorem count_eq (store : Store) : Books.count store = .ok (store.sorted .everything .unsorted).length := by
  have everything : Filter.everything.Granted := trivial
  rw [Books.count, store.countBooks_eq everything, length_sorted]

theorem mem_ids_iff (store : Store) (id : BookId) :
    some id ∈ (store.sorted .everything .unsorted).map (·.id) ↔ store.books.contains id = true := by
  rw [((everything_perm store .unsorted).map (·.id)).mem_iff, Table.contains, List.any_eq_true]
  simp [bookOf, Row.book]

namespace Sound

theorem find?_of_mem (sound : store.Sound) {row : Row BookCells} (member : row ∈ store.books.rows) :
    Books.find? store row.id = .ok (some (store.bookOf row)) := by
  rw [sound.find?_eq, Table.mem_rows_iff.mp member, Option.map_some]

theorem mem_of_findBooks (sound : store.Sound) {filter : Filter} {request : PageRequest} {extra : Nat}
    {books : List Book} (found : findBooks store filter request extra = .ok books) {book : Book}
    (listed : book ∈ books) : ∃ row ∈ store.books.rows, store.bookOf row = book := by
  obtain ⟨-, -, rfl⟩ := sound.readable.findBooks_eq_ok found
  obtain ⟨row, member, same⟩ := List.mem_map.mp listed
  exact ⟨row, mem_of_mem_rowsOf member, same⟩

/-- Whatever is asked, the books in the answer are those in the rows of the store. -/
theorem exists_row_of_answer (sound : store.Sound) {query : Query} {answer : query.Answer}
    (answered : query.answer store = .ok answer) {book : Book} (listed : book ∈ query.books answer) :
    ∃ row ∈ store.books.rows, store.bookOf row = book := by
  have paged {filter : Filter} {request : PageRequest} {page : Page Book}
      (asked : Books.pageOf store filter request = .ok page) (within : book ∈ page.content) :
      ∃ row ∈ store.books.rows, store.bookOf row = book := by
    obtain ⟨content, found, rest⟩ := bind_eq_ok.mp asked
    obtain ⟨total, -, same⟩ := bind_eq_ok.mp rest
    cases same
    exact sound.mem_of_findBooks found within
  cases query with
  | find id =>
    obtain rfl := Option.mem_toList.mp listed
    have found : Books.find? store id = .ok (some book) := answered
    rw [sound.find?_eq] at found
    obtain ⟨row, stored, same⟩ := Option.map_eq_some_iff.mp (Except.ok.inj found)
    exact ⟨row, (Table.find?_eq_some_iff.mp stored).1, same⟩
  | all => exact sound.mem_of_findBooks answered listed
  | longerThan pages request => exact sound.mem_of_findBooks answered listed
  | page request => exact paged answered listed
  | titleLike pattern request => exact paged answered listed
  | slice request =>
    obtain ⟨content, found, rest⟩ := bind_eq_ok.mp answered
    -- The row past the window is read, but it is not in the answer.
    have within : book ∈ content := by
      cases size : request.size with
      | none =>
        rw [size] at rest
        cases rest
        exact listed
      | some size' =>
        rw [size] at rest
        cases rest
        exact List.mem_of_mem_take listed
    exact sound.mem_of_findBooks found within
  | contains _ | count | countTitleLike _ | review _ | reviewsOf _ | countReviews | countReviewsOf _ =>
    cases listed

theorem mem_reviewsOf_iff (sound : store.Sound) {book : BookId} {review : Review} :
    review ∈ store.reviewsOf book ↔ review.bookId = some book ∧
      ∃ key, review.id = some key ∧ Reviews.find? store key = .ok (some review) := by
  simp only [sound.find?_review_eq, Except.ok.injEq, Option.map_eq_some_iff]
  constructor
  · intro listed
    obtain ⟨row, owned, rfl⟩ := List.mem_map.mp listed
    obtain ⟨member, ofBook⟩ := List.mem_filter.mp owned
    rw [← sound.readable.bookId_eq_iff member, beq_iff_eq] at ofBook
    exact ⟨ofBook, row.id, rfl, row, Table.mem_rows_iff.mp member, rfl⟩
  · rintro ⟨names, key, -, row, found, rfl⟩
    have member := (Table.find?_eq_some_iff.mp found).1
    have ofBook := sound.readable.bookId_eq_iff member book
    rw [names, beq_self_eq_true] at ofBook
    exact List.mem_map_of_mem (List.mem_filter.mpr ⟨member, ofBook.symm⟩)

-- A review belongs to one stored book and to no other.
theorem countP_owner (sound : store.Sound) {review : Row ReviewCells} (member : review ∈ store.reviews.rows) :
    store.books.rows.countP (fun book => review.isOf book.id) = 1 := by
  obtain ⟨-, written, owner, cells, owned⟩ := sound.reviews review member
  obtain ⟨row, found⟩ := Table.contains_iff_find?.mp owned
  obtain ⟨stored, rfl⟩ := Table.find?_eq_some_iff.mp found
  have named : row.id ∈ store.books.rows.map (·.id) := List.mem_map_of_mem stored
  rw [← List.count_eq_one_of_mem store.books.nodup_ids named, List.count, List.countP_map]
  refine List.countP_congr fun book _ => ?_
  have ofBook : review.isOf book.id = (row.id == book.id) := Row.isOf_of_int (by rw [cells]; rfl)
  rw [ofBook, Function.comp_apply, beq_iff_eq, beq_iff_eq, eq_comm]

theorem sum_reviews_eq_count (sound : store.Sound) :
    (store.books.rows.map fun row => (store.bookOf row).reviews.length).sum = Reviews.count store := by
  rw [Reviews.count, ← sum_countP_eq_length fun review member => sound.countP_owner member]
  exact congrArg List.sum (List.map_congr_left fun row _ => length_reviewsOf store row.id)

theorem all_eq (sound : store.Sound) : Books.all store = .ok (store.sorted .everything .unsorted) := by
  have everything : Filter.everything.Granted := trivial
  have whole : PageRequest.unpaged.size = none := rfl
  rw [Books.all, sound.findBooks_cut everything PageRequest.granted_unpaged, PageRequest.cut_window_of_none whole]
  rfl

end Sound

end Store

/-- Each book that is listed is as it is found, with the reviews that are found as its own; these are the reviews that
name it, in the order of their ids; and what is counted is what is listed. -/
theorem reads_agree {c : Connection} (reached : Reached c) :
    (∀ (query : Query) (answer : query.Answer), query.answer c.store = .ok answer → ∀ book ∈ query.books answer,
      ∃ id, book.id = some id ∧ Books.find? c.store id = .ok (some book) ∧
        Reviews.ofBook c.store id = .ok book.reviews) ∧
    (∀ id, ∃ reviews, Reviews.ofBook c.store id = .ok reviews ∧
      reviews.Pairwise (fun a b => a.id.getD 0 < b.id.getD 0) ∧
      (∀ review, review ∈ reviews ↔ review.bookId = some id ∧
        ∃ key, review.id = some key ∧ Reviews.find? c.store key = .ok (some review)) ∧
      Reviews.countOfBook c.store id = reviews.length) ∧
    ∃ whole, Books.all c.store = .ok whole ∧ Books.count c.store = .ok whole.length ∧
      Reviews.count c.store = (whole.map fun book => book.reviews.length).sum ∧
      ∀ id, ∃ book?, Books.find? c.store id = .ok book? ∧ Books.contains c.store id = book?.isSome ∧
        (book?.isSome = true ↔ some id ∈ whole.map (·.id)) := by
  have sound := reached.sound.store
  refine ⟨?_, ?_, _, sound.all_eq, c.store.count_eq, ?_, ?_⟩
  · intro query answer answered book listed
    obtain ⟨row, member, rfl⟩ := sound.exists_row_of_answer answered listed
    exact ⟨row.id, rfl, sound.find?_of_mem member, sound.ofBook_eq row.id⟩
  · intro id
    exact ⟨_, sound.ofBook_eq id, c.store.ascending_reviewsOf id, fun review => sound.mem_reviewsOf_iff,
      (c.store.length_reviewsOf id).symm⟩
  · rw [((c.store.everything_perm .unsorted).map fun book => book.reviews.length).sum_nat, List.map_map]
    exact sound.sum_reviews_eq_count.symm
  · intro id
    have held : Books.contains c.store id = ((c.store.books.find? id).map c.store.bookOf).isSome := by
      rw [Option.isSome_map, Bool.eq_iff_iff, Option.isSome_iff_exists]
      exact Table.contains_iff_find?
    exact ⟨_, sound.find?_eq id, held, by rw [← held, Store.mem_ids_iff, Books.contains]⟩

theorem reads_agree_sample :
    ∃ whole, Books.all Connection.sample.store = .ok whole ∧ whole.length = 2 ∧
      (whole.map fun book => book.reviews.length).sum = 2 ∧
      ∀ book ∈ whole, ∃ id, book.id = some id ∧ Books.find? Connection.sample.store id = .ok (some book) ∧
        Reviews.ofBook Connection.sample.store id = .ok book.reviews := by
  obtain ⟨listed, -, whole, asked, counted, reviews, -⟩ := reads_agree reached_sample
  have books : Books.count Connection.sample.store = .ok 2 := by decide +kernel
  have two : Reviews.count Connection.sample.store = 2 := by decide +kernel
  exact ⟨whole, asked, Except.ok.inj (counted.symm.trans books), reviews.symm.trans two, listed .all whole asked⟩

end Catalogue
