import Catalogue.Proofs.Repeats
import Catalogue.Proofs.Verdict

/-! Saving what is stored. A store holds a book when the rows of the book and of its reviews are as a save of it
would write them; a save leaves the store holding the book with its ids, and saving a book that is held changes
nothing. -/

set_option autoImplicit false

namespace Catalogue

-- The rows that reviews leave do not depend on the ids that the reviews had.
theorem lastRow_zipWith_stamp (book owner : BookId) (reviews : List Review) (ids : List ReviewId) (id : ReviewId) :
    lastRow book ((reviews.zipWith (fun review reviewId => review.stamp reviewId owner) ids).zip ids) id =
      lastRow book (reviews.zip ids) id := by
  induction reviews generalizing ids with
  | nil => rfl
  | cons review rest ih =>
    cases ids with
    | nil => rfl
    | cons reviewId ids =>
      rw [List.zipWith_cons_cons, List.zip_cons_cons, List.zip_cons_cons, lastRow_cons, lastRow_cons, ih]
      rfl

theorem zipWith_stamp_stamp (book : BookId) (reviews : List Review) (ids : List ReviewId) :
    (reviews.zipWith (fun review id => review.stamp id book) ids).zipWith (fun review id => review.stamp id book) ids =
      reviews.zipWith (fun review id => review.stamp id book) ids := by
  induction reviews generalizing ids with
  | nil => rfl
  | cons review rest ih =>
    cases ids with
    | nil => rfl
    | cons id ids =>
      rw [List.zipWith_cons_cons, List.zipWith_cons_cons, ih]
      rfl

theorem ReviewsStored.ids_eq {book : BookId} {before after : Table ReviewCells} {reviews : List Review}
    {ids keys : List ReviewId} (h : ReviewsStored book before reviews ids after)
    (named : reviews.map (·.id) = keys.map some) : ids = keys := by
  induction h generalizing keys with
  | nil => simpa using named
  | @cons before between after review rest id ids stored _ ih =>
    obtain ⟨key, keys, rfl, has, later⟩ := List.map_eq_cons_iff.mp named.symm
    have has : review.id = some key := has.symm
    rw [has] at stored
    rw [stored.eq_of_key, ih later.symm]

namespace Books.SavedIds

theorem stamp_stamp (ids : SavedIds) (book : Book) : ids.stamp (ids.stamp book) = ids.stamp book := by
  simp only [stamp, Book.stamp, zipWith_stamp_stamp]

theorem length_stamp (ids : SavedIds) {book : Book} (length : ids.reviews.length = book.reviews.length) :
    (ids.stamp book).reviews.length = ids.reviews.length := by
  simp [stamp, Book.stamp, length]

end Books.SavedIds

/-- A store holds a book with these ids: they are written into the book, and its row and the rows of its reviews are
what a save of it would leave. Where an id is listed twice, that is the later one. -/
structure Store.Holds (store : Store) (book : Book) (ids : Books.SavedIds) : Prop where
  stamped : ids.stamp book = book
  length : ids.reviews.length = book.reviews.length
  row : store.books.find? ids.book = some ⟨ids.book, book.cells⟩
  reviews : ∀ id ∈ ids.reviews, store.reviews.find? id = lastRow ids.book (book.reviews.zip ids.reviews) id
  owned : ∀ row ∈ store.reviews.rows, row.isOf ids.book = true → row.id ∈ ids.reviews

namespace Store.Holds

variable {store after : Store} {book : Book} {ids ids' : Books.SavedIds}

theorem id_eq (holds : store.Holds book ids) : book.id = some ids.book := by
  rw [← holds.stamped]
  rfl

theorem map_id (holds : store.Holds book ids) : book.reviews.map (·.id) = ids.reviews.map some := by
  have named := ids.map_id_stamp holds.length
  rwa [holds.stamped] at named

theorem lastRow_ne_none (holds : store.Holds book ids) {id : ReviewId} (listed : id ∈ ids.reviews) :
    lastRow ids.book (book.reviews.zip ids.reviews) id ≠ none := by
  rw [Ne, lastRow_eq_none_iff, List.map_snd_zip holds.length.le]
  exact not_not.mpr listed

theorem contains_review (holds : store.Holds book ids) {id : ReviewId} (listed : id ∈ ids.reviews) :
    store.reviews.contains id = true := by
  rw [Table.contains_iff_find?, holds.reviews id listed]
  exact Option.ne_none_iff_exists'.mp (holds.lastRow_ne_none listed)

theorem exists_stored (holds : store.Holds book ids) {review : Review} (member : review ∈ book.reviews) :
    ∃ id, review.id = some id ∧ store.reviews.contains id = true := by
  have named : review.id ∈ ids.reviews.map some := holds.map_id ▸ List.mem_map_of_mem member
  obtain ⟨id, listed, same⟩ := List.mem_map.mp named
  exact ⟨id, same.symm, holds.contains_review listed⟩

theorem newCount_eq_zero (holds : store.Holds book ids) : Review.newCount book.reviews = 0 := by
  refine List.countP_eq_zero.mpr fun review member => ?_
  obtain ⟨id, named, -⟩ := holds.exists_stored member
  simp [named]

theorem ids_eq (holds : store.Holds book ids) (cascaded : Cascaded store book ids' after) : ids' = ids := by
  obtain ⟨written, stored, -⟩ := cascaded.reviews
  have reviews := stored.ids_eq holds.map_id
  have book := cascaded.eq_of_key holds.id_eq
  cases ids'
  cases ids
  simp_all

theorem books_eq (holds : store.Holds book ids) (cascaded : Cascaded store book ids after) :
    after.books = store.books := by
  have row := cascaded.row
  rw [holds.id_eq] at row
  refine Table.eq_of_find? row.mark_of_key fun id => ?_
  rw [row.find?]
  split
  · rename_i here
    rw [here, holds.row]
  · rfl

theorem reviews_eq (holds : store.Holds book ids) (cascaded : Cascaded store book ids after) :
    after.reviews = store.reviews := by
  refine Table.eq_of_find? ?_ fun id => ?_
  · rw [cascaded.reviewMark_eq, holds.newCount_eq_zero]
    simp
  · rw [cascaded.find?_review]
    by_cases listed : id ∈ ids.reviews
    · obtain ⟨row, last⟩ := Option.ne_none_iff_exists'.mp (holds.lastRow_ne_none listed)
      rw [holds.reviews id listed, last, Option.some_or]
    · -- What is not listed is no review of the book, and stays.
      rw [lastRow_eq_none_iff.mpr (by rwa [cascaded.map_zip]), Option.none_or]
      cases found : store.reviews.find? id with
      | none => rfl
      | some row =>
        obtain ⟨member, same⟩ := Table.find?_eq_some_iff.mp found
        have other : row.isOf ids.book = false := by
          rw [← Bool.not_eq_true]
          exact fun ofBook => listed (same ▸ holds.owned row member ofBook)
        simp [Option.filter_some, other]

/-- Saved once more, a book that is held gets the ids that it has and leaves the store as it was. -/
theorem eq_of_cascaded (holds : store.Holds book ids) (cascaded : Cascaded store book ids' after) :
    ids' = ids ∧ after = store := by
  obtain rfl := holds.ids_eq cascaded
  have version := cascaded.userVersion
  have schema := cascaded.schema
  have books := holds.books_eq cascaded
  have reviews := holds.reviews_eq cascaded
  refine ⟨rfl, ?_⟩
  cases after
  cases store
  simp_all

end Store.Holds

theorem Cascaded.holds {before after : Store} {book : Book} {ids : Books.SavedIds}
    (h : Cascaded before book ids after) : after.Holds (ids.stamp book) ids where
  stamped := ids.stamp_stamp book
  length := (ids.length_stamp h.length_eq).symm
  row := h.row.find?_id
  reviews id listed := by
    have last : lastRow ids.book (book.reviews.zip ids.reviews) id ≠ none := by
      rw [Ne, lastRow_eq_none_iff, h.map_zip]
      exact not_not.mpr listed
    obtain ⟨row, last⟩ := Option.ne_none_iff_exists'.mp last
    have stamped := lastRow_zipWith_stamp ids.book ids.book book.reviews ids.reviews id
    rw [h.find?_review, last, Option.some_or, ← last, ← stamped]
    rfl
  owned row member ofBook := by
    by_contra unlisted
    have found := Table.mem_rows_iff.mp member
    rw [h.find?_review, lastRow_eq_none_iff.mpr (by rwa [h.map_zip]), Option.none_or,
      Option.filter_eq_some_iff] at found
    simp [ofBook] at found

theorem Store.Readable.stamp_review {store : Store} (readable : store.Readable) {row : Row ReviewCells}
    (member : row ∈ store.reviews.rows) {book : BookId} (ofBook : row.isOf book = true) :
    row.review.stamp row.id book = row.review := by
  have named : row.review.bookId = some book := by
    rw [← beq_iff_eq, readable.bookId_eq_iff member]
    exact ofBook
  rw [Review.stamp, ← named]
  rfl

theorem Store.Readable.cells_review {store : Store} (readable : store.Readable) {row : Row ReviewCells}
    (member : row ∈ store.reviews.rows) {book : BookId} (ofBook : row.isOf book = true) :
    row.review.cells book = row.cells := by
  obtain ⟨review, owner, cells⟩ := readable.reviews row member
  obtain ⟨id, _⟩ := row
  subst cells
  rw [Row.isOf_cells, beq_iff_eq] at ofBook
  rw [ofBook]
  rfl

theorem Store.Sound.holds_bookOf {store : Store} (sound : store.Sound) {id : BookId} {row : Row BookCells}
    (found : store.books.find? id = some row) :
    store.Holds (store.bookOf row) ⟨id, (store.reviews.rows.filter (·.isOf id)).map (·.id)⟩ := by
  obtain ⟨member, rfl⟩ := Table.find?_eq_some_iff.mp found
  have paired : (store.bookOf row).reviews.zip ((store.reviews.rows.filter (·.isOf row.id)).map (·.id)) =
      (store.reviews.rows.filter (·.isOf row.id)).map fun review => (review.review, review.id) :=
    List.zip_map'
  refine ⟨?_, by simp [bookOf, reviewsOf], ?_, fun id listed => ?_, fun review among ofBook => ?_⟩
  · have reviews : (store.bookOf row).reviews.zipWith (fun review id => review.stamp id row.id)
        ((store.reviews.rows.filter (·.isOf row.id)).map (·.id)) = (store.bookOf row).reviews := by
      rw [bookOf, reviewsOf, List.zipWith_map, List.zipWith_self]
      refine List.map_congr_left fun review among => ?_
      obtain ⟨among, ofBook⟩ := List.mem_filter.mp among
      exact sound.readable.stamp_review among ofBook
    rw [Books.SavedIds.stamp, Book.stamp, reviews]
    rfl
  · obtain ⟨-, book, cells, -⟩ := sound.books row member
    have same : (store.bookOf row).cells = row.cells := by
      obtain ⟨id, _⟩ := row
      subst cells
      rw [bookOf, Row.book_of_cells]
      rfl
    rw [found, same]
  · obtain ⟨review, among, rfl⟩ := List.mem_map.mp listed
    have distinct : (((store.bookOf row).reviews.zip
        ((store.reviews.rows.filter (·.isOf row.id)).map (·.id))).map (·.2)).Nodup := by
      rw [paired, List.map_map]
      exact store.reviews.nodup_ids.sublist ((List.filter_sublist).map _)
    obtain ⟨stored, ofBook⟩ := List.mem_filter.mp among
    rw [Table.mem_rows_iff.mp stored, eq_comm, lastRow_eq_some_iff distinct, paired]
    refine ⟨review.review, List.mem_map.mpr ⟨review, among, rfl⟩, ?_⟩
    rw [sound.readable.cells_review stored ofBook]
  · exact List.mem_map_of_mem (List.mem_filter.mpr ⟨among, ofBook⟩)

namespace Store

variable {store : Store} {enforced : Bool} {book : BookId}

theorem checkParent_with_books (parent : store.checkParent enforced (.int book) = .ok ()) {books : Table BookCells}
    (stored : books.contains book = true) : { store with books }.checkParent enforced (.int book) = .ok () := by
  cases enforced with
  | false => rfl
  | true =>
    obtain ⟨_, declared, -⟩ := bind_eq_ok.mp parent
    exact bind_eq_ok.mpr ⟨(), declared, if_pos stored⟩

end Store

namespace Books

open Catalogue.Action

variable {c d : Connection}

theorem parent_of_saveReview {book : BookId} {review : Review} {id : ReviewId}
    (given : (saveReview book review).Gives c id d) : c.store.checkParent c.foreignKeys (.int book) = .ok () := by
  unfold saveReview at given
  split at given
  · obtain ⟨-, store, inserted, -⟩ := gives_write.mp (gives_mapError.mp given)
    obtain ⟨_, -, inserted⟩ := bind_eq_ok.mp inserted
    obtain ⟨_, -, inserted⟩ := bind_eq_ok.mp inserted
    obtain ⟨_, parent, -⟩ := bind_eq_ok.mp inserted
    exact parent
  · rename_i key _
    obtain ⟨changed, e, updated, rest⟩ := gives_bind.mp given
    obtain ⟨-, store, updated, -⟩ := gives_write.mp (gives_mapError.mp updated)
    -- Nothing is asked about the book where no row is changed, but then the save fails.
    by_cases present : c.store.reviews.contains key = true
    · unfold Store.updateReview at updated
      rw [if_pos present] at updated
      obtain ⟨_, parent, -⟩ := bind_eq_ok.mp updated
      exact parent
    · obtain ⟨rfl, -⟩ := Store.updateReview_eq_ok updated
      rw [if_pos (Table.count_id_eq_zero_iff.mpr (Bool.eq_false_of_not_eq_true present))] at rest
      exact absurd rest gives_fail

/-- A save that has stored a review may refer to the book ever after. -/
theorem parent_of_cascade {book : Book} {ids : SavedIds} (given : (cascade book).Gives c ids d)
    (some_ : book.reviews ≠ []) : d.store.checkParent d.foreignKeys (.int ids.book) = .ok () := by
  obtain ⟨id, e, row, given⟩ := gives_bind.mp given
  obtain ⟨reviewIds, e', reviews, given⟩ := gives_bind.mp given
  obtain ⟨_, e'', orphans, given⟩ := gives_bind.mp given
  obtain ⟨rfl, rfl⟩ := gives_pure.mp given
  obtain ⟨_, orphans⟩ := gives_discard.mp orphans
  have parent : e.store.checkParent e.foreignKeys (.int id) = .ok () := by
    obtain ⟨first, rest, same⟩ := List.exists_cons_of_ne_nil some_
    rw [same] at reviews
    obtain ⟨_, _, saved, -⟩ := gives_bind.mp reviews
    exact parent_of_saveReview saved
  obtain ⟨written, -, rfl⟩ := saveReviews_gives reviews
  rw [(deleteOrphans_gives (gives_mapError.mp orphans)).2]
  exact parent

theorem saveReviews_gives_of_stored (allowed : c.refusal? = none) {book : BookId} {reviews : List Review}
    (parent : reviews ≠ [] → c.store.checkParent c.foreignKeys (.int book) = .ok ())
    (stored : ∀ review ∈ reviews, ∃ id, review.id = some id ∧ c.store.reviews.contains id = true) :
    ∃ ids d, (saveReviews book reviews).Gives c ids d := by
  induction reviews generalizing c with
  | nil => exact ⟨[], c, gives_pure.mpr ⟨rfl, rfl⟩⟩
  | cons review rest ih =>
    have parent := parent (List.cons_ne_nil _ _)
    obtain ⟨⟨id, named, here⟩, later⟩ := List.forall_mem_cons.mp stored
    obtain ⟨d, saved⟩ := saveReview_gives_of_key allowed parent named here
    obtain ⟨between, written, rfl⟩ := saveReview_gives saved
    obtain ⟨ids, e, rest⟩ := ih (c := { c with store := { c.store with reviews := between } }) allowed
      (fun _ => parent) fun review member => by
        obtain ⟨id, named, there⟩ := later review member
        exact ⟨id, named, written.contains_of_contains there⟩
    exact ⟨id :: ids, e, gives_bind.mpr ⟨id, _, saved, gives_bind.mpr ⟨ids, e, rest, gives_pure.mpr ⟨rfl, rfl⟩⟩⟩⟩

theorem cascade_gives_of_holds (allowed : c.refusal? = none) {book : Book} {ids : SavedIds}
    (holds : c.store.Holds book ids)
    (parent : book.reviews ≠ [] → c.store.checkParent c.foreignKeys (.int ids.book) = .ok ()) :
    ∃ ids' d, (cascade book).Gives c ids' d := by
  have present : c.store.books.contains ids.book = true := Table.contains_iff_find?.mpr ⟨_, holds.row⟩
  obtain ⟨e, row⟩ := saveRow_gives_of_key allowed holds.id_eq present
  obtain ⟨books, written, rfl⟩ := saveRow_gives row
  have parent (some_ : book.reviews ≠ []) :
      { c.store with books }.checkParent c.foreignKeys (.int ids.book) = .ok () :=
    Store.checkParent_with_books (parent some_) written.contains_id
  obtain ⟨reviewIds, e, reviews⟩ := saveReviews_gives_of_stored
    (c := { c with store := { c.store with books } }) allowed parent fun _ member => holds.exists_stored member
  obtain ⟨between, -, rfl⟩ := saveReviews_gives reviews
  obtain ⟨d, ended⟩ := cascade_ends (c := { c with store := { c.store with books, reviews := between } }) allowed
    ⟨ids.book, reviewIds⟩
  exact ⟨_, d, gives_bind.mpr ⟨_, _, row, gives_bind.mpr ⟨_, _, reviews, ended⟩⟩⟩

theorem save_gives_of_holds (free : c.backup = none) (allowed : c.refusal? = none) {book : Book}
    (valid : ¬ book.pages < 0) {ids : SavedIds} (holds : c.store.Holds book ids)
    (parent : book.reviews ≠ [] → c.store.checkParent c.foreignKeys (.int ids.book) = .ok ()) :
    (save book).Gives c (ids.book, book) c := by
  obtain ⟨ids', d, given⟩ := cascade_gives_of_holds (c := c.inside c.store) allowed holds parent
  obtain ⟨after, cascaded, rfl⟩ := cascade_gives given
  obtain ⟨rfl, rfl⟩ := holds.eq_of_cascaded cascaded
  have saved := save_gives_of_cascade free valid given
  rw [holds.stamped] at saved
  simpa [Connection.inside, ← free] using saved

theorem cascade_gives_of_save {book saved : Book} {id : BookId} (given : (save book).Gives c (id, saved) d) :
    ∃ ids after, (id, saved) = (ids.book, ids.stamp book) ∧
      (cascade book).Gives (c.inside c.store) ids { c.inside c.store with store := after } ∧
        Cascaded c.store book ids after ∧ d = { c with store := after } := by
  obtain ⟨free, valid, -⟩ := save_gives given
  rcases gives_or_fails (cascade book) (c.inside c.store) with ⟨ids, e, work⟩ | ⟨e, failed⟩
  · obtain ⟨after, cascaded, rfl⟩ := cascade_gives work
    obtain ⟨answer, ended⟩ := save_gives_of_cascade free valid work
    rw [given.1] at answer
    rw [given.2] at ended
    exact ⟨ids, after, Except.ok.inj answer, work, cascaded, by simp [ended, Connection.inside, ← free]⟩
  · exact absurd (save_fails_of_cascade free valid failed) given.not_fails

theorem allowed_of_save {book saved : Book} {id : BookId} (given : (save book).Gives c (id, saved) d) :
    c.refusal? = none := by
  obtain ⟨ids, after, -, work, -⟩ := cascade_gives_of_save given
  obtain ⟨_, e, row, -⟩ := gives_bind.mp work
  exact allowed_of_saveRow (c := c.inside c.store) row

theorem save_again {book saved : Book} {id : BookId} (given : (save book).Gives c (id, saved) d) :
    (save saved).Gives d (id, saved) d := by
  obtain ⟨free, valid, -⟩ := save_gives given
  have allowed := allowed_of_save given
  obtain ⟨ids, after, same, work, cascaded, rfl⟩ := cascade_gives_of_save given
  obtain ⟨rfl, rfl⟩ := Prod.mk.inj same
  have parent (some_ : (ids.stamp book).reviews ≠ []) : after.checkParent c.foreignKeys (.int ids.book) = .ok () := by
    refine parent_of_cascade work fun none => some_ ?_
    simp [SavedIds.stamp, Book.stamp, none]
  have valid : ¬ (ids.stamp book).pages < 0 := valid
  exact save_gives_of_holds (c := { c with store := after }) free allowed valid cascaded.holds parent

/-- A book that was saved is saved again under the same id without any change: to the store, and to the book that the
caller holds. And so is each stored book as it is found, after any history; only where writes are refused, that fails,
and nothing changes either. -/
theorem saving_again_changes_nothing (c : Connection) :
    (∀ book id, (saveInPlace book c).reply.result = .ok id →
      let once := saveInPlace book c
      let twice := saveInPlace once.held once.reply.connection
      twice.reply.result = .ok id ∧ twice.reply.connection = once.reply.connection ∧ twice.held = once.held) ∧
    (Reached c → ∀ id, c.store.books.contains id = true →
      ∃ found, find? c.store id = .ok (some found) ∧ (saveInPlace found c).reply.connection = c ∧
        (saveInPlace found c).held = found ∧ (c.refusal? = none → (saveInPlace found c).reply.result = .ok id)) := by
  refine ⟨fun book id saved => ?_, fun reached id stored => ?_⟩
  · rcases gives_or_fails (save book) c with ⟨⟨id', entity⟩, d, given⟩ | ⟨e, failed⟩
    · obtain ⟨_, once⟩ := saveInPlace_of_gives given
      obtain ⟨_, twice⟩ := saveInPlace_of_gives (save_again given)
      rw [once] at saved
      obtain rfl := Except.ok.inj saved
      simp only [once, twice, and_self]
    · obtain ⟨_, once⟩ := saveInPlace_of_fails failed
      rw [once] at saved
      cases saved
  · have sound := reached.sound
    obtain ⟨row, here⟩ := Table.contains_iff_find?.mp stored
    have found : find? c.store id = .ok (some (c.store.bookOf row)) := by
      rw [sound.store.find?_eq, here, Option.map_some]
    have valid := sound.store.valid_of_find? found
    refine ⟨_, found, ?_⟩
    cases refused : c.refusal? with
    | none =>
      have parent := Store.checkParent_eq_ok sound.store.schema stored c.foreignKeys
      have given := save_gives_of_holds sound.free refused valid (sound.store.holds_bookOf here) fun _ => parent
      obtain ⟨_, saved⟩ := saveInPlace_of_gives given
      simp [saved]
    | some e =>
      have named : (c.store.bookOf row).id = some id := congrArg some (Table.id_of_find? here)
      have present (key : BookId) (same : (c.store.bookOf row).id = some key) : c.store.books.contains key = true :=
        Option.some.inj (named.symm.trans same) ▸ stored
      have refused := (saveRefusal?_of_present present).trans refused
      obtain ⟨_, failed⟩ := saveInPlace_of_fails (save_fails_of_refused sound (by simp [named]) refused valid)
      simp [failed]

theorem saving_again_amid_repeats :
    let book : Book := ⟨some 2, "Emma", 474, [.new "Cal" "Dry", ⟨some 3, "Cal", "Dull", none⟩,
      ⟨some 1, "Ann", "Deep", some 1⟩, ⟨some 1, "Ann", "Flat", some 1⟩]⟩
    let once := saveInPlace book .sample
    let twice := saveInPlace once.held once.reply.connection
    once.reply.result = .ok 2 ∧ once.held.reviews.map (·.id) = [some 3, some 3, some 1, some 1] ∧
      twice.reply.result = .ok 2 ∧ twice.reply.connection = once.reply.connection ∧ twice.held = once.held ∧
      ∃ found, find? Connection.sample.store 1 = .ok (some found) ∧
        (saveInPlace found .sample).reply.connection = .sample := by
  intro book once twice
  have saved : (saveInPlace book .sample).reply.result = .ok 2 := by decide +kernel
  obtain ⟨again, ofFound⟩ := saving_again_changes_nothing .sample
  obtain ⟨same, connection, held⟩ := again book 2 saved
  obtain ⟨found, read, unchanged, -⟩ := ofFound reached_sample 1 (by decide +kernel)
  exact ⟨saved, by decide +kernel, same, connection, held, found, read, unchanged⟩

end Books

end Catalogue
