import Catalogue.Proofs.Marks
import Catalogue.Proofs.Reading

/-! What a successful save makes of a store, as it is read back: the saved book with exactly the reviews
that it lists, and everything else as it was. -/

set_option autoImplicit false

namespace Catalogue

def Review.mayPrecede (a b : Review) : Bool := a.id.getD 0 ≤ b.id.getD 0

def Book.inOrder (book : Book) : Book := { book with reviews := book.reviews.mergeSort Review.mayPrecede }

theorem Review.mayPrecede_iff {a b : Review} : a.mayPrecede b = true ↔ a.id.getD 0 ≤ b.id.getD 0 := by
  simp [mayPrecede]

-- Of all arrangements of reviews, one is in the order of their ids.
theorem mergeSort_reviews_eq {reviews sorted : List Review} (perm : sorted.Perm reviews)
    (ascending : sorted.Pairwise fun a b => a.id.getD 0 < b.id.getD 0) :
    reviews.mergeSort Review.mayPrecede = sorted := by
  have merged : (reviews.mergeSort Review.mayPrecede).Pairwise fun a b => a.mayPrecede b = true := by
    refine List.pairwise_mergeSort (fun a b c => ?_) (fun a b => ?_) reviews
    · simp only [Review.mayPrecede_iff]
      exact le_trans
    · simp only [Bool.or_eq_true, Review.mayPrecede_iff]
      exact le_total _ _
  have distinct : (sorted.map fun review => review.id.getD 0).Nodup :=
    List.pairwise_map.mpr (ascending.imp fun below => ne_of_lt below)
  have same := (List.mergeSort_perm reviews Review.mayPrecede).trans perm.symm
  refine same.eq_of_pairwise (fun a b inMerged inSorted below above => ?_) merged
    (ascending.imp fun below => Review.mayPrecede_iff.mpr (le_of_lt below))
  exact List.inj_on_of_nodup_map distinct (same.subset inMerged) inSorted
    (le_antisymm (Review.mayPrecede_iff.mp below) (Review.mayPrecede_iff.mp above))

theorem Store.ascending_reviewsOf (store : Store) (book : BookId) :
    (store.reviewsOf book).Pairwise fun a b => a.id.getD 0 < b.id.getD 0 :=
  List.pairwise_map.mpr (store.reviews.ascending.sublist List.filter_sublist)

namespace Cascaded

variable {before after : Store} {book : Book} {ids : Books.SavedIds}

theorem map_zip (h : Cascaded before book ids after) : (book.reviews.zip ids.reviews).map (·.2) = ids.reviews :=
  List.map_snd_zip h.length_eq.le

-- Persisted reviews that are distinct and stored end up, with the new ones, under distinct ids.
theorem nodup_ids (h : Cascaded before book ids after) (distinct : book.reviewIds.Nodup)
    (stored : ∀ key ∈ book.reviewIds, before.reviews.contains key = true) : ids.reviews.Nodup := by
  obtain ⟨written, reviews, -⟩ := h.reviews
  exact reviews.nodup_ids distinct fun key member => Table.le_mark_of_contains (stored key member)

theorem find?_listed (h : Cascaded before book ids after) (distinct : ids.reviews.Nodup) {review : Review}
    {id : ReviewId} (listed : (review, id) ∈ book.reviews.zip ids.reviews) :
    after.reviews.find? id = some ⟨id, review.cells ids.book⟩ := by
  rw [← h.map_zip] at distinct
  rw [h.find?_review, (lastRow_eq_some_iff distinct).mpr ⟨review, listed, rfl⟩]
  rfl

theorem find?_unlisted (h : Cascaded before book ids after) {id : ReviewId} (unlisted : id ∉ ids.reviews) :
    after.reviews.find? id = (before.reviews.find? id).filter (!·.isOf ids.book) := by
  rw [← h.map_zip] at unlisted
  rw [h.find?_review, lastRow_eq_none_iff.mpr unlisted]
  rfl

theorem mem_owned_iff (h : Cascaded before book ids after) (distinct : ids.reviews.Nodup) {row : Row ReviewCells} :
    (row ∈ after.reviews.rows ∧ row.isOf ids.book = true) ↔
      ∃ entry ∈ book.reviews.zip ids.reviews, ⟨entry.2, entry.1.cells ids.book⟩ = row := by
  constructor
  · rintro ⟨member, owned⟩
    rw [Table.mem_rows_iff] at member
    by_cases listed : row.id ∈ ids.reviews
    · rw [← h.map_zip, List.mem_map] at listed
      obtain ⟨entry, paired, same⟩ := listed
      refine ⟨entry, paired, ?_⟩
      rw [← same, h.find?_listed distinct paired] at member
      exact Option.some.inj member
    · rw [h.find?_unlisted listed, Option.filter_eq_some_iff] at member
      simp [owned] at member
  · rintro ⟨⟨review, id⟩, paired, rfl⟩
    exact ⟨Table.mem_rows_iff.mpr (h.find?_listed distinct paired), by simp [Row.isOf_cells]⟩

theorem isOf_of_listed (h : Cascaded before book ids after) {row : Row ReviewCells}
    (member : row ∈ after.reviews.rows) (listed : row.id ∈ ids.reviews) : row.isOf ids.book = true := by
  rw [Table.mem_rows_iff, h.find?_review] at member
  cases last : lastRow ids.book (book.reviews.zip ids.reviews) row.id with
  | none =>
    rw [lastRow_eq_none_iff, h.map_zip] at last
    exact absurd listed last
  | some other =>
    rw [last, Option.some_or] at member
    obtain rfl := Option.some.inj member
    exact isOf_of_lastRow last

theorem reviewsOf_perm (h : Cascaded before book ids after) (distinct : ids.reviews.Nodup) :
    (after.reviewsOf ids.book).Perm (ids.stamp book).reviews := by
  have stamped : (ids.stamp book).reviews =
      ((book.reviews.zip ids.reviews).map fun entry => (⟨entry.2, entry.1.cells ids.book⟩ : Row ReviewCells)).map
        Row.review := by
    rw [List.map_map, List.map_zip_eq_zipWith]
    rfl
  rw [stamped, Store.reviewsOf]
  have rows := after.reviews.ascending.imp fun below same => ne_of_lt below (congrArg Row.id same)
  have written : ((book.reviews.zip ids.reviews).map fun entry =>
      (⟨entry.2, entry.1.cells ids.book⟩ : Row ReviewCells)).Nodup := by
    refine List.Nodup.of_map Row.id ?_
    rw [List.map_map]
    rwa [← h.map_zip] at distinct
  refine ((List.perm_ext_iff_of_nodup (rows.filter _) written).mpr fun row => ?_).map Row.review
  rw [List.mem_filter, List.mem_map]
  exact h.mem_owned_iff distinct

theorem bookOf_eq (h : Cascaded before book ids after) (distinct : ids.reviews.Nodup) :
    after.bookOf ⟨ids.book, book.cells⟩ = (ids.stamp book).inOrder := by
  have sorted := mergeSort_reviews_eq (h.reviewsOf_perm distinct) (after.ascending_reviewsOf ids.book)
  rw [Store.bookOf, Row.book_of_cells, Book.inOrder, sorted]
  rfl

end Cascaded

/-- What a save that stored a book and its reviews, in order, under `ids` makes of a store. -/
structure SavedAs (before after : Store) (book : Book) (ids : Books.SavedIds) : Prop where
  -- The book keeps the id that it had.
  kept : ∀ key, book.id = some key → ids.book = key
  length_eq : ids.reviews.length = book.reviews.length
  -- The book is found as its caller holds it from then on.
  found : Books.find? after ids.book = .ok (some (ids.stamp book).inOrder)
  -- Each listed review keeps the id that it had, and its row holds what it says.
  rows : ∀ entry ∈ book.reviews.zip ids.reviews, (∀ key, entry.1.id = some key → entry.2 = key) ∧
    after.reviews.find? entry.2 = some ⟨entry.2, entry.1.cells ids.book⟩
  -- New ids are above the marks, those of reviews in the order of the collection.
  newBook : book.id = none → before.books.mark < ids.book
  newReviews : ∀ entry ∈ book.reviews.zip ids.reviews, entry.1.id = none → before.reviews.mark < entry.2
  ascending : (book.reviews.zip ids.reviews).Pairwise fun a b => a.1.id = none → b.1.id = none → a.2 < b.2
  -- What the book owned and does not list is gone.
  orphans : ∀ row ∈ before.reviews.rows, row.isOf ids.book = true → row.id ∉ ids.reviews →
    after.reviews.contains row.id = false
  -- What it lists, no other book has.
  moved : ∀ other ≠ ids.book, ∀ found, Books.find? after other = .ok (some found) → ∀ review ∈ found.reviews,
    ∀ key ∈ ids.reviews, review.id ≠ some key
  otherBooks : ∀ other ≠ ids.book, after.books.find? other = before.books.find? other
  otherReviews : ∀ key ∉ ids.reviews, (∀ row, before.reviews.find? key = some row → row.isOf ids.book = false) →
    after.reviews.find? key = before.reviews.find? key

theorem Cascaded.savedAs {before after : Store} {book : Book} {ids : Books.SavedIds}
    (h : Cascaded before book ids after) (sound : after.Sound) (distinct : ids.reviews.Nodup) :
    SavedAs before after book ids where
  kept key has := h.eq_of_key has
  length_eq := h.length_eq
  found := by rw [sound.find?_eq, h.row.find?_id, Option.map_some, h.bookOf_eq distinct]
  rows entry paired := by
    obtain ⟨written, stored, -⟩ := h.reviews
    exact ⟨(stored.id_of_mem_zip paired).1, h.find?_listed distinct paired⟩
  newBook new := h.mark_lt_of_new new
  newReviews entry paired new := by
    obtain ⟨written, stored, -⟩ := h.reviews
    exact (stored.id_of_mem_zip paired).2 new
  ascending := by
    obtain ⟨written, stored, -⟩ := h.reviews
    exact stored.new_ascending
  orphans row member owned unlisted := by
    rw [← Table.find?_eq_none_iff, h.find?_unlisted unlisted, Table.mem_rows_iff.mp member]
    simp [Option.filter, owned]
  moved other apart found same review member key listed carries := by
    rw [sound.find?_eq] at same
    obtain ⟨bookRow, stored, rfl⟩ := Option.map_eq_some_iff.mp (Except.ok.inj same)
    obtain ⟨row, ofOther, rfl⟩ := List.mem_map.mp member
    obtain ⟨stands, ofOther⟩ := List.mem_filter.mp ofOther
    rw [Table.id_of_find? stored] at ofOther
    obtain rfl : row.id = key := Option.some.inj carries
    exact apart (sound.readable.eq_of_isOf stands ofOther (h.isOf_of_listed stands listed))
  otherBooks other apart := by rw [h.row.find?, if_neg apart]
  otherReviews key unlisted unowned := by
    rw [h.find?_unlisted unlisted]
    cases found : before.reviews.find? key with
    | none => rfl
    | some row => simp [Option.filter, unowned row found]

namespace Books

theorem reached_of_save {c d : Connection} (reached : Reached c) {book : Book} {saved : BookId × Book}
    (gives : (save book).Gives c saved d) : Reached d := by
  rw [← gives.2]
  exact reached.written (.save book)

theorem savedAs_of_gives {c d : Connection} (reached : Reached c) {book saved : Book} (distinct : book.reviewIds.Nodup)
    (stored : ∀ key ∈ book.reviewIds, c.store.reviews.contains key = true) {id : BookId}
    (gives : (save book).Gives c (id, saved) d) :
    ∃ ids : SavedIds, ids.book = id ∧ saved = ids.stamp book ∧ SavedAs c.store d.store book ids := by
  obtain ⟨-, -, ids, after, same, cascaded, rfl⟩ := save_gives gives
  obtain ⟨rfl, rfl⟩ := Prod.mk.inj same
  -- The books are read back from the store after the save, which is sound because it is reached.
  have sound := (reached_of_save reached gives).sound
  exact ⟨ids, rfl, rfl, cascaded.savedAs sound.store (cascaded.nodup_ids distinct stored)⟩

/-- A book whose persisted reviews are distinct and stored is saved with exactly the reviews that it lists, and
nothing else is touched; and the new ids are above all ids that were stored at any time. -/
theorem saveInPlace_cascades_exactly {c : Connection} (reached : Reached c) {book : Book}
    (distinct : book.reviewIds.Nodup) (stored : ∀ key ∈ book.reviewIds, c.store.reviews.contains key = true)
    {id : BookId} (succeeds : (saveInPlace book c).reply.result = .ok id) :
    ∃ ids : SavedIds, ids.book = id ∧ (saveInPlace book c).held = ids.stamp book ∧
      SavedAs c.store (saveInPlace book c).reply.connection.store book ids ∧
      ∀ earlier, Reached earlier → Reaches earlier c →
        (book.id = none → ∀ row ∈ earlier.store.books.rows, row.id < id) ∧
        ∀ entry ∈ book.reviews.zip ids.reviews, entry.1.id = none →
          ∀ row ∈ earlier.store.reviews.rows, row.id < entry.2 := by
  rw [saveInPlace_eq] at succeeds ⊢
  cases result : (save book c).result with
  | error e => simp [result, Except.map] at succeeds
  | ok reply =>
    obtain ⟨id', saved⟩ := reply
    obtain rfl : id' = id := by simpa [result, Except.map] using succeeds
    obtain ⟨ids, same, stamped, effect⟩ := savedAs_of_gives reached distinct stored (Action.gives_of_ok result)
    refine ⟨ids, same, stamped, effect, fun earlier reachedEarlier later => ⟨fun new row member => ?_, ?_⟩⟩
    · rw [← same]
      exact lt_of_le_of_lt (later.book_le_mark reachedEarlier member) (effect.newBook new)
    · intro entry paired new row member
      exact lt_of_le_of_lt (later.review_le_mark reachedEarlier member) (effect.newReviews entry paired new)

-- A book that takes over another's review, between two new ones.
theorem saveInPlace_takes_over :
    let book : Book := ⟨some 2, "Emma", 480, [.new "Eve" "Odd", ⟨some 2, "Bob", "Short", none⟩, .new "Kim" "Fine"]⟩
    (saveInPlace book .sample).reply.result = .ok 2 ∧
      ∃ ids : SavedIds, ids.book = 2 ∧
        SavedAs Connection.sample.store (saveInPlace book .sample).reply.connection.store book ids := by
  intro book
  have succeeds : (saveInPlace book .sample).reply.result = .ok 2 := by decide +kernel
  have stored : ∀ key ∈ book.reviewIds, Connection.sample.store.reviews.contains key = true := by decide +kernel
  obtain ⟨ids, same, -, effect, -⟩ := saveInPlace_cascades_exactly reached_sample (by decide) stored succeeds
  exact ⟨succeeds, ids, same, effect⟩

end Books

end Catalogue
