import Catalogue.Proofs.Batch
import Catalogue.Proofs.Saving

/-! The books of one batch. Each save takes reviews from other books and removes reviews of its own, and yet
what one book of a batch wrote no later one touches: ids that are given out in the batch are new, and the others
name each book and each review once. -/

set_option autoImplicit false

namespace Catalogue

def Book.without (book : Book) (keys : List ReviewId) : Book :=
  { book with reviews := book.reviews.filter fun review => !review.id.any keys.contains }

theorem Book.without_congr {book : Book} {keys keys' : List ReviewId}
    (same : ∀ review ∈ book.reviews, ∀ key, review.id = some key → (key ∈ keys ↔ key ∈ keys')) :
    book.without keys = book.without keys' := by
  unfold without
  congr 1
  refine List.filter_congr fun review member => ?_
  cases has : review.id with
  | none => rfl
  | some key => simp [same review member key has]

theorem Book.without_eq_self {book : Book} {keys : List ReviewId}
    (unlisted : ∀ review ∈ book.reviews, ∀ key, review.id = some key → key ∉ keys) : book.without keys = book := by
  unfold without
  congr 1
  refine List.filter_eq_self.mpr fun review member => ?_
  cases has : review.id with
  | none => rfl
  | some key => simp [unlisted review member key has]

theorem Books.SavedIds.mem_of_stamp {ids : SavedIds} {book : Book} {review : Review} {key : ReviewId}
    (member : review ∈ (ids.stamp book).reviews) (has : review.id = some key) : key ∈ ids.reviews := by
  simp only [stamp, Book.stamp, ← List.map_uncurry_zip_eq_zipWith] at member
  obtain ⟨⟨given, id⟩, paired, rfl⟩ := List.mem_map.mp member
  obtain rfl : id = key := Option.some.inj has
  exact (List.of_mem_zip paired).2

/-- From one store to another a book keeps its row, and its reviews but for those with these ids. -/
structure Store.Spares (before after : Store) (book : BookId) (keys : List ReviewId) : Prop where
  row : after.books.find? book = before.books.find? book
  reviews : after.reviewsOf book = (before.reviewsOf book).filter fun review => !review.id.any keys.contains

namespace Store.Spares

variable {before between after : Store} {book : BookId} {keys keys' : List ReviewId}

theorem refl (store : Store) (book : BookId) : store.Spares store book [] := by
  refine ⟨rfl, (List.filter_eq_self.mpr fun review _ => ?_).symm⟩
  cases review.id <;> rfl

theorem trans (first : before.Spares between book keys) (second : between.Spares after book keys') :
    before.Spares after book (keys ++ keys') := by
  refine ⟨second.row.trans first.row, ?_⟩
  rw [second.reviews, first.reviews, List.filter_filter]
  refine List.filter_congr fun review _ => ?_
  cases review.id <;> simp [Bool.and_comm]

theorem find?_eq (spares : before.Spares after book keys) (soundBefore : before.Sound) (soundAfter : after.Sound)
    {found : Option Book} (same : Books.find? before book = .ok found) :
    Books.find? after book = .ok (found.map (·.without keys)) := by
  rw [soundBefore.find?_eq] at same
  obtain rfl := Except.ok.inj same
  rw [soundAfter.find?_eq, spares.row]
  cases stored : before.books.find? book with
  | none => rfl
  | some row =>
    obtain rfl := Table.id_of_find? stored
    simp only [Option.map_some, Store.bookOf, Book.without, spares.reviews]

end Store.Spares

namespace Cascaded

variable {before after : Store} {book : Book} {ids : Books.SavedIds}

-- Another book's row is left alone, and of its reviews exactly the listed ones go.
theorem spares (h : Cascaded before book ids after) (soundBefore : before.Sound) (soundAfter : after.Sound)
    {other : BookId} (apart : other ≠ ids.book) : before.Spares after other ids.reviews := by
  refine ⟨by rw [h.row.find?, if_neg apart], ?_⟩
  have rows : after.reviews.rows.filter (·.isOf other) =
      (before.reviews.rows.filter (·.isOf other)).filter fun row => !ids.reviews.contains row.id := by
    apply Table.rows_ext (after.reviews.ascending.filter _) ((before.reviews.ascending.filter _).filter _)
    intro row
    simp only [List.mem_filter, Bool.not_eq_true', ← Bool.not_eq_true, List.contains_iff_mem]
    by_cases listed : row.id ∈ ids.reviews
    · -- What is listed belongs to the saved book now.
      constructor
      · rintro ⟨member, ofOther⟩
        exact absurd (soundAfter.readable.eq_of_isOf member ofOther (h.isOf_of_listed member listed)) apart
      · rintro ⟨-, unlisted⟩
        exact absurd listed unlisted
    · rw [Table.mem_rows_iff, Table.mem_rows_iff, h.find?_unlisted listed, Option.filter_eq_some_iff]
      constructor
      · rintro ⟨⟨found, -⟩, ofOther⟩
        exact ⟨⟨found, ofOther⟩, listed⟩
      · rintro ⟨⟨found, ofOther⟩, -⟩
        refine ⟨⟨found, ?_⟩, ofOther⟩
        simp only [Bool.not_eq_true', ← Bool.not_eq_true]
        exact fun ofBook => apart (soundBefore.readable.eq_of_isOf (Table.mem_rows_iff.mpr found) ofOther ofBook)
  rw [Store.reviewsOf, rows, Store.reviewsOf, List.filter_map]
  rfl

theorem book_origin (h : Cascaded before book ids after) :
    ids.book ∈ book.id.toList ∨ before.books.mark < ids.book := by
  cases key : book.id with
  | none => exact .inr (h.mark_lt_of_new key)
  | some key' => exact .inl (by simp [h.eq_of_key key])

theorem review_origin (h : Cascaded before book ids after) {id : ReviewId} (member : id ∈ ids.reviews) :
    id ∈ book.reviewIds ∨ before.reviews.mark < id := by
  obtain ⟨written, stored, -⟩ := h.reviews
  exact stored.origin member

theorem reviewIds_subset (h : Cascaded before book ids after) : book.reviewIds ⊆ ids.reviews := by
  obtain ⟨written, stored, -⟩ := h.reviews
  exact stored.kept_subset

theorem book_le_mark (h : Cascaded before book ids after) : ids.book ≤ after.books.mark :=
  Table.le_mark_of_find? h.row.find?_id

theorem contains_review (h : Cascaded before book ids after) {id : ReviewId} (member : id ∈ ids.reviews) :
    after.reviews.contains id = true := by
  rw [← h.map_zip] at member
  cases last : lastRow ids.book (book.reviews.zip ids.reviews) id with
  | none => exact absurd member (lastRow_eq_none_iff.mp last)
  | some row =>
    have found : after.reviews.find? id = some row := by
      rw [h.find?_review, last]
      rfl
    exact Table.contains_iff_find?.mpr ⟨row, found⟩

theorem review_le_mark (h : Cascaded before book ids after) {id : ReviewId} (member : id ∈ ids.reviews) :
    id ≤ after.reviews.mark :=
  Table.le_mark_of_contains (h.contains_review member)

end Cascaded

/-- A sound store and books that may be saved to it in one batch: none of negative length, none that is there
twice, no review listed twice, and no id that is still to come. -/
structure Store.Fits (store : Store) (books : List Book) : Prop where
  sound : store.Sound
  valid : ∀ book ∈ books, ¬ book.pages < 0
  nodupBooks : (books.filterMap (·.id)).Nodup
  nodupReviews : (books.flatMap Book.reviewIds).Nodup
  bookMark : ∀ key ∈ books.filterMap (·.id), key ≤ store.books.mark
  reviewMark : ∀ key ∈ books.flatMap Book.reviewIds, key ≤ store.reviews.mark

-- What is stored under ids that were there, and not among the later ones, or under new ids, is not met again.
theorem apart_from_later {own later : List Int} {before between key : Int} (distinct : (own ++ later).Nodup)
    (old : ∀ key ∈ later, key ≤ before) (origin : key ∈ own ∨ before < key) (taken : key ≤ between) :
    ¬ (key ∈ later ∨ between < key) := by
  rintro (again | above)
  · rcases origin with owned | new
    · exact (List.nodup_append.mp distinct).2.2 key owned key again rfl
    · exact absurd (old key again) (not_le.mpr new)
  · exact absurd taken (not_le.mpr above)

namespace Store.Fits

variable {before between : Store} {book : Book} {others : List Book} {ids : Books.SavedIds}

theorem filterMap_cons (book : Book) (others : List Book) :
    (book :: others).filterMap (·.id) = book.id.toList ++ others.filterMap (·.id) := by
  rw [List.filterMap_cons]
  cases book.id <;> rfl

theorem nodupBooks_cons (fits : before.Fits (book :: others)) :
    (book.id.toList ++ others.filterMap (·.id)).Nodup := by
  rw [← filterMap_cons]
  exact fits.nodupBooks

theorem nodupReviews_cons (fits : before.Fits (book :: others)) :
    (book.reviewIds ++ others.flatMap Book.reviewIds).Nodup := by
  rw [← List.flatMap_cons]
  exact fits.nodupReviews

theorem bookMark_later (fits : before.Fits (book :: others)) :
    ∀ key ∈ others.filterMap (·.id), key ≤ before.books.mark := by
  intro key member
  apply fits.bookMark
  rw [filterMap_cons]
  exact List.mem_append_right _ member

theorem reviewMark_later (fits : before.Fits (book :: others)) :
    ∀ key ∈ others.flatMap Book.reviewIds, key ≤ before.reviews.mark := by
  intro key member
  apply fits.reviewMark
  rw [List.flatMap_cons]
  exact List.mem_append_right _ member

theorem nodup_ids (fits : before.Fits (book :: others)) (first : Cascaded before book ids between) :
    ids.reviews.Nodup := by
  obtain ⟨written, stored, -⟩ := first.reviews
  exact stored.nodup_ids (List.nodup_append.mp fits.nodupReviews_cons).1 fun key member =>
    fits.reviewMark key (List.mem_flatMap_of_mem List.mem_cons_self member)

theorem sound_first (fits : before.Fits (book :: others)) (first : Cascaded before book ids between) : between.Sound :=
  first.sound (fits.valid book List.mem_cons_self) fits.sound

-- The marks do not fall, so the other books still fit after the first one is saved.
theorem rest (fits : before.Fits (book :: others)) (first : Cascaded before book ids between) :
    between.Fits others where
  sound := fits.sound_first first
  valid := (List.forall_mem_cons.mp fits.valid).2
  nodupBooks := (List.nodup_append.mp fits.nodupBooks_cons).2.1
  nodupReviews := (List.nodup_append.mp fits.nodupReviews_cons).2.1
  bookMark key member := (fits.bookMark_later key member).trans first.marks_le.books
  reviewMark key member := (fits.reviewMark_later key member).trans first.marks_le.reviews

theorem book_apart (fits : before.Fits (book :: others)) (first : Cascaded before book ids between) :
    ¬ (ids.book ∈ others.filterMap (·.id) ∨ between.books.mark < ids.book) :=
  apart_from_later fits.nodupBooks_cons fits.bookMark_later first.book_origin first.book_le_mark

theorem review_apart (fits : before.Fits (book :: others)) (first : Cascaded before book ids between) {id : ReviewId}
    (member : id ∈ ids.reviews) : ¬ (id ∈ others.flatMap Book.reviewIds ∨ between.reviews.mark < id) :=
  apart_from_later fits.nodupReviews_cons fits.reviewMark_later (first.review_origin member)
    (first.review_le_mark member)

end Store.Fits

namespace CascadedAll

variable {before after : Store} {books : List Book} {ids : List Books.SavedIds}

theorem sound (h : CascadedAll before books ids after) (valid : ∀ book ∈ books, ¬ book.pages < 0)
    (sound : before.Sound) : after.Sound :=
  h.keeps (fun cascaded valid sound => cascaded.sound valid sound) valid sound

theorem stored (h : CascadedAll before books ids after) :
    List.Forall₂ (fun saved book => (∀ key, book.id = some key → saved.book = key) ∧
      saved.reviews.length = book.reviews.length) ids books := by
  induction h with
  | nil => exact .nil
  | cons first later ih =>
    exact .cons ⟨fun key has => first.eq_of_key has, first.length_eq⟩ ih

theorem book_origin (h : CascadedAll before books ids after) {id : BookId} (member : id ∈ ids.map (·.book)) :
    id ∈ books.filterMap (·.id) ∨ before.books.mark < id := by
  induction h with
  | nil => cases member
  | cons first later ih =>
    rw [Store.Fits.filterMap_cons, List.mem_append]
    rcases List.mem_cons.mp member with rfl | member
    · exact first.book_origin.imp_left .inl
    · exact (ih member).imp .inr first.marks_le.books.trans_lt

theorem review_origin (h : CascadedAll before books ids after) {id : ReviewId}
    (member : id ∈ ids.flatMap (·.reviews)) : id ∈ books.flatMap Book.reviewIds ∨ before.reviews.mark < id := by
  induction h with
  | nil => cases member
  | cons first later ih =>
    rw [List.flatMap_cons, List.mem_append] at member ⊢
    rcases member with member | member
    · exact (first.review_origin member).imp_left .inl
    · exact (ih member).imp .inr first.marks_le.reviews.trans_lt

theorem reviewIds_subset (h : CascadedAll before books ids after) :
    books.flatMap Book.reviewIds ⊆ ids.flatMap (·.reviews) := by
  induction h with
  | nil => exact List.Subset.refl []
  | cons first later ih =>
    rw [List.flatMap_cons, List.flatMap_cons]
    exact List.append_subset.mpr ⟨List.subset_append_of_subset_left _ first.reviewIds_subset,
      List.subset_append_of_subset_right _ ih⟩

theorem spares (h : CascadedAll before books ids after) (fits : before.Fits books) {other : BookId}
    (apart : other ∉ ids.map (·.book)) : before.Spares after other (ids.flatMap (·.reviews)) := by
  induction h with
  | nil => exact .refl _ other
  | cons first later ih =>
    obtain ⟨differs, apart⟩ := not_or.mp (mt List.mem_cons.mpr apart)
    rw [List.flatMap_cons]
    exact (first.spares fits.sound (fits.sound_first first) differs).trans
      (ih (fits.rest first) apart)

theorem nodup_books (h : CascadedAll before books ids after) (fits : before.Fits books) :
    (ids.map (·.book)).Nodup := by
  induction h with
  | nil => exact .nil
  | cons first later ih =>
    exact List.nodup_cons.mpr ⟨fun again => fits.book_apart first (later.book_origin again), ih (fits.rest first)⟩

theorem found (h : CascadedAll before books ids after) (fits : before.Fits books) :
    List.Forall₂ (fun id held => Books.find? after id = .ok (some held.inOrder)) (ids.map (·.book))
      (ids.zipWith Books.SavedIds.stamp books) := by
  induction h with
  | nil => exact .nil
  | @cons before between after book rest ids more first later ih =>
    refine .cons ?_ (ih (fits.rest first))
    have soundBetween := fits.sound_first first
    have stands := (first.savedAs soundBetween (fits.nodup_ids first)).found
    have apart : ids.book ∉ more.map (·.book) := fun again => fits.book_apart first (later.book_origin again)
    have spared := (later.spares (fits.rest first) apart).find?_eq soundBetween
      (later.sound (fits.rest first).valid soundBetween) stands
    -- The later books list no review that this one has.
    have whole : (ids.stamp book).inOrder.without (more.flatMap (·.reviews)) = (ids.stamp book).inOrder := by
      refine Book.without_eq_self fun review member key has again => ?_
      exact fits.review_apart first (ids.mem_of_stamp (List.mem_mergeSort.mp member) has) (later.review_origin again)
    rw [spared, Option.map_some, whole]

end CascadedAll

namespace Books

/-- A batch that names no book twice, and no id that is not stored, stores each of its books under an id of its own
and finds it afterwards as its caller holds it, and of any other book takes only the reviews that it lists. -/
theorem saveAllInPlace_keeps_apart {c : Connection} (reached : Reached c) {books : List Book}
    (distinct : (books.filterMap (·.id)).Nodup)
    (storedBooks : ∀ key ∈ books.filterMap (·.id), c.store.books.contains key = true)
    (storedReviews : ∀ key ∈ books.flatMap Book.reviewIds, c.store.reviews.contains key = true)
    {ids : List BookId} (succeeds : (saveAllInPlace books c).reply.result = .ok ids) :
    let held := (saveAllInPlace books c).held
    let after := (saveAllInPlace books c).reply.connection.store
    ids.Nodup ∧
      (∃ stored : List SavedIds, ids = stored.map (·.book) ∧ held = stored.zipWith SavedIds.stamp books ∧
        List.Forall₂ (fun saved book => (∀ key, book.id = some key → saved.book = key) ∧
          saved.reviews.length = book.reviews.length) stored books) ∧
      List.Forall₂ (fun id book => Books.find? after id = .ok (some book.inOrder)) ids held ∧
      ∀ other ∉ ids, ∃ found, Books.find? c.store other = .ok found ∧
        Books.find? after other = .ok (found.map (·.without (books.flatMap Book.reviewIds))) := by
  rw [saveAllInPlace_eq] at succeeds ⊢
  obtain ⟨⟨ids', saved⟩, result, rfl⟩ := map_eq_ok.mp succeeds
  obtain ⟨-, valid, checked, stored, after, same, cascaded, moved⟩ := saveAll_gives (Action.gives_of_ok result)
  obtain ⟨rfl, rfl⟩ := Prod.mk.inj same
  rw [result, moved]
  have fits : c.store.Fits books :=
    ⟨reached.sound.store, valid, distinct, checked,
      fun key member => Table.le_mark_of_contains (storedBooks key member),
      fun key member => Table.le_mark_of_contains (storedReviews key member)⟩
  refine ⟨cascaded.nodup_books fits, ⟨stored, rfl, rfl, cascaded.stored⟩, cascaded.found fits, fun other apart => ?_⟩
  have before := fits.sound.find?_eq other
  refine ⟨_, before, ?_⟩
  rw [(cascaded.spares fits apart).find?_eq fits.sound (cascaded.sound valid fits.sound) before]
  -- The ids that the batch gave to new reviews are of no review that was there.
  refine congrArg Except.ok (Option.map_congr fun book found => Book.without_congr fun review member key has => ?_)
  have old := Table.le_mark_of_contains
    (fits.sound.contains_of_review (before.trans (congrArg Except.ok found)) member has)
  constructor
  · intro taken
    exact (cascaded.review_origin taken).resolve_right (not_lt.mpr old)
  · intro listed
    exact cascaded.reviewIds_subset listed

theorem saveAllInPlace_beside_another :
    let books : List Book := [⟨some 2, "Emma", 480, [.new "Eve" "Odd", ⟨some 1, "Ann", "Vast", none⟩]⟩,
      .withReviews "Ulysses" 730 [.new "Kim" "Fine"]]
    let after := (saveAllInPlace books .sample).reply.connection.store
    (saveAllInPlace books .sample).reply.result = .ok [2, 3] ∧
      List.Forall₂ (fun id book => Books.find? after id = .ok (some book.inOrder)) [2, 3]
        (saveAllInPlace books .sample).held ∧
      ∃ found, Books.find? Connection.sample.store 1 = .ok found ∧
        Books.find? after 1 = .ok (found.map (·.without [1])) := by
  intro books after
  have succeeds : (saveAllInPlace books .sample).reply.result = .ok [2, 3] := by decide +kernel
  have storedBooks : ∀ key ∈ books.filterMap (·.id), Connection.sample.store.books.contains key = true := by
    decide +kernel
  have storedReviews : ∀ key ∈ books.flatMap Book.reviewIds, Connection.sample.store.reviews.contains key = true := by
    decide +kernel
  obtain ⟨-, -, found, others⟩ :=
    saveAllInPlace_keeps_apart reached_sample (by decide) storedBooks storedReviews succeeds
  exact ⟨succeeds, found, others 1 (by decide)⟩

end Books

end Catalogue
