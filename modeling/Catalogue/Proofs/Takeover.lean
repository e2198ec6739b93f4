import Catalogue.Proofs.Answering
import Catalogue.Proofs.Neighbours
import Catalogue.Proofs.Progress

/-! Batches in which books take over reviews from each other. The save of a book removes the reviews that it had
and does not list, and a book that is saved after it finds them gone; so it is the order of a batch that decides
whether it can be saved, and nothing else of it. -/

set_option autoImplicit false

namespace Catalogue

def Store.Belongs (store : Store) (key : ReviewId) (book : Book) : Prop :=
  ∃ owner row, book.id = some owner ∧ store.reviews.find? key = some row ∧ row.isOf owner = true

/-- The review is listed behind the book of the batch to which it belongs as the batch begins. -/
def Store.Late (store : Store) (books : List Book) (key : ReviewId) : Prop :=
  ∃ before owner after, books = before ++ owner :: after ∧ key ∈ after.flatMap Book.reviewIds ∧ store.Belongs key owner

/-- A batch that fits a store, its persisted books being stored, and ids left for what is new in it. -/
structure Store.Awaits (store : Store) (books : List Book) : Prop extends store.Fits books where
  present : ∀ key ∈ books.filterMap (·.id), store.books.contains key = true
  room : store.books.mark + books.countP (·.id.isNone) ≤ IntRange.int64.high
  reviewRoom : store.reviews.mark + Review.newCount (books.flatMap (·.reviews)) ≤ IntRange.int64.high

namespace Store

variable {store between after : Store} {book : Book} {books others order : List Book} {ids : Books.SavedIds}
  {key : ReviewId}

theorem late_cons : store.Late (book :: others) key ↔
    (key ∈ others.flatMap Book.reviewIds ∧ store.Belongs key book) ∨ store.Late others key := by
  constructor
  · rintro ⟨before, owner, after, same, listed, belongs⟩
    rcases List.cons_eq_append_iff.mp same with ⟨rfl, here⟩ | ⟨before, rfl, there⟩
    · obtain ⟨rfl, rfl⟩ := List.cons.inj here
      exact .inl ⟨listed, belongs⟩
    · exact .inr ⟨before, owner, after, there, listed, belongs⟩
  · rintro (⟨listed, belongs⟩ | ⟨before, owner, after, rfl, listed, belongs⟩)
    · exact ⟨[], book, others, rfl, listed, belongs⟩
    · exact ⟨book :: before, owner, after, rfl, listed, belongs⟩

theorem Late.listed (late : store.Late books key) : key ∈ books.flatMap Book.reviewIds := by
  obtain ⟨before, owner, after, rfl, listed, -⟩ := late
  rw [List.flatMap_append, List.flatMap_cons]
  exact List.mem_append_right _ (List.mem_append_right _ listed)

theorem Late.of_stored (late : store.Late books key)
    (same : ∀ row, store.reviews.find? key = some row → after.reviews.find? key = some row) : after.Late books key := by
  obtain ⟨first, book, last, split, listed, owner, row, named, stored, owned⟩ := late
  exact ⟨first, book, last, split, listed, owner, row, named, same row stored, owned⟩

namespace Awaits

theorem perm (awaits : store.Awaits books) (perm : order.Perm books) : store.Awaits order where
  sound := awaits.sound
  valid book member := awaits.valid book (perm.mem_iff.mp member)
  nodupBooks := (perm.filterMap _).nodup_iff.mpr awaits.nodupBooks
  nodupReviews := (perm.flatMap_right _).nodup_iff.mpr awaits.nodupReviews
  bookMark key member := awaits.bookMark key ((perm.filterMap _).mem_iff.mp member)
  reviewMark key member := awaits.reviewMark key ((perm.flatMap_right _).mem_iff.mp member)
  present key member := awaits.present key ((perm.filterMap _).mem_iff.mp member)
  room := by
    rw [perm.countP_eq]
    exact awaits.room
  reviewRoom := by
    rw [Review.newCount, (perm.flatMap_right _).countP_eq]
    exact awaits.reviewRoom

theorem present_first (awaits : store.Awaits (book :: others)) {id : BookId} (named : book.id = some id) :
    store.books.contains id = true := by
  apply awaits.present
  rw [List.filterMap_cons_some named]
  exact List.mem_cons_self

theorem room_first (awaits : store.Awaits (book :: others)) (new : book.id = none) :
    store.books.mark < IntRange.int64.high := by
  have room := awaits.room
  rw [List.countP_cons, new, Option.isNone_none, if_pos rfl] at room
  omega

theorem newCount_cons (book : Book) (others : List Book) :
    Review.newCount ((book :: others).flatMap (·.reviews)) =
      Review.newCount book.reviews + Review.newCount (others.flatMap (·.reviews)) := by
  rw [List.flatMap_cons, Review.newCount, List.countP_append]
  rfl

theorem reviewRoom_first (awaits : store.Awaits (book :: others)) :
    store.reviews.mark + Review.newCount book.reviews ≤ IntRange.int64.high := by
  have room := awaits.reviewRoom
  rw [newCount_cons] at room
  omega

theorem rest (awaits : store.Awaits (book :: others)) (first : Cascaded store book ids between) :
    between.Awaits others where
  toFits := awaits.toFits.rest first
  present key member := by
    apply first.row.contains_of_contains
    apply awaits.present
    rw [Fits.filterMap_cons]
    exact List.mem_append_right _ member
  room := by
    have room := awaits.room
    rw [List.countP_cons] at room
    cases named : book.id with
    | none =>
      rw [first.bookMark_of_new named]
      simp only [named, Option.isNone_none, if_true] at room
      omega
    | some key =>
      rw [first.bookMark_of_key named]
      simpa [named] using room
  reviewRoom := by
    have room := awaits.reviewRoom
    rw [newCount_cons] at room
    rw [first.reviewMark_eq]
    omega

end Awaits

theorem Sound.isOf_saved_iff (sound : store.Sound) (first : Cascaded store book ids between) {row : Row ReviewCells}
    (stored : store.reviews.find? key = some row) : row.isOf ids.book = true ↔ store.Belongs key book := by
  constructor
  · intro owned
    cases named : book.id with
    | some owner =>
      rw [first.eq_of_key named] at owned
      exact ⟨owner, row, named, stored, owned⟩
    | none =>
      obtain ⟨-, review, owner, cells, there⟩ := sound.reviews row (Table.find?_eq_some_iff.mp stored).1
      have same : row.isOf ids.book = (owner == ids.book) := Row.isOf_of_int (by rw [cells]; rfl)
      rw [same, beq_iff_eq] at owned
      have old := Table.le_mark_of_contains there
      exact absurd (first.mark_lt_of_new named) (not_lt.mpr (owned ▸ old))
  · rintro ⟨owner, row', named, stored', owned⟩
    obtain rfl := Option.some.inj (stored.symm.trans stored')
    rwa [first.eq_of_key named]

namespace Fits

-- Of the reviews that later books list, a save removes those that belonged to its book and leaves the others.
theorem find?_later (fits : store.Fits (book :: others)) (first : Cascaded store book ids between)
    (listed : key ∈ others.flatMap Book.reviewIds) {row : Row ReviewCells} :
    between.reviews.find? key = some row ↔ store.reviews.find? key = some row ∧ ¬ store.Belongs key book := by
  have unlisted : key ∉ ids.reviews := fun taken => fits.review_apart first taken (.inl listed)
  rw [first.find?_unlisted unlisted, Option.filter_eq_some_iff]
  refine and_congr_right fun stored => ?_
  rw [← fits.sound.isOf_saved_iff first stored, Bool.not_eq_true', Bool.not_eq_true]

theorem contains_later (fits : store.Fits (book :: others)) (first : Cascaded store book ids between)
    (listed : key ∈ others.flatMap Book.reviewIds) :
    between.reviews.contains key = true ↔ store.reviews.contains key = true ∧ ¬ store.Belongs key book := by
  simp only [Table.contains_iff_find?, fits.find?_later first listed, exists_and_right]

theorem late_of_between (fits : store.Fits (book :: others)) (first : Cascaded store book ids between)
    (late : between.Late others key) : store.Late others key :=
  late.of_stored fun _ stored => ((fits.find?_later first late.listed).mp stored).1

theorem late_of_stored (fits : store.Fits (book :: others)) (first : Cascaded store book ids between)
    (still : between.reviews.contains key = true) (late : store.Late others key) : between.Late others key := by
  refine late.of_stored fun row stored => ?_
  exact (fits.find?_later first late.listed).mpr ⟨stored, ((fits.contains_later first late.listed).mp still).2⟩

-- Each review is listed once, so what the first book lists is not behind anything.
theorem not_late_of_first (fits : store.Fits (book :: others)) (own : key ∈ book.reviewIds) :
    ¬ store.Late (book :: others) key := by
  have apart : key ∉ others.flatMap Book.reviewIds := fun again =>
    (List.nodup_append.mp fits.nodupReviews_cons).2.2 key own key again rfl
  rw [late_cons]
  rintro (⟨again, -⟩ | late)
  · exact apart again
  · exact apart late.listed

end Fits

end Store

theorem Cascaded.contains_listed {before after : Store} {book : Book} {ids : Books.SavedIds}
    (h : Cascaded before book ids after) {key : ReviewId} (listed : key ∈ book.reviewIds)
    (old : key ≤ before.reviews.mark) : before.reviews.contains key = true := by
  have follows := (h.follows (.refl before)).reviews
  exact (follows.key key (h.contains_review (h.reviewIds_subset listed))).resolve_right (not_lt.mpr old)

theorem Cascaded.exists_id {before after : Store} {book : Book} {ids : Books.SavedIds}
    (h : Cascaded before book ids after) {review : Review} (member : review ∈ book.reviews) :
    ∃ id, (review, id) ∈ book.reviews.zip ids.reviews := by
  rw [← List.map_fst_zip h.length_eq.ge] at member
  obtain ⟨⟨review, id⟩, paired, rfl⟩ := List.mem_map.mp member
  exact ⟨id, paired⟩

namespace CascadedAll

variable {before after : Store} {books : List Book} {ids : List Books.SavedIds}

theorem timely (h : CascadedAll before books ids after) (fits : before.Fits books) :
    ∀ key ∈ books.flatMap Book.reviewIds, before.reviews.contains key = true ∧ ¬ before.Late books key := by
  induction h with
  | nil => simp
  | cons first later ih =>
    intro key listed
    rcases List.mem_append.mp (List.flatMap_cons ▸ listed) with own | others
    · exact ⟨first.contains_listed own (fits.reviewMark key listed), fits.not_late_of_first own⟩
    · obtain ⟨still, timely⟩ := ih (fits.rest first) key others
      obtain ⟨stored, unowned⟩ := (fits.contains_later first others).mp still
      refine ⟨stored, fun late => ?_⟩
      rcases Store.late_cons.mp late with ⟨-, owned⟩ | late
      · exact unowned owned
      · exact timely (fits.late_of_stored first still late)

-- What is neither listed nor owned by a book of the batch stays as it was.
theorem find?_apart (h : CascadedAll before books ids after) {key : ReviewId} {row : Row ReviewCells}
    (stored : before.reviews.find? key = some row) (unlisted : key ∉ ids.flatMap (·.reviews))
    (unowned : ∀ id ∈ ids.map (·.book), row.isOf id = false) : after.reviews.find? key = some row := by
  induction h with
  | nil => exact stored
  | cons first later ih =>
    rw [List.flatMap_cons, List.mem_append, not_or] at unlisted
    obtain ⟨unownedFirst, unownedLater⟩ := List.forall_mem_cons.mp unowned
    refine ih ?_ unlisted.2 unownedLater
    rw [first.find?_unlisted unlisted.1, stored, Option.filter_some, unownedFirst]
    rfl

theorem owned (h : CascadedAll before books ids after) (fits : before.Fits books) :
    List.Forall₂ (fun saved book => (∀ key, book.id = some key → saved.book = key) ∧
      ∀ review ∈ book.reviews, ∀ key, review.id = some key →
        after.reviews.find? key = some ⟨key, review.cells saved.book⟩) ids books := by
  induction h with
  | nil => exact .nil
  | cons first later ih =>
    refine .cons ⟨fun key => first.eq_of_key, fun review member key named => ?_⟩ (ih (fits.rest first))
    obtain ⟨id, paired⟩ := first.exists_id member
    obtain ⟨written, reviews, -⟩ := first.reviews
    obtain rfl := (reviews.id_of_mem_zip paired).1 key named
    refine later.find?_apart (first.find?_listed (fits.nodup_ids first) paired) (fun again => ?_) fun other taken => ?_
    · exact fits.review_apart first (List.of_mem_zip paired).2 (later.review_origin again)
    · rw [Row.isOf_cells, beq_eq_false_iff_ne]
      rintro rfl
      exact fits.book_apart first (later.book_origin taken)

end CascadedAll

namespace Books

open Catalogue.Action

variable {c : Connection} {books : List Book}

/-- Where there is nothing else to stop it, a batch is stopped by a review that is not stored, or that is late. -/
theorem cascadeAll_fails (writable : c.Writable) (awaits : c.store.Awaits books) {e : RepositoryError}
    (failed : (cascadeAll books).Fails c e) :
    ∃ key ∈ books.flatMap Book.reviewIds, e = .reviewNotFound key ∧
      (c.store.reviews.contains key = false ∨ c.store.Late books key) := by
  induction books generalizing c with
  | nil => exact absurd failed not_fails_pure
  | cons book others ih =>
    rw [List.flatMap_cons]
    rcases fails_bind.mp failed with head | ⟨ids, d, given, tail⟩
    · obtain ⟨key, unknown, rfl⟩ := cascade_fails writable (fun _ => awaits.present_first) awaits.room_first
        awaits.reviewRoom_first head
      exact ⟨key, List.mem_append_left _ unknown.listed, rfl, .inl unknown.absent⟩
    · obtain ⟨between, first, rfl⟩ := cascade_gives given
      have stops := (fails_bind.mp tail).resolve_right fun ⟨_, _, _, answered⟩ => not_fails_pure answered
      have writable : Connection.Writable { c with store := between } :=
        ⟨writable.allowed, first.schema.trans writable.schema⟩
      obtain ⟨key, listed, rfl, missing⟩ := ih writable (awaits.rest first) stops
      refine ⟨key, List.mem_append_right _ listed, rfl, ?_⟩
      have fits := awaits.toFits
      rw [Store.late_cons]
      rcases missing with absent | late
      · -- The review was not there to begin with, or the first book had it.
        by_cases belongs : c.store.Belongs key book
        · exact .inr (.inl ⟨listed, belongs⟩)
        · left
          rw [← Bool.not_eq_true] at absent ⊢
          exact fun stored => absent ((fits.contains_later first listed).mpr ⟨stored, belongs⟩)
      · exact .inr (.inr (fits.late_of_between first late))

theorem saveAllInPlace_ends (sound : c.Sound) (allowed : c.refusal? = none) (awaits : c.store.Awaits books) :
    (∃ stored d events, CascadedAll c.store books stored d.store ∧
      saveAllInPlace books c = ⟨⟨.ok (stored.map (·.book)), d, events⟩, stored.zipWith SavedIds.stamp books⟩) ∨
    ∃ key ∈ books.flatMap Book.reviewIds, (c.store.reviews.contains key = false ∨ c.store.Late books key) ∧
      ∃ events, saveAllInPlace books c = ⟨⟨.error (.reviewNotFound key), c, events⟩, books⟩ := by
  have checked : checkBatch [] books = .ok () :=
    checkBatch_eq_ok_iff.mpr ⟨awaits.valid, awaits.nodupReviews, by simp⟩
  rcases gives_or_fails (cascadeAll books) (c.inside c.store) with ⟨stored, d, given⟩ | ⟨e, failed⟩
  · obtain ⟨events, ok⟩ := saveAllInPlace_of_gives (saveAll_gives_of_cascadeAll sound.free checked given)
    obtain ⟨after, cascaded, rfl⟩ := cascadeAll_gives given
    exact .inl ⟨stored, { c with store := after, backup := none }, events, cascaded, ok⟩
  · have writable : (c.inside c.store).Writable := ⟨allowed, sound.store.schema⟩
    obtain ⟨events, stopped⟩ := saveAllInPlace_of_fails (saveAll_fails_of_cascadeAll sound.free checked failed)
    obtain ⟨key, listed, rfl, missing⟩ := cascadeAll_fails writable awaits failed
    exact .inr ⟨key, listed, missing, events, stopped⟩

/-- The order of a batch decides whether it is saved, and whose its reviews are in the end does not depend on it: a
batch of distinct books and reviews that are stored, and of new ones, is saved if and only if no review is listed
behind the book to which it belonged; then each review belongs to the book that lists it, and otherwise such a review
is reported as not found, and nothing is changed. -/
theorem saveAllInPlace_in_any_order (reached : Reached c) (allowed : c.refusal? = none)
    (valid : ∀ book ∈ books, ¬ book.pages < 0) (distinctBooks : (books.filterMap (·.id)).Nodup)
    (storedBooks : ∀ key ∈ books.filterMap (·.id), c.store.books.contains key = true)
    (distinctReviews : (books.flatMap Book.reviewIds).Nodup)
    (storedReviews : ∀ key ∈ books.flatMap Book.reviewIds, c.store.reviews.contains key = true)
    (room : c.store.books.mark + books.countP (·.id.isNone) ≤ IntRange.int64.high)
    (reviewRoom : c.store.reviews.mark + Review.newCount (books.flatMap (·.reviews)) ≤ IntRange.int64.high)
    {order : List Book} (perm : order.Perm books) :
    let call := saveAllInPlace order c
    ((∃ ids, call.reply.result = .ok ids) ↔ ∀ key, ¬ c.store.Late order key) ∧
      (∀ ids, call.reply.result = .ok ids →
        List.Forall₂ (fun id book => (∀ key, book.id = some key → id = key) ∧
          ∀ review ∈ book.reviews, ∀ key, review.id = some key →
            Reviews.find? call.reply.connection.store key = .ok (some (review.stamp key id))) ids order) ∧
      ∀ e, call.reply.result = .error e →
        (∃ key, c.store.Late order key ∧ e = .reviewNotFound key) ∧ call.reply.connection = c ∧ call.held = order := by
  have awaits : c.store.Awaits order := Store.Awaits.perm
    { sound := reached.sound.store, valid, nodupBooks := distinctBooks, nodupReviews := distinctReviews
      bookMark := fun key member => Table.le_mark_of_contains (storedBooks key member)
      reviewMark := fun key member => Table.le_mark_of_contains (storedReviews key member)
      present := storedBooks, room, reviewRoom } perm
  have fits := awaits.toFits
  rcases saveAllInPlace_ends reached.sound allowed awaits with
    ⟨stored, d, events, cascaded, ok⟩ | ⟨key, listed, missing, events, stopped⟩
  · rw [ok]
    have timely (key : ReviewId) : ¬ c.store.Late order key := fun late => (cascaded.timely fits key late.listed).2 late
    refine ⟨iff_of_true ⟨_, rfl⟩ timely, fun ids same => ?_, nofun⟩
    obtain rfl := Except.ok.inj same
    rw [List.forall₂_map_left_iff]
    refine (cascaded.owned fits).imp fun saved book stands => ⟨stands.1, fun review member key named => ?_⟩
    have sound : d.store.Sound := cascaded.sound fits.valid fits.sound
    rw [sound.find?_review_eq, stands.2 review member key named, Option.map_some, Row.review_of_cells]
  · rw [stopped]
    have late : c.store.Late order key := by
      refine missing.resolve_left fun absent => ?_
      have stored := storedReviews key ((perm.flatMap_right _).mem_iff.mp listed)
      exact Bool.false_ne_true (absent.symm.trans stored)
    refine ⟨iff_of_false (by simp) fun timely => timely key late, nofun, fun e same => ?_⟩
    obtain rfl := Except.error.inj same
    exact ⟨⟨key, late, rfl⟩, rfl, rfl⟩

theorem saveAllInPlace_takes_over_in_order :
    let dune : Book := ⟨some 1, "Dune", 412, [⟨some 2, "Bob", "Short", none⟩]⟩
    let emma : Book := ⟨some 2, "Emma", 480, [.new "Eve" "Odd", ⟨some 1, "Ann", "Vast", none⟩]⟩
    let ordered := (saveAllInPlace [emma, dune] .sample).reply
    (ordered.result = .ok [2, 1] ∧ (∀ key, ¬ Connection.sample.store.Late [emma, dune] key) ∧
      List.Forall₂ (fun id book => ∀ review ∈ book.reviews, ∀ key, review.id = some key →
        Reviews.find? ordered.connection.store key = .ok (some (review.stamp key id))) [2, 1] [emma, dune]) ∧
      (saveAllInPlace [dune, emma] .sample).reply.result = .error (.reviewNotFound 1) ∧
      Connection.sample.store.Late [dune, emma] 1 := by
  intro dune emma ordered
  have ok : ordered.result = .ok [2, 1] := by decide +kernel
  have failed : (saveAllInPlace [dune, emma] .sample).reply.result = .error (.reviewNotFound 1) := by decide +kernel
  have inOrder {order : List Book} (perm : order.Perm [emma, dune]) :=
    saveAllInPlace_in_any_order reached_sample (by decide +kernel) (by decide) (by decide) (by decide +kernel) (by decide)
      (by decide +kernel) (by decide +kernel) (by decide +kernel) perm
  obtain ⟨succeeds, owned, -⟩ := inOrder (.refl _)
  refine ⟨⟨ok, succeeds.mp ⟨_, ok⟩, (owned _ ok).imp fun _ _ stands => stands.2⟩, failed, ?_⟩
  obtain ⟨⟨key, late, same⟩, -⟩ := (inOrder (.swap emma dune [])).2.2 _ failed
  obtain rfl := RepositoryError.reviewNotFound.inj same
  exact late

-- Both books are stored and so are both reviews, each listed once; yet the order decides.
theorem saveAllInPlace_depends_on_order :
    let dune : Book := ⟨some 1, "Dune", 412, [⟨some 2, "Bob", "Short", none⟩]⟩
    let emma : Book := ⟨some 2, "Emma", 480, [⟨some 1, "Ann", "Vast", none⟩]⟩
    let books := [dune, emma]
    (Reached .sample ∧ Connection.sample.refusal? = none ∧ (∀ book ∈ books, ¬ book.pages < 0) ∧
      (books.filterMap (·.id)).Nodup ∧
      (∀ key ∈ books.filterMap (·.id), Connection.sample.store.books.contains key = true) ∧
      (books.flatMap Book.reviewIds).Nodup ∧
      (∀ key ∈ books.flatMap Book.reviewIds, Connection.sample.store.reviews.contains key = true) ∧
      Connection.sample.store.books.mark < IntRange.int64.high ∧
      Connection.sample.store.reviews.mark < IntRange.int64.high) ∧
      (saveAllInPlace [emma, dune] .sample).reply.result = .ok [2, 1] ∧
      (saveAllInPlace [dune, emma] .sample).reply.result = .error (.reviewNotFound 1) :=
  ⟨⟨reached_sample, by decide +kernel, by decide, by decide, by decide +kernel, by decide, by decide +kernel,
    by decide +kernel, by decide +kernel⟩, by decide +kernel, by decide +kernel⟩

end Books

end Catalogue
