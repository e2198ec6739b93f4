import Catalogue.Proofs.Answering
import Catalogue.Proofs.Repeats
import Catalogue.Receipt

/-! The ids that clients are given, over all that they do. Each write gives out ids that lie between the marks before
it and after it, so they only ever ascend, and what has lost its id to a deletion is not met under it again. -/

set_option autoImplicit false

namespace Catalogue

theorem newIds_self (keys : List (Option Int)) : newIds keys keys = [] := by
  induction keys with
  | nil => rfl
  | cons key rest ih =>
    rw [newIds_cons, ih]
    cases key <;> rfl

namespace Receipt

/-- The ids were given out while one store became another. -/
structure Between (before after : Store) (receipt : Receipt) : Prop where
  books : GivenOut before.books.mark receipt.books after.books.mark
  reviews : GivenOut before.reviews.mark receipt.reviews after.reviews.mark

namespace Between

variable {before between after : Store} {first later : Receipt}

theorem empty (le : before.MarksLe after) : Between before after .empty := ⟨.nil le.books, .nil le.reviews⟩

theorem append (head : first.Between before between) (tail : later.Between between after) :
    (first ++ later).Between before after := ⟨head.books.append tail.books, head.reviews.append tail.reviews⟩

end Between

theorem ofSaved_error (books : List Book) (e : RepositoryError) : ofSaved books (.error e) books = .empty := by
  simp only [ofSaved, newIds_self]
  cases books <;> rfl

end Receipt

namespace CascadedAll

variable {before after : Store} {books : List Book} {stored : List Books.SavedIds}

theorem books_givenOut (h : CascadedAll before books stored after) :
    GivenOut before.books.mark (newIds (books.map (·.id)) ((stored.map (·.book)).map some)) after.books.mark := by
  induction h with
  | nil => exact .nil le_rfl
  | cons first _ ih =>
    simp only [List.map_cons, newIds_cons]
    exact first.row.givenOut.append ih

theorem between (h : CascadedAll before books stored after) :
    (Receipt.ofSaved books (.ok (stored.map (·.book))) (stored.zipWith Books.SavedIds.stamp books)).Between
      before after := by
  refine ⟨h.books_givenOut, ?_⟩
  have written := Books.map_id_zipWith_stamp (h.stored.imp fun _ _ kept => kept.2)
  rw [List.map_flatMap] at written
  simp only [Receipt.ofSaved, written]
  exact h.reviews_givenOut

end CascadedAll

namespace Books

variable {c : Connection}

theorem saveReceipt_between (book : Book) (c : Connection) :
    (saveReceipt book c).Between c.store (save book c).connection.store := by
  unfold saveReceipt
  rcases Action.gives_or_fails (save book) c with ⟨⟨id, saved⟩, d, given⟩ | ⟨e, failed⟩
  · obtain ⟨-, -, ids, after, same, cascaded, moved⟩ := save_gives given
    obtain ⟨rfl, rfl⟩ := Prod.mk.inj same
    obtain ⟨events, ok⟩ := saveInPlace_of_gives given
    rw [ok, given.2, moved]
    exact (CascadedAll.cons cascaded .nil).between
  · obtain ⟨events, stopped⟩ := saveInPlace_of_fails failed
    rw [stopped, save_traceless book c e failed]
    simp only [Except.map, Receipt.ofSaved_error]
    exact .empty (.refl _)

theorem saveAllReceipt_between (books : List Book) (c : Connection) :
    (saveAllReceipt books c).Between c.store (saveAll books c).connection.store := by
  unfold saveAllReceipt
  rcases Action.gives_or_fails (saveAll books) c with ⟨⟨ids, saved⟩, d, given⟩ | ⟨e, failed⟩
  · obtain ⟨-, -, -, stored, after, same, cascaded, moved⟩ := saveAll_gives given
    obtain ⟨rfl, rfl⟩ := Prod.mk.inj same
    obtain ⟨events, ok⟩ := saveAllInPlace_of_gives given
    rw [ok, given.2, moved]
    exact cascaded.between
  · obtain ⟨events, stopped⟩ := saveAllInPlace_of_fails failed
    rw [stopped, saveAll_traceless books c e failed]
    simp only [Receipt.ofSaved_error]
    exact .empty (.refl _)

theorem deleteById_between (id : BookId) (c : Connection) :
    Receipt.empty.Between c.store (deleteById id c).connection.store :=
  .empty ((keep_marks c.store).deleteById id c (.refl _))

end Books

open Catalogue.Action

theorem UseCase.receipt_between {α : Type} (useCase : UseCase α) (c : Connection) :
    (useCase.receipt c).Between c.store (useCase.run c).connection.store := by
  induction useCase generalizing c with
  | done result => exact .empty (.refl _)
  | find id next ih =>
    simp only [receipt, run]
    cases found : Books.find? c.store id with
    | error e =>
      have failed : ((query fun store => Books.find? store id).mapError ServiceError.ofRepository).Fails c _ :=
        fails_mapError.mpr ⟨e, found, rfl⟩
      rw [connection_bind_of_fails failed]
      exact .empty (.refl _)
    | ok book? =>
      have asked : ((query fun store => Books.find? store id).mapError ServiceError.ofRepository).Gives c book? c :=
        gives_mapError.mpr (gives_query.mpr ⟨found, rfl⟩)
      rw [connection_bind_of_gives asked]
      exact ih book? c
  | contains id next ih =>
    simp only [receipt, run]
    have asked : (query fun store => .ok (Books.contains store id) : Action ServiceError Bool).Gives c _ c :=
      gives_query.mpr ⟨rfl, rfl⟩
    rw [connection_bind_of_gives asked]
    exact ih _ c
  | save book next ih =>
    simp only [receipt, run]
    have first := Books.saveReceipt_between book c
    rcases gives_or_fails (Books.save book) c with ⟨saved, d, given⟩ | ⟨e, failed⟩
    · have written : ((Books.save book).mapError ServiceError.ofRepository).Gives c saved d := gives_mapError.mpr given
      rw [connection_bind_of_gives written]
      obtain ⟨ok, rfl⟩ := given
      simp only [ok]
      exact first.append (ih saved.1 _)
    · have stopped : ((Books.save book).mapError ServiceError.ofRepository).Fails c _ :=
        fails_mapError.mpr ⟨e, failed, rfl⟩
      rw [connection_bind_of_fails stopped]
      simp only [show (Books.save book c).result = .error e from failed]
      exact first
  | delete id next ih =>
    simp only [receipt, run]
    have first := Books.deleteById_between id c
    rcases gives_or_fails (Books.deleteById id) c with ⟨_, d, given⟩ | ⟨e, failed⟩
    · have removed : ((Books.deleteById id).mapError ServiceError.ofRepository).Gives c () d := gives_mapError.mpr given
      rw [connection_bind_of_gives removed]
      obtain ⟨ok, rfl⟩ := given
      simp only [ok]
      exact first.append (ih _)
    · have stopped : ((Books.deleteById id).mapError ServiceError.ofRepository).Fails c _ :=
        fails_mapError.mpr ⟨e, failed, rfl⟩
      rw [connection_bind_of_fails stopped]
      simp only [show (Books.deleteById id c).result = .error e from failed]
      exact first

theorem Write.receipt_between (write : Write) (c : Connection) :
    (write.receipt c).Between c.store (write.perform c).store := by
  cases write with
  | save book => exact Books.saveReceipt_between book c
  | saveAll books => exact Books.saveAllReceipt_between books c
  | deleteById id => exact Books.deleteById_between id c
  | delete book => exact .empty ((Books.keep_marks c.store).perform (.delete book) (.refl _))
  | deleteAll => exact .empty ((Books.keep_marks c.store).perform .deleteAll (.refl _))
  | create title pages => exact (Service.create title pages).receipt_between c
  | rename id title => exact (Service.rename id title).receipt_between c
  | addReview id reviewer content => exact (Service.addReview id reviewer content).receipt_between c
  | remove id => exact (Service.delete id).receipt_between c

/-- No book is stored under the id, and none is found under it. -/
structure Store.LacksBook (store : Store) (id : BookId) : Prop where
  absent : Books.contains store id = false
  notFound : Books.find? store id = .ok none

structure Store.LacksReview (store : Store) (id : ReviewId) : Prop where
  notFound : Reviews.find? store id = .ok none
  unlisted : ∀ book found, Books.find? store book = .ok (some found) → ∀ review ∈ found.reviews, review.id ≠ some id

namespace Store.Sound

variable {store : Store}

theorem lacksBook (sound : store.Sound) {id : BookId} (absent : store.books.contains id = false) :
    store.LacksBook id := ⟨absent, sound.find?_eq_none absent⟩

theorem lacksReview (sound : store.Sound) {id : ReviewId} (absent : store.reviews.contains id = false) :
    store.LacksReview id where
  notFound := by rw [sound.find?_review_eq, Table.find?_eq_none_iff.mpr absent, Option.map_none]
  unlisted book found same review member named :=
    Bool.false_ne_true (absent.symm.trans (sound.contains_of_review same member named))

end Store.Sound

namespace Course

variable {start c d : Connection} {receipt : Receipt}

theorem reaches (course : Course start receipt c) : Reaches start c := by
  induction course with
  | here => exact .here
  | reopened _ opened ih => exact ih.reopened opened
  | written write _ ih => exact ih.written write

theorem between (course : Course start receipt c) (reached : Reached start) :
    receipt.Between start.store c.store := by
  induction course with
  | here => exact .empty (.refl _)
  | reopened course opened ih =>
    rw [(course.reaches.reached reached).sound.eq_of_reopened opened]
    exact ih
  | written write _ ih => exact ih.append (write.receipt_between _)

-- What was stored or given out by the end of the course is not above the marks, so if it is gone it stays away.
theorem lacksBook (course : Course start receipt c) (reached : Reached start) (later : Reaches c d) {id : BookId}
    (known : start.store.books.contains id = true ∨ id ∈ receipt.books) (absent : c.store.books.contains id = false) :
    d.store.LacksBook id := by
  have reachedEnd := course.reaches.reached reached
  have old := (course.between reached).books.le_after (known.imp_left Table.le_mark_of_contains)
  exact (later.reached reachedEnd).sound.store.lacksBook ((later.follows reachedEnd).books.gone_of_le old absent)

theorem lacksReview (course : Course start receipt c) (reached : Reached start) (later : Reaches c d) {id : ReviewId}
    (known : start.store.reviews.contains id = true ∨ id ∈ receipt.reviews)
    (absent : c.store.reviews.contains id = false) : d.store.LacksReview id := by
  have reachedEnd := course.reaches.reached reached
  have old := (course.between reached).reviews.le_after (known.imp_left Table.le_mark_of_contains)
  exact (later.reached reachedEnd).sound.store.lacksReview ((later.follows reachedEnd).reviews.gone_of_le old absent)

end Course

/-- Ids are never given out twice. Along any course of writes and reopenings the ids given to new books ascend, and so
do those given to new reviews; what was stored at its start, or was given an id on the way, and is gone when it ends, is
gone for good; and a book is gone after a successful deletion of it, or of all. -/
theorem ids_never_reused {c : Connection} (reached : Reached c) :
    (∀ receipt d, Course c receipt d →
      receipt.books.Pairwise (· < ·) ∧ receipt.reviews.Pairwise (· < ·) ∧
      ∀ e, Reaches d e →
        (∀ id, c.store.books.contains id = true ∨ id ∈ receipt.books → d.store.books.contains id = false →
          e.store.LacksBook id) ∧
        ∀ id, c.store.reviews.contains id = true ∨ id ∈ receipt.reviews → d.store.reviews.contains id = false →
          e.store.LacksReview id) ∧
    (∀ id, (Books.deleteById id c).result = .ok () → c.store.books.contains id = true →
      ∀ d, Reaches (Books.deleteById id c).connection d → d.store.LacksBook id) ∧
    ∀ count, (Books.deleteAll c).result = .ok count → ∀ id, c.store.books.contains id = true →
      ∀ d, Reaches (Books.deleteAll c).connection d → d.store.LacksBook id := by
  refine ⟨fun receipt d course => ?_, fun id ok stored d later => ?_, fun count ok id stored d later => ?_⟩
  · have between := course.between reached
    exact ⟨between.books.ascending, between.reviews.ascending, fun e later =>
      ⟨fun id => course.lacksBook reached later, fun id => course.lacksReview reached later⟩⟩
  · have course : Course c _ _ := Course.here.written (.deleteById id)
    obtain ⟨-, moved⟩ := Books.deleteById_gives (Action.gives_of_ok ok)
    refine course.lacksBook reached later (.inl stored) ?_
    rw [Write.perform, moved]
    exact c.store.contains_without id
  · have course : Course c _ _ := Course.here.written .deleteAll
    obtain ⟨-, -, moved⟩ := Books.deleteAll_gives (Action.gives_of_ok ok)
    refine course.lacksBook reached later (.inl stored) ?_
    rw [Write.perform, moved]
    exact c.store.contains_cleared id

theorem ids_never_reused_when_reopened :
    let ulysses : Book := .withReviews "Ulysses" 730 [.new "Eve" "Odd"]
    let persuasion : Book := .withReviews "Persuasion" 249 [.new "Kim" "Fine"]
    let removed := Write.performAll .sample [.save ulysses, .deleteById 3]
    let last := Write.perform (.opened removed.store .allowed) (.save persuasion)
    Course .sample ⟨[3, 4], [3, 4]⟩ last ∧ ([3, 4] : List Int).Pairwise (· < ·) ∧ last.store.LacksBook 3 ∧
      last.store.LacksReview 3 := by
  intro ulysses persuasion removed last
  have saved : Receipt.empty ++ Write.receipt .sample (.save ulysses) = ⟨[3], [3]⟩ := by decide +kernel
  have kept : Course .sample ⟨[3], [3]⟩ (Write.perform .sample (.save ulysses)) :=
    saved ▸ Course.here.written (.save ulysses)
  have first : Course .sample ⟨[3], [3]⟩ removed := kept.written (.deleteById 3)
  have closed : removed.durable = removed.store := by decide +kernel
  have latest : removed.store.userVersion = Migration.latest := by decide +kernel
  have opened : (openDatabase .file (.store removed.durable .allowed) 0).result =
      .ok (.opened removed.store .allowed) := by
    rw [closed]
    exact openDatabase_latest latest .file .allowed 0
  have saved' : (⟨[3], [3]⟩ : Receipt) ++ Write.receipt (.opened removed.store .allowed) (.save persuasion) =
      ⟨[3, 4], [3, 4]⟩ := by decide +kernel
  have whole : Course .sample ⟨[3, 4], [3, 4]⟩ last := saved' ▸ (first.reopened opened).written (.save persuasion)
  obtain ⟨courses, -, -⟩ := ids_never_reused reached_sample
  obtain ⟨gone, goneReviews⟩ := (courses _ _ first).2.2 last ((Reaches.here.reopened opened).written (.save persuasion))
  exact ⟨whole, (courses _ _ whole).1, gone 3 (.inr (by decide)) (by decide +kernel),
    goneReviews 3 (.inr (by decide)) (by decide +kernel)⟩

end Catalogue
