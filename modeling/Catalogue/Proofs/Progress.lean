import Catalogue.Proofs.Batch
import Catalogue.Proofs.Resolving

/-! When a save succeeds, and with what it fails otherwise. Where writes are taken, only three things stop a save:
a book that is not stored, a review that is not stored, and a table whose ids are used up; the first that is met
decides. -/

set_option autoImplicit false

namespace Catalogue

structure Connection.Writable (c : Connection) : Prop where
  allowed : c.refusal? = none
  schema : c.store.schema = .latest

namespace Connection.Writable

variable {c : Connection}

theorem with_books (writable : c.Writable) (books : Table BookCells) :
    Writable { c with store := { c.store with books } } := ⟨writable.allowed, writable.schema⟩

theorem with_reviews (writable : c.Writable) (reviews : Table ReviewCells) :
    Writable { c with store := { c.store with reviews } } := ⟨writable.allowed, writable.schema⟩

theorem inside (writable : c.Writable) (kept : Store) : (c.inside kept).Writable := ⟨writable.allowed, writable.schema⟩

end Connection.Writable

namespace Action

variable {ε ζ α β : Type} {c : Connection} {a : α} {e : ε}

theorem gives_write_of_ok {changes : Bool → α → Bool} {f : Bool → Store → Except EngineError (α × Store)}
    {store : Store} (allowed : c.refusal? = none) (done : f c.foreignKeys c.store = .ok (a, store)) :
    (write changes f).Gives c a { c with store } :=
  gives_write.mpr ⟨Connection.refusalOf?_of_allowed allowed _, store, done, rfl⟩

theorem gives_of_changed {changed : Nat} (some_ : changed ≠ 0) :
    (if changed = 0 then fail e else pure a).Gives c a c := by
  rw [if_neg some_]
  exact gives_pure.mpr ⟨rfl, rfl⟩

theorem fails_of_unchanged {changed : Nat} (none : changed = 0) :
    (if changed = 0 then fail e else pure a : Action ε α).Fails c e := by
  rw [if_pos none]
  rfl

/-- Wherever writes are taken, the action succeeds, and they are taken after it. -/
def Unfailing (x : Action ε α) : Prop := ∀ c : Connection, c.refusal? = none → ∃ a d, x.Gives c a d ∧ d.refusal? = none

theorem unfailing_pure (a : α) : (pure a : Action ε α).Unfailing := fun c allowed =>
  ⟨a, c, gives_pure.mpr ⟨rfl, rfl⟩, allowed⟩

theorem unfailing_query {f : Store → Except ε α} (answered : ∀ store, ∃ a, f store = .ok a) : (query f).Unfailing := by
  intro c allowed
  obtain ⟨a, found⟩ := answered c.store
  exact ⟨a, c, gives_query.mpr ⟨found, rfl⟩, allowed⟩

theorem unfailing_writeCounted {f : Bool → Store → Except EngineError (Nat × Store)}
    (done : ∀ enforced store, ∃ answer, f enforced store = .ok answer) : (writeCounted f).Unfailing := by
  intro c allowed
  obtain ⟨⟨a, store⟩, written⟩ := done c.foreignKeys c.store
  exact ⟨a, _, gives_write_of_ok allowed written, allowed⟩

theorem Unfailing.bind {x : Action ε α} {f : α → Action ε β} (first : x.Unfailing) (rest : ∀ a, (f a).Unfailing) :
    (x >>= f).Unfailing := by
  intro c allowed
  obtain ⟨a, d, head, allowed⟩ := first c allowed
  obtain ⟨b, e, tail, allowed⟩ := rest a d allowed
  exact ⟨b, e, gives_bind.mpr ⟨a, d, head, tail⟩, allowed⟩

/-- Started on this connection, the action succeeds only without a change. -/
def Idle (c : Connection) (x : Action ε α) : Prop := ∀ a d, x.Gives c a d → d = c

theorem idle_of_stays {x : Action ε α} (stays : (x c).connection = c) : x.Idle c :=
  fun _ _ given => given.2.symm.trans stays

theorem Idle.bind {x : Action ε α} {f : α → Action ε β} (first : x.Idle c) (rest : ∀ a, (f a).Idle c) :
    (x >>= f).Idle c := by
  intro b d given
  obtain ⟨a, e, head, tail⟩ := gives_bind.mp given
  obtain rfl := first a e head
  exact rest a b d tail

theorem Composed.idle {x : Action ε α} (composed : x.Composed) (refused : c.refusal? ≠ none) : x.Idle c := by
  induction composed with
  | pure a => exact idle_of_stays rfl
  | fail e => exact idle_of_stays rfl
  | query f => exact idle_of_stays rfl
  | @write α changes f tells =>
    -- What goes through is not refused, so it changes nothing.
    intro a d given
    obtain ⟨allowed, store, done, rfl⟩ := gives_write.mp given
    cases changed : changes c.foreignKeys a with
    | true =>
      rw [changed] at allowed
      exact absurd allowed refused
    | false => rw [tells done changed]
  | bind _ _ first rest => exact first.bind rest
  | mapError f _ ih => exact fun a d given => ih a d (gives_mapError.mp given)

theorem Idle.reportingError {x : Action ε α} (event : ε → Event) (h : x.Idle c) : (x.reportingError event).Idle c :=
  fun a d given => h a d (gives_reportingError.mp given)

theorem idle_transaction {wrap : EngineError → ε} {body : Action ε α}
    (idle : ∀ d : Connection, d.refusal? ≠ none → body.Idle d) (refused : c.refusal? ≠ none) :
    (transaction wrap body).Idle c := by
  intro a d given
  obtain ⟨free, e, done, rfl⟩ := gives_transaction.mp given
  obtain rfl := idle (c.inside c.store) refused a e done
  simp [Connection.inside, ← free]

theorem Composed.idle_transaction {wrap : EngineError → ε} {body : Action ε α} (composed : body.Composed)
    (refused : c.refusal? ≠ none) : (transaction wrap body).Idle c :=
  Action.idle_transaction (fun _ refused => composed.idle refused) refused

end Action

namespace Store

variable {store : Store}

theorem checkParent_eq_ok (schema : store.schema = .latest) {book : BookId} (stored : store.books.contains book = true)
    (enforced : Bool) : store.checkParent enforced (.int book) = .ok () := by
  have declared : Schema.latest.checkParent = .ok () := by decide +kernel
  cases enforced with
  | false => rfl
  | true => simp [checkParent, schema, declared, stored, bind, Except.bind, pure, Except.pure]

theorem insertBook_eq_ok (schema : store.schema = .latest) (room : store.books.mark < IntRange.int64.high)
    (title : String) (pages : Int32) : ∃ answer, store.insertBook title pages = .ok answer := by
  have filled : Schema.latest.checkValues .books [] = .ok () := by decide +kernel
  simp [insertBook, schema, filled, Table.add, room, bind, Except.bind, pure, Except.pure]

theorem insertReview_eq_ok (schema : store.schema = .latest) {book : BookId}
    (stored : store.books.contains book = true) (room : store.reviews.mark < IntRange.int64.high) (enforced : Bool)
    (reviewer content : String) : ∃ answer, store.insertReview enforced reviewer content book = .ok answer := by
  have filled : Schema.latest.checkValues .reviews [] = .ok () := by decide +kernel
  simp [insertReview, checkParent_eq_ok schema stored, schema, filled, Table.add, room, bind, Except.bind, pure,
    Except.pure]

theorem updateReview_eq {enforced : Bool} {book : BookId} (parent : store.checkParent enforced (.int book) = .ok ())
    (id : ReviewId) (reviewer content : String) :
    store.updateReview enforced id reviewer content book = .ok (store.reviews.count (·.id == id),
      { store with reviews := store.reviews.set id ⟨.text reviewer, .text content, .int book⟩ }) := by
  simp [updateReview, parent, bind, Except.bind, pure, Except.pure]

end Store

/-- What lets a book be saved: it is stored if it has an id, and so is each of its reviews, and ids are left for
those that are new. -/
structure Store.Admits (store : Store) (book : Book) : Prop where
  valid : ¬ book.pages < 0
  present : ∀ key, book.id = some key → store.books.contains key = true
  reviews : ∀ key ∈ book.reviewIds, store.reviews.contains key = true
  room : book.id = none → store.books.mark < IntRange.int64.high
  reviewRoom : store.reviews.mark + Review.newCount book.reviews ≤ IntRange.int64.high

theorem Review.room_first {mark high : Int} {review : Review} {rest : List Review}
    (room : mark + newCount (review :: rest) ≤ high) (new : review.id = none) : mark < high := by
  rw [newCount_cons, new, Option.isNone_none, if_pos rfl] at room
  omega

namespace Books

open Catalogue.Action

variable {c : Connection}

theorem saveRow_gives_of_key (allowed : c.refusal? = none) {book : Book} {id : BookId} (named : book.id = some id)
    (present : c.store.books.contains id = true) : ∃ d, (saveRow book).Gives c id d := by
  have changed : c.store.books.count (·.id == id) ≠ 0 := by simp [Table.count_id_eq_zero_iff, present]
  have updated : (Statement.updateBook id book).Gives c _ _ := gives_write_of_ok allowed rfl
  unfold saveRow
  rw [named]
  exact ⟨_, gives_bind.mpr ⟨_, _, gives_mapError.mpr updated, gives_of_changed changed⟩⟩

theorem saveRow_gives_of_present (writable : c.Writable) {book : Book}
    (present : ∀ key, book.id = some key → c.store.books.contains key = true)
    (room : book.id = none → c.store.books.mark < IntRange.int64.high) : ∃ id d, (saveRow book).Gives c id d := by
  cases key : book.id with
  | none =>
    obtain ⟨⟨id, store⟩, inserted⟩ := Store.insertBook_eq_ok writable.schema (room key) book.title book.pages
    unfold saveRow
    rw [key]
    exact ⟨id, _, gives_mapError.mpr (gives_write_of_ok writable.allowed inserted)⟩
  | some id => exact ⟨id, saveRow_gives_of_key writable.allowed key (present id key)⟩

theorem saveRow_fails_of_absent (allowed : c.refusalOf? false = none) {book : Book} {id : BookId}
    (named : book.id = some id) (absent : c.store.books.contains id = false) :
    (saveRow book).Fails c (.bookNotFound id) := by
  have unchanged : c.store.books.count (·.id == id) = 0 := Table.count_id_eq_zero_iff.mpr absent
  have taken : c.refusalOf? (c.store.books.count (·.id == id) != 0) = none := by
    rw [unchanged]
    exact allowed
  have updated : (Statement.updateBook id book).Gives c _ _ := gives_write.mpr ⟨taken, _, rfl, rfl⟩
  simp only [saveRow, named]
  exact fails_bind.mpr (.inr ⟨_, _, gives_mapError.mpr updated, fails_of_unchanged unchanged⟩)

theorem allowed_of_saveRow {book : Book} {id : BookId} {d : Connection} (given : (saveRow book).Gives c id d) :
    c.refusal? = none := by
  unfold saveRow at given
  split at given
  · exact (gives_writeAlways.mp (gives_mapError.mp given)).1
  · obtain ⟨changed, e, updated, rest⟩ := gives_bind.mp given
    obtain ⟨allowed, -⟩ := gives_write.mp (gives_mapError.mp updated)
    by_cases unchanged : changed = 0
    · rw [if_pos unchanged] at rest
      exact absurd rest gives_fail
    · rwa [bne_iff_ne.mpr unchanged] at allowed

theorem saveReview_gives_of_key (allowed : c.refusal? = none) {book : BookId}
    (parent : c.store.checkParent c.foreignKeys (.int book) = .ok ()) {review : Review} {id : ReviewId}
    (named : review.id = some id) (present : c.store.reviews.contains id = true) :
    ∃ d, (saveReview book review).Gives c id d := by
  have changed : c.store.reviews.count (·.id == id) ≠ 0 := by simp [Table.count_id_eq_zero_iff, present]
  have updated : (Statement.updateReview id book review).Gives c _ _ :=
    gives_write_of_ok allowed (Store.updateReview_eq parent _ _ _)
  unfold saveReview
  rw [named]
  exact ⟨_, gives_bind.mpr ⟨_, _, gives_mapError.mpr updated, gives_of_changed changed⟩⟩

theorem saveReview_gives_of_present (writable : c.Writable) {book : BookId}
    (parent : c.store.books.contains book = true) {review : Review}
    (present : ∀ key, review.id = some key → c.store.reviews.contains key = true)
    (room : review.id = none → c.store.reviews.mark < IntRange.int64.high) :
    ∃ id d, (saveReview book review).Gives c id d := by
  cases key : review.id with
  | none =>
    obtain ⟨⟨id, store⟩, inserted⟩ := Store.insertReview_eq_ok writable.schema parent (room key) c.foreignKeys
      review.reviewer review.content
    unfold saveReview
    rw [key]
    exact ⟨id, _, gives_mapError.mpr (gives_write_of_ok writable.allowed inserted)⟩
  | some id =>
    have parent := Store.checkParent_eq_ok writable.schema parent c.foreignKeys
    exact ⟨id, saveReview_gives_of_key writable.allowed parent key (present id key)⟩

theorem saveReview_fails_of_absent (writable : c.Writable) {book : BookId}
    (parent : c.store.books.contains book = true) {review : Review} {id : ReviewId} (named : review.id = some id)
    (absent : c.store.reviews.contains id = false) : (saveReview book review).Fails c (.reviewNotFound id) := by
  have unchanged : c.store.reviews.count (·.id == id) = 0 := Table.count_id_eq_zero_iff.mpr absent
  have updated : (Statement.updateReview id book review).Gives c _ _ :=
    gives_write_of_ok writable.allowed
      (Store.updateReview_eq (Store.checkParent_eq_ok writable.schema parent _) _ _ _)
  simp only [saveReview, named]
  exact fails_bind.mpr (.inr ⟨_, _, gives_mapError.mpr updated, fails_of_unchanged unchanged⟩)

theorem saveReview_fails {book : BookId} (writable : c.Writable) (parent : c.store.books.contains book = true)
    {review : Review} (room : review.id = none → c.store.reviews.mark < IntRange.int64.high) {e : RepositoryError}
    (failed : (saveReview book review).Fails c e) :
    ∃ key, review.id = some key ∧ c.store.reviews.contains key = false ∧ e = .reviewNotFound key := by
  by_cases present : ∀ key, review.id = some key → c.store.reviews.contains key = true
  · obtain ⟨id, d, saved⟩ := saveReview_gives_of_present writable parent present room
    exact absurd failed saved.not_fails
  · push Not at present
    obtain ⟨key, named, absent⟩ := present
    replace absent := Bool.eq_false_of_not_eq_true absent
    have stops : (saveReview book review).Fails c (.reviewNotFound key) :=
      saveReview_fails_of_absent writable parent named absent
    exact ⟨key, named, absent, Except.error.inj (failed.symm.trans stops)⟩

theorem saveReviews_fails_of_absent (writable : c.Writable) {book : BookId}
    (parent : c.store.books.contains book = true) {before after : List Review} {review : Review} {id : ReviewId}
    (present : ∀ review ∈ before, ∃ key, review.id = some key ∧ c.store.reviews.contains key = true)
    (named : review.id = some id) (absent : c.store.reviews.contains id = false) :
    (saveReviews book (before ++ review :: after)).Fails c (.reviewNotFound id) := by
  induction before generalizing c with
  | nil => exact fails_bind.mpr (.inl (saveReview_fails_of_absent writable parent named absent))
  | cons first rest ih =>
    obtain ⟨⟨key, has, here⟩, later⟩ := List.forall_mem_cons.mp present
    obtain ⟨key', e, saved⟩ := saveReview_gives_of_present writable parent
      (fun other same => Option.some.inj (has.symm.trans same) ▸ here) (fun new => by simp [has] at new)
    obtain ⟨between, stored, rfl⟩ := saveReview_gives saved
    rw [has] at stored
    have still : between.contains id = false := by
      rw [← Bool.not_eq_true, stored.contains_iff, stored.eq_of_key]
      rintro (rfl | there)
      · simp [absent] at here
      · simp [absent] at there
    refine fails_bind.mpr (.inr ⟨key', _, saved, fails_bind.mpr (.inl ?_)⟩)
    refine ih (writable.with_reviews between) parent (fun other member => ?_) still
    obtain ⟨key, has, here⟩ := later other member
    exact ⟨key, has, stored.contains_of_contains here⟩

-- Where ids are left, nothing but a review that is not known ends the work, and the first to be met does. Each review
-- that is stored leaves room for the new ones behind it.
theorem saveReviews_fails {book : BookId} (writable : c.Writable) (parent : c.store.books.contains book = true)
    {reviews : List Review} (room : c.store.reviews.mark + Review.newCount reviews ≤ IntRange.int64.high)
    {e : RepositoryError} (failed : (saveReviews book reviews).Fails c e) :
    ∃ key, c.store.reviews.FirstUnknown reviews key ∧ e = .reviewNotFound key := by
  induction reviews generalizing c with
  | nil => exact absurd failed not_fails_pure
  | cons review rest ih =>
    rcases fails_bind.mp failed with head | ⟨id, d, saved, tail⟩
    · obtain ⟨key, named, absent, same⟩ := saveReview_fails writable parent (Review.room_first room) head
      exact ⟨key, Table.firstUnknown_head named absent, same⟩
    · have later : (saveReviews book rest).Fails d e :=
        (fails_bind.mp tail).resolve_right fun ⟨_, _, _, answered⟩ => not_fails_pure answered
      obtain ⟨between, stored, rfl⟩ := saveReview_gives saved
      rw [← stored.mark_newCount] at room
      obtain ⟨key, unknown, same⟩ := ih (writable.with_reviews between) parent room later
      exact ⟨key, stored.firstUnknown_cons unknown, same⟩

theorem deleteReviews_unfailing (picked : Row ReviewCells → Bool) : (Statement.deleteReviews picked).Unfailing :=
  unfailing_writeCounted fun _ _ => ⟨_, rfl⟩

theorem deleteReviewsById_unfailing (ids : List ReviewId) : (deleteReviewsById ids).Unfailing := by
  induction ids with
  | nil => exact unfailing_pure 0
  | cons id rest ih => exact (deleteReviews_unfailing _).bind fun _ => ih.bind fun _ => unfailing_pure _

theorem deleteUnlisted_unfailing (book : BookId) (kept : List ReviewId) : (deleteUnlisted book kept).Unfailing :=
  (unfailing_query fun _ => ⟨_, rfl⟩).bind fun _ => deleteReviewsById_unfailing _

theorem deleteOrphans_unfailing (book : BookId) (kept : List ReviewId) : (deleteOrphans book kept).Unfailing := by
  unfold deleteOrphans
  split
  · exact deleteReviews_unfailing _
  · exact deleteUnlisted_unfailing book kept

theorem cascade_ends (allowed : c.refusal? = none) (ids : SavedIds) :
    ∃ d, (do
      discard <| (deleteOrphans ids.book ids.reviews).mapError .engine
      return ids : Action RepositoryError SavedIds).Gives c ids d := by
  obtain ⟨deleted, d, orphans, -⟩ := deleteOrphans_unfailing ids.book ids.reviews c allowed
  have removed : (discard ((deleteOrphans ids.book ids.reviews).mapError RepositoryError.engine)).Gives c () d :=
    gives_discard.mpr ⟨deleted, gives_mapError.mpr orphans⟩
  exact ⟨d, gives_bind.mpr ⟨(), d, removed, gives_pure.mpr ⟨rfl, rfl⟩⟩⟩

theorem cascade_fails (writable : c.Writable) {book : Book}
    (present : ∀ key, book.id = some key → c.store.books.contains key = true)
    (room : book.id = none → c.store.books.mark < IntRange.int64.high)
    (reviewRoom : c.store.reviews.mark + Review.newCount book.reviews ≤ IntRange.int64.high) {e : RepositoryError}
    (failed : (cascade book).Fails c e) :
    ∃ key, c.store.reviews.FirstUnknown book.reviews key ∧ e = .reviewNotFound key := by
  rcases fails_bind.mp failed with head | ⟨id, d, row, tail⟩
  · obtain ⟨id, d, row⟩ := saveRow_gives_of_present writable present room
    exact absurd head row.not_fails
  · obtain ⟨books, stored, rfl⟩ := saveRow_gives row
    have writable := writable.with_books books
    rcases fails_bind.mp tail with reviews | ⟨ids, d, reviews, tail⟩
    · exact saveReviews_fails writable stored.contains_id reviewRoom reviews
    · obtain ⟨table, -, rfl⟩ := saveReviews_gives reviews
      obtain ⟨d, ended⟩ := cascade_ends (writable.with_reviews table).allowed ⟨id, ids⟩
      exact absurd tail ended.not_fails

theorem cascade_gives_of_admits (writable : c.Writable) {book : Book} (admits : c.store.Admits book) :
    ∃ ids d, (cascade book).Gives c ids d := by
  rcases gives_or_fails (cascade book) c with given | ⟨e, failed⟩
  · exact given
  · obtain ⟨key, unknown, -⟩ := cascade_fails writable admits.present admits.room admits.reviewRoom failed
    exact absurd (admits.reviews key unknown.listed) (by simp [unknown.absent])

theorem save_gives_of_admits (sound : c.Sound) (allowed : c.refusal? = none) {book : Book}
    (admits : c.store.Admits book) : ∃ saved d, (save book).Gives c saved d := by
  have writable : c.Writable := ⟨allowed, sound.store.schema⟩
  obtain ⟨ids, d, given⟩ := cascade_gives_of_admits (writable.inside c.store) admits
  exact ⟨_, _, save_gives_of_cascade sound.free admits.valid given⟩

theorem save_fails_of_absent (sound : c.Sound) (allowed : c.refusalOf? false = none) {book : Book}
    (valid : ¬ book.pages < 0) {id : BookId} (named : book.id = some id)
    (absent : c.store.books.contains id = false) : (save book).Fails c (.bookNotFound id) := by
  have failed : (saveRow book).Fails (c.inside c.store) (.bookNotFound id) :=
    saveRow_fails_of_absent (c := c.inside c.store) allowed named absent
  exact save_fails_of_cascade sound.free valid (fails_bind.mpr (.inl failed))

theorem save_fails_of_absent_review (sound : c.Sound) (allowed : c.refusal? = none) {book : Book}
    (valid : ¬ book.pages < 0) (present : ∀ key, book.id = some key → c.store.books.contains key = true)
    (room : book.id = none → c.store.books.mark < IntRange.int64.high) {before after : List Review} {review : Review}
    (reviews : book.reviews = before ++ review :: after)
    (kept : ∀ review ∈ before, ∃ key, review.id = some key ∧ c.store.reviews.contains key = true)
    {id : ReviewId} (named : review.id = some id) (absent : c.store.reviews.contains id = false) :
    (save book).Fails c (.reviewNotFound id) := by
  have writable : (c.inside c.store).Writable := ⟨allowed, sound.store.schema⟩
  obtain ⟨bookId, e, row⟩ := saveRow_gives_of_present writable present room
  obtain ⟨books, stored, rfl⟩ := saveRow_gives row
  have failed : (saveReviews bookId (before ++ review :: after)).Fails _ (.reviewNotFound id) :=
    saveReviews_fails_of_absent (writable.with_books books) stored.contains_id kept named absent
  rw [← reviews] at failed
  exact save_fails_of_cascade sound.free valid (fails_bind.mpr (.inr ⟨bookId, _, row, fails_bind.mpr (.inl failed)⟩))

theorem deleteById_gives_of_allowed (free : c.backup = none) (allowed : c.refusal? = none) (id : BookId) :
    ∃ d, (deleteById id).Gives c () d :=
  ⟨_, by rw [deleteById_eq free (Connection.refusalOf?_of_allowed allowed _)], rfl⟩

theorem save_idle (refused : c.refusal? ≠ none) (book : Book) : (save book).Idle c := by
  unfold save
  refine .bind (idle_of_stays rfl) fun _ => ?_
  refine .bind (idle_transaction (fun _ refused => ?_) refused) fun _ => idle_of_stays rfl
  exact ((cascade_composed book).idle refused).reportingError _

theorem saveAll_idle (refused : c.refusal? ≠ none) (books : List Book) : (saveAll books).Idle c := by
  unfold saveAll
  refine .bind (idle_of_stays rfl) fun _ => ?_
  refine .bind (idle_transaction (fun _ refused => ?_) refused) fun _ => idle_of_stays rfl
  exact ((cascadeAll_composed books).idle refused).reportingError _

theorem deleteById_idle (refused : c.refusal? ≠ none) (id : BookId) : (deleteById id).Idle c :=
  .bind (Composed.idle_transaction (.mapError _ (removeBook_composed id)) refused) fun _ => idle_of_stays rfl

theorem deleteAll_idle (refused : c.refusal? ≠ none) : deleteAll.Idle c :=
  .bind (Composed.idle_transaction (.mapError _ removeAll_composed) refused) fun _ => idle_of_stays rfl

theorem keep_refused (refused : c.refusal? ≠ none) : Keep (· = c) where
  save book := (save_traceless book).keeps fun _ _ _ same gives => save_idle refused book _ _ (same ▸ gives)
  saveAll books := (saveAll_traceless books).keeps fun _ _ _ same gives => saveAll_idle refused books _ _ (same ▸ gives)
  deleteById id := (deleteById_traceless id).keeps fun _ _ _ same gives => deleteById_idle refused id _ _ (same ▸ gives)
  deleteAll := deleteAll_traceless.keeps fun _ _ _ same gives => deleteAll_idle refused _ _ (same ▸ gives)

end Books

end Catalogue
