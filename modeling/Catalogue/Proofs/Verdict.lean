import Catalogue.Proofs.Progress
import Catalogue.Proofs.Repeats

/-! How a save ends, whatever book it is given. Of what can be wrong, the length of the book comes first, then a
database that takes no writes, then the book's id, then the ids of its reviews in order; and nothing else of the book
matters. -/

set_option autoImplicit false

namespace Catalogue

/-- What a save of a book is refused with. A book that is not stored is looked for before anything is changed. -/
def Connection.saveRefusal? (c : Connection) (book : Book) : Option EngineError :=
  c.refusalOf? (book.id.all c.store.books.contains)

inductive Connection.Verdict (c : Connection) (book : Book) : Except RepositoryError BookId → Prop where
  | negative : book.pages < 0 → Verdict c book (.error (.validation (.negativePages book.pages)))
  | refused {e : EngineError} : ¬ book.pages < 0 → c.saveRefusal? book = some e → Verdict c book (.error (.engine e))
  | unstored {id : BookId} : ¬ book.pages < 0 → c.saveRefusal? book = none → book.id = some id →
      c.store.books.contains id = false → Verdict c book (.error (.bookNotFound id))
  | unresolved {key : ReviewId} : ¬ book.pages < 0 → c.saveRefusal? book = none →
      (∀ id, book.id = some id → c.store.books.contains id = true) → c.store.reviews.FirstUnknown book.reviews key →
      Verdict c book (.error (.reviewNotFound key))
  | saved {id : BookId} : ¬ book.pages < 0 → c.saveRefusal? book = none →
      (∀ id, book.id = some id → c.store.books.contains id = true) → c.store.reviews.Resolves book.reviews →
      Verdict c book (.ok id)

namespace Connection.Verdict

variable {c : Connection} {book : Book} {answer : Except RepositoryError BookId} {e : RepositoryError}

-- What is wrong with a book is told by the database and the book, so nothing else comes of a save.
theorem eq_error (failed : c.Verdict book (.error e)) (verdict : c.Verdict book answer) : answer = .error e := by
  cases failed with
  | negative below =>
    cases verdict with
    | negative => rfl
    | refused valid | unstored valid | unresolved valid | saved valid => exact absurd below valid
  | refused valid stopped =>
    cases verdict with
    | negative below => exact absurd below valid
    | refused _ stopped' => rw [Option.some.inj (stopped.symm.trans stopped')]
    | unstored _ allowed | unresolved _ allowed | saved _ allowed => simp [allowed] at stopped
  | unstored valid allowed named absent =>
    cases verdict with
    | negative below => exact absurd below valid
    | refused _ stopped => simp [allowed] at stopped
    | unstored _ _ named' => rw [Option.some.inj (named.symm.trans named')]
    | unresolved _ _ present | saved _ _ present => exact absurd (present _ named) (by simp [absent])
  | unresolved valid allowed present unknown =>
    cases verdict with
    | negative below => exact absurd below valid
    | refused _ stopped => simp [allowed] at stopped
    | unstored _ _ named absent => exact absurd (present _ named) (by simp [absent])
    | unresolved _ _ _ unknown' => rw [unknown.unique unknown']
    | saved _ _ _ known => exact absurd known unknown.not_resolves

theorem negative_iff {pages : Int32} :
    c.Verdict book (.error (.validation (.negativePages pages))) ↔ book.pages < 0 ∧ pages = book.pages := by
  constructor
  · intro failed
    cases failed with
    | negative below => exact ⟨below, rfl⟩
  · rintro ⟨below, rfl⟩
    exact .negative below

theorem refused_iff {e : EngineError} :
    c.Verdict book (.error (.engine e)) ↔ ¬ book.pages < 0 ∧ c.saveRefusal? book = some e := by
  constructor
  · intro failed
    cases failed with
    | refused valid stopped => exact ⟨valid, stopped⟩
  · exact fun ⟨valid, stopped⟩ => .refused valid stopped

theorem unstored_iff {id : BookId} :
    c.Verdict book (.error (.bookNotFound id)) ↔
      ¬ book.pages < 0 ∧ c.saveRefusal? book = none ∧ book.id = some id ∧ c.store.books.contains id = false := by
  constructor
  · intro failed
    cases failed with
    | unstored valid allowed named absent => exact ⟨valid, allowed, named, absent⟩
  · exact fun ⟨valid, allowed, named, absent⟩ => .unstored valid allowed named absent

theorem unresolved_iff {key : ReviewId} :
    c.Verdict book (.error (.reviewNotFound key)) ↔
      ¬ book.pages < 0 ∧ c.saveRefusal? book = none ∧ (∀ id, book.id = some id → c.store.books.contains id = true) ∧
        c.store.reviews.FirstUnknown book.reviews key := by
  constructor
  · intro failed
    cases failed with
    | unresolved valid allowed present unknown => exact ⟨valid, allowed, present, unknown⟩
  · exact fun ⟨valid, allowed, present, unknown⟩ => .unresolved valid allowed present unknown

theorem eq_error_iff (verdict : c.Verdict book answer) : answer = .error e ↔ c.Verdict book (.error e) :=
  ⟨fun same => same ▸ verdict, fun failed => failed.eq_error verdict⟩

theorem eq_ok_iff (verdict : c.Verdict book answer) :
    (∃ id, answer = .ok id) ↔ ¬ book.pages < 0 ∧ c.saveRefusal? book = none ∧
      (∀ id, book.id = some id → c.store.books.contains id = true) ∧
      ∀ key, ¬ c.store.reviews.FirstUnknown book.reviews key := by
  rw [← Table.resolves_iff]
  constructor
  · rintro ⟨id, rfl⟩
    cases verdict with
    | saved valid allowed present known => exact ⟨valid, allowed, present, known⟩
  · rintro ⟨valid, allowed, present, known⟩
    cases answer with
    | ok id => exact ⟨id, rfl⟩
    | error e =>
      have success : c.Verdict book (.ok 0) := .saved valid allowed present known
      cases verdict.eq_error success

end Connection.Verdict

namespace Books

open Catalogue.Action

variable {c : Connection} {book : Book}

theorem saveRefusal?_of_present (present : ∀ id, book.id = some id → c.store.books.contains id = true) :
    c.saveRefusal? book = c.refusal? := by
  have stands : book.id.all c.store.books.contains = true := by simpa [Option.all_eq_true] using present
  rw [Connection.saveRefusal?, stands, Connection.refusal?]

theorem saveRow_fails_of_refused (schema : c.store.schema = .latest)
    (room : book.id = none → c.store.books.mark < IntRange.int64.high) {e : EngineError}
    (refused : c.saveRefusal? book = some e) : (saveRow book).Fails c (.engine e) := by
  unfold Connection.saveRefusal? at refused
  unfold saveRow
  cases key : book.id with
  | none =>
    rw [key] at refused
    obtain ⟨⟨id, store⟩, inserted⟩ := Store.insertBook_eq_ok schema (room key) book.title book.pages
    exact fails_mapError.mpr ⟨e, fails_writeAlways_of_refused inserted refused, rfl⟩
  | some id =>
    rw [key, Option.all_some, Table.contains, ← Table.count_bne_zero] at refused
    exact fails_bind.mpr (.inl (fails_mapError.mpr ⟨e, fails_write_of_refused rfl refused, rfl⟩))

theorem save_fails_of_refused (sound : c.Sound) (room : book.id = none → c.store.books.mark < IntRange.int64.high)
    {e : EngineError} (refused : c.saveRefusal? book = some e) (valid : ¬ book.pages < 0) :
    (save book).Fails c (.engine e) := by
  have row : (saveRow book).Fails (c.inside c.store) (.engine e) :=
    saveRow_fails_of_refused (c := c.inside c.store) sound.store.schema room refused
  exact save_fails_of_cascade sound.free valid (fails_bind.mpr (.inl row))

theorem save_fails_of_negative (below : book.pages < 0) :
    (save book).Fails c (.validation (.negativePages book.pages)) := by
  have refused : book.validate.mapError RepositoryError.validation =
      .error (.validation (.negativePages book.pages)) := by
    rw [Book.validate, if_pos below, mapError_error]
  exact fails_of_check refused

theorem save_ends (sound : c.Sound) (allowed : c.refusal? = none) (valid : ¬ book.pages < 0)
    (present : ∀ id, book.id = some id → c.store.books.contains id = true)
    (room : book.id = none → c.store.books.mark < IntRange.int64.high)
    (reviewRoom : c.store.reviews.mark + Review.newCount book.reviews ≤ IntRange.int64.high) :
    (∃ saved d, (save book).Gives c saved d ∧ c.store.reviews.Resolves book.reviews) ∨
      ∃ key, (save book).Fails c (.reviewNotFound key) ∧ c.store.reviews.FirstUnknown book.reviews key := by
  have writable : (c.inside c.store).Writable := ⟨allowed, sound.store.schema⟩
  rcases gives_or_fails (cascade book) (c.inside c.store) with ⟨ids, d, given⟩ | ⟨e, failed⟩
  · obtain ⟨after, cascaded, -⟩ := cascade_gives given
    obtain ⟨written, stored, -⟩ := cascaded.reviews
    exact .inl ⟨_, _, save_gives_of_cascade sound.free valid given, stored.resolves⟩
  · obtain ⟨key, unknown, rfl⟩ := cascade_fails writable present room reviewRoom failed
    exact .inr ⟨key, save_fails_of_cascade sound.free valid failed, unknown⟩

theorem saveInPlace_ends (sound : c.Sound) (room : book.id = none → c.store.books.mark < IntRange.int64.high)
    (reviewRoom : c.store.reviews.mark + Review.newCount book.reviews ≤ IntRange.int64.high) :
    c.Verdict book (saveInPlace book c).reply.result := by
  have fails {e : RepositoryError} (failed : (save book).Fails c e) (verdict : c.Verdict book (.error e)) :
      c.Verdict book (saveInPlace book c).reply.result := by
    obtain ⟨events, failed⟩ := saveInPlace_of_fails failed
    rwa [failed]
  by_cases below : book.pages < 0
  · exact fails (save_fails_of_negative below) (.negative below)
  cases refused : c.saveRefusal? book with
  | some e => exact fails (save_fails_of_refused sound room refused below) (.refused below refused)
  | none =>
    by_cases present : ∀ id, book.id = some id → c.store.books.contains id = true
    · have allowed : c.refusal? = none := (saveRefusal?_of_present present).symm.trans refused
      rcases save_ends sound allowed below present room reviewRoom with
        ⟨⟨id, saved⟩, d, given, known⟩ | ⟨key, failed, unknown⟩
      · obtain ⟨events, given⟩ := saveInPlace_of_gives given
        rw [given]
        exact .saved below refused present known
      · exact fails failed (.unresolved below refused present unknown)
    · push Not at present
      obtain ⟨id, named, absent⟩ := present
      replace absent := Bool.eq_false_of_not_eq_true absent
      have allowed := Connection.refusalOf?_false_of_allowed refused
      exact fails (save_fails_of_absent sound allowed below named absent) (.unstored below refused named absent)

-- The ids that count as known are those that the save gives out.
theorem getElem?_saveInPlace_of_new {id : BookId} (saved : (saveInPlace book c).reply.result = .ok id)
    {earlier : List Review} {review : Review} (split : earlier ++ [review] <+: book.reviews) (new : review.id = none) :
    ((saveInPlace book c).held.reviews.map (·.id))[earlier.length]? =
      some (some (c.store.reviews.mark + Review.newCount earlier + 1)) := by
  rw [saveInPlace_eq] at saved ⊢
  cases result : (save book c).result with
  | error e => simp [result, Except.map] at saved
  | ok reply =>
    obtain ⟨id', held⟩ := reply
    obtain ⟨-, -, ids, after, same, cascaded, -⟩ := save_gives (gives_of_ok result)
    obtain ⟨rfl, rfl⟩ := Prod.mk.inj same
    obtain ⟨written, stored, -⟩ := cascaded.reviews
    simp only [SavedIds.map_id_stamp _ cascaded.length_eq, List.getElem?_map, stored.getElem?_new split new,
      Option.map_some]

/-- A save fails for a negative length; else, where it may not change the book's row, with the refusal of that; else for
a book that is not stored; else for the first review whose id is neither stored nor given out to a new one before it;
and else it succeeds. So it does where all listed reviews are stored, whosever they are and however often they are
listed. -/
theorem saveInPlace_verdict {c : Connection} (reached : Reached c) {book : Book}
    (room : book.id = none → c.store.books.mark < IntRange.int64.high)
    (reviewRoom : c.store.reviews.mark + Review.newCount book.reviews ≤ IntRange.int64.high) :
    let answer := (saveInPlace book c).reply.result
    let held := (saveInPlace book c).held
    let present := ∀ id, book.id = some id → c.store.books.contains id = true
    (∀ pages, answer = .error (.validation (.negativePages pages)) ↔ book.pages < 0 ∧ pages = book.pages) ∧
    (∀ e, answer = .error (.engine e) ↔ ¬ book.pages < 0 ∧ c.saveRefusal? book = some e) ∧
    (∀ id, answer = .error (.bookNotFound id) ↔
      ¬ book.pages < 0 ∧ c.saveRefusal? book = none ∧ book.id = some id ∧ c.store.books.contains id = false) ∧
    (∀ key, answer = .error (.reviewNotFound key) ↔
      ¬ book.pages < 0 ∧ c.saveRefusal? book = none ∧ present ∧ c.store.reviews.FirstUnknown book.reviews key) ∧
    ((∃ id, answer = .ok id) ↔
      ¬ book.pages < 0 ∧ c.saveRefusal? book = none ∧ present ∧ ∀ key, ¬ c.store.reviews.FirstUnknown book.reviews key) ∧
    (¬ book.pages < 0 → c.saveRefusal? book = none → present →
      (∀ key ∈ book.reviewIds, c.store.reviews.contains key = true) → ∃ id, answer = .ok id) ∧
    ∀ id, answer = .ok id → ∀ earlier review, earlier ++ [review] <+: book.reviews → review.id = none →
      (held.reviews.map (·.id))[earlier.length]? =
        some (some (c.store.reviews.mark + Review.newCount earlier + 1)) := by
  intro answer held present
  have verdict : c.Verdict book answer := saveInPlace_ends reached.sound room reviewRoom
  refine ⟨fun pages => ?_, fun e => ?_, fun id => ?_, fun key => ?_, verdict.eq_ok_iff,
    fun valid allowed present all => ?_, fun id saved earlier review => getElem?_saveInPlace_of_new saved⟩
  · rw [verdict.eq_error_iff, Connection.Verdict.negative_iff]
  · rw [verdict.eq_error_iff, Connection.Verdict.refused_iff]
  · rw [verdict.eq_error_iff, Connection.Verdict.unstored_iff]
  · rw [verdict.eq_error_iff, Connection.Verdict.unresolved_iff]
  · refine verdict.eq_ok_iff.mpr ⟨valid, allowed, present, fun key unknown => ?_⟩
    exact absurd (all key unknown.listed) (by simp [unknown.absent])

-- A review that is new in the same list, and another book's review twice; and behind them one that is nowhere.
theorem saveInPlace_verdict_at_work :
    let known : Book := ⟨some 2, "Emma", 480, [.new "Eve" "Odd", ⟨some 3, "Eve", "Even", none⟩,
      ⟨some 1, "Ann", "Vast", some 7⟩, ⟨some 1, "Ann", "Dull", none⟩]⟩
    let lost : Book := { known with reviews := known.reviews ++ [⟨some 4, "Kim", "Fine", none⟩, .new "Kim" "Fine"] }
    (saveInPlace known .sample).reply.result = .ok 2 ∧
      (∀ key, ¬ Connection.sample.store.reviews.FirstUnknown known.reviews key) ∧
      (saveInPlace lost .sample).reply.result = .error (.reviewNotFound 4) ∧
      Connection.sample.store.reviews.FirstUnknown lost.reviews 4 := by
  intro known lost
  have saved : (saveInPlace known .sample).reply.result = .ok 2 := by decide +kernel
  have stopped : (saveInPlace lost .sample).reply.result = .error (.reviewNotFound 4) := by decide +kernel
  have room (book : Book) : book.id = none → Connection.sample.store.books.mark < IntRange.int64.high := fun _ => by
    decide +kernel
  have all : Connection.sample.store.reviews.mark + Review.newCount known.reviews ≤ IntRange.int64.high := by
    decide +kernel
  have more : Connection.sample.store.reviews.mark + Review.newCount lost.reviews ≤ IntRange.int64.high := by
    decide +kernel
  obtain ⟨-, -, -, -, success, -⟩ := saveInPlace_verdict reached_sample (room known) all
  obtain ⟨-, -, -, failure, -⟩ := saveInPlace_verdict reached_sample (room lost) more
  exact ⟨saved, (success.mp ⟨2, saved⟩).2.2.2, stopped, ((failure 4).mp stopped).2.2.2⟩

-- Opened again where nothing is written, the database has the book and refuses the save of it.
theorem saveInPlace_refused_reopened :
    let c := Connection.opened Connection.sample.store .readOnly
    let book : Book := ⟨some 1, "Dune II", 412, []⟩
    Reached c ∧ c.backup = none ∧ c.store.books.mark = 2 ∧ c.store.reviews.mark = 2 ∧ ¬ book.pages < 0 ∧
      c.store.books.contains 1 = true ∧ (saveInPlace book c).reply.result = .error (.engine .readOnly) := by
  intro c book
  have version : Connection.sample.store.userVersion = Migration.latest := by decide +kernel
  have closed : Connection.sample.durable = Connection.sample.store := by decide +kernel
  have opened : (openDatabase .file (.store Connection.sample.durable .readOnly) 0).result = .ok c := by
    rw [closed]
    exact openDatabase_latest version .file .readOnly 0
  exact ⟨.reopened reached_sample opened, rfl, by decide +kernel, by decide +kernel, by decide, by decide +kernel,
    by decide +kernel⟩

end Books

end Catalogue
