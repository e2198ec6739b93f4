import Catalogue.Calls
import Catalogue.Proofs.Deletion
import Catalogue.Proofs.Events
import Catalogue.Proofs.Resaving

/-! What the writes of the repository report. A write that succeeds reports so, with the numbers of rows that it wrote
or removed. A save that fails reports its error if it has got into its transaction, and reports nothing if it is
refused before that; a deletion that fails reports nothing. -/

set_option autoImplicit false

namespace Catalogue

namespace Event

def Says (event : Event) (name status details : String) : Prop :=
  event.message = s!"event={name} module=repo status={status} {details}"

def Tells (event : Event) (name : String) : (failure : Option RepositoryError) → Prop
  | none => event.level = .debug ∧ ∃ counts : String, event.Says name "ok" counts
  | some e => event.level = .error ∧ ∃ place : String, event.Says name "error" s!"{place} error={e.message}"

/-- The call that an event of the repository reports, and how it ended. -/
def ending? : Event → Option (String × Option RepositoryError)
  | saved _ _ _ => some ("book_save", none)
  | saveFailed _ e => some ("book_save", some e)
  | batchSaved _ => some ("book_save_all", none)
  | batchFailed _ e => some ("book_save_all", some e)
  | deleted _ _ _ => some ("book_delete", none)
  | cleared _ => some ("book_delete_all", none)
  | _ => none

theorem tells_of_ending? {event : Event} {name : String} {failure : Option RepositoryError}
    (ending : event.ending? = some (name, failure)) : event.Tells name failure := by
  cases event with
  | saved mode id reviews =>
    cases ending
    refine ⟨rfl, s!"mode={mode.name} book_id={id} reviews={reviews}", ?_⟩
    unfold Says message
    simp only [toString, ← String.append_assoc, String.reduceAppend]
  | saveFailed mode e =>
    cases ending
    refine ⟨rfl, s!"mode={mode.name}", ?_⟩
    unfold Says message
    simp only [toString, ← String.append_assoc, String.reduceAppend]
  | batchSaved size =>
    cases ending
    refine ⟨rfl, s!"batch={size}", ?_⟩
    unfold Says message
    simp only [toString, ← String.append_assoc, String.reduceAppend]
  | batchFailed size e =>
    cases ending
    refine ⟨rfl, s!"batch={size}", ?_⟩
    unfold Says message
    simp only [toString, ← String.append_assoc, String.reduceAppend]
  | deleted id books reviews =>
    cases ending
    refine ⟨rfl, s!"book_id={id} deleted={books} reviews={reviews}", ?_⟩
    unfold Says message
    simp only [toString, ← String.append_assoc, String.reduceAppend]
  | cleared books =>
    cases ending
    refine ⟨rfl, s!"deleted={books}", ?_⟩
    unfold Says message
    simp only [toString, ← String.append_assoc, String.reduceAppend]
  | _ => cases ending

end Event

/-- A call is on record under its name exactly under a condition: then one event tells how it ended. Where the
condition does not hold, the call fails and reports nothing. -/
structure Reply.RecordedIff {α : Type} (reply : Reply RepositoryError α) (name : String) (condition : Prop) :
    Prop where
  recorded : condition → ∃ event, reply.events = [event] ∧ event.Tells name (failure? reply.result)
  silent : ¬ condition → reply.events = [] ∧ ∃ e, reply.result = .error e

theorem failure?_map {ε α β : Type} (result : Except ε α) (f : α → β) : failure? (result.map f) = failure? result := by
  cases result <;> rfl

namespace Reply.RecordedIff

variable {α β : Type} {name : String} {condition : Prop}

theorem of_ok {reply : Reply RepositoryError α} (recorded : reply.RecordedIff name condition) {a : α}
    (ok : reply.result = .ok a) : condition := by
  by_contra refused
  obtain ⟨-, e, failed⟩ := recorded.silent refused
  rw [ok] at failed
  cases failed

theorem map {reply : Reply RepositoryError α} (recorded : reply.RecordedIff name condition) (f : α → β) :
    RecordedIff ⟨reply.result.map f, reply.connection, reply.events⟩ name condition := by
  constructor
  · intro holds
    rw [failure?_map]
    exact recorded.recorded holds
  · intro fails
    obtain ⟨silent, e, failed⟩ := recorded.silent fails
    exact ⟨silent, e, by rw [failed]; rfl⟩

end Reply.RecordedIff

namespace Action

variable {α : Type} {x : Action RepositoryError α} {c : Connection} {name : String} {event : Event}

theorem Gives.recorded {a : α} {d : Connection} (given : x.Gives c a d) (told : (x c).events = [event])
    (ending : event.ending? = some (name, none)) :
    ∃ event, (x c).events = [event] ∧ event.Tells name (failure? (x c).result) := by
  rw [given.1]
  exact ⟨event, told, Event.tells_of_ending? ending⟩

theorem Fails.recorded {e : RepositoryError} (failed : x.Fails c e) (told : (x c).events = [event])
    (ending : event.ending? = some (name, some e)) :
    ∃ event, (x c).events = [event] ∧ event.Tells name (failure? (x c).result) := by
  rw [failed]
  exact ⟨event, told, Event.tells_of_ending? ending⟩

end Action

namespace Cascaded

variable {before after : Store} {book : Book} {ids : Books.SavedIds}

-- A review that is listed twice is one row.
theorem count_owned (h : Cascaded before book ids after) :
    after.reviews.count (·.isOf ids.book) = ids.reviews.dedup.length := by
  have listed : ∀ row ∈ after.reviews.rows, row.isOf ids.book = ids.reviews.contains row.id := by
    intro row member
    rw [Bool.eq_iff_iff, List.contains_iff_mem]
    exact ⟨h.holds.owned row member, h.isOf_of_listed member⟩
  rw [Table.count_congr listed]
  exact Table.count_contains fun id => h.holds.contains_review

end Cascaded

namespace CascadedAll

variable {before after : Store} {books : List Book} {stored : List Books.SavedIds}

-- No save removes a book, so each stands where the batch ends.
theorem contains_of_contains (h : CascadedAll before books stored after) {id : BookId}
    (present : before.books.contains id = true) : after.books.contains id = true := by
  induction h with
  | nil => exact present
  | cons first _ ih => exact ih (first.row.contains_of_contains present)

theorem contains_saved (h : CascadedAll before books stored after) :
    ∀ id ∈ stored.map (·.book), after.books.contains id = true := by
  induction h with
  | nil => simp
  | cons first rest ih => exact List.forall_mem_cons.mpr ⟨rest.contains_of_contains first.row.contains_id, ih⟩

theorem count_saved (h : CascadedAll before books stored after) :
    after.books.count ((stored.map (·.book)).contains ·.id) = (stored.map (·.book)).dedup.length :=
  Table.count_contains h.contains_saved

end CascadedAll

namespace Books

open Catalogue.Action

variable {c : Connection}

section

variable {α β : Type} {check : Except RepositoryError Unit} {body : Action RepositoryError α}
  {failure : RepositoryError → Event} {event : α → Event} {answer : α → β}

-- Statements are silent, so all that is told of a save is its last report or the report of its failure.
theorem events_of_done {a : α} {d : Connection} (composed : body.Composed) (checked : check = .ok ())
    (free : c.backup = none) (given : body.Gives (c.inside c.store) a d) :
    (checkedTransaction check body failure event answer c).events = [event a] := by
  have written : (transaction RepositoryError.engine (body.reportingError failure)).Gives c a
      { d with backup := none } := gives_transaction.mpr ⟨free, d, gives_reportingError.mpr given, rfl⟩
  have silent : (transaction RepositoryError.engine (body.reportingError failure) c).events = [] := by
    rw [events_transaction free]
    exact (events_reportingError_of_gives given).trans (composed.events_eq _)
  rw [checkedTransaction, events_bind_of_gives (gives_ofExcept.mpr ⟨checked, rfl⟩), events_bind_of_gives written,
    silent]
  rfl

theorem events_of_failed {e : RepositoryError} (composed : body.Composed) (checked : check = .ok ())
    (free : c.backup = none) (failed : body.Fails (c.inside c.store) e) :
    (checkedTransaction check body failure event answer c).events = [failure e] := by
  have undone : (transaction RepositoryError.engine (body.reportingError failure)).Fails c e :=
    (fails_transaction free).mpr (fails_reportingError.mpr failed)
  have told : (body.reportingError failure (c.inside c.store)).events = [failure e] := by
    rw [events_reportingError_of_fails failed, composed.events_eq]
    rfl
  rw [checkedTransaction, events_bind_of_gives (gives_ofExcept.mpr ⟨checked, rfl⟩), events_bind_of_fails undone,
    events_transaction free]
  exact told

theorem events_of_nested {kept : Store} (checked : check = .ok ()) (nested : c.backup = some kept) :
    (checkedTransaction check body failure event answer c).events = [] := by
  have refused : (transaction RepositoryError.engine (body.reportingError failure)).Fails c
      (.engine .nestedTransaction) := fails_transaction_of_nested nested
  rw [checkedTransaction, events_bind_of_gives (gives_ofExcept.mpr ⟨checked, rfl⟩), events_bind_of_fails refused,
    events_transaction_of_nested nested]
  rfl

/-- A save is on record if it has passed its check and its transaction has begun, however it ends then. -/
theorem recordedIff_checkedTransaction {name : String} (composed : body.Composed)
    (told : ∀ a, (event a).ending? = some (name, none))
    (toldFailure : ∀ e, (failure e).ending? = some (name, some e)) :
    (checkedTransaction check body failure event answer c).RecordedIff name (check = .ok () ∧ c.backup = none) := by
  constructor
  · rintro ⟨checked, free⟩
    rcases gives_or_fails body (c.inside c.store) with ⟨a, d, given⟩ | ⟨e, failed⟩
    · apply Gives.recorded (gives_checkedTransaction.mpr ⟨a, d, checked, free, given, rfl, rfl⟩)
      · exact events_of_done composed checked free given
      · exact told a
    · apply Fails.recorded (fails_of_work free checked failed)
      · exact events_of_failed composed checked free failed
      · exact toldFailure e
  · intro refused
    cases checked : check with
    | error e => exact ⟨rfl, e, fails_of_check rfl⟩
    | ok =>
      cases free : c.backup with
      | none => exact absurd ⟨checked, free⟩ refused
      | some kept => exact ⟨events_of_nested rfl free, _, fails_of_nested free rfl⟩

-- A deletion asks nothing before its first statement, and nothing is said of why it cannot begin or be written.
theorem silent_transaction {body : Action EngineError α} {rest : α → Action RepositoryError β} {taken : Prop}
    (composed : body.Composed) (takes : ∀ a d, body.Gives (c.inside c.store) a d → taken)
    (stopped : ¬ (taken ∧ c.backup = none)) :
    ((transaction .engine (body.mapError .engine) >>= rest) c).events = [] ∧
      ∃ e, ((transaction .engine (body.mapError .engine) >>= rest) c).result = .error e := by
  have failed : (transaction RepositoryError.engine (body.mapError .engine) c).events = [] ∧
      ∃ e, (transaction RepositoryError.engine (body.mapError .engine)).Fails c e := by
    cases free : c.backup with
    | some kept => exact ⟨events_transaction_of_nested free, _, fails_transaction_of_nested free⟩
    | none =>
      obtain ⟨e, failed⟩ : ∃ e, body.Fails (c.inside c.store) e :=
        (gives_or_fails body _).resolve_left fun ⟨a, d, given⟩ => stopped ⟨takes a d given, free⟩
      have undone : (body.mapError RepositoryError.engine).Fails (c.inside c.store) (.engine e) :=
        fails_mapError.mpr ⟨e, failed, rfl⟩
      rw [events_transaction free]
      exact ⟨composed.events_eq _, _, (fails_transaction free).mpr undone⟩
  obtain ⟨silent, e, failed⟩ := failed
  exact ⟨(events_bind_of_fails failed).trans silent, e, fails_bind.mpr (.inl failed)⟩

end

theorem save_recordedIff (c : Connection) (book : Book) :
    (save book c).RecordedIff "book_save" (¬ book.pages < 0 ∧ c.backup = none) := by
  have checked : book.validate.mapError RepositoryError.validation = .ok () ↔ ¬ book.pages < 0 := by
    by_cases negative : book.pages < 0 <;> simp [Book.validate, negative]
  rw [← checked, save_eq]
  exact recordedIff_checkedTransaction (cascade_composed book) (fun _ => rfl) fun _ => rfl

theorem saveAll_recordedIff (c : Connection) (books : List Book) :
    (saveAll books c).RecordedIff "book_save_all"
      (((∀ book ∈ books, ¬ book.pages < 0) ∧ (books.flatMap Book.reviewIds).Nodup) ∧ c.backup = none) := by
  have checked : checkBatch [] books = .ok () ↔
      (∀ book ∈ books, ¬ book.pages < 0) ∧ (books.flatMap Book.reviewIds).Nodup := by
    simp [checkBatch_eq_ok_iff]
  rw [← checked, saveAll_eq]
  exact recordedIff_checkedTransaction (cascadeAll_composed books) (fun _ => rfl) fun _ => rfl

theorem deleteById_recordedIff (c : Connection) (id : BookId) :
    (deleteById id c).RecordedIff "book_delete" (c.refusalOf? (c.store.anyOf id) = none ∧ c.backup = none) := by
  constructor
  · rintro ⟨allowed, free⟩
    rw [deleteById_eq free allowed]
    exact ⟨_, rfl, Event.tells_of_ending? rfl⟩
  · exact silent_transaction (removeBook_composed id) fun _ _ given =>
      allowed_of_removeBook (c := c.inside c.store) given

theorem deleteAll_recordedIff (c : Connection) :
    (deleteAll c).RecordedIff "book_delete_all"
      (c.refusalOf? (!c.foreignKeys || c.store.anyRow) = none ∧ c.backup = none) := by
  constructor
  · rintro ⟨allowed, free⟩
    rw [deleteAll_eq free allowed]
    exact ⟨_, rfl, Event.tells_of_ending? rfl⟩
  · exact silent_transaction removeAll_composed fun _ _ given => allowed_of_removeAll (c := c.inside c.store) given

theorem save_told {book : Book} {c d : Connection} {reply : BookId × Book} (given : (save book).Gives c reply d) :
    ∃ ids after, reply.1 = ids.book ∧ Cascaded c.store book ids after ∧ d = { c with store := after } ∧
      (save book c).events =
        [.saved (if book.isPersisted then .update else .insert) ids.book ids.reviews.length] := by
  rw [save_eq] at given
  obtain ⟨ids, e, checked, free, done, rfl, rfl⟩ := gives_checkedTransaction.mp given
  have told : (save book c).events = [.saved _ ids.book (ids.stamp book).reviews.length] :=
    events_of_done (cascade_composed book) checked free done
  obtain ⟨after, cascaded, rfl⟩ := cascade_gives done
  rw [ids.length_stamp cascaded.length_eq] at told
  exact ⟨ids, after, rfl, cascaded, by simp only [← free], told⟩

theorem saveAll_told {books : List Book} {c d : Connection} {reply : List BookId × List Book}
    (given : (saveAll books).Gives c reply d) :
    ∃ stored after, reply.1 = stored.map (·.book) ∧ CascadedAll c.store books stored after ∧
      d = { c with store := after } ∧ (saveAll books c).events = [.batchSaved stored.length] := by
  rw [saveAll_eq] at given
  obtain ⟨stored, e, checked, free, done, rfl, rfl⟩ := gives_checkedTransaction.mp given
  have told : (saveAll books c).events = [.batchSaved stored.length] :=
    events_of_done (cascadeAll_composed books) checked free done
  obtain ⟨after, cascaded, rfl⟩ := cascadeAll_gives done
  exact ⟨stored, after, rfl, cascaded, by simp only [← free], told⟩

theorem deleteById_told {id : BookId} {c d : Connection} {u : Unit} (given : (deleteById id).Gives c u d) :
    ∃ after books reviews, c.store.Loses after id ∧ d = { c with store := after } ∧
      (deleteById id c).events = [.deleted id books reviews] ∧
      after.books.rows.length + books = c.store.books.rows.length ∧
      after.reviews.rows.length + reviews = c.store.reviews.rows.length := by
  obtain ⟨allowed, free⟩ := (deleteById_recordedIff c id).of_ok given.1
  obtain ⟨-, rfl⟩ := deleteById_gives given
  rw [deleteById_eq free allowed]
  exact ⟨_, _, _, c.store.loses_without id, rfl, rfl, Table.length_remove _ _, Table.length_remove _ _⟩

theorem deleteAll_told {c d : Connection} {books : Nat} (given : deleteAll.Gives c books d) :
    ∃ after, c.store.LosesAll after ∧ d = { c with store := after } ∧ (deleteAll c).events = [.cleared books] ∧
      books = c.store.books.rows.length := by
  obtain ⟨allowed, free⟩ := (deleteAll_recordedIff c).of_ok given.1
  obtain ⟨-, rfl, rfl⟩ := deleteAll_gives given
  rw [deleteAll_eq free allowed]
  exact ⟨_, c.store.losesAll_cleared, rfl, rfl, rfl⟩

/-- In whatever state the connection is, a save is on record, however it ends, unless it is refused before its
transaction has begun, and a deletion is on record unless its transaction cannot begin or it is refused what it would
change. What is refused so fails without a word. Success is told with what was done: a book with so many reviews as it lists, those
listed twice with it, and the rows that a deletion took. -/
theorem writes_on_record_unless_refused (c : Connection) :
    (∀ book, let save := (saveInPlace book c).reply
      save.RecordedIff "book_save" (¬ book.pages < 0 ∧ c.backup = none) ∧
      ∀ id, save.result = .ok id → ∃ ids after, id = ids.book ∧ Cascaded c.store book ids after ∧
        save.connection = { c with store := after } ∧
        save.events = [.saved (if book.isPersisted then .update else .insert) id ids.reviews.length] ∧
        after.reviews.count (·.isOf id) = ids.reviews.dedup.length) ∧
    (∀ books, let batch := (saveAllInPlace books c).reply
      batch.RecordedIff "book_save_all"
        (((∀ book ∈ books, ¬ book.pages < 0) ∧ (books.flatMap Book.reviewIds).Nodup) ∧ c.backup = none) ∧
      ∀ ids, batch.result = .ok ids → ∃ stored after, ids = stored.map (·.book) ∧
        CascadedAll c.store books stored after ∧ batch.connection = { c with store := after } ∧
        batch.events = [.batchSaved ids.length] ∧ after.books.count (ids.contains ·.id) = ids.dedup.length) ∧
    (∀ id, let deletion := deleteById id c
      deletion.RecordedIff "book_delete" (c.refusalOf? (c.store.anyOf id) = none ∧ c.backup = none) ∧
      (deletion.result = .ok () → ∃ after books reviews, c.store.Loses after id ∧
        deletion.connection = { c with store := after } ∧ deletion.events = [.deleted id books reviews] ∧
        after.books.rows.length + books = c.store.books.rows.length ∧
        after.reviews.rows.length + reviews = c.store.reviews.rows.length)) ∧
    (deleteAll c).RecordedIff "book_delete_all"
      (c.refusalOf? (!c.foreignKeys || c.store.anyRow) = none ∧ c.backup = none) ∧
    ∀ books, (deleteAll c).result = .ok books → ∃ after, c.store.LosesAll after ∧
      (deleteAll c).connection = { c with store := after } ∧ (deleteAll c).events = [.cleared books] ∧
      books = c.store.books.rows.length := by
  refine ⟨fun book => ⟨?_, fun id ok => ?_⟩, fun books => ⟨?_, fun ids ok => ?_⟩, fun id =>
    ⟨deleteById_recordedIff c id, fun ok => deleteById_told (gives_of_ok ok)⟩, deleteAll_recordedIff c,
    fun books ok => deleteAll_told (gives_of_ok ok)⟩
  · rw [saveInPlace_eq]
    exact (save_recordedIff c book).map _
  · rw [saveInPlace_eq] at ok ⊢
    obtain ⟨reply, saved, rfl⟩ := map_eq_ok.mp ok
    obtain ⟨ids, after, same, cascaded, left, told⟩ := save_told (gives_of_ok saved)
    rw [same]
    exact ⟨ids, after, rfl, cascaded, left, told, cascaded.count_owned⟩
  · rw [saveAllInPlace_eq]
    exact (saveAll_recordedIff c books).map _
  · rw [saveAllInPlace_eq] at ok ⊢
    obtain ⟨reply, saved, rfl⟩ := map_eq_ok.mp ok
    obtain ⟨stored, after, same, cascaded, left, told⟩ := saveAll_told (gives_of_ok saved)
    rw [same]
    refine ⟨stored, after, rfl, cascaded, left, ?_, cascaded.count_saved⟩
    rw [List.length_map]
    exact told

theorem writes_on_record_at_work :
    let twice : Book := ⟨some 1, "Dune", 412, [⟨some 1, "Ann", "Vast", none⟩, ⟨some 1, "Ann", "Dull", none⟩]⟩
    let lost : Book := ⟨some 9, "Persuasion", 249, []⟩
    let pair : List Book := [.withReviews "Ulysses" 730 [.new "Eve" "Odd"], ⟨some 3, "Ulysses II", 731, []⟩]
    (saveInPlace twice .sample).reply.events = [.saved .update 1 2] ∧
      (saveInPlace twice .sample).reply.connection.store.reviews.count (·.isOf 1) = 1 ∧
      (saveInPlace lost .sample).reply.result = .error (.bookNotFound 9) ∧
      (∃ event : Event, (saveInPlace lost .sample).reply.events = [event] ∧ event.level = .error) ∧
      (saveAllInPlace pair .sample).reply.events = [.batchSaved 2] ∧
      (saveAllInPlace pair .sample).reply.connection.store.books.count ([3, 3].contains ·.id) = 1 ∧
      (∃ event : Event, (deleteById 1 .sample).events = [event] ∧ event.Tells "book_delete" none) ∧
      (deleteAll .sample).events = [.cleared 2] := by
  intro twice lost pair
  obtain ⟨saves, batches, deletions, -, clears⟩ := writes_on_record_unless_refused .sample
  have saved : (saveInPlace twice .sample).reply.result = .ok 1 := by decide +kernel
  have failed : (saveInPlace lost .sample).reply.result = .error (.bookNotFound 9) := by decide +kernel
  have stored : (saveAllInPlace pair .sample).reply.result = .ok [3, 3] := by decide +kernel
  have deleted : (deleteById 1 .sample).result = .ok () := by decide +kernel
  have cleared : (deleteAll .sample).result = .ok 2 := by decide +kernel
  have free : Connection.sample.backup = none := by decide +kernel
  have allowed : Connection.sample.refusalOf? (Connection.sample.store.anyOf 1) = none := by decide +kernel
  obtain ⟨ids, after, -, cascaded, left, told, counted⟩ := (saves twice).2 1 saved
  obtain ⟨written, reviews, -⟩ := cascaded.reviews
  have again : ids.reviews = [1, 1] := reviews.ids_eq rfl
  obtain ⟨failure, alone, tells⟩ := (saves lost).1.recorded ⟨by decide, free⟩
  obtain ⟨-, after', -, -, left', told', counted'⟩ := (batches pair).2 [3, 3] stored
  obtain ⟨deletion, single, success⟩ := (deletions 1).1.recorded ⟨allowed, free⟩
  obtain ⟨-, -, -, all, -⟩ := clears 2 cleared
  rw [again] at told counted
  rw [failed] at tells
  rw [deleted] at success
  refine ⟨told, ?_, failed, ⟨failure, alone, tells.1⟩, told', ?_, ⟨deletion, single, success⟩, all⟩
  · rw [left]
    exact counted
  · rw [left']
    exact counted'

-- Deletions where nothing is written, a save of a book of negative length, a save inside another transaction and a batch
-- that lists a review twice fail without a word.
theorem writes_refused_without_a_word :
    let stuck := Connection.sample.setQueryOnly true
    let nested := { Connection.sample with backup := some Connection.sample.store }
    let negative : Book := ⟨none, "Dune", -1, []⟩
    let listed : Book := ⟨some 1, "Dune", 412, [⟨some 1, "Ann", "Vast", none⟩]⟩
    deleteById 1 stuck = ⟨.error (.engine .readOnly), stuck, []⟩ ∧
      deleteAll stuck = ⟨.error (.engine .readOnly), stuck, []⟩ ∧
      deleteById 1 nested = ⟨.error (.engine .nestedTransaction), nested, []⟩ ∧
      (saveInPlace negative .sample).reply = ⟨.error (.validation (.negativePages (-1))), .sample, []⟩ ∧
      (saveInPlace listed nested).reply = ⟨.error (.engine .nestedTransaction), nested, []⟩ ∧
      (saveAllInPlace [listed, listed] .sample).reply = ⟨.error (.repeatedReview 1), .sample, []⟩ :=
  ⟨by with_unfolding_all rfl, by with_unfolding_all rfl, by with_unfolding_all rfl, rfl, rfl, rfl⟩

end Books

end Catalogue
