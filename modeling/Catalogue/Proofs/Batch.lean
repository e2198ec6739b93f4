import Catalogue.Proofs.Cascade
import Catalogue.Proofs.Rollback

/-! A batch and the saves that it is made of. What is done inside a transaction does not depend on where
the transaction began, so the books of a batch, saved in one transaction, are saved as in one transaction
each, up to the first failure. A batch of one book is the save of that book, unless the book lists a review twice,
which only a batch refuses. -/

set_option autoImplicit false

namespace Catalogue

def Connection.inside (c : Connection) (kept : Store) : Connection := { c with backup := some kept }

namespace Action

variable {ε ζ α β : Type}

/-- Inside a transaction, the work does not depend on the store that the transaction found. -/
def Oblivious (x : Action ε α) : Prop :=
  ∀ (c : Connection) (kept kept' : Store),
    (∀ a d, x.Gives (c.inside kept) a d → d = d.inside kept ∧ x.Gives (c.inside kept') a (d.inside kept')) ∧
      ∀ e, x.Fails (c.inside kept) e → x.Fails (c.inside kept') e

theorem oblivious_query (f : Store → Except ε α) : (query f).Oblivious := by
  intro c kept kept'
  constructor
  · intro a d given
    obtain ⟨found, rfl⟩ := gives_query.mp given
    exact ⟨rfl, gives_query.mpr ⟨found, rfl⟩⟩
  · intro e failed
    exact failed

theorem Oblivious.bind {x : Action ε α} {f : α → Action ε β} (first : x.Oblivious) (rest : ∀ a, (f a).Oblivious) :
    (x >>= f).Oblivious := by
  intro c kept kept'
  constructor
  · intro b d given
    obtain ⟨a, between, head, tail⟩ := gives_bind.mp given
    obtain ⟨still, head'⟩ := (first c kept kept').1 a between head
    rw [still] at tail
    obtain ⟨still', tail'⟩ := (rest a between kept kept').1 b d tail
    exact ⟨still', gives_bind.mpr ⟨a, _, head', tail'⟩⟩
  · intro e failed
    apply fails_bind.mpr
    rcases fails_bind.mp failed with head | ⟨a, between, head, tail⟩
    · exact .inl ((first c kept kept').2 e head)
    · obtain ⟨still, head'⟩ := (first c kept kept').1 a between head
      rw [still] at tail
      exact .inr ⟨a, _, head', (rest a between kept kept').2 e tail⟩

theorem Oblivious.mapError {x : Action ε α} (f : ε → ζ) (h : x.Oblivious) : (x.mapError f).Oblivious := by
  intro c kept kept'
  constructor
  · intro a d given
    rw [gives_mapError] at given ⊢
    exact (h c kept kept').1 a d given
  · intro e failed
    obtain ⟨cause, inner, rfl⟩ := fails_mapError.mp failed
    exact fails_mapError.mpr ⟨cause, (h c kept kept').2 cause inner, rfl⟩

theorem oblivious_write (changes : Bool → α → Bool) (f : Bool → Store → Except EngineError (α × Store)) :
    (write changes f).Oblivious := by
  intro c kept kept'
  constructor
  · intro a d given
    obtain ⟨free, store, done, rfl⟩ := gives_write.mp given
    exact ⟨rfl, gives_write.mpr ⟨free, store, done, rfl⟩⟩
  · -- A failure depends on the switches and the store alone.
    have refused : (c.inside kept').refusalOf? = (c.inside kept).refusalOf? := rfl
    intro e failed
    unfold Fails write at failed ⊢
    rw [refused]
    revert failed
    generalize (c.inside kept).refusalOf? = refusal
    cases refusal false with
    | some cause => exact id
    | none =>
      simp only [Connection.inside]
      cases f c.foreignKeys c.store with
      | error cause => cases cause <;> exact id
      | ok answer =>
        obtain ⟨a, store⟩ := answer
        dsimp only
        cases refusal (changes c.foreignKeys a) <;> exact id

theorem Composed.oblivious {x : Action ε α} (composed : x.Composed) : x.Oblivious := by
  induction composed with
  | pure a => exact oblivious_query fun _ => .ok a
  | fail e => exact oblivious_query fun _ => .error e
  | query f => exact oblivious_query f
  | write _ => exact oblivious_write _ _
  | bind _ _ first rest => exact first.bind rest
  | mapError f _ ih => exact ih.mapError f

end Action

namespace HeldAction

variable {σ ε α : Type}

def each (x : HeldAction σ ε α) : HeldAction (List σ) ε (List α)
  | [], c => ⟨⟨.ok [], c, []⟩, []⟩
  | first :: rest, c =>
    match x first c with
    | ⟨⟨.ok a, d, events⟩, first⟩ =>
      let later := each x rest d
      ⟨⟨later.reply.result.map (a :: ·), later.reply.connection, events ++ later.reply.events⟩, first :: later.held⟩
    | ⟨⟨.error e, d, events⟩, first⟩ => ⟨⟨.error e, d, events⟩, first :: rest⟩

theorem each_cons_ok {x : HeldAction σ ε α} {first first' : σ} {c d : Connection} {a : α} {events : List Event}
    (ok : x first c = ⟨⟨.ok a, d, events⟩, first'⟩) (rest : List σ) :
    each x (first :: rest) c =
      ⟨⟨(each x rest d).reply.result.map (a :: ·), (each x rest d).reply.connection,
        events ++ (each x rest d).reply.events⟩, first' :: (each x rest d).held⟩ := by
  simp only [each, ok]

theorem each_cons_error {x : HeldAction σ ε α} {first first' : σ} {c d : Connection} {e : ε} {events : List Event}
    (failed : x first c = ⟨⟨.error e, d, events⟩, first'⟩) (rest : List σ) :
    each x (first :: rest) c = ⟨⟨.error e, d, events⟩, first' :: rest⟩ := by
  simp only [each, failed]

end HeldAction

namespace Books

open Catalogue.Action HeldAction

section

variable {α β : Type} {check : Except RepositoryError Unit} {body : Action RepositoryError α}
  {failure : RepositoryError → Event} {event : α → Event} {answer : α → β} {c d : Connection}

theorem fails_of_work {e : RepositoryError} (free : c.backup = none) (checked : check = .ok ())
    (failed : body.Fails (c.inside c.store) e) : (checkedTransaction check body failure event answer).Fails c e := by
  have undone : (transaction RepositoryError.engine (body.reportingError failure)).Fails c e :=
    (fails_transaction free).mpr (fails_reportingError.mpr failed)
  exact fails_bind.mpr (.inr ⟨(), c, gives_ofExcept.mpr ⟨checked, rfl⟩, fails_bind.mpr (.inl undone)⟩)

theorem fails_of_check {e : RepositoryError} (refused : check = .error e) :
    (checkedTransaction check body failure event answer).Fails c e :=
  fails_bind.mpr (.inl refused)

theorem fails_of_nested {kept : Store} (nested : c.backup = some kept) (checked : check = .ok ()) :
    (checkedTransaction check body failure event answer).Fails c (.engine .nestedTransaction) := by
  have refused : (transaction RepositoryError.engine (body.reportingError failure)).Fails c
      (.engine .nestedTransaction) := fails_transaction_of_nested nested
  exact fails_bind.mpr (.inr ⟨(), c, gives_ofExcept.mpr ⟨checked, rfl⟩, fails_bind.mpr (.inl refused)⟩)

end

theorem save_gives_of_cascade {book : Book} {c d : Connection} {ids : SavedIds} (free : c.backup = none)
    (valid : ¬ book.pages < 0) (given : (cascade book).Gives (c.inside c.store) ids d) :
    (save book).Gives c (ids.book, ids.stamp book) { d with backup := none } := by
  rw [save_eq]
  exact gives_checkedTransaction.mpr ⟨ids, d, by simp [Book.validate, valid], free, given, rfl, rfl⟩

theorem save_fails_of_cascade {book : Book} {c : Connection} {e : RepositoryError} (free : c.backup = none)
    (valid : ¬ book.pages < 0) (failed : (cascade book).Fails (c.inside c.store) e) : (save book).Fails c e := by
  rw [save_eq]
  exact fails_of_work free (by simp [Book.validate, valid]) failed

theorem saveAll_gives_of_cascadeAll {books : List Book} {c d : Connection} {stored : List SavedIds}
    (free : c.backup = none) (checked : checkBatch [] books = .ok ())
    (given : (cascadeAll books).Gives (c.inside c.store) stored d) :
    (saveAll books).Gives c (stored.map (·.book), stored.zipWith SavedIds.stamp books) { d with backup := none } := by
  rw [saveAll_eq]
  exact gives_checkedTransaction.mpr ⟨stored, d, checked, free, given, rfl, rfl⟩

theorem saveAll_fails_of_cascadeAll {books : List Book} {c : Connection} {e : RepositoryError}
    (free : c.backup = none) (checked : checkBatch [] books = .ok ())
    (failed : (cascadeAll books).Fails (c.inside c.store) e) : (saveAll books).Fails c e := by
  rw [saveAll_eq]
  exact fails_of_work free checked failed

theorem saveInPlace_of_gives {book saved : Book} {c d : Connection} {id : BookId}
    (given : (save book).Gives c (id, saved) d) : ∃ events, saveInPlace book c = ⟨⟨.ok id, d, events⟩, saved⟩ := by
  obtain ⟨ok, rfl⟩ := given
  rw [saveInPlace_eq, ok]
  exact ⟨_, rfl⟩

theorem saveInPlace_of_fails {book : Book} {c : Connection} {e : RepositoryError} (failed : (save book).Fails c e) :
    ∃ events, saveInPlace book c = ⟨⟨.error e, c, events⟩, book⟩ := by
  rw [saveInPlace_eq, save_traceless book c e failed, failed]
  exact ⟨_, rfl⟩

theorem fails_of_saveInPlace {book : Book} {c : Connection} {e : RepositoryError}
    (failed : (saveInPlace book c).reply.result = .error e) : (save book).Fails c e := by
  rw [saveInPlace_eq] at failed
  cases result : (save book c).result with
  | ok saved => simp [result, Except.map] at failed
  | error cause =>
    rw [result] at failed
    cases failed
    exact result

-- A save that fails does so in its transaction, and would in any other.
theorem cascade_fails_of_saveInPlace {book : Book} {c : Connection} {e : RepositoryError} (free : c.backup = none)
    (valid : ¬ book.pages < 0) (failed : (saveInPlace book c).reply.result = .error e) (kept : Store) :
    (cascade book).Fails (c.inside kept) e := by
  rcases gives_or_fails (cascade book) (c.inside c.store) with ⟨stored, d, given⟩ | ⟨cause, stopped⟩
  · exact absurd (fails_of_saveInPlace failed) (save_gives_of_cascade free valid given).not_fails
  · have stops : (save book).Fails c cause := save_fails_of_cascade free valid stopped
    obtain rfl := Except.error.inj (stops.symm.trans (fails_of_saveInPlace failed))
    exact ((cascade_composed book).oblivious c c.store kept).2 cause stopped

theorem saveAllInPlace_of_gives {books saved : List Book} {c d : Connection} {ids : List BookId}
    (given : (saveAll books).Gives c (ids, saved) d) :
    ∃ events, saveAllInPlace books c = ⟨⟨.ok ids, d, events⟩, saved⟩ := by
  obtain ⟨ok, rfl⟩ := given
  rw [saveAllInPlace_eq, ok]
  exact ⟨_, rfl⟩

theorem saveAllInPlace_of_fails {books : List Book} {c : Connection} {e : RepositoryError}
    (failed : (saveAll books).Fails c e) : ∃ events, saveAllInPlace books c = ⟨⟨.error e, c, events⟩, books⟩ := by
  rw [saveAllInPlace_eq, saveAll_traceless books c e failed, failed]
  exact ⟨_, rfl⟩

theorem cascadeAll_append (books more : List Book) :
    cascadeAll (books ++ more) = do
      let ids ← cascadeAll books
      let later ← cascadeAll more
      return ids ++ later := by
  induction books with
  | nil => simp [cascadeAll]
  | cons book rest ih => simp [cascadeAll, ih]

theorem fails_of_saveAllInPlace {books : List Book} {c : Connection} {e : RepositoryError}
    (failed : (saveAllInPlace books c).reply.result = .error e) : (saveAll books).Fails c e := by
  rw [saveAllInPlace_eq] at failed
  cases result : (saveAll books c).result with
  | ok saved => simp [result, Except.map] at failed
  | error cause =>
    rw [result] at failed
    cases failed
    exact result

/-- Saved one by one, each in its own transaction, the books get what they get in one transaction that began
with any store: the same ids, and the connection is the same but for the transaction. -/
theorem cascadeAll_of_each {books : List Book} (valid : ∀ book ∈ books, ¬ book.pages < 0) {c : Connection}
    (free : c.backup = none) {ids : List BookId} (ok : (each saveInPlace books c).reply.result = .ok ids)
    (kept : Store) :
    let single := each saveInPlace books c
    single.reply.connection.backup = none ∧ ∃ stored : List SavedIds, ids = stored.map (·.book) ∧
      single.held = stored.zipWith SavedIds.stamp books ∧
      (cascadeAll books).Gives (c.inside kept) stored (single.reply.connection.inside kept) := by
  induction books generalizing c ids with
  | nil =>
    obtain rfl := Except.ok.inj ok
    exact ⟨free, [], rfl, rfl, gives_pure.mpr ⟨rfl, rfl⟩⟩
  | cons book rest ih =>
    obtain ⟨first, later⟩ := List.forall_mem_cons.mp valid
    rcases gives_or_fails (cascade book) (c.inside c.store) with ⟨stored, d, given⟩ | ⟨e, failed⟩
    · -- What the save leaves is where the batch stands, but for the transaction that is still open there.
      obtain ⟨still, given'⟩ := ((cascade_composed book).oblivious c c.store kept).1 stored d given
      obtain ⟨events, saved⟩ := saveInPlace_of_gives (save_gives_of_cascade free first given)
      rw [each_cons_ok saved] at ok ⊢
      obtain ⟨more, okRest, rfl⟩ := map_eq_ok.mp ok
      obtain ⟨free', stored', rfl, held, given''⟩ := ih later rfl okRest
      refine ⟨free', stored :: stored', rfl, ?_, ?_⟩
      · simp [held]
      · exact gives_bind.mpr ⟨stored, _, given', gives_bind.mpr ⟨stored', _, given'', gives_pure.mpr ⟨rfl, rfl⟩⟩⟩
    · obtain ⟨events, failed⟩ := saveInPlace_of_fails (save_fails_of_cascade free first failed)
      rw [each_cons_error failed] at ok
      cases ok

/-- A batch that passes its checks is its saves, made atomic: it succeeds where all of them do, with the same
answers, books, tables and marks, and where one of them is the first to fail, it fails with that error and changes
nothing. -/
theorem batch_is_its_saves_made_atomic {c : Connection} (free : c.backup = none) {books : List Book}
    (valid : ∀ book ∈ books, ¬ book.pages < 0) (distinct : (books.flatMap Book.reviewIds).Nodup) :
    let batch := saveAllInPlace books c
    let single := each saveInPlace books c
    (∀ ids, single.reply.result = .ok ids →
      batch.reply.result = .ok ids ∧ batch.held = single.held ∧ batch.reply.connection = single.reply.connection) ∧
    ∀ before book after e, books = before ++ book :: after →
      (∃ ids, (each saveInPlace before c).reply.result = .ok ids) →
      (saveInPlace book (each saveInPlace before c).reply.connection).reply.result = .error e →
      batch.reply.result = .error e ∧ batch.held = books ∧ batch.reply.connection = c := by
  have checked : checkBatch [] books = .ok () := checkBatch_eq_ok_iff.mpr ⟨valid, distinct, by simp⟩
  constructor
  · intro ids ok
    obtain ⟨free', stored, rfl, held, given⟩ := cascadeAll_of_each valid free ok c.store
    obtain ⟨events, saved⟩ := saveAllInPlace_of_gives (saveAll_gives_of_cascadeAll free checked given)
    rw [saved]
    refine ⟨rfl, held.symm, ?_⟩
    simp only [Connection.inside, ← free']
  · rintro before book after e rfl ⟨ids, ok⟩ failed
    obtain ⟨validBefore, validRest⟩ := List.forall_mem_append.mp valid
    obtain ⟨free', stored, -, -, given⟩ := cascadeAll_of_each validBefore free ok c.store
    have failed' := cascade_fails_of_saveInPlace free' (List.forall_mem_cons.mp validRest).1 failed c.store
    have stopped : (cascadeAll (before ++ book :: after)).Fails (c.inside c.store) e := by
      rw [cascadeAll_append]
      exact fails_bind.mpr (.inr ⟨stored, _, given, fails_bind.mpr (.inl (fails_bind.mpr (.inl failed')))⟩)
    obtain ⟨events, undone⟩ := saveAllInPlace_of_fails (saveAll_fails_of_cascadeAll free checked stopped)
    rw [undone]
    exact ⟨rfl, rfl, rfl⟩

-- A batch that names a book and a review stored earlier in it and takes over another book's review; and the
-- same with an unknown book behind it.
theorem batch_of_one_book_twice_is_atomic :
    let books : List Book := [.withReviews "Ulysses" 730 [.new "Eve" "Odd"],
      ⟨some 3, "Ulysses II", 731, [⟨some 3, "Eve", "Even", none⟩]⟩,
      ⟨some 2, "Emma", 480, [⟨some 2, "Bob", "Short", none⟩]⟩]
    let lost : Book := ⟨some 9, "Persuasion", 249, []⟩
    (saveAllInPlace books .sample).reply.result = .ok [3, 3, 2] ∧
      (saveAllInPlace books .sample).reply.connection = (each saveInPlace books .sample).reply.connection ∧
      (saveAllInPlace (books ++ [lost]) .sample).reply.result = .error (.bookNotFound 9) ∧
      (saveAllInPlace (books ++ [lost]) .sample).reply.connection = .sample := by
  intro books lost
  have free : Connection.sample.backup = none := by decide +kernel
  have ok : (each saveInPlace books .sample).reply.result = .ok [3, 3, 2] := by decide +kernel
  have failed : (saveInPlace lost (each saveInPlace books .sample).reply.connection).reply.result =
      .error (.bookNotFound 9) := by decide +kernel
  have valid : ∀ book ∈ books ++ [lost], ¬ book.pages < 0 := by decide
  have distinct : ((books ++ [lost]).flatMap Book.reviewIds).Nodup := by decide
  have whole := batch_is_its_saves_made_atomic free (List.forall_mem_append.mp valid).1 distinct
  obtain ⟨same, -, moved⟩ := whole.1 _ ok
  obtain ⟨error, -, undone⟩ := (batch_is_its_saves_made_atomic free valid distinct).2 books lost [] _ rfl ⟨_, ok⟩ failed
  exact ⟨same, moved, error, undone⟩

theorem cascadeAll_singleton (book : Book) : cascadeAll [book] = (fun ids => [ids]) <$> cascade book := by
  simp [cascadeAll]

theorem checkReviewIds_eq_error {seen ids : List ReviewId} {e : RepositoryError}
    (refused : checkReviewIds seen ids = .error e) :
    ∃ before id after, ids = before ++ id :: after ∧ before.Nodup ∧ (∀ other ∈ before, other ∉ seen) ∧
      (id ∈ before ∨ id ∈ seen) ∧ e = .repeatedReview id := by
  induction ids generalizing seen with
  | nil => cases refused
  | cons first rest ih =>
    unfold checkReviewIds at refused
    by_cases again : first ∈ seen
    · simp only [List.contains_iff_mem, again, if_true, Except.error.injEq] at refused
      exact ⟨[], first, rest, rfl, .nil, by simp, .inr again, refused.symm⟩
    · simp only [List.contains_iff_mem, again, if_false] at refused
      obtain ⟨before, id, after, rfl, distinct, unseen, repeated, rfl⟩ := ih refused
      refine ⟨first :: before, id, after, rfl, List.nodup_cons.mpr ⟨fun member => ?_, distinct⟩, ?_, ?_, rfl⟩
      · exact unseen first member List.mem_cons_self
      · exact List.forall_mem_cons.mpr
          ⟨again, fun other member seen => unseen other member (List.mem_cons_of_mem _ seen)⟩
      · simp only [List.mem_cons] at repeated ⊢
        tauto

theorem checkBatch_singleton {book : Book} (valid : ¬ book.pages < 0) :
    checkBatch [] [book] = (checkReviewIds [] book.reviewIds).map fun _ => () := by
  have passed : book.validate = .ok () := by simp [Book.validate, valid]
  simp only [checkBatch, passed, mapError_ok, bind, Except.bind]
  cases checkReviewIds [] book.reviewIds <;> rfl

-- A book that lists no review twice passes the checks of a batch if it passes those of a save, with the same error
-- otherwise; and then both do the same work.
theorem save_and_singleton (c : Connection) {book : Book} (passes : book.pages < 0 ∨ book.reviewIds.Nodup) :
    (∃ (ids : SavedIds) (d : Connection), (save book).Gives c (ids.book, ids.stamp book) d ∧
      (saveAll [book]).Gives c ([ids.book], [ids.stamp book]) d) ∨
    ∃ e, (save book).Fails c e ∧ (saveAll [book]).Fails c e := by
  by_cases negative : book.pages < 0
  · have refused : book.validate = .error (.negativePages book.pages) := if_pos negative
    refine .inr ⟨.validation (.negativePages book.pages), fails_of_check ?_, fails_of_check ?_⟩
    · rw [refused, mapError_error]
    · rw [checkBatch, refused]
      rfl
  · have valid : book.validate.mapError RepositoryError.validation = .ok () := by simp [Book.validate, negative]
    have checked : checkBatch [] [book] = .ok () :=
      checkBatch_eq_ok_iff.mpr ⟨by simpa using negative, by simpa using passes.resolve_left negative, by simp⟩
    cases noneOpen : c.backup with
    | some kept => exact .inr ⟨_, fails_of_nested noneOpen valid, fails_of_nested noneOpen checked⟩
    | none =>
      rcases gives_or_fails (cascade book) (c.inside c.store) with ⟨ids, d, given⟩ | ⟨e, failed⟩
      · have all : (cascadeAll [book]).Gives (c.inside c.store) [ids] d := by
          rw [cascadeAll_singleton]
          exact gives_map.mpr ⟨ids, given, rfl⟩
        exact .inl ⟨ids, _, save_gives_of_cascade noneOpen negative given,
          saveAll_gives_of_cascadeAll noneOpen checked all⟩
      · have all : (cascadeAll [book]).Fails (c.inside c.store) e := fails_bind.mpr (.inl failed)
        exact .inr ⟨e, save_fails_of_cascade noneOpen negative failed, saveAll_fails_of_cascadeAll noneOpen checked all⟩

/-- A book is saved as a batch of one: with the same answer, the same ids, tables and marks, or with the same error.
Only a book that lists a review twice is refused as a batch, whatever a save of it comes to, by the first id that it
lists again. Whichever call fails changes nothing. -/
theorem saveAllInPlace_of_one (c : Connection) (book : Book) :
    let alone := saveInPlace book c
    let batch := saveAllInPlace [book] c
    (book.pages < 0 ∨ book.reviewIds.Nodup →
      batch.reply.result = alone.reply.result.map (fun id => [id]) ∧
        batch.reply.connection = alone.reply.connection ∧ batch.held = [alone.held]) ∧
    (¬ book.pages < 0 → ¬ book.reviewIds.Nodup →
      ∃ before id after, book.reviewIds = before ++ id :: after ∧ before.Nodup ∧ id ∈ before ∧
        batch.reply.result = .error (.repeatedReview id)) ∧
    (∀ e, alone.reply.result = .error e → alone.reply.connection = c ∧ alone.held = book) ∧
    ∀ e, batch.reply.result = .error e → batch.reply.connection = c ∧ batch.held = [book] := by
  intro alone batch
  refine ⟨fun passes => ?_, fun valid repeated => ?_, fun e failed => ?_, fun e failed => ?_⟩
  · rcases save_and_singleton c passes with ⟨ids, d, single, all⟩ | ⟨e, single, all⟩
    · obtain ⟨events, single⟩ := saveInPlace_of_gives single
      obtain ⟨events', all⟩ := saveAllInPlace_of_gives all
      simp only [alone, batch, single, all]
      exact ⟨rfl, trivial, trivial⟩
    · obtain ⟨events, single⟩ := saveInPlace_of_fails single
      obtain ⟨events', all⟩ := saveAllInPlace_of_fails all
      simp only [alone, batch, single, all]
      exact ⟨rfl, trivial, trivial⟩
  · cases checked : checkReviewIds [] book.reviewIds with
    | ok seen => exact absurd (checkReviewIds_eq_ok_iff.mp checked).1 repeated
    | error e =>
      obtain ⟨before, id, after, ids, distinct, -, again, rfl⟩ := checkReviewIds_eq_error checked
      have refused : (saveAll [book]).Fails c (.repeatedReview id) := by
        refine fails_of_check ?_
        rw [checkBatch_singleton valid, checked]
        rfl
      obtain ⟨events, all⟩ := saveAllInPlace_of_fails refused
      exact ⟨before, id, after, ids, distinct, by simpa using again, by simp only [batch, all]⟩
  · obtain ⟨events, undone⟩ := saveInPlace_of_fails (fails_of_saveInPlace failed)
    simp only [alone, undone]
    exact ⟨trivial, trivial⟩
  · obtain ⟨events, undone⟩ := saveAllInPlace_of_fails (fails_of_saveAllInPlace failed)
    simp only [batch, undone]
    exact ⟨trivial, trivial⟩

theorem saveAllInPlace_of_one_at_work :
    let book : Book := ⟨some 2, "Emma", 480, [.new "Eve" "Odd", ⟨some 2, "Bob", "Short", none⟩]⟩
    let twice : Book := { book with reviews := [⟨some 2, "Bob", "Short", none⟩, ⟨some 1, "Ann", "Vast", none⟩,
      ⟨some 2, "Bob", "Long", none⟩] }
    (saveAllInPlace [book] .sample).reply.result = .ok [2] ∧
      (saveAllInPlace [book] .sample).held = [(saveInPlace book .sample).held] ∧
      ∃ before id after, twice.reviewIds = before ++ id :: after ∧ id ∈ before ∧
        (saveAllInPlace [twice] .sample).reply.result = .error (.repeatedReview id) := by
  intro book twice
  have saved : (saveInPlace book .sample).reply.result = .ok 2 := by decide +kernel
  obtain ⟨answer, -, held⟩ := (saveAllInPlace_of_one .sample book).1 (.inr (by decide))
  obtain ⟨before, id, after, ids, -, again, refused⟩ :=
    (saveAllInPlace_of_one .sample twice).2.1 (by decide) (by decide)
  rw [saved] at answer
  exact ⟨answer, held, before, id, after, ids, again, refused⟩

-- A save takes the review as it is listed last, and a batch refuses the book.
theorem saveAllInPlace_of_one_refused :
    let book : Book := ⟨some 1, "Dune", 412, [⟨some 1, "Ann", "Vast", none⟩, ⟨some 1, "Ann", "Dull", none⟩]⟩
    (saveInPlace book .sample).reply.result = .ok 1 ∧
      (saveAllInPlace [book] .sample).reply.result = .error (.repeatedReview 1) :=
  ⟨by decide +kernel, by decide +kernel⟩

end Books

end Catalogue
