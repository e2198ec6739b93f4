import Catalogue.Proofs.Overtaking
import Catalogue.Proofs.Progress

/-! An update of a book while other clients write. The update loads the book, saves it changed and reads it back, and
what the others have done by then decides how it ends: it brings back nothing that they have deleted, and a save that
comes too late writes nothing. -/

set_option autoImplicit false

namespace Catalogue

inductive Update where
  | rename (title : String)
  | addReview (reviewer content : String)
  deriving DecidableEq, Repr

namespace Update

def useCase (id : BookId) : Update → UseCase Book
  | rename title => Service.rename id title
  | addReview reviewer content => Service.addReview id reviewer content

def revision : Update → Revision
  | rename title => .rename title
  | addReview reviewer content => .addReview reviewer content

theorem useCase_eq (update : Update) (id : BookId) : update.useCase id = .revise id update.revision := by
  cases update with
  | rename title => exact Service.rename_eq id title
  | addReview reviewer content => exact Service.addReview_eq id reviewer content

end Update

inductive Move where
  | own
  | other (write : Write)
  deriving DecidableEq, Repr

/-- What remains of a use case, and the connection that other clients write to between its requests. -/
structure Interrupted (α : Type) where
  useCase : UseCase α
  connection : Connection

namespace Interrupted

variable {α : Type}

def step (state : Interrupted α) : Move → Interrupted α
  | .own =>
    let (useCase, connection, _) := state.useCase.step state.connection
    ⟨useCase, connection⟩
  | .other write => { state with connection := write.perform state.connection }

def run (state : Interrupted α) (moves : List Move) : Interrupted α := moves.foldl step state

def answer? (state : Interrupted α) : Option (Except ServiceError α) :=
  match state.useCase with
  | .done result => some result
  | _ => none

theorem run_append (state : Interrupted α) (moves more : List Move) :
    state.run (moves ++ more) = (state.run moves).run more := List.foldl_append

theorem run_others (state : Interrupted α) (writes : List Write) :
    state.run (writes.map .other) = ⟨state.useCase, Write.performAll state.connection writes⟩ := by
  induction writes generalizing state with
  | nil => rfl
  | cons write rest ih => exact ih (state.step (.other write))

theorem answer?_run {state : Interrupted α} {result : Except ServiceError α} (settled : state.useCase = .done result)
    (moves : List Move) : (state.run moves).answer? = some result := by
  induction moves generalizing state with
  | nil => simp [run, answer?, settled]
  | cons move rest ih =>
    refine @ih (state.step move) ?_
    cases move with
    | own => simp [step, settled, UseCase.step]
    | other write => exact settled

end Interrupted

-- Whatever the next request of a use case is, it writes as some client may.
theorem Reaches.useCase_step {α : Type} {start c : Connection} (first : Reaches start c) (useCase : UseCase α) :
    Reaches start (useCase.step c).2.1 := by
  cases useCase with
  | done result => exact first
  | find id next => exact first
  | contains id next => exact first
  | save book next => exact first.written (.save book)
  | delete id next => exact first.written (.deleteById id)

theorem Interrupted.reaches_run {α : Type} {start : Connection} {state : Interrupted α}
    (first : Reaches start state.connection) (moves : List Move) : Reaches start (state.run moves).connection := by
  induction moves generalizing state with
  | nil => exact first
  | cons move rest ih =>
    refine @ih (state.step move) ?_
    cases move with
    | own => exact first.useCase_step state.useCase
    | other write => exact first.written write

/-- What an update makes of a book: its id and its pages stay, and new reviews come behind those that it has. -/
structure Amended (book next : Book) (more : List Review) : Prop where
  id : next.id = book.id
  pages : next.pages = book.pages
  reviews : next.reviews = book.reviews ++ more
  new : ∀ review ∈ more, review.id = none
  short : more.length ≤ 1

theorem Update.amended (update : Update) (book : Book) : ∃ more, Amended book (update.revision.change book) more := by
  cases update with
  | rename title => exact ⟨[], rfl, rfl, by simp [revision, Revision.rename], by simp, by simp⟩
  | addReview reviewer content => exact ⟨[.new reviewer content], rfl, rfl, rfl, by simp [Review.new], by simp⟩

namespace Amended

variable {book next : Book} {more : List Review}

theorem reviewIds (amended : Amended book next more) : next.reviewIds = book.reviewIds := by
  obtain ⟨id, title, pages, reviews⟩ := next
  obtain rfl : reviews = book.reviews ++ more := amended.reviews
  exact Book.reviewIds_append_new amended.new

theorem newCount_le_one (amended : Amended book next more)
    (named : ∀ review ∈ book.reviews, ∃ key, review.id = some key) : Review.newCount next.reviews ≤ 1 := by
  rw [amended.reviews, Review.newCount_append named amended.new]
  exact amended.short

end Amended

theorem split_of_find? {reviews : List Review} {picked : ReviewId → Bool} {id : ReviewId}
    (named : ∀ review ∈ reviews, ∃ key, review.id = some key)
    (first : (reviews.filterMap (·.id)).find? picked = some id) :
    ∃ before review after, reviews = before ++ review :: after ∧ review.id = some id ∧ picked id = true ∧
      ∀ other ∈ before, ∃ key, other.id = some key ∧ picked key = false := by
  induction reviews with
  | nil => simp at first
  | cons review rest ih =>
    obtain ⟨⟨key, has⟩, later⟩ := List.forall_mem_cons.mp named
    rw [List.filterMap_cons_some has, List.find?_cons] at first
    cases here : picked key with
    | true =>
      obtain rfl : key = id := by simpa [here] using first
      exact ⟨[], review, rest, rfl, has, here, by simp⟩
    | false =>
      obtain ⟨before, other, after, rfl, same, there, kept⟩ := ih later (by simpa [here] using first)
      exact ⟨review :: before, other, after, rfl, same, there, List.forall_mem_cons.mpr ⟨⟨key, has, here⟩, kept⟩⟩

namespace Interrupted

variable {α : Type} {c d : Connection} {id : BookId} {book : Book}

theorem step_load (found : Books.find? c.store id = .ok (some book)) (revision : Revision) :
    step ⟨.revise id revision, c⟩ .own =
      ⟨.save (revision.change book) fun _ => .readBack id revision.detail, c⟩ := by
  simp [step, UseCase.revise, UseCase.load, UseCase.step, UseCase.after, found]

-- A save that fails ends the use case and leaves the connection as it was.
theorem step_save_fails {e : RepositoryError} (failed : (Books.save book).Fails c e) (next : BookId → UseCase α) :
    step ⟨.save book next, c⟩ .own = ⟨.fail (.ofRepository e), c⟩ := by
  have result : (Books.save book c).result = .error e := failed
  simp [step, UseCase.step, UseCase.after, result, Books.save_traceless book c e result]

theorem step_save_gives {saved : BookId × Book} (given : (Books.save book).Gives c saved d)
    (next : BookId → UseCase α) : step ⟨.save book next, c⟩ .own = ⟨next saved.1, d⟩ := by
  obtain ⟨result, rfl⟩ := given
  simp [step, UseCase.step, UseCase.after, result]

theorem answer?_readBack (sound : c.store.Sound) (id : BookId) (detail : String) :
    (c.store.books.contains id = false →
      (step ⟨.readBack id detail, c⟩ .own).answer? = some (.error (.inconsistent detail))) ∧
    (c.store.books.contains id = true → ∃ book, Books.find? c.store id = .ok (some book) ∧
      (step ⟨.readBack id detail, c⟩ .own).answer? = some (.ok book)) := by
  refine ⟨fun absent => ?_, fun stored => ?_⟩
  · have missed := sound.find?_eq_none absent
    simp [step, answer?, UseCase.readBack, UseCase.step, UseCase.after, UseCase.fail, missed]
  · obtain ⟨book, found⟩ := sound.find?_eq_some stored
    refine ⟨book, found, ?_⟩
    simp [step, answer?, UseCase.readBack, UseCase.step, UseCase.after, UseCase.answer, found]

end Interrupted

namespace Update

variable {c d : Connection} {id : BookId} {book : Book}

def pending (update : Update) (id : BookId) (book : Book) (d : Connection) : Interrupted Book :=
  ⟨.save (update.revision.change book) fun _ => .readBack id update.revision.detail, d⟩

theorem run_load (update : Update) (found : Books.find? c.store id = .ok (some book)) (writes : List Write) :
    Interrupted.run ⟨update.useCase id, c⟩ (.own :: writes.map .other) =
      update.pending id book (Write.performAll c writes) := by
  have begun : Interrupted.step ⟨update.useCase id, c⟩ .own = update.pending id book c := by
    rw [update.useCase_eq, Interrupted.step_load found]
    rfl
  change (Interrupted.step ⟨update.useCase id, c⟩ .own).run (writes.map .other) = _
  rw [begun, Interrupted.run_others]
  rfl

theorem ended_of_fails (update : Update) {e : RepositoryError}
    (failed : (Books.save (update.revision.change book)).Fails d e) (writes : List Write) :
    let saved := (update.pending id book d).step .own
    saved.connection = d ∧
      ((saved.run (writes.map .other)).step .own).answer? = some (.error (.ofRepository e)) := by
  intro saved
  have ended : saved = ⟨.fail (.ofRepository e), d⟩ := Interrupted.step_save_fails failed _
  have last : (saved.run (writes.map .other)).step .own = saved.run (writes.map .other ++ [.own]) := by
    rw [Interrupted.run_append]
    rfl
  refine ⟨by rw [ended], ?_⟩
  rw [last]
  exact Interrupted.answer?_run (by rw [ended]; rfl) _

-- What is read back is what the others have left of the save.
theorem left_of_ok (update : Update) {answer : BookId × Book}
    (result : (Books.save (update.revision.change book) d).result = .ok answer) (writes : List Write) :
    ((update.pending id book d).step .own).run (writes.map .other) = ⟨.readBack id update.revision.detail,
      Write.performAll (Books.save (update.revision.change book) d).connection writes⟩ := by
  rw [pending, Interrupted.step_save_gives (Action.gives_of_ok result), Interrupted.run_others]

end Update

-- Other clients write where this one can write as well; elsewhere nothing changes.
theorem Books.refusal?_writeAll (c : Connection) (writes : List Write) :
    (Write.performAll c writes).refusal? = none ∨ Write.performAll c writes = c := by
  by_cases allowed : c.refusal? = none
  · exact .inl (Keep.allowed.writeAll writes allowed)
  · exact .inr ((keep_refused allowed).writeAll writes rfl)

section

variable {c : Connection} {id : BookId} {book : Book}

/-- How the save of an update ends that comes after other writes: it fails for the book if that is gone, else for the
first review that is gone, and else succeeds as long as an id is left. -/
theorem Update.save_interrupted (reached : Reached c) (found : Books.find? c.store id = .ok (some book))
    (update : Update) (writes : List Write) :
    let d := Write.performAll c writes
    (d.store.books.contains id = false → (Books.save (update.revision.change book)).Fails d (.bookNotFound id)) ∧
      (d.store.books.contains id = true →
        (∀ r, book.reviewIds.find? (!d.store.reviews.contains ·) = some r →
          (Books.save (update.revision.change book)).Fails d (.reviewNotFound r)) ∧
        (book.reviewIds.find? (!d.store.reviews.contains ·) = none → d.refusal? = none →
          d.store.reviews.mark < IntRange.int64.high →
          ∃ saved e, (Books.save (update.revision.change book)).Gives d saved e)) := by
  intro d
  have sound : d.Sound := ((Reaches.here.performAll writes).reached reached).sound
  obtain ⟨named, owned⟩ := reached.sound.store.owns_of_find? found
  have keys : ∀ review ∈ book.reviews, ∃ key, review.id = some key := fun review member => by
    obtain ⟨-, key, has, -⟩ := owned.each review member
    exact ⟨key, has⟩
  obtain ⟨more, amended⟩ := update.amended book
  generalize update.revision.change book = next at amended ⊢
  have same : next.id = some id := amended.id.trans named
  have valid : ¬ next.pages < 0 := by
    rw [amended.pages]
    exact reached.sound.store.valid_of_find? found
  have present (stored : d.store.books.contains id = true) (other : BookId) (has : next.id = some other) :
      d.store.books.contains other = true := Option.some.inj (same.symm.trans has) ▸ stored
  -- Nothing is gone where writes are refused.
  have allowed : (d.store.books.contains id = false ∨ ∃ r ∈ book.reviewIds, d.store.reviews.contains r = false) →
      d.refusal? = none := by
    intro lost
    rcases Books.refusal?_writeAll c writes with allowed | same
    · exact allowed
    · change d = c at same
      rw [same] at lost
      rcases lost with absent | ⟨r, listed, absent⟩
      · simp [reached.sound.store.contains_of_find? found] at absent
      · simp [owned.contains_of_mem listed] at absent
  refine ⟨fun absent => ?_, fun stored => ⟨fun r first => ?_, fun whole free room => ?_⟩⟩
  · have free := Connection.refusalOf?_of_allowed (allowed (.inl absent)) false
    exact Books.save_fails_of_absent sound free valid same absent
  · have absent : d.store.reviews.contains r = false := by simpa using List.find?_some first
    have free := allowed (.inr ⟨r, List.mem_of_find?_eq_some first, absent⟩)
    obtain ⟨kept, review, rest, split, lost, -, there⟩ := split_of_find? keys first
    have reviews : next.reviews = kept ++ review :: (rest ++ more) := by
      rw [amended.reviews, split, List.append_assoc, List.cons_append]
    exact Books.save_fails_of_absent_review sound free valid (present stored) (by simp [same]) reviews
      (by simpa using there) lost absent
  · have all : ∀ key ∈ next.reviewIds, d.store.reviews.contains key = true := by
      rw [amended.reviewIds]
      simpa using whole
    have one := amended.newCount_le_one keys
    exact Books.save_gives_of_admits sound free ⟨valid, present stored, all, by simp [same], by omega⟩

/-- An update of a book that it has loaded, with any writes of other clients before its save and before it reads the
book back. If the book is gone when it saves, or else a review that it loaded, it writes nothing and answers so; if it
saves and the book is gone when it is read back, it answers that. And nothing that was ever stored and is gone is
stored again, however the requests and the writes follow one another. -/
theorem update_amid_writes (reached : Reached c) (found : Books.find? c.store id = .ok (some book)) (update : Update)
    (before after : List Write) :
    let start : Interrupted Book := ⟨update.useCase id, c⟩
    let loaded := start.run (.own :: before.map .other)
    let saved := loaded.step .own
    let left := saved.run (after.map .other)
    let ended := left.step .own
    let d := loaded.connection
    (d.store.books.contains id = false → saved.connection = d ∧ ended.answer? = some (.error (.bookNotFound id))) ∧
    (d.store.books.contains id = true → ∀ r, book.reviewIds.find? (!d.store.reviews.contains ·) = some r →
      saved.connection = d ∧ ended.answer? = some (.error (.repository (.reviewNotFound r)))) ∧
    (d.store.books.contains id = true → (∀ key ∈ book.reviewIds, d.store.reviews.contains key = true) →
      d.refusal? = none → d.store.reviews.mark < IntRange.int64.high →
      ∃ answer, (Books.save (update.revision.change book) d).result = .ok answer) ∧
    (∀ answer, (Books.save (update.revision.change book) d).result = .ok answer →
      (left.connection.store.books.contains id = false →
        ended.answer? = some (.error (.inconsistent update.revision.detail))) ∧
      (left.connection.store.books.contains id = true → ∃ book',
        Books.find? left.connection.store id = .ok (some book') ∧ ended.answer? = some (.ok book'))) ∧
    ∀ moves more earlier, Reached earlier → Reaches earlier (start.run moves).connection →
      (∀ key, earlier.store.books.contains key = true → (start.run moves).connection.store.books.contains key = false →
        (start.run (moves ++ more)).connection.store.books.contains key = false) ∧
      ∀ key, earlier.store.reviews.contains key = true →
        (start.run moves).connection.store.reviews.contains key = false →
        (start.run (moves ++ more)).connection.store.reviews.contains key = false := by
  intro start loaded saved left ended d
  have followed : loaded = update.pending id book (Write.performAll c before) := update.run_load found before
  have there : d = Write.performAll c before := congrArg Interrupted.connection followed
  have stands : loaded = update.pending id book d := by rw [there, followed]
  obtain ⟨ofBook, rest⟩ := update.save_interrupted reached found before
  rw [← there] at ofBook rest
  have refused {e : RepositoryError} (failed : (Books.save (update.revision.change book)).Fails d e) :
      saved.connection = d ∧ ended.answer? = some (.error (.ofRepository e)) := by
    simp only [ended, left, saved, stands]
    exact update.ended_of_fails failed after
  refine ⟨fun absent => refused (ofBook absent), fun stored r first => refused ((rest stored).1 r first),
    fun stored whole free room => ?_, fun answer result => ?_, fun moves more earlier origin first => ?_⟩
  · obtain ⟨answer, e, given⟩ := (rest stored).2 (by simpa using whole) free room
    exact ⟨answer, given.1⟩
  · have saving : Reaches c (Books.save (update.revision.change book) d).connection := by
      rw [there]
      exact (Reaches.here.performAll before).written (.save (update.revision.change book))
    have sound := ((saving.performAll after).reached reached).sound.store
    simp only [ended, left, saved, stands]
    rw [update.left_of_ok result]
    exact Interrupted.answer?_readBack sound id update.revision.detail
  · rw [Interrupted.run_append]
    exact first.gone (Interrupted.reaches_run .here more) origin

theorem update_amid_deletions :
    let ended (update : Update) (before after : List Write) : Interrupted Book :=
      (((Interrupted.run ⟨update.useCase 1, .sample⟩ (.own :: before.map .other)).step .own).run
        (after.map .other)).step .own
    let shortened : Write := .save ⟨some 1, "Dune", 412, [⟨some 1, "Ann", "Vast", some 1⟩]⟩
    (ended (.rename "Dune II") [.deleteById 1] []).answer? = some (.error (.bookNotFound 1)) ∧
      (ended (.addReview "Eve" "Odd") [shortened] [.deleteAll]).answer? =
        some (.error (.repository (.reviewNotFound 2))) ∧
      (ended (.rename "Dune II") [] [.create "Ulysses" 730, .remove 1]).answer? =
        some (.error (.inconsistent "renamed book not found in read-back")) := by
  intro ended shortened
  have found : Books.find? Connection.sample.store 1 =
      .ok (some ⟨some 1, "Dune", 412, [⟨some 1, "Ann", "Vast", some 1⟩, ⟨some 2, "Bob", "Long", some 1⟩]⟩) := by
    decide +kernel
  have updated := update_amid_writes reached_sample found
  refine ⟨?_, ?_, ?_⟩
  · exact ((updated (.rename "Dune II") [.deleteById 1] []).1 (by decide +kernel)).2
  · exact ((updated (.addReview "Eve" "Odd") [shortened] [.deleteAll]).2.1 (by decide +kernel) 2 (by decide +kernel)).2
  · have renamed : ∃ answer, (Books.save ((Update.rename "Dune II").revision.change _) .sample).result = .ok answer :=
      (updated (.rename "Dune II") [] []).2.2.1 (by decide +kernel) (by decide +kernel) (by decide +kernel)
        (by decide +kernel)
    obtain ⟨answer, result⟩ := renamed
    exact ((updated (.rename "Dune II") [] [.create "Ulysses" 730, .remove 1]).2.2.2.1 answer result).1 (by decide +kernel)

end

end Catalogue
