import Catalogue.Proofs.Reshelving

/-! The service answers as a shelf does. One call leads a store and its shelf to the same answer, and to a store and
its shelf again; so calls that start with an empty database are answered as by an empty shelf, for as long as ids are
left. -/

set_option autoImplicit false

namespace Catalogue

namespace Reached

variable {c : Connection} {id : BookId}

theorem find?_of_none (reached : Reached c) (absent : c.store.shelf.find? id = none) :
    Books.find? c.store id = .ok none := by
  rw [reached.sound.store.find?_eq_get, Shelf.get, absent, Option.map_none]

theorem find?_of_some (reached : Reached c) {volume : Volume} (stands : c.store.shelf.find? id = some volume) :
    Books.find? c.store id = .ok (some volume.toBook) := by
  rw [reached.sound.store.find?_eq_get, Shelf.get, stands, Option.map_some]

end Reached

namespace Call

open Catalogue.Action

variable {α : Type} {c d e : Connection}

theorem carryOut_of_gives {useCase : UseCase α} {a : α} (given : useCase.run.Gives c a d) :
    carryOut useCase c = (.ok a, d) := Prod.ext given.1 given.2

theorem gives_run_find {id : BookId} {next : Option Book → UseCase α} {found? : Option Book} {a : α}
    (found : Books.find? c.store id = .ok found?) (rest : (next found?).run.Gives c a d) :
    (UseCase.find id next).run.Gives c a d :=
  gives_bind.mpr ⟨found?, c, gives_mapError.mpr (gives_query.mpr ⟨found, rfl⟩), rest⟩

theorem gives_run_save {book : Book} {next : BookId → UseCase α} {saved : BookId × Book} {a : α}
    (given : (Books.save book).Gives c saved d) (rest : (next saved.1).run.Gives d a e) :
    (UseCase.save book next).run.Gives c a e :=
  gives_bind.mpr ⟨saved, d, gives_mapError.mpr given, rest⟩

theorem gives_run_readBack {id : BookId} {book : Book} (found : Books.find? c.store id = .ok (some book))
    (detail : String) : (UseCase.readBack id detail).run.Gives c book c :=
  gives_run_find found (gives_ofExcept.mpr ⟨rfl, rfl⟩)

theorem gives_run_revise {id : BookId} {revision : Revision} {book book' : Book} {saved : BookId × Book}
    (found : Books.find? c.store id = .ok (some book)) (given : (Books.save (revision.change book)).Gives c saved d)
    (back : Books.find? d.store id = .ok (some book')) : (UseCase.revise id revision).run.Gives c book' d :=
  gives_run_find found (gives_run_save given (gives_run_readBack back revision.detail))

theorem carryOut_load_of_absent {id : BookId} (absent : Books.find? c.store id = .ok none) (next : Book → UseCase α) :
    carryOut (.load id next) c = (.error (.bookNotFound id), c) := by
  have asked : ((query fun store => Books.find? store id).mapError ServiceError.ofRepository) c =
      ⟨.ok none, c, []⟩ := by
    simp only [mapError, query, absent, mapError_ok]
  rw [carryOut, UseCase.load, UseCase.run, bind_apply_ok asked]
  rfl

theorem carryOut_save_of_fails {book : Book} {error : RepositoryError} (failed : (Books.save book).Fails c error)
    (next : BookId → UseCase α) : carryOut (.save book next) c = (.error (.ofRepository error), c) := by
  have result : (Books.save book c).result = .error error := failed
  have asked : ((Books.save book).mapError ServiceError.ofRepository) c =
      ⟨.error (.ofRepository error), c, (Books.save book c).events⟩ := by
    simp only [mapError, result, mapError_error, Books.save_traceless book c error result]
  rw [carryOut, UseCase.run, bind_apply_error asked]

/-- Store and shelf give the same answer, and then the store is the shelf again. -/
def Agrees (call : Call) (c : Connection) : Prop :=
  (call.onConnection c).1 = (call.onShelf c.store.shelf).1 ∧
    (call.onConnection c).2.store.shelf = (call.onShelf c.store.shelf).2

theorem agrees_of_eq {call : Call} {answer : call.Answer} {shelf : Shelf} (done : call.onConnection c = (answer, d))
    (asked : call.onShelf c.store.shelf = (answer, shelf)) (same : d.store.shelf = shelf) : call.Agrees c := by
  rw [Agrees, done, asked]
  exact ⟨rfl, same⟩

theorem create_agrees (reached : Reached c) (allowed : c.refusal? = none) {title : String} {pages : Int32}
    (room : ((create title pages).onShelf c.store.shelf).2.InRange) : (create title pages).Agrees c := by
  by_cases negative : pages < 0
  · have invalid : (Book.new title pages).validate = .error (.negativePages pages) := by
      simp [Book.validate, Book.new, Book.withReviews, negative]
    have failed : (Books.save (.new title pages)).Fails c (.validation (.negativePages pages)) := by
      refine fails_bind.mpr (.inl ?_)
      rw [invalid]
      rfl
    have asked : c.store.shelf.create title pages =
        (.error (.repository (.validation (.negativePages pages))), c.store.shelf) := by
      simp [Shelf.create, negative]
    exact agrees_of_eq (carryOut_save_of_fails failed _) asked rfl
  · let volume : Volume := ⟨c.store.shelf.bookMark + 1, title, pages, []⟩
    have asked : c.store.shelf.create title pages = (.ok volume.toBook,
        { c.store.shelf with volumes := c.store.shelf.volumes ++ [volume], bookMark := volume.id }) := by
      simp only [Shelf.create, negative, if_false]
      rfl
    have fits : (c.store.shelf.create title pages).2.InRange := room
    rw [asked] at fits
    have admits : c.store.Admits (.new title pages) :=
      { valid := negative
        present := by simp [Book.new, Book.withReviews]
        reviews := by simp [Book.reviewIds, Book.new, Book.withReviews]
        room := fun _ => Int.lt_of_add_one_le fits.books
        reviewRoom := (Int.add_zero _).trans_le fits.reviews }
    obtain ⟨⟨id, saved⟩, d, gives⟩ := Books.save_gives_of_admits reached.sound allowed admits
    obtain ⟨rfl, found, shelf⟩ := Books.shelf_of_create reached gives volume rfl
    exact agrees_of_eq (carryOut_of_gives (gives_run_save gives (gives_run_readBack found _))) asked shelf

theorem rename_agrees (reached : Reached c) (allowed : c.refusal? = none) (id : BookId) (title : String) :
    (rename id title).Agrees c := by
  cases stands : c.store.shelf.find? id with
  | none =>
    have asked : c.store.shelf.rename id title = (.error (.bookNotFound id), c.store.shelf) := by
      simp [Shelf.rename, stands]
    exact agrees_of_eq (carryOut_load_of_absent (reached.find?_of_none stands) _) asked rfl
  | some volume =>
    obtain rfl := Shelf.id_of_find? stands
    have found := reached.find?_of_some stands
    have asked : c.store.shelf.rename volume.id title =
        (.ok { volume with title }.toBook, c.store.shelf.put { volume with title }) := by
      simp only [Shelf.rename, stands]
    have revised : (Revision.rename title).change volume.toBook =
        ⟨some volume.id, title, volume.toBook.pages, volume.toBook.reviews ++ []⟩ := by
      rw [List.append_nil]
      rfl
    obtain ⟨saved, d, gives⟩ := Books.update_gives reached allowed found (List.forall_mem_nil _) revised
      ((Int.add_zero _).trans_le reached.inRange.reviews)
    have after := Books.find?_of_rename reached (reached.sound.store.owns_of_find? found).2 gives
    have shelf := Books.shelf_of_update reached found (List.forall_mem_nil _) revised gives
      { volume with title } rfl after
    have marked : c.store.shelf.reviewMark + ([] : List Review).length = c.store.shelf.reviewMark := Int.add_zero _
    rw [marked] at shelf
    exact agrees_of_eq (carryOut_of_gives (gives_run_revise found gives after)) asked shelf

theorem addReview_agrees (reached : Reached c) (allowed : c.refusal? = none) {id : BookId} {reviewer content : String}
    (room : ((addReview id reviewer content).onShelf c.store.shelf).2.InRange) :
    (addReview id reviewer content).Agrees c := by
  cases stands : c.store.shelf.find? id with
  | none =>
    have asked : c.store.shelf.addReview id reviewer content = (.error (.bookNotFound id), c.store.shelf) := by
      simp [Shelf.addReview, stands]
    exact agrees_of_eq (carryOut_load_of_absent (reached.find?_of_none stands) _) asked rfl
  | some volume =>
    obtain rfl := Shelf.id_of_find? stands
    have found := reached.find?_of_some stands
    let reviewed : Volume :=
      { volume with notes := volume.notes ++ [⟨c.store.shelf.reviewMark + 1, reviewer, content⟩] }
    have asked : c.store.shelf.addReview volume.id reviewer content =
        (.ok reviewed.toBook, { c.store.shelf.put reviewed with reviewMark := c.store.shelf.reviewMark + 1 }) := by
      simp only [Shelf.addReview, stands]
      rfl
    have fits : (c.store.shelf.addReview volume.id reviewer content).2.InRange := room
    rw [asked] at fits
    have new : ∀ review ∈ [Review.new reviewer content], review.id = none := by simp [Review.new]
    have revised : (Revision.addReview reviewer content).change volume.toBook =
        ⟨some volume.id, volume.title, volume.toBook.pages, volume.toBook.reviews ++ [.new reviewer content]⟩ := rfl
    obtain ⟨saved, d, gives⟩ := Books.update_gives reached allowed found new revised fits.reviews
    have shown : reviewed.toBook = { volume.toBook with reviews := volume.toBook.reviews ++
        [(Review.new reviewer content).stamp (c.store.reviews.mark + 1) volume.id] } :=
      congrArg (Book.mk (some volume.id) volume.title volume.pages) List.map_append
    have after := Books.find?_of_review reached found gives
    rw [← shown] at after
    have shelf := Books.shelf_of_update reached found new revised gives reviewed rfl after
    exact agrees_of_eq (carryOut_of_gives (gives_run_revise found gives after)) asked shelf

theorem delete_agrees (reached : Reached c) (allowed : c.refusal? = none) (id : BookId) : (delete id).Agrees c := by
  have sound := reached.sound.store
  have contained : Books.contains c.store id = (c.store.shelf.find? id).isSome := by
    rw [Store.find?_shelf, Option.isSome_map]
    exact List.isSome_find?.symm
  cases stands : c.store.shelf.find? id with
  | none =>
    have asked : c.store.shelf.delete id = (.error (.bookNotFound id), c.store.shelf) := by
      simp [Shelf.delete, stands]
    have answered : (query fun store => .ok (Books.contains store id) : Action ServiceError Bool) c =
        ⟨.ok false, c, []⟩ := by
      rw [query, contained, stands]
      rfl
    have done : carryOut (Service.delete id) c = (.error (.bookNotFound id), c) := by
      rw [carryOut, Service.delete, UseCase.run, bind_apply_ok answered]
      rfl
    exact agrees_of_eq done asked rfl
  | some volume =>
    have asked : c.store.shelf.delete id =
        (.ok (), { c.store.shelf with volumes := c.store.shelf.volumes.filter (·.id != id) }) := by
      simp [Shelf.delete, stands]
    obtain ⟨d, gives⟩ := Books.deleteById_gives_of_allowed reached.sound.free allowed id
    have there : Books.contains c.store id = true := by rw [contained, stands, Option.isSome_some]
    have done : (Service.delete id).run.Gives c () d :=
      gives_bind.mpr ⟨true, c, gives_query.mpr ⟨congrArg _ there, rfl⟩,
        gives_bind.mpr ⟨(), d, gives_mapError.mpr gives, gives_ofExcept.mpr ⟨rfl, rfl⟩⟩⟩
    obtain ⟨-, rfl⟩ := Books.deleteById_gives gives
    refine agrees_of_eq (carryOut_of_gives done) asked (Shelf.eq_of_get (c.store.without id).ascending_shelf
      (c.store.ascending_shelf.filter _) (fun other => ?_) rfl rfl)
    rw [Shelf.get_filter]
    refine Except.ok.inj (((sound.without id).find?_eq_get other).symm.trans ?_)
    rw [sound.find?_without, sound.find?_eq_get]
    split <;> rfl

/-- A call on a database that takes writes is answered as on its shelf, while ids are left. -/
theorem agrees (reached : Reached c) (allowed : c.refusal? = none) (call : Call)
    (room : (call.onShelf c.store.shelf).2.InRange) : call.Agrees c := by
  have sound := reached.sound.store
  cases call with
  | create title pages => exact create_agrees reached allowed room
  | rename id title => exact rename_agrees reached allowed id title
  | addReview id reviewer content => exact addReview_agrees reached allowed room
  | delete id => exact delete_agrees reached allowed id
  | get id => exact ⟨sound.find?_eq_get id, rfl⟩
  | list request => exact ⟨sound.list_eq request, rfl⟩
  | longerThan pages request => exact ⟨sound.longerThan_eq pages request, rfl⟩
  | search pattern request => exact ⟨sound.search_eq pattern request, rfl⟩
  | count => exact ⟨Store.Sound.count_eq, rfl⟩

theorem onConnection_of_write {P : Connection → Prop} (held : P c) (written : ∀ write : Write, P (write.perform c))
    (call : Call) : P (call.onConnection c).2 := by
  cases call with
  | create title pages => exact written (.create title pages)
  | rename id title => exact written (.rename id title)
  | addReview id reviewer content => exact written (.addReview id reviewer content)
  | delete id => exact written (.remove id)
  | get | list | longerThan | search | count => exact held

theorem answers_agree {calls : List Call} (reached : Reached c) (allowed : c.refusal? = none)
    (room : (answers onShelf c.store.shelf calls).2.InRange) :
    (answers onConnection c calls).1 = (answers onShelf c.store.shelf calls).1 ∧
      (answers onConnection c calls).2.store.shelf = (answers onShelf c.store.shelf calls).2 := by
  induction calls generalizing c with
  | nil => exact ⟨rfl, rfl⟩
  | cons call rest ih =>
    obtain ⟨answer, shelf⟩ := call.agrees reached allowed (inRange_of_answers room)
    have reached' : Reached (call.onConnection c).2 :=
      onConnection_of_write reached (fun write => reached.written write) call
    have allowed' : (call.onConnection c).2.refusal? = none :=
      onConnection_of_write (P := fun d => d.refusal? = none) allowed
        (fun write => Books.Keep.allowed.perform write allowed) call
    have later : (answers onShelf (call.onConnection c).2.store.shelf rest).2.InRange := by
      rw [shelf]
      exact room
    obtain ⟨more, last⟩ := ih reached' allowed' later
    rw [shelf] at more last
    refine ⟨?_, last⟩
    simp only [answers, answer, more]

theorem ofCall_of_mem_answers {shelf : Shelf} {calls : List Call} {reply : Σ call : Call, call.Answer}
    (given : reply ∈ (answers onShelf shelf calls).1) {error : ServiceError}
    (failed : reply.1.error? reply.2 = some error) : error.OfCall := by
  induction calls generalizing shelf with
  | nil => cases given
  | cons call rest ih =>
    rcases List.mem_cons.mp given with rfl | later
    · exact ofCall_of_error? failed
    · exact ih later

end Call

/-- Calls on a new database are answered as on an empty shelf, for as long as ids are left, and leave its shelf behind.
So no call finds a book inconsistent or a review missing. -/
theorem service_answers_as_shelf {medium : Medium} {writing : Writing} {elapsed : Nat} {c : Connection}
    {calls : List Call} (opened : (openDatabase medium (.store .empty writing) elapsed).result = .ok c)
    (room : (Call.answers Call.onShelf .empty calls).2.InRange) :
    let database := Call.answers Call.onConnection c calls
    let shelf := Call.answers Call.onShelf .empty calls
    database.1 = shelf.1 ∧ database.2.store.shelf = shelf.2 ∧
      ∀ reply ∈ database.1, (∀ detail, reply.1.error? reply.2 ≠ some (.inconsistent detail)) ∧
        ∀ id, reply.1.error? reply.2 ≠ some (.repository (.reviewNotFound id)) := by
  intro database shelf
  obtain rfl := openDatabase_empty_eq_ok opened
  obtain ⟨same, last⟩ := Call.answers_agree (c := .on .fresh) (.opened opened) rfl room
  refine ⟨same, last, fun reply given => ?_⟩
  have fails {error : ServiceError} (failed : reply.1.error? reply.2 = some error) : error.OfCall :=
    Call.ofCall_of_mem_answers (same ▸ given) failed
  exact ⟨fun detail failed => fails failed, fun id failed => fails failed⟩

theorem service_answers_as_shelf_at_work :
    let calls : List Call := [.create "Dune" 412, .addReview 1 "Ann" "Vast", .create "Emma" (-1), .rename 2 "Emma II",
      .create "Emma" 474, .addReview 2 "Eve" "Odd", .rename 1 "Dune II", .addReview 1 "Bob" "Long", .delete 2, .delete 2,
      .get 1, .list .unpaged, .longerThan 400 .unpaged, .search "Dune%" .unpaged, .count]
    (Call.answers Call.onShelf .empty calls).2.InRange ∧
      (Call.answers Call.onConnection (.on .fresh) calls).1 = (Call.answers Call.onShelf .empty calls).1 ∧
      (Call.answers Call.onConnection (.on .fresh) calls).2.store.shelf =
        ⟨[⟨1, "Dune II", 412, [⟨1, "Ann", "Vast"⟩, ⟨3, "Bob", "Long"⟩]⟩], 2, 3⟩ := by
  intro calls
  have last : (Call.answers Call.onShelf .empty calls).2 =
      ⟨[⟨1, "Dune II", 412, [⟨1, "Ann", "Vast"⟩, ⟨3, "Bob", "Long"⟩]⟩], 2, 3⟩ := by decide +kernel
  have room : (Call.answers Call.onShelf .empty calls).2.InRange := by
    rw [last]
    exact ⟨by decide, by decide⟩
  obtain ⟨same, shelf, -⟩ := service_answers_as_shelf (openDatabase_empty .memory 0) room
  exact ⟨room, same, shelf.trans last⟩

end Catalogue
