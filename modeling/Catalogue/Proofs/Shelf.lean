import Catalogue.Calls
import Catalogue.Proofs.Table

/-! The shelf. Two shelves in order are the same if the same is found on them under each id and their counters agree;
each call changes what is found under one id at most, no counter falls, and two failures never occur. -/

set_option autoImplicit false

namespace Catalogue

theorem Volume.toBook_injective : Function.Injective toBook := by
  rintro ⟨id, title, pages, notes⟩ ⟨id', title', pages', notes'⟩ same
  simp only [toBook, Book.mk.injEq, Option.some.injEq] at same
  obtain ⟨rfl, rfl, rfl, reviews⟩ := same
  have review : Function.Injective
      fun note : Note => (⟨some note.id, note.reviewer, note.content, some id⟩ : Review) := by
    rintro ⟨key, reviewer, content⟩ ⟨key', reviewer', content'⟩ same
    simpa using same
  rw [review.list_map reviews]

namespace Shelf

variable {shelf other : Shelf}

structure InRange (shelf : Shelf) : Prop where
  books : shelf.bookMark ≤ IntRange.int64.high
  reviews : shelf.reviewMark ≤ IntRange.int64.high

def Ascending (shelf : Shelf) : Prop := shelf.volumes.Pairwise fun a b => a.id < b.id

theorem find?_eq_some_iff (ascending : shelf.Ascending) {id : BookId} {volume : Volume} :
    shelf.find? id = some volume ↔ volume ∈ shelf.volumes ∧ volume.id = id :=
  Table.find?_key_eq_some_iff (List.pairwise_map.mpr (ascending.imp fun less => ne_of_lt less))

theorem id_of_find? {id : BookId} {volume : Volume} (found : shelf.find? id = some volume) : volume.id = id := by
  simpa using List.find?_some found

/-- Shelves in order are told by what is found on them. -/
theorem eq_of_get (first : shelf.Ascending) (second : other.Ascending) (get : ∀ id, shelf.get id = other.get id)
    (bookMark : shelf.bookMark = other.bookMark) (reviewMark : shelf.reviewMark = other.reviewMark) : shelf = other := by
  have found (id : BookId) : shelf.find? id = other.find? id := Option.map_injective Volume.toBook_injective (get id)
  have irrefl : Std.Irrefl fun a b : Volume => a.id < b.id := ⟨fun a => lt_irrefl a.id⟩
  have antisymm : Std.Antisymm fun a b : Volume => a.id < b.id := ⟨fun a b h h' => absurd h (lt_asymm h')⟩
  have volumes : shelf.volumes = other.volumes := by
    refine List.Pairwise.eq_of_mem_iff first second fun volume => ?_
    have here : shelf.find? volume.id = some volume ↔ volume ∈ shelf.volumes ∧ volume.id = volume.id :=
      find?_eq_some_iff first
    have there : other.find? volume.id = some volume ↔ volume ∈ other.volumes ∧ volume.id = volume.id :=
      find?_eq_some_iff second
    rw [found] at here
    simpa using here.symm.trans there
  cases shelf
  cases other
  simp_all

theorem ascending_put (ascending : shelf.Ascending) (volume : Volume) : (shelf.put volume).Ascending := by
  refine List.pairwise_map.mpr (ascending.imp fun {a b} less => ?_)
  split <;> split <;> simp_all

theorem get_put {volume old : Volume} (stands : shelf.find? volume.id = some old) (id : BookId) :
    (shelf.put volume).get id = if id = volume.id then some volume.toBook else shelf.get id := by
  have kept : ((·.id == id) ∘ fun v : Volume => if v.id = volume.id then volume else v) = (·.id == id) := by
    funext v
    by_cases same : v.id = volume.id <;> simp [same]
  have found : (shelf.put volume).find? id = (shelf.find? id).map fun v => if v.id = volume.id then volume else v := by
    rw [find?, put, List.find?_map, kept]
    rfl
  rw [get, found, get]
  by_cases same : id = volume.id
  · subst same
    simp [stands, id_of_find? stands]
  · cases other : shelf.find? id with
    | none => simp [same]
    | some v => simp [same, id_of_find? other]

theorem get_snoc {volume : Volume} (new : shelf.find? volume.id = none) (mark : BookId) (id : BookId) :
    get { shelf with volumes := shelf.volumes ++ [volume], bookMark := mark } id =
      if id = volume.id then some volume.toBook else shelf.get id := by
  by_cases same : id = volume.id
  · subst same
    rw [find?] at new
    simp [get, find?, List.find?_append, new]
  · simp [get, find?, List.find?_append, same, Ne.symm same]

theorem get_filter (gone id : BookId) :
    get { shelf with volumes := shelf.volumes.filter (·.id != gone) } id =
      if id = gone then none else shelf.get id := by
  simp only [get, find?, List.find?_filter]
  by_cases same : id = gone
  · simp [same]
  · rw [if_neg same]
    congr 2
    funext v
    by_cases here : v.id = id <;> simp [here, same]

end Shelf

/-- What can be wrong with a request for a window: its sorting, its bounds, or the work that it asks of the engine. -/
def RepositoryError.OfRequest : RepositoryError → Prop
  | invalidSort _ | invalidRequest _ | database _ => True
  | _ => False

def FailsAmong {ε α : Type} (failures : ε → Prop) : Except ε α → Prop
  | .ok _ => True
  | .error e => failures e

theorem FailsAmong.bind {ε α β : Type} {failures : ε → Prop} {x : Except ε α} {f : α → Except ε β}
    (first : FailsAmong failures x) (rest : ∀ a, FailsAmong failures (f a)) : FailsAmong failures (x >>= f) := by
  cases x with
  | error e => exact first
  | ok a => exact rest a

theorem FailsAmong.of_failure? {ε α : Type} {failures : ε → Prop} {x : Except ε α} {e : ε}
    (fails : FailsAmong failures x) (failed : failure? x = some e) : failures e := by
  cases x with
  | error cause => exact Option.some.inj failed ▸ fails
  | ok a => cases failed

theorem FailsAmong.map {ε α β : Type} {failures : ε → Prop} {x : Except ε α} (fails : FailsAmong failures x)
    (f : α → β) : FailsAmong failures (x.map f) := by
  cases x with
  | error e => exact fails
  | ok a => trivial

theorem PageRequest.ofRequest_of_fault {request : PageRequest} {fault : RepositoryError}
    (found : request.fault? = some fault) : fault.OfRequest := by
  rw [fault?, Option.or_eq_some_iff] at found
  rcases found with sort | ⟨-, window⟩
  · obtain ⟨property, -, rfl⟩ := Option.map_eq_some_iff.mp sort
    trivial
  · unfold windowFault? at window
    split at window
    · cases window
    · split at window
      · cases window
        trivial
      · split at window <;> cases window
        trivial

theorem mapError_engine_fails {α : Type} (result : Except EngineError α) :
    FailsAmong RepositoryError.OfRequest (result.mapError .engine) := by
  cases result <;> trivial

namespace Shelf

variable (shelf : Shelf) (request : PageRequest)

theorem window_fails (picked : Except EngineError (List Volume)) :
    FailsAmong RepositoryError.OfRequest (window request picked) := by
  unfold window
  split
  · rename_i fault found
    exact PageRequest.ofRequest_of_fault found
  · split
    · trivial
    · exact (mapError_engine_fails picked).map _

theorem list_fails : FailsAmong RepositoryError.OfRequest (shelf.list request) :=
  (window_fails request _).bind fun _ => trivial

theorem search_fails (pattern : String) : FailsAmong RepositoryError.OfRequest (shelf.search pattern request) :=
  (window_fails request _).bind fun _ => (mapError_engine_fails _).bind fun _ => trivial

end Shelf

def ServiceError.OfCall : ServiceError → Prop
  | bookNotFound _ | repository (.validation _) => True
  | repository cause => cause.OfRequest
  | inconsistent _ => False

theorem RepositoryError.OfRequest.ofCall {cause : RepositoryError} (ofRequest : cause.OfRequest) :
    ServiceError.OfCall (.repository cause) := by
  cases cause with
  | validation _ | invalidSort _ | invalidRequest _ | database _ => trivial
  | _ => exact ofRequest.elim

namespace Shelf

variable (shelf : Shelf) (id : BookId)

theorem create_fails (title : String) (pages : Int32) :
    FailsAmong ServiceError.OfCall (shelf.create title pages).1 := by
  unfold create
  split <;> trivial

theorem rename_fails (title : String) : FailsAmong ServiceError.OfCall (shelf.rename id title).1 := by
  unfold rename
  split <;> trivial

theorem addReview_fails (reviewer content : String) :
    FailsAmong ServiceError.OfCall (shelf.addReview id reviewer content).1 := by
  unfold addReview
  split <;> trivial

theorem delete_fails : FailsAmong ServiceError.OfCall (shelf.delete id).1 := by
  unfold delete
  split <;> trivial

end Shelf

namespace Call

variable {shelf : Shelf} {call : Call}

theorem ofCall_of_error? {error : ServiceError} (failed : call.error? (call.onShelf shelf).1 = some error) :
    error.OfCall := by
  have ofRead {α : Type} {reply : Except RepositoryError α} (fails : FailsAmong RepositoryError.OfRequest reply)
      (refused : (failure? reply).map ServiceError.repository = some error) : error.OfCall := by
    obtain ⟨cause, same, rfl⟩ := Option.map_eq_some_iff.mp refused
    exact (fails.of_failure? same).ofCall
  cases call with
  | create title pages => exact (shelf.create_fails title pages).of_failure? failed
  | rename id title => exact (shelf.rename_fails id title).of_failure? failed
  | addReview id reviewer content => exact (shelf.addReview_fails id reviewer content).of_failure? failed
  | delete id => exact (shelf.delete_fails id).of_failure? failed
  | list request => exact ofRead (shelf.list_fails request) failed
  | longerThan pages request => exact ofRead (Shelf.window_fails request _) failed
  | search pattern request => exact ofRead (shelf.search_fails request pattern) failed
  | get | count => cases failed

theorem marks_le_onShelf (call : Call) (shelf : Shelf) :
    shelf.bookMark ≤ (call.onShelf shelf).2.bookMark ∧ shelf.reviewMark ≤ (call.onShelf shelf).2.reviewMark := by
  cases call with
  | create title pages =>
    simp only [onShelf, Shelf.create]
    split
    · exact ⟨le_rfl, le_rfl⟩
    · exact ⟨Int.le_add_one le_rfl, le_rfl⟩
  | rename id title =>
    simp only [onShelf, Shelf.rename]
    split <;> exact ⟨le_rfl, le_rfl⟩
  | addReview id reviewer content =>
    simp only [onShelf, Shelf.addReview]
    split
    · exact ⟨le_rfl, le_rfl⟩
    · exact ⟨le_rfl, Int.le_add_one le_rfl⟩
  | delete id =>
    simp only [onShelf, Shelf.delete]
    split <;> exact ⟨le_rfl, le_rfl⟩
  | get | list | longerThan | search | count => exact ⟨le_rfl, le_rfl⟩

theorem inRange_of_answers {calls : List Call} (room : (answers onShelf shelf calls).2.InRange) :
    shelf.InRange := by
  induction calls generalizing shelf with
  | nil => exact room
  | cons call rest ih =>
    have next := ih room
    have marks := call.marks_le_onShelf shelf
    exact ⟨marks.1.trans next.books, marks.2.trans next.reviews⟩

end Call

end Catalogue
