import Catalogue.Page.Meaning
import Catalogue.Pattern.Admits

/-! The shelf: what the service amounts to when tables, rows and transactions are left out. It holds the
volumes, each with its notes in the order in which they were added, and two counters for new ids. -/

set_option autoImplicit false

namespace Catalogue

/-- A review as the shelf holds it, with the volume that it belongs to. -/
structure Note where
  id : ReviewId
  reviewer : String
  content : String
  deriving DecidableEq, Repr

structure Volume where
  id : BookId
  title : String
  pages : Int32
  notes : List Note
  deriving DecidableEq, Repr

namespace Volume

def toBook (volume : Volume) : Book :=
  let review (note : Note) : Review := ⟨some note.id, note.reviewer, note.content, some volume.id⟩
  ⟨some volume.id, volume.title, volume.pages, volume.notes.map review⟩

end Volume

structure Shelf where
  volumes : List Volume
  bookMark : BookId
  reviewMark : ReviewId
  deriving DecidableEq, Repr

namespace Shelf

def empty : Shelf := ⟨[], 0, 0⟩

def find? (shelf : Shelf) (id : BookId) : Option Volume := shelf.volumes.find? (·.id == id)

def put (shelf : Shelf) (volume : Volume) : Shelf :=
  { shelf with volumes := shelf.volumes.map fun v => if v.id = volume.id then volume else v }

def create (shelf : Shelf) (title : String) (pages : Int32) : Except ServiceError Book × Shelf :=
  if pages < 0 then (.error (.repository (.validation (.negativePages pages))), shelf)
  else
    let volume : Volume := ⟨shelf.bookMark + 1, title, pages, []⟩
    (.ok volume.toBook, { shelf with volumes := shelf.volumes ++ [volume], bookMark := volume.id })

def rename (shelf : Shelf) (id : BookId) (title : String) : Except ServiceError Book × Shelf :=
  match shelf.find? id with
  | none => (.error (.bookNotFound id), shelf)
  | some volume =>
    let volume := { volume with title }
    (.ok volume.toBook, shelf.put volume)

def addReview (shelf : Shelf) (id : BookId) (reviewer content : String) : Except ServiceError Book × Shelf :=
  match shelf.find? id with
  | none => (.error (.bookNotFound id), shelf)
  | some volume =>
    let note : Note := ⟨shelf.reviewMark + 1, reviewer, content⟩
    let volume := { volume with notes := volume.notes ++ [note] }
    (.ok volume.toBook, { shelf.put volume with reviewMark := note.id })

def delete (shelf : Shelf) (id : BookId) : Except ServiceError Unit × Shelf :=
  match shelf.find? id with
  | none => (.error (.bookNotFound id), shelf)
  | some _ => (.ok (), { shelf with volumes := shelf.volumes.filter (·.id != id) })

def get (shelf : Shelf) (id : BookId) : Option Book := (shelf.find? id).map Volume.toBook

def count (shelf : Shelf) : Nat := shelf.volumes.length

/-- What the engine takes: so many terms to sort by, and so many bytes of a glob pattern. -/
def termLimit : Nat := 2000

def patternLimit : Nat := 50000

/-- The page of picked volumes that a request is for. A request at fault is refused, and so is one for more than the
engine takes. -/
def window (request : PageRequest) (picked : Except EngineError (List Volume)) : Except RepositoryError (List Book) :=
  match request.fault? with
  | some fault => .error fault
  | none =>
    if termLimit < request.sort.keys.length then .error (.engine .tooManySortTerms)
    else (picked.mapError .engine).map fun volumes =>
      request.cut ((volumes.map Volume.toBook).mergeSort fun a b => (request.sort.compare a b).isLE)

def list (shelf : Shelf) (request : PageRequest) : Except RepositoryError (Slice Book) := do
  let books ← window request (.ok shelf.volumes)
  return ⟨books, request, request.endsBefore shelf.volumes.length⟩

def longerThan (shelf : Shelf) (pages : Int32) (request : PageRequest) : Except RepositoryError (List Book) :=
  window request (.ok (shelf.volumes.filter (pages < ·.pages)))

/-- The volumes whose title a like pattern finds. A pattern that is too long is refused once a title is compared. -/
def titled (shelf : Shelf) (pattern : String) : Except EngineError (List Volume) :=
  if patternLimit < Like.size pattern ∧ ∃ volume ∈ shelf.volumes, Like.Compares pattern volume.title then
    .error .patternTooComplex
  else .ok (shelf.volumes.filter fun volume => Like.Finds (Like.ended pattern) (Text.ended volume.title))

def search (shelf : Shelf) (pattern : String) (request : PageRequest) : Except RepositoryError (Page Book) := do
  let books ← window request (shelf.titled pattern)
  let volumes ← (shelf.titled pattern).mapError .engine
  return ⟨books, request, volumes.length⟩

end Shelf

end Catalogue
