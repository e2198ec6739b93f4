import Catalogue.Repository.Books
import Catalogue.Repository.Delete

/-! What a client does with the catalogue: create, rename, review and delete books, each as a sequence of
requests to the repository. A use case is that sequence as a value, so that it can be carried out at
once or request by request between those of other clients. -/

set_option autoImplicit false

namespace Catalogue

/-- What remains of a use case: nothing, or a request and what follows upon its answer. A request that
the repository refuses ends the use case with that refusal. -/
inductive UseCase (α : Type) where
  | done (result : Except ServiceError α)
  | find (id : BookId) (next : Option Book → UseCase α)
  | contains (id : BookId) (next : Bool → UseCase α)
  | save (book : Book) (next : BookId → UseCase α)
  | delete (id : BookId) (next : UseCase α)

namespace UseCase

variable {α : Type}

def answer (a : α) : UseCase α := .done (.ok a)

def fail (error : ServiceError) : UseCase α := .done (.error error)

def load (id : BookId) (next : Book → UseCase α) : UseCase α :=
  .find id fun
    | some book => next book
    | none => fail (.bookNotFound id)

def readBack (id : BookId) (detail : String) : UseCase Book :=
  .find id fun
    | some book => answer book
    | none => fail (.inconsistent detail)

def after {β : Type} (result : Except RepositoryError β) (next : β → UseCase α) : UseCase α :=
  match result with
  | .ok b => next b
  | .error e => fail (.ofRepository e)

def step (c : Connection) : UseCase α → UseCase α × Connection × List Event
  | .done result => (.done result, c, [])
  | .find id next => (after (Books.find? c.store id) next, c, [])
  | .contains id next => (next (Books.contains c.store id), c, [])
  | .save book next =>
    let reply := Books.save book c
    (after reply.result fun saved => next saved.1, reply.connection, reply.events)
  | .delete id next =>
    let reply := Books.deleteById id c
    (after reply.result fun _ => next, reply.connection, reply.events)

def run : UseCase α → Action ServiceError α
  | .done result => Action.ofExcept result
  | .find id next => do
    let book? ← (Action.query fun store => Books.find? store id).mapError .ofRepository
    (next book?).run
  | .contains id next => do
    let found ← Action.query fun store => .ok (Books.contains store id)
    (next found).run
  | .save book next => do
    let saved ← (Books.save book).mapError .ofRepository
    (next saved.1).run
  | .delete id next => do
    (Books.deleteById id).mapError .ofRepository
    next.run

end UseCase

namespace Service

def create (title : String) (pages : Int32) : UseCase Book :=
  .save (.new title pages) fun id => .readBack id "created book not found in read-back"

def rename (id : BookId) (title : String) : UseCase Book :=
  .load id fun book => .save { book with title } fun _ =>
    .readBack id "renamed book not found in read-back"

def addReview (id : BookId) (reviewer content : String) : UseCase Book :=
  .load id fun book => .save (book.addReview (.new reviewer content)) fun _ =>
    .readBack id "reviewed book not found in read-back"

def delete (id : BookId) : UseCase Unit :=
  .contains id fun found => if found then .delete id (.answer ()) else .fail (.bookNotFound id)

def get (store : Store) (id : BookId) : Except RepositoryError (Option Book) := Books.find? store id

def list (store : Store) (request : PageRequest) : Except RepositoryError (Slice Book) :=
  Books.slice store request

def longerThan (store : Store) (pages : Int32) (request : PageRequest) : Except RepositoryError (List Book) :=
  Books.longerThan store pages request

def search (store : Store) (pattern : String) (request : PageRequest) : Except RepositoryError (Page Book) :=
  Books.titleLike store pattern request

def count (store : Store) : Except RepositoryError Nat := Books.count store

end Service

end Catalogue
