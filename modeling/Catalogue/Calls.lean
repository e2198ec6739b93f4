import Catalogue.Service
import Catalogue.Shelf

/-! The calls of the service as values. A call is answered by a database, through the connection to it, or by
a shelf, and either way there is a next state for the next call. -/

set_option autoImplicit false

namespace Catalogue

inductive Call where
  | create (title : String) (pages : Int32)
  | rename (id : BookId) (title : String)
  | addReview (id : BookId) (reviewer content : String)
  | delete (id : BookId)
  | get (id : BookId)
  | list (request : PageRequest)
  | longerThan (pages : Int32) (request : PageRequest)
  | search (pattern : String) (request : PageRequest)
  | count
  deriving DecidableEq, Repr

def failure? {ε α : Type} : Except ε α → Option ε
  | .ok _ => none
  | .error e => some e

namespace Call

def Answer : Call → Type
  | create _ _ | rename _ _ | addReview _ _ _ => Except ServiceError Book
  | delete _ => Except ServiceError Unit
  | get _ => Except RepositoryError (Option Book)
  | list _ => Except RepositoryError (Slice Book)
  | longerThan _ _ => Except RepositoryError (List Book)
  | search _ _ => Except RepositoryError (Page Book)
  | count => Except RepositoryError Nat

def carryOut {α : Type} (useCase : UseCase α) (c : Connection) : Except ServiceError α × Connection :=
  let reply := useCase.run c
  (reply.result, reply.connection)

def onConnection (c : Connection) : (call : Call) → call.Answer × Connection
  | create title pages => carryOut (Service.create title pages) c
  | rename id title => carryOut (Service.rename id title) c
  | addReview id reviewer content => carryOut (Service.addReview id reviewer content) c
  | delete id => carryOut (Service.delete id) c
  | get id => (Service.get c.store id, c)
  | list request => (Service.list c.store request, c)
  | longerThan pages request => (Service.longerThan c.store pages request, c)
  | search pattern request => (Service.search c.store pattern request, c)
  | count => (Service.count c.store, c)

def onShelf (shelf : Shelf) : (call : Call) → call.Answer × Shelf
  | create title pages => shelf.create title pages
  | rename id title => shelf.rename id title
  | addReview id reviewer content => shelf.addReview id reviewer content
  | delete id => shelf.delete id
  | get id => (.ok (shelf.get id), shelf)
  | list request => (shelf.list request, shelf)
  | longerThan pages request => (shelf.longerThan pages request, shelf)
  | search pattern request => (shelf.search pattern request, shelf)
  | count => (.ok shelf.count, shelf)

def error? : (call : Call) → call.Answer → Option ServiceError
  | create _ _, reply | rename _ _, reply | addReview _ _ _, reply | delete _, reply => failure? reply
  | get _, reply | list _, reply | longerThan _ _, reply | search _ _, reply | count, reply =>
    (failure? reply).map .repository

/-- The answers to calls made one after another, and the state that they lead to. -/
def answers {σ : Type} (respond : σ → (call : Call) → call.Answer × σ) :
    σ → List Call → List (Σ call : Call, call.Answer) × σ
  | state, [] => ([], state)
  | state, call :: rest =>
    let (answer, next) := respond state call
    let (later, last) := answers respond next rest
    (⟨call, answer⟩ :: later, last)

end Call

end Catalogue
