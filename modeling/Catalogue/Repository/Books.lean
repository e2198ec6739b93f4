import Catalogue.Repository.Query

/-! Reading books. Each function is an answer about one store. -/

set_option autoImplicit false

namespace Catalogue.Books

def find? (store : Store) (id : BookId) : Except RepositoryError (Option Book) :=
  match store.books.find? id with
  | none => .ok none
  | some row => do
    let book ← row.toBook
    let books ← (attachReviews store [book]).mapError .engine
    return books.head?

def contains (store : Store) (id : BookId) : Bool := store.books.contains id

def count (store : Store) : Except RepositoryError Nat := countBooks store .everything

def all (store : Store) : Except RepositoryError (List Book) := findBooks store .everything .unpaged 0

def pageOf (store : Store) (filter : Filter) (request : PageRequest) :
    Except RepositoryError (Page Book) := do
  let content ← findBooks store filter request 0
  let totalSize ← countBooks store filter
  return ⟨content, request, totalSize⟩

def page (store : Store) (request : PageRequest) : Except RepositoryError (Page Book) :=
  pageOf store .everything request

/-- A window of all books; one row more than the window is read to see whether any follows. -/
def slice (store : Store) (request : PageRequest) : Except RepositoryError (Slice Book) := do
  let content ← findBooks store .everything request 1
  match request.size with
  | none => return ⟨content, request, false⟩
  | some size => return ⟨content.take size.toNat, request, size.toNat < content.length⟩

def longerThan (store : Store) (pages : Int32) (request : PageRequest) : Except RepositoryError (List Book) :=
  findBooks store (.longerThan pages) request 0

def titleLike (store : Store) (pattern : String) (request : PageRequest) :
    Except RepositoryError (Page Book) :=
  pageOf store (.titleLike pattern) request

def countTitleLike (store : Store) (pattern : String) : Except RepositoryError Nat :=
  countBooks store (.titleLike pattern)

end Catalogue.Books
