import Catalogue.Repository.Save

/-! Deleting books with the reviews they own. -/

set_option autoImplicit false

namespace Catalogue.Books

def removeBook (id : BookId) : Action EngineError (Nat × Nat) := do
  let reviews ← Statement.deleteReviews (·.isOf id)
  let books ← Statement.deleteBooks (·.id == id)
  return (reviews, books)

def removeAll : Action EngineError Nat := do
  discard Statement.clearReviews
  Statement.clearBooks

/-- Delete a book and its reviews; an id that is not stored deletes nothing. -/
def deleteById (id : BookId) : Action RepositoryError Unit := do
  let (reviews, books) ← Action.transaction .engine ((removeBook id).mapError .engine)
  Action.report (.deleted id books reviews)

def delete (book : Book) : Action RepositoryError Unit :=
  match book.id with
  | some id => deleteById id
  | none => pure ()

def deleteAll : Action RepositoryError Nat := do
  let books ← Action.transaction .engine (removeAll.mapError .engine)
  Action.report (.cleared books)
  return books

end Catalogue.Books
