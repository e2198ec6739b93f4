import Catalogue.Repository.Statement

/-! Saving books with the reviews they own. A save writes the book, then its reviews in order, and then
removes the reviews of the book that it no longer lists. -/

set_option autoImplicit false

namespace Catalogue.Books

def deleteReviewsById : List ReviewId → Action EngineError Nat
  | [] => pure 0
  | id :: rest => do
    let deleted ← Statement.deleteReviews (·.id == id)
    let more ← deleteReviewsById rest
    return deleted + more

def deleteUnlisted (book : BookId) (kept : List ReviewId) : Action EngineError Nat := do
  let ids ← Statement.reviewIdsOf book
  deleteReviewsById (ids.filter (!kept.contains ·))

/-- `deleteUnlisted`, with a single statement where nothing is kept. -/
def deleteOrphans (book : BookId) (kept : List ReviewId) : Action EngineError Nat :=
  if kept.isEmpty then Statement.deleteReviews (·.isOf book) else deleteUnlisted book kept

structure SavedIds where
  book : BookId
  reviews : List ReviewId
  deriving DecidableEq, Repr

def SavedIds.stamp (ids : SavedIds) (book : Book) : Book := book.stamp ids.book ids.reviews

def saveRow (book : Book) : Action RepositoryError BookId :=
  match book.id with
  | none => (Statement.insertBook book).mapError .engine
  | some id => do
    let changed ← (Statement.updateBook id book).mapError .engine
    if changed = 0 then Action.fail (.bookNotFound id) else return id

/-- Write one review as belonging to a book, whichever book it belonged to before. -/
def saveReview (book : BookId) (review : Review) : Action RepositoryError ReviewId :=
  match review.id with
  | none => (Statement.insertReview book review).mapError .engine
  | some id => do
    let changed ← (Statement.updateReview id book review).mapError .engine
    if changed = 0 then Action.fail (.reviewNotFound id) else return id

def saveReviews (book : BookId) : List Review → Action RepositoryError (List ReviewId)
  | [] => pure []
  | review :: rest => do
    let id ← saveReview book review
    let ids ← saveReviews book rest
    return id :: ids

def cascade (book : Book) : Action RepositoryError SavedIds := do
  let id ← saveRow book
  let reviewIds ← saveReviews id book.reviews
  discard <| (deleteOrphans id reviewIds).mapError .engine
  return ⟨id, reviewIds⟩

def cascadeAll : List Book → Action RepositoryError (List SavedIds)
  | [] => pure []
  | book :: rest => do
    let ids ← cascade book
    let more ← cascadeAll rest
    return ids :: more

/-- Save a book: store a new one, or change the one that its id names. The answer is the stored id and
the book with all its ids. -/
def save (book : Book) : Action RepositoryError (BookId × Book) := do
  Action.ofExcept (book.validate.mapError .validation)
  let mode := if book.isPersisted then SaveMode.update else SaveMode.insert
  let ids ← Action.transaction .engine ((cascade book).reportingError (.saveFailed mode))
  let saved := ids.stamp book
  Action.report (.saved mode ids.book saved.reviews.length)
  return (ids.book, saved)

/-- The checks of a batch, in order: no book of negative length, and no review id listed that was
listed before. `seen` are the review ids of the books already checked. -/
def checkReviewIds : (seen ids : List ReviewId) → Except RepositoryError (List ReviewId)
  | seen, [] => .ok seen
  | seen, id :: rest =>
    if seen.contains id then .error (.repeatedReview id) else checkReviewIds (id :: seen) rest

def checkBatch : (seen : List ReviewId) → List Book → Except RepositoryError Unit
  | _, [] => .ok ()
  | seen, book :: rest => do
    book.validate.mapError .validation
    let seen ← checkReviewIds seen book.reviewIds
    checkBatch seen rest

def saveAll (books : List Book) : Action RepositoryError (List BookId × List Book) := do
  Action.ofExcept (checkBatch [] books)
  let ids ← Action.transaction .engine ((cascadeAll books).reportingError (.batchFailed books.length))
  Action.report (.batchSaved ids.length)
  return (ids.map (·.book), ids.zipWith SavedIds.stamp books)

end Catalogue.Books
