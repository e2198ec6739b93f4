import Catalogue.Book
import Catalogue.Store.Action

/-! The single statements that saving and deleting are made of. -/

set_option autoImplicit false

namespace Catalogue.Statement

def insertBook (book : Book) : Action EngineError BookId :=
  Action.writeAlways fun _ store => store.insertBook book.title book.pages

def updateBook (id : BookId) (book : Book) : Action EngineError Nat :=
  Action.writeCounted fun _ store => .ok (store.updateBook id book.title book.pages)

def insertReview (book : BookId) (review : Review) : Action EngineError ReviewId :=
  Action.writeAlways fun enforced store => store.insertReview enforced review.reviewer review.content book

def updateReview (id : ReviewId) (book : BookId) (review : Review) : Action EngineError Nat :=
  Action.writeCounted fun enforced store => store.updateReview enforced id review.reviewer review.content book

def deleteReviews (picked : Row ReviewCells → Bool) : Action EngineError Nat :=
  Action.writeCounted fun _ store => .ok (store.deleteReviews picked)

def deleteBooks (picked : Row BookCells → Bool) : Action EngineError Nat :=
  Action.writeCounted fun enforced store => .ok (store.deleteBooks enforced picked)

/-- Whether deleting all rows of a table changes the file: where no references are checked, the table is
cleared as a whole, be there rows or not. -/
def clears (enforced : Bool) (deleted : Nat) : Bool := !enforced || deleted != 0

def clearReviews : Action EngineError Nat :=
  Action.write clears fun _ store => .ok (store.deleteReviews fun _ => true)

def clearBooks : Action EngineError Nat :=
  Action.write clears fun enforced store => .ok (store.deleteBooks enforced fun _ => true)

def reviewIdsOf (book : BookId) : Action EngineError (List ReviewId) :=
  Action.query fun store => .ok ((store.reviews.rows.filter (·.isOf book)).map (·.id))

end Catalogue.Statement
