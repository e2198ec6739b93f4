import Catalogue.Store.Schema
import Catalogue.Store.Table

/-! A store: the two tables with their rows, what else the schema holds, and the schema version. Each
function here is the effect of one statement; a statement that fails has none. -/

set_option autoImplicit false

namespace Catalogue

structure BookCells where
  title : Cell
  pages : Cell
  deriving DecidableEq, Repr

structure ReviewCells where
  reviewer : Cell
  content : Cell
  bookId : Cell
  deriving DecidableEq, Repr

/-- Whether a review row belongs to a book: the value that it keeps equals the id, be it an integer or not. -/
def Row.isOf (row : Row ReviewCells) (book : Int) : Bool := row.cells.bookId.compare (.int book) == .eq

theorem Row.isOf_of_int {row : Row ReviewCells} {owner book : Int} (h : row.cells.bookId = .int owner) :
    row.isOf book = (owner == book) := by
  rw [Bool.eq_iff_iff]
  simp [isOf, h, Cell.compare]

structure Store where
  userVersion : Int
  schema : Schema
  books : Table BookCells
  reviews : Table ReviewCells
  deriving DecidableEq

namespace Store

def empty : Store := ⟨0, .empty, .empty, .empty⟩

instance : Inhabited Store := ⟨empty⟩

def version? (store : Store) : Except EngineError Nat :=
  if 0 ≤ store.userVersion then .ok store.userVersion.toNat
  else .error (.integerOutOfRange store.userVersion 0)

/-- A review refers to a stored book or to none; `enforced` says whether that is checked. -/
def checkParent (store : Store) (enforced : Bool) (bookId : Cell) : Except EngineError Unit :=
  if !enforced then .ok ()
  else do
    store.schema.checkParent
    match bookId with
    | .null => return ()
    | .int id => if store.books.contains id then return () else throw .foreignKey
    | _ => throw .foreignKey

def insertBook (store : Store) (title : String) (pages : Int32) : Except EngineError (Int × Store) := do
  store.schema.checkValues .books []
  let (id, books) ← store.books.add ⟨.text title, .int pages.toInt⟩
  return (id, { store with books })

def updateBook (store : Store) (id : Int) (title : String) (pages : Int32) : Nat × Store :=
  (store.books.count (·.id == id), { store with books := store.books.set id ⟨.text title, .int pages.toInt⟩ })

def insertReview (store : Store) (enforced : Bool) (reviewer content : String) (book : Int) :
    Except EngineError (Int × Store) := do
  store.schema.checkValues .reviews []
  let (id, reviews) ← store.reviews.add ⟨.text reviewer, .text content, .int book⟩
  store.checkParent enforced (.int book)
  return (id, { store with reviews })

def updateReview (store : Store) (enforced : Bool) (id : Int) (reviewer content : String) (book : Int) :
    Except EngineError (Nat × Store) := do
  if store.reviews.contains id then store.checkParent enforced (.int book)
  return (store.reviews.count (·.id == id),
    { store with reviews := store.reviews.set id ⟨.text reviewer, .text content, .int book⟩ })

def deleteReviews (store : Store) (picked : Row ReviewCells → Bool) : Nat × Store :=
  (store.reviews.count picked, { store with reviews := store.reviews.remove picked })

/-- Where references are enforced, the reviews of a removed book go with it. -/
def deleteBooks (store : Store) (enforced : Bool) (picked : Row BookCells → Bool) : Nat × Store :=
  let gone (review : Row ReviewCells) := store.books.rows.any fun book => picked book && review.isOf book.id
  (store.books.count picked, { store with
    books := store.books.remove picked
    reviews := if enforced then store.reviews.remove gone else store.reviews })

end Store

end Catalogue
