import Catalogue.Repository.Order
import Catalogue.Repository.Row
import Catalogue.Repository.TitleSearch

/-! Queries over the book rows: which rows a filter picks, and the window of the sorted result that a
page request asks for, with the reviews of its books. -/

set_option autoImplicit false

namespace Catalogue

structure Window where
  offset : Nat
  limit : Option Nat
  deriving DecidableEq, Repr

namespace Window

def cut {α : Type} (window : Window) (rows : List α) : List α :=
  match window.limit with
  | none => rows.drop window.offset
  | some limit => (rows.drop window.offset).take limit

def ofRequest (request : PageRequest) (extra : Nat) : Except RepositoryError Window :=
  match request.size with
  | none => .ok ⟨0, none⟩
  | some size =>
    if size = 0 then .error .zeroSize
    else if request.offset ≤ IntRange.int64.high then .ok ⟨request.offset, some (size.toNat + extra)⟩
    else .error (.offsetOutOfRange request.number size)

end Window

inductive Filter where
  | everything
  | longerThan (pages : Int32)
  | titleLike (pattern : String)

namespace Filter

def select (store : Store) : Filter → Except EngineError (List (Row BookCells))
  | everything => .ok store.books.rows
  | longerThan pages =>
    .ok <| store.books.rows.filter fun row => (row.cells.pages.compare (.int pages.toInt)).isGT
  | titleLike pattern => (TitleSearch.ofLike store pattern).find (·.cells.title) store.books.rows

end Filter

def sortTermLimit : Nat := 2000

def selectRows (store : Store) (filter : Filter) (terms : List ColumnTerm) (window : Window) :
    Except EngineError (List (Row BookCells)) :=
  if sortTermLimit < terms.length then .error .tooManySortTerms
  else (filter.select store).map fun rows => window.cut (sortRows terms rows)

def chunks {α : Type} (size : Nat) (xs : List α) : List (List α) :=
  if _h : size = 0 ∨ xs = [] then [] else xs.take size :: chunks size (xs.drop size)
termination_by xs.length
decreasing_by
  have : xs.length ≠ 0 := fun e => _h (.inr (List.eq_nil_of_length_eq_zero e))
  simp only [List.length_drop]
  omega

def reviewChunk : Nat := 500

def reviewsOfAll (store : Store) (books : List BookId) : Except EngineError (List Review) :=
  (store.reviews.rows.filter fun row => books.any row.isOf).mapM Row.toReview

/-- Give books their reviews, which are read in chunks in the order of the books. -/
def attachReviews (store : Store) (books : List Book) : Except EngineError (List Book) := do
  let read ← (chunks reviewChunk (books.filterMap (·.id))).mapM (reviewsOfAll store)
  let reviews := read.flatten
  return books.map fun book => { book with reviews := reviews.filter (·.bookId == book.id) }

/-- The books of a query. Every check of the request comes before the store is asked, every book row
of the window is read before any review. -/
def findBooks (store : Store) (filter : Filter) (request : PageRequest) (extra : Nat) :
    Except RepositoryError (List Book) := do
  let terms ← request.sort.resolve
  let window ← Window.ofRequest request extra
  let rows ← (selectRows store filter terms window).mapError .engine
  let books ← rows.mapM Row.toBook
  (attachReviews store books).mapError .engine

def countBooks (store : Store) (filter : Filter) : Except RepositoryError Nat :=
  ((filter.select store).map List.length).mapError .engine

end Catalogue
