import Mathlib.Data.List.Sort
import Catalogue.Repository.Row

/-! Rows as saving writes them, and the books and reviews that are read back from them. -/

set_option autoImplicit false

namespace Catalogue

def Book.cells (book : Book) : BookCells := ⟨.text book.title, .int book.pages.toInt⟩

def Review.cells (review : Review) (book : BookId) : ReviewCells :=
  ⟨.text review.reviewer, .text review.content, .int book⟩

def Cell.characters : Cell → String
  | .text s => s
  | _ => ""

def Cell.number : Cell → Int
  | .int n => n
  | _ => 0

def Row.review (row : Row ReviewCells) : Review :=
  ⟨some row.id, row.cells.reviewer.characters, row.cells.content.characters, some row.cells.bookId.number⟩

def Row.book (row : Row BookCells) : Book :=
  ⟨some row.id, row.cells.title.characters, Int32.ofInt row.cells.pages.number, []⟩

theorem Row.review_of_cells (id : ReviewId) (review : Review) (book : BookId) :
    Row.review ⟨id, review.cells book⟩ = review.stamp id book := rfl

theorem Row.book_of_cells (id : BookId) (book : Book) :
    Row.book ⟨id, book.cells⟩ = ⟨some id, book.title, book.pages, []⟩ := by
  simp [Row.book, Book.cells, Cell.characters, Cell.number, Int32.ofInt_toInt]

theorem Row.isOf_cells (id : ReviewId) (review : Review) (owner book : BookId) :
    Row.isOf ⟨id, review.cells owner⟩ book = (owner == book) := Row.isOf_of_int rfl

theorem Row.toReview_cells (id : ReviewId) (review : Review) (book : BookId) :
    Row.toReview ⟨id, review.cells book⟩ = .ok (Row.review ⟨id, review.cells book⟩) := rfl

theorem toInt32_toInt (pages : Int32) (index : Nat) (column : String) :
    (Cell.int pages.toInt).toInt32 index column = .ok pages := by
  have low := pages.le_toInt
  have high := pages.toInt_lt
  have inRange : IntRange.int32.contains pages.toInt = true := by
    rw [IntRange.contains_iff]
    simp only [IntRange.int32]
    omega
  simp [Cell.toInt32, inRange]

theorem Row.toBook_cells (id : BookId) {book : Book} (valid : ¬ book.pages < 0) :
    Row.toBook ⟨id, book.cells⟩ = .ok (Row.book ⟨id, book.cells⟩) := by
  rw [Row.book_of_cells]
  simp [Row.toBook, Book.cells, toInt32_toInt, Cell.toText, Book.validate, valid, bind, Except.bind,
    pure, Except.pure]

end Catalogue
