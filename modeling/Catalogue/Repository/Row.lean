import Catalogue.Failure
import Catalogue.Store.Basic

/-! Rows read as books and reviews, column by column; the first column that cannot be read decides. -/

set_option autoImplicit false

namespace Catalogue

def Row.toReview (row : Row ReviewCells) : Except EngineError Review := do
  let reviewer ← row.cells.reviewer.toText 1 "reviewer"
  let content ← row.cells.content.toText 2 "content"
  let bookId ← row.cells.bookId.toKey? 3 "book_id"
  return ⟨some row.id, reviewer, content, bookId⟩

def Row.toBook (row : Row BookCells) : Except RepositoryError Book := do
  let title ← (row.cells.title.toText 1 "title").mapError .engine
  let pages ← (row.cells.pages.toInt32 2 "pages").mapError .engine
  let book : Book := ⟨some row.id, title, pages, []⟩
  book.validate.mapError .validation
  return book

end Catalogue
