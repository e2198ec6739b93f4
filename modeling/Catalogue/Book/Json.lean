import Catalogue.Book
import Catalogue.Json

/-! The JSON form of books and reviews. Every field is written, always in an object. -/

set_option autoImplicit false

namespace Catalogue

def Review.toJson (review : Review) : Json :=
  .obj [
    ("id", .ofOption .int review.id),
    ("reviewer", .str review.reviewer),
    ("content", .str review.content),
    ("book_id", .ofOption .int review.bookId)]

def Review.ofJson? (json : Json) : Option Review := do
  let fields ← json.record? ["id", "reviewer", "content", "book_id"] 0
  return {
    id := ← Json.nullable Json.int64? fields "id"
    reviewer := ← Json.required Json.str? fields "reviewer"
    content := ← Json.required Json.str? fields "content"
    bookId := ← Json.nullable Json.int64? fields "book_id" }

def Book.toJson (book : Book) : Json :=
  .obj [
    ("id", .ofOption .int book.id),
    ("title", .str book.title),
    ("pages", .int book.pages.toInt),
    ("reviews", .arr (book.reviews.map Review.toJson))]

def Book.ofJson? (json : Json) : Option Book := do
  let fields ← json.record? ["id", "title", "pages", "reviews"] 1
  return {
    id := ← Json.nullable Json.int64? fields "id"
    title := ← Json.required Json.str? fields "title"
    pages := ← Json.required Json.int32? fields "pages"
    reviews := ← Json.defaulted (Json.list? Review.ofJson?) [] fields "reviews" }

end Catalogue
