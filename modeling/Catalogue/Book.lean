/-! Books and the reviews they own. -/

set_option autoImplicit false

namespace Catalogue

/-- A stored key: a signed 64-bit number that the store hands out. -/
abbrev BookId := Int

abbrev ReviewId := Int

/-- A reader's review. It has no id until its book is saved, and then names that book. -/
structure Review where
  id : Option ReviewId
  reviewer : String
  content : String
  bookId : Option BookId
  deriving DecidableEq, Repr

namespace Review

def new (reviewer content : String) : Review := ⟨none, reviewer, content, none⟩

def isPersisted (review : Review) : Bool := review.id.isSome

def stamp (review : Review) (id : ReviewId) (book : BookId) : Review :=
  { review with id := some id, bookId := some book }

end Review

/-- A book with the reviews it owns. It has no id until it is first saved. -/
structure Book where
  id : Option BookId
  title : String
  pages : Int32
  reviews : List Review
  deriving DecidableEq, Repr

inductive BookFault where
  | negativePages (pages : Int32)
  deriving DecidableEq, Repr

def BookFault.message : BookFault → String
  | .negativePages pages => s!"book pages must not be negative, got {pages.toInt}"

namespace Book

def withReviews (title : String) (pages : Int32) (reviews : List Review) : Book :=
  ⟨none, title, pages, reviews⟩

def new (title : String) (pages : Int32) : Book := withReviews title pages []

instance : Inhabited Book := ⟨new "" 0⟩

def isPersisted (book : Book) : Bool := book.id.isSome

def addReview (book : Book) (review : Review) : Book :=
  { book with reviews := book.reviews ++ [review] }

def validate (book : Book) : Except BookFault Unit :=
  if book.pages < 0 then .error (.negativePages book.pages) else .ok ()

def reviewIds (book : Book) : List ReviewId := book.reviews.filterMap (·.id)

def stamp (book : Book) (id : BookId) (reviewIds : List ReviewId) : Book :=
  { book with
    id := some id
    reviews := book.reviews.zipWith (fun review reviewId => review.stamp reviewId id) reviewIds }

end Book

end Catalogue
