import Catalogue.Book
import Catalogue.Failure
import Catalogue.IntRange
import Catalogue.Page

/-! What a page request asks for: which requests are at fault, the order of books, and the stretch of a list. -/

set_option autoImplicit false

namespace Catalogue

namespace SortTerm

/-- Books by a property: by number, or by title, character by character. -/
def ascending : String → Book → Book → Ordering
  | "id" => compareOn fun book => book.id.getD 0
  | "title" => compareOn (·.title)
  | "pages" => compareOn (·.pages.toInt)
  | _ => fun _ _ => .eq

def compare (term : SortTerm) (a b : Book) : Ordering :=
  match term.direction with
  | .asc => ascending term.property a b
  | .desc => ascending term.property b a

def lexicographic (terms : List SortTerm) : Book → Book → Ordering :=
  terms.foldr (fun term rest => compareLex term.compare rest) fun _ _ => .eq

end SortTerm

namespace Sorting

def unknown? (sorting : Sorting) : Option String :=
  (sorting.orders.map (·.property)).find? (· ∉ ["id", "title", "pages"])

/-- The terms of an ordering, with the id after them if none of them is the id. -/
def keys (sorting : Sorting) : List SortTerm :=
  if sorting.orders.any (·.property == "id") then sorting.orders else sorting.orders ++ [⟨"id", .asc⟩]

def compare (sorting : Sorting) : Book → Book → Ordering := SortTerm.lexicographic sorting.keys

end Sorting

namespace PageRequest

def windowFault? (request : PageRequest) : Option RepositoryError :=
  match request.size with
  | none => none
  | some size =>
    if size = 0 then some .zeroSize
    else if IntRange.int64.high < request.offset then some (.offsetOutOfRange request.number size)
    else none

/-- What is wrong with a request: an unknown property, or else its window. -/
def fault? (request : PageRequest) : Option RepositoryError :=
  (request.sort.unknown?.map .invalidSort).or request.windowFault?

def cut {α : Type} (request : PageRequest) (xs : List α) : List α :=
  match request.size with
  | none => xs
  | some size => (xs.drop (request.number.toNat * size.toNat)).take size.toNat

def endsBefore (request : PageRequest) (length : Nat) : Bool :=
  request.size.any fun size => (request.number.toNat + 1) * size.toNat < length

end PageRequest

end Catalogue
