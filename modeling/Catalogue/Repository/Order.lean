import Catalogue.Failure
import Catalogue.Page
import Catalogue.Store.Basic

/-! The order of a query's rows: the terms of a request as columns of the book table, with the id as
the last resort, so that no two rows tie. -/

set_option autoImplicit false

namespace Catalogue

inductive SortColumn where
  | id
  | title
  | pages
  deriving DecidableEq, Repr

namespace SortColumn

def ofProperty? : String → Option SortColumn
  | "id" => some .id
  | "title" => some .title
  | "pages" => some .pages
  | _ => none

def compare (column : SortColumn) (a b : Row BookCells) : Ordering :=
  match column with
  | .id => Ord.compare a.id b.id
  | .title => a.cells.title.compare b.cells.title
  | .pages => a.cells.pages.compare b.cells.pages

end SortColumn

structure ColumnTerm where
  column : SortColumn
  direction : Direction
  deriving DecidableEq, Repr

namespace ColumnTerm

def compare (term : ColumnTerm) (a b : Row BookCells) : Ordering :=
  match term.direction with
  | .asc => term.column.compare a b
  | .desc => (term.column.compare a b).swap

def compareAll : List ColumnTerm → Row BookCells → Row BookCells → Ordering
  | [], _, _ => .eq
  | term :: rest, a, b => (term.compare a b).then (compareAll rest a b)

end ColumnTerm

namespace Sorting

def columnTerms : List SortTerm → Except RepositoryError (List ColumnTerm)
  | [] => .ok []
  | term :: rest =>
    match SortColumn.ofProperty? term.property with
    | none => .error (.invalidSort term.property)
    | some column => (⟨column, term.direction⟩ :: ·) <$> columnTerms rest

/-- The terms of an ordering; one that does not name the id ends with it, so that no two rows tie. -/
def resolve (sorting : Sorting) : Except RepositoryError (List ColumnTerm) :=
  (columnTerms sorting.orders).map fun terms =>
    if terms.any (·.column == .id) then terms else terms ++ [⟨.id, .asc⟩]

end Sorting

def sortRows (terms : List ColumnTerm) (rows : List (Row BookCells)) : List (Row BookCells) :=
  rows.mergeSort fun a b => (ColumnTerm.compareAll terms a b).isLE

end Catalogue
