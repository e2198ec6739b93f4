/-! Requests for a window of a sorted result, and the two kinds of answer: a slice, which knows
whether more follows, and a page, which knows how much there is in all. -/

set_option autoImplicit false

namespace Catalogue

inductive Direction where
  | asc
  | desc
  deriving DecidableEq, Repr

structure SortTerm where
  property : String
  direction : Direction
  deriving DecidableEq, Repr

structure Sorting where
  orders : List SortTerm
  deriving DecidableEq, Repr

namespace Sorting

def unsorted : Sorting := ⟨[]⟩

def on (term : SortTerm) : Sorting := ⟨[term]⟩

def thenOn (sorting : Sorting) (term : SortTerm) : Sorting := ⟨sorting.orders ++ [term]⟩

def isSorted (sorting : Sorting) : Bool := !sorting.orders.isEmpty

end Sorting

/-- Page `number`, counted from zero, of `size` rows each; no size asks for all rows at once. -/
structure PageRequest where
  number : UInt32
  size : Option UInt32
  sort : Sorting
  deriving DecidableEq, Repr

namespace PageRequest

/-- A size of zero can be asked for, but no query grants it. -/
def ofSize (number size : UInt32) : PageRequest := ⟨number, some size, .unsorted⟩

def unpaged : PageRequest := ⟨0, none, .unsorted⟩

def withSort (request : PageRequest) (sort : Sorting) : PageRequest := { request with sort }

def isUnpaged (request : PageRequest) : Bool := request.size.isNone

def offset (request : PageRequest) : Nat :=
  match request.size with
  | some size => request.number.toNat * size.toNat
  | none => 0

/-- The following page; the last page number and an unpaged request have none and stay. -/
def next (request : PageRequest) : PageRequest :=
  if request.isUnpaged then request
  else { request with number := if request.number = 0xFFFFFFFF then request.number else request.number + 1 }

end PageRequest

structure Slice (α : Type) where
  content : List α
  request : PageRequest
  hasNext : Bool
  deriving DecidableEq, Repr

namespace Slice

variable {α β : Type}

def numberOfElements (slice : Slice α) : Nat := slice.content.length

def isEmpty (slice : Slice α) : Bool := slice.content.isEmpty

def map (f : α → β) (slice : Slice α) : Slice β := ⟨slice.content.map f, slice.request, slice.hasNext⟩

end Slice

structure Page (α : Type) where
  content : List α
  request : PageRequest
  totalSize : Nat
  deriving DecidableEq, Repr

namespace Page

variable {α β : Type}

def numberOfElements (page : Page α) : Nat := page.content.length

/-- A partly filled page counts. Without a usable size all rows are one page. -/
def totalPages (page : Page α) : Nat :=
  match page.request.size with
  | some size =>
    if 0 < size then (page.totalSize + size.toNat - 1) / size.toNat else if 0 < page.totalSize then 1 else 0
  | none => if 0 < page.totalSize then 1 else 0

def hasNext (page : Page α) : Bool := page.request.number.toNat + 1 < page.totalPages

def map (f : α → β) (page : Page α) : Page β := ⟨page.content.map f, page.request, page.totalSize⟩

end Page

end Catalogue
