import Catalogue.History
import Catalogue.Repository.InPlace

/-! The ids that clients are given as they write: the ids returned for books that had none, and those written into
their reviews that had none. A write that fails gives out none, and neither does a deletion. -/

set_option autoImplicit false

namespace Catalogue

def newIds (had got : List (Option Int)) : List Int :=
  (had.zip got).filterMap fun entry => if entry.1.isNone then entry.2 else none

/-- The ids that were given out, to books and to reviews, in order. -/
structure Receipt where
  books : List BookId
  reviews : List ReviewId
  deriving DecidableEq, Repr

namespace Receipt

def empty : Receipt := ⟨[], []⟩

def append (first later : Receipt) : Receipt := ⟨first.books ++ later.books, first.reviews ++ later.reviews⟩

instance : Append Receipt := ⟨append⟩

/-- What a caller is given for its books: the ids that are returned, and those in the books that it holds then. -/
def ofSaved (books : List Book) (answer : Except RepositoryError (List BookId)) (held : List Book) : Receipt where
  books := newIds (books.map (·.id)) ((answer.toOption.getD []).map some)
  reviews := newIds (books.flatMap (·.reviews.map (·.id))) (held.flatMap (·.reviews.map (·.id)))

end Receipt

namespace Books

def saveReceipt (book : Book) (c : Connection) : Receipt :=
  let saved := saveInPlace book c
  .ofSaved [book] (saved.reply.result.map ([·])) [saved.held]

def saveAllReceipt (books : List Book) (c : Connection) : Receipt :=
  let saved := saveAllInPlace books c
  .ofSaved books saved.reply.result saved.held

end Books

def UseCase.receipt {α : Type} : UseCase α → Connection → Receipt
  | .done _, _ => .empty
  | .find id next, c =>
    match Books.find? c.store id with
    | .ok book? => (next book?).receipt c
    | .error _ => .empty
  | .contains id next, c => (next (Books.contains c.store id)).receipt c
  | .save book next, c =>
    match (Books.save book c).result with
    | .ok saved => Books.saveReceipt book c ++ (next saved.1).receipt (Books.save book c).connection
    | .error _ => Books.saveReceipt book c
  | .delete id next, c =>
    match (Books.deleteById id c).result with
    | .ok _ => next.receipt (Books.deleteById id c).connection
    | .error _ => .empty

def Write.receipt (c : Connection) : Write → Receipt
  | save book => Books.saveReceipt book c
  | saveAll books => Books.saveAllReceipt books c
  | deleteById _ | delete _ | deleteAll => .empty
  | create title pages => (Service.create title pages).receipt c
  | rename id title => (Service.rename id title).receipt c
  | addReview id reviewer content => (Service.addReview id reviewer content).receipt c
  | remove id => (Service.delete id).receipt c

/-- The connections that come after one, and the ids that are given out on the way there. -/
inductive Course (start : Connection) : Receipt → Connection → Prop where
  | here : Course start .empty start
  | reopened {receipt : Receipt} {c d : Connection} {writing : Writing} {elapsed : Nat} : Course start receipt c →
      (openDatabase .file (.store c.durable writing) elapsed).result = .ok d → Course start receipt d
  | written {receipt : Receipt} {c : Connection} (write : Write) : Course start receipt c →
      Course start (receipt ++ write.receipt c) (write.perform c)

end Catalogue
