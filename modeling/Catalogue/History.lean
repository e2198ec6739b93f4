import Catalogue.Opening
import Catalogue.Repository.Reviews
import Catalogue.Service

/-! What clients can do to a catalogue, as values: the writes of the repository and of the service, and
what can be asked of it. A history is a list of them, carried out one after another, and the connections
that a new database reaches by histories are those that any client ever works on. -/

set_option autoImplicit false

namespace Catalogue

inductive Write where
  | save (book : Book)
  | saveAll (books : List Book)
  | deleteById (id : BookId)
  | delete (book : Book)
  | deleteAll
  | create (title : String) (pages : Int32)
  | rename (id : BookId) (title : String)
  | addReview (id : BookId) (reviewer content : String)
  | remove (id : BookId)
  deriving DecidableEq, Repr

namespace Write

def perform (c : Connection) : Write → Connection
  | save book => (Books.save book c).connection
  | saveAll books => (Books.saveAll books c).connection
  | deleteById id => (Books.deleteById id c).connection
  | delete book => (Books.delete book c).connection
  | deleteAll => (Books.deleteAll c).connection
  | create title pages => ((Service.create title pages).run c).connection
  | rename id title => ((Service.rename id title).run c).connection
  | addReview id reviewer content => ((Service.addReview id reviewer content).run c).connection
  | remove id => ((Service.delete id).run c).connection

def performAll (c : Connection) (writes : List Write) : Connection := writes.foldl perform c

end Write

/-- What clients can ask. The reads of the service are among them. -/
inductive Query where
  | find (id : BookId)
  | contains (id : BookId)
  | count
  | all
  | page (request : PageRequest)
  | slice (request : PageRequest)
  | longerThan (pages : Int32) (request : PageRequest)
  | titleLike (pattern : String) (request : PageRequest)
  | countTitleLike (pattern : String)
  | review (id : ReviewId)
  | reviewsOf (book : BookId)
  | countReviews
  | countReviewsOf (book : BookId)
  deriving DecidableEq, Repr

namespace Query

def Answer : Query → Type
  | find _ => Option Book
  | contains _ => Bool
  | all | longerThan _ _ => List Book
  | page _ | titleLike _ _ => Page Book
  | slice _ => Slice Book
  | review _ => Option Review
  | reviewsOf _ => List Review
  | count | countTitleLike _ | countReviews | countReviewsOf _ => Nat

def answer (store : Store) : (query : Query) → Except RepositoryError query.Answer
  | find id => Books.find? store id
  | contains id => .ok (Books.contains store id)
  | count => Books.count store
  | all => Books.all store
  | page request => Books.page store request
  | slice request => Books.slice store request
  | longerThan pages request => Books.longerThan store pages request
  | titleLike pattern request => Books.titleLike store pattern request
  | countTitleLike pattern => Books.countTitleLike store pattern
  | review id => Reviews.find? store id
  | reviewsOf book => Reviews.ofBook store book
  | countReviews => .ok (Reviews.count store)
  | countReviewsOf book => .ok (Reviews.countOfBook store book)

end Query

inductive Operation where
  | write (change : Write)
  | read (query : Query)
  deriving DecidableEq, Repr

namespace Operation

def perform (c : Connection) : Operation → Connection
  | write change => change.perform c
  | read _ => c

def performAll (c : Connection) (operations : List Operation) : Connection := operations.foldl perform c

end Operation

/-- The connections to a database that nothing but the catalogue has written to. -/
inductive Reached : Connection → Prop where
  | opened {c : Connection} {medium : Medium} {writing : Writing} {elapsed : Nat} :
      (openDatabase medium (.store .empty writing) elapsed).result = .ok c → Reached c
  | reopened {c d : Connection} {writing : Writing} {elapsed : Nat} : Reached c →
      (openDatabase .file (.store c.durable writing) elapsed).result = .ok d → Reached d
  | written {c : Connection} (write : Write) : Reached c → Reached (write.perform c)

/-- The connections that come after one, as clients write and the file is closed and opened again. -/
inductive Reaches (start : Connection) : Connection → Prop where
  | here : Reaches start start
  | reopened {c d : Connection} {writing : Writing} {elapsed : Nat} : Reaches start c →
      (openDatabase .file (.store c.durable writing) elapsed).result = .ok d → Reaches start d
  | written {c : Connection} (write : Write) : Reaches start c → Reaches start (write.perform c)

end Catalogue
