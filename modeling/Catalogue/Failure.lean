import Catalogue.Book
import Catalogue.Store.Error

/-! Why opening a database, a repository access or a service call fails. `causes` lists the texts of
the errors behind an error, the nearest first. -/

set_option autoImplicit false

namespace Catalogue

section

variable {ε ζ α : Type}

@[simp] theorem mapError_ok (f : ε → ζ) (a : α) : (Except.ok a : Except ε α).mapError f = .ok a := rfl

@[simp] theorem mapError_error (f : ε → ζ) (e : ε) : (Except.error e : Except ε α).mapError f = .error (f e) := rfl

theorem mapError_eq_ok {result : Except ε α} {f : ε → ζ} {a : α} : result.mapError f = .ok a ↔ result = .ok a := by
  cases result <;> simp

end

inductive DatabaseError where
  | engine (error : EngineError)
  /-- A migration failed; nothing of the call that ran it is applied. -/
  | migration (version : Nat) (error : EngineError)
  | unsupportedVersion (found latest : Nat)
  deriving DecidableEq, Repr

namespace DatabaseError

def message : DatabaseError → String
  | engine error => error.message
  | migration version error => s!"schema migration {version} failed: {error.message}"
  | unsupportedVersion found latest => s!"database schema version {found} is newer than supported {latest}"

def causes : DatabaseError → List String
  | engine error | migration _ error => error.message :: error.causes
  | unsupportedVersion _ _ => []

end DatabaseError

inductive RepositoryError where
  | validation (fault : BookFault)
  | database (error : DatabaseError)
  | bookNotFound (id : BookId)
  | reviewNotFound (id : ReviewId)
  | invalidData (detail : String)
  | invalidRequest (detail : String)
  | invalidSort (property : String)
  | uninitialized (expected actual : Nat)
  | missingTable (table : String)
  | missingColumn (table column : String)
  deriving DecidableEq, Repr

namespace RepositoryError

def engine (error : EngineError) : RepositoryError := .database (.engine error)

def repeatedReview (id : ReviewId) : RepositoryError :=
  .invalidData s!"review {id} appears more than once in one batch"

def zeroSize : RepositoryError := .invalidRequest "page size must be greater than zero"

def offsetOutOfRange (number size : UInt32) : RepositoryError :=
  .invalidRequest s!"offset of page {number.toNat} with size {size.toNat} is out of range"

def message : RepositoryError → String
  | validation fault => fault.message
  | database error => error.message
  | bookNotFound id => s!"book not found: {id}"
  | reviewNotFound id => s!"review not found: {id}"
  | invalidData detail => s!"invalid persisted data: {detail}"
  | invalidRequest detail => s!"invalid page request: {detail}"
  | invalidSort property => "cannot sort by unknown property `" ++ property ++ "`"
  | uninitialized expected actual =>
    s!"connection schema version {actual} does not match required {expected}; open it with db::open_db"
  | missingTable table => "required table `" ++ table ++ "` is missing"
  | missingColumn table column => "required column `" ++ table ++ "." ++ column ++ "` is missing"

def causes : RepositoryError → List String
  | validation fault => [fault.message]
  | database error => error.message :: error.causes
  | _ => []

end RepositoryError

inductive ServiceError where
  | bookNotFound (id : BookId)
  | repository (error : RepositoryError)
  /-- A write succeeded, but the book was gone when it was read back. -/
  | inconsistent (detail : String)
  deriving DecidableEq, Repr

namespace ServiceError

/-- A missing book is the service's own failure; every other one is the repository's. -/
def ofRepository : RepositoryError → ServiceError
  | .bookNotFound id => .bookNotFound id
  | error => .repository error

def message : ServiceError → String
  | bookNotFound id => s!"book not found: {id}"
  | repository error => error.message
  | inconsistent detail => s!"inconsistent book state: {detail}"

def causes : ServiceError → List String
  | repository error => error.message :: error.causes
  | _ => []

end ServiceError

end Catalogue
