import Catalogue.Service

/-! Two use cases under way on one database, request by request: the requests of one may come between
those of the other, and each request is carried out as a whole. -/

set_option autoImplicit false

namespace Catalogue

inductive Turn where
  | first
  | second
  deriving DecidableEq, Repr

/-- What remains of both use cases, and the connection that they share. -/
structure Interleaving (α β : Type) where
  first : UseCase α
  second : UseCase β
  connection : Connection

namespace Interleaving

variable {α β : Type}

/-- Carry out one request; a use case that is over leaves its turn unused. -/
def step (both : Interleaving α β) : Turn → Interleaving α β
  | .first =>
    let (first, connection, _) := both.first.step both.connection
    { both with first, connection }
  | .second =>
    let (second, connection, _) := both.second.step both.connection
    { both with second, connection }

def run (both : Interleaving α β) (turns : List Turn) : Interleaving α β := turns.foldl step both

def results? (both : Interleaving α β) : Option (Except ServiceError α × Except ServiceError β) :=
  match both.first, both.second with
  | .done a, .done b => some (a, b)
  | _, _ => none

end Interleaving

end Catalogue
