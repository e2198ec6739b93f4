import Catalogue.Migration

/-! Opening a database: connect, then migrate. -/

set_option autoImplicit false

namespace Catalogue

inductive Found where
  | refused (error : EngineError)
  /-- What is opened there is of no use as a database, which is noticed when it is first used. -/
  | unusable (error : EngineError)
  | store (store : Store) (writing : Writing)

namespace Found

def store? : Found → Option Store
  | store s _ => some s
  | refused _ | unusable _ => none

end Found

structure Opened where
  result : Except DatabaseError Connection
  events : List Event

/-- Connect and apply what migrations are pending. `elapsed` is the time taken, in milliseconds. -/
def openDatabase (medium : Medium) (found : Found) (elapsed : Nat) : Opened :=
  let started := Event.openStarted medium
  let failed step error := Event.openFailed medium elapsed step error
  match found with
  | .refused e => ⟨.error (.engine e), [started, failed .connect (.engine e)]⟩
  | .unusable e => ⟨.error (.engine e), [started, failed .bootstrap (.engine e)]⟩
  | .store store writing =>
    let reply := Migration.apply (.opened store writing)
    match reply.result with
    | .ok () => ⟨.ok reply.connection, started :: reply.events ++ [.opened medium elapsed]⟩
    | .error e => ⟨.error e, started :: reply.events ++ [failed .bootstrap e]⟩

def openInMemory (elapsed : Nat) : Opened := openDatabase .memory (.store .empty .allowed) elapsed

end Catalogue
