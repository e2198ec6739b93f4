import Catalogue.Store.Basic

/-! A connection: the store as its statements see it, the transaction it may have open, its two switches,
and whether the file behind it takes what is written. -/

set_option autoImplicit false

namespace Catalogue

inductive Writing where
  | allowed
  | readOnly
  /-- No journal can be made beside the file, and without one nothing in it is changed. -/
  | unjournaled
  deriving DecidableEq, Repr

structure Connection where
  store : Store
  /-- The store as the open transaction found it. -/
  backup : Option Store
  foreignKeys : Bool
  queryOnly : Bool
  writing : Writing
  deriving DecidableEq

namespace Connection

/-- A new connection checks references and has no transaction open. -/
def opened (store : Store) (writing : Writing) : Connection := ⟨store, none, true, false, writing⟩

def on (store : Store) : Connection := opened store .allowed

instance : Inhabited Connection := ⟨on .empty⟩

/-- What a statement that writes is refused with. A missing journal is noticed only where the statement
comes to change the file. -/
def refusalOf? (c : Connection) (changes : Bool) : Option EngineError :=
  if c.queryOnly then some .readOnly
  else match c.writing with
    | .allowed => none
    | .readOnly => some .readOnly
    | .unjournaled => if changes then some .companionClosed else none

def refusal? (c : Connection) : Option EngineError := c.refusalOf? true

-- A statement that is refused though it changes nothing is refused whatever it does.
theorem refusalOf?_of_refused {c : Connection} {e : EngineError} (refused : c.refusalOf? false = some e)
    (changes : Bool) : c.refusalOf? changes = some e := by
  unfold refusalOf? at refused ⊢
  split at refused
  · rwa [if_pos ‹_›]
  · cases writing : c.writing <;> simp_all

theorem refusalOf?_of_allowed {c : Connection} (allowed : c.refusal? = none) (changes : Bool) :
    c.refusalOf? changes = none := by
  cases changes with
  | true => exact allowed
  | false =>
    cases refused : c.refusalOf? false with
    | none => rfl
    | some e => exact absurd allowed (by simp [refusal?, refusalOf?_of_refused refused])

theorem refusalOf?_false_of_allowed {c : Connection} {changes : Bool} (allowed : c.refusalOf? changes = none) :
    c.refusalOf? false = none := by
  cases refused : c.refusalOf? false with
  | none => rfl
  | some e => exact absurd allowed (by simp [refusalOf?_of_refused refused])

theorem refusalOf?_or (c : Connection) (first second : Bool) :
    c.refusalOf? (first || second) = none ↔ c.refusalOf? first = none ∧ c.refusalOf? second = none := by
  cases first with
  | false => exact ⟨fun allowed => ⟨refusalOf?_false_of_allowed allowed, allowed⟩, And.right⟩
  | true => exact ⟨fun allowed => ⟨allowed, refusalOf?_of_allowed allowed second⟩, And.left⟩

def inTransaction (c : Connection) : Bool := c.backup.isSome

def durable (c : Connection) : Store := c.backup.getD c.store

def begin (c : Connection) : Except EngineError Connection :=
  if c.inTransaction then .error .nestedTransaction else .ok { c with backup := some c.store }

def commit (c : Connection) : Except EngineError Connection :=
  if c.inTransaction then .ok { c with backup := none } else .error .nothingToCommit

def rollback (c : Connection) : Except EngineError Connection :=
  match c.backup with
  | some store => .ok { c with store, backup := none }
  | none => .error .nothingToRollBack

def abandon (c : Connection) : Connection := { c with store := c.durable, backup := none }

/-- References are checked or not; inside a transaction the switch does nothing. -/
def setForeignKeys (c : Connection) (enforced : Bool) : Connection :=
  if c.inTransaction then c else { c with foreignKeys := enforced }

def setQueryOnly (c : Connection) (queryOnly : Bool) : Connection := { c with queryOnly }

end Connection

end Catalogue
