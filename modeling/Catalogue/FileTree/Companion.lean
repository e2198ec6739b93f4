import Catalogue.FileTree
import Catalogue.Location

/-! What stands beside a database and belongs to it: the journal of an unfinished transaction, the log of
pages that are not in the database yet, with its index, and a lock. Such files may be left over, or be
something else by the same name; they are seen to before a database is first read.

A database of which nothing was ever kept is an empty file, which is called blank here. -/

set_option autoImplicit false

namespace Catalogue

inductive Companion where
  | journal
  | log
  | index
  /-- A directory that stands for a lock. -/
  | lock
  deriving DecidableEq, Repr

namespace Companion

def ending : Companion → String
  | journal => "-journal"
  | log => "-wal"
  | index => "-shm"
  | lock => ".lock"

def nameBeside (place : NodePath) (companion : Companion) : String :=
  place.getLast?.getD "" ++ companion.ending

def beside (place : NodePath) (companion : Companion) : NodePath :=
  place.dropLast ++ [companion.nameBeside place]

def fits (place : NodePath) (companion : Companion) : Bool :=
  Text.size (companion.nameBeside place) ≤ FileTree.nameLimit

end Companion

namespace FileTree

/-- A companion that counts; empty files do not. -/
def companion? (tree : FileTree) (place : NodePath) (companion : Companion) : Option Node :=
  match tree.node? (companion.beside place) with
  | some (.database store) => if store = .empty then none else some (.database store)
  | node? => node?

def discard (tree : FileTree) (place : NodePath) (companion : Companion) : FileTree :=
  match tree.node? (companion.beside place) with
  | some .directory => tree
  | _ => tree.erase (companion.beside place)

/-- A look at the files, which may change some of them and may fail all the same. -/
abbrev Visit := ExceptT EngineError (StateM FileTree)

def takeLock (location : Location) (place : NodePath) : Visit Unit := do
  if location.locksByDirectory then
    if !Companion.lock.fits place then throw .lockFailed
    if ((← get).node? (Companion.lock.beside place)).isSome then throw .locked

/-- See to a journal. It goes: a blank database needs none, and in another one it turns out to restore
nothing. Who only reads cannot find that out, and has no lock under which to remove it. -/
def settleJournal (location : Location) (place : NodePath) (blank : Bool) : Visit Unit := do
  match (← get).companion? place .journal, blank with
  | none, _ | some .directory, true => pure ()
  | some .directory, false => throw .unreadable
  | some _, true =>
    if !(location.isReadOnly && location.locksRegions) then modify (·.discard place .journal)
  | some _, false =>
    if location.isReadOnly then throw .journalLeft else modify (·.discard place .journal)

/-- See to a log. A blank database has none. That of another one is moved into it when it is closed, and
both log and index go; who only reads makes the index and leaves both. -/
def settleLog (location : Location) (place : NodePath) (blank : Bool) : Visit Unit := do
  match (← get).companion? place .log, blank with
  | none, _ => pure ()
  | some .directory, true => throw .undeletable
  | some _, true => modify (·.discard place .log)
  | some node, false =>
    match location.locksRegions, node with
    | false, _ | true, .directory => throw .companionClosed
    | true, _ =>
      if location.isReadOnly then modify (·.put (Companion.index.beside place) .foreign)
      else
        modify (·.discard place .log)
        if location.fileSystem == "unix" then modify (·.discard place .index)

def settle (location : Location) (place : NodePath) (blank : Bool) : Visit Unit := do
  takeLock location place
  settleJournal location place blank
  settleLog location place blank

end FileTree

end Catalogue
