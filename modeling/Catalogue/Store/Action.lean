import Catalogue.Event
import Catalogue.Store.Connection

/-! Work against one connection. An action ends with an answer or an error, and either way leaves a
connection and the events it reported: a failure alone undoes nothing, a transaction does. -/

set_option autoImplicit false

namespace Catalogue

structure Reply (ε α : Type) where
  result : Except ε α
  connection : Connection
  events : List Event

def Action (ε α : Type) := Connection → Reply ε α

namespace Action

variable {ε ζ α β : Type}

protected def pure (a : α) : Action ε α := fun c => ⟨.ok a, c, []⟩

protected def bind (x : Action ε α) (f : α → Action ε β) : Action ε β := fun c =>
  match x c with
  | ⟨.ok a, c, events⟩ =>
    let reply := f a c
    { reply with events := events ++ reply.events }
  | ⟨.error e, c, events⟩ => ⟨.error e, c, events⟩

instance : Monad (Action ε) where
  pure := Action.pure
  bind := Action.bind

theorem pure_apply (a : α) (c : Connection) : (pure a : Action ε α) c = ⟨.ok a, c, []⟩ := rfl

theorem bind_apply_ok {x : Action ε α} {f : α → Action ε β} {c d : Connection} {a : α} {events : List Event}
    (h : x c = ⟨.ok a, d, events⟩) : (x >>= f) c = { f a d with events := events ++ (f a d).events } := by
  simp only [Bind.bind, Action.bind, h]

theorem bind_apply_error {x : Action ε α} {f : α → Action ε β} {c d : Connection} {e : ε}
    {events : List Event} (h : x c = ⟨.error e, d, events⟩) : (x >>= f) c = ⟨.error e, d, events⟩ := by
  simp only [Bind.bind, Action.bind, h]

theorem id_map (x : Action ε α) : id <$> x = x := by
  funext c
  simp only [Functor.map, Action.bind, Action.pure, Function.comp]
  rcases x c with ⟨_ | _, _, _⟩ <;> simp

theorem pure_bind (a : α) (f : α → Action ε β) : pure a >>= f = f a := by
  funext c
  simp [Bind.bind, Action.bind, Pure.pure, Action.pure]

theorem bind_assoc {γ : Type} (x : Action ε α) (f : α → Action ε β) (g : β → Action ε γ) :
    x >>= f >>= g = x >>= fun a => f a >>= g := by
  funext c
  simp only [Bind.bind, Action.bind]
  rcases x c with ⟨_ | a, d, _⟩
  · rfl
  · simp only
    rcases f a d with ⟨_ | _, _, _⟩ <;> simp

instance : LawfulMonad (Action ε) := LawfulMonad.mk' (Action ε) id_map pure_bind bind_assoc

def fail (e : ε) : Action ε α := fun c => ⟨.error e, c, []⟩

def ofExcept (result : Except ε α) : Action ε α := fun c => ⟨result, c, []⟩

def mapError (f : ε → ζ) (x : Action ε α) : Action ζ α := fun c =>
  let reply := x c
  ⟨reply.result.mapError f, reply.connection, reply.events⟩

def report (event : Event) : Action ε Unit := fun c => ⟨.ok (), c, [event]⟩

def reportingError (event : ε → Event) (x : Action ε α) : Action ε α := fun c =>
  match x c with
  | ⟨.ok a, c, events⟩ => ⟨.ok a, c, events⟩
  | ⟨.error e, c, events⟩ => ⟨.error e, c, events ++ [event e]⟩

def query (f : Store → Except ε α) : Action ε α := fun c => ⟨f c.store, c, []⟩

/-- A statement that writes, told whether references are enforced; `changes` says by that and by the
answer whether it changes the file. A statement that fails leaves the store as it was, except that running
out of ids also undoes the open transaction. -/
def write (changes : Bool → α → Bool) (f : Bool → Store → Except EngineError (α × Store)) :
    Action EngineError α := fun c =>
  match c.refusalOf? false with
  | some e => ⟨.error e, c, []⟩
  | none =>
    match f c.foreignKeys c.store with
    | .ok (a, store) =>
      match c.refusalOf? (changes c.foreignKeys a) with
      | some e => ⟨.error e, c, []⟩
      | none => ⟨.ok a, { c with store }, []⟩
    | .error .full => ⟨.error .full, c.abandon, []⟩
    | .error e => ⟨.error e, c, []⟩

def writeAlways (f : Bool → Store → Except EngineError (α × Store)) : Action EngineError α :=
  write (fun _ _ => true) f

/-- A statement that answers how many rows it changed. A row counts as changed also where it is given the
values that it has. -/
def writeCounted (f : Bool → Store → Except EngineError (Nat × Store)) : Action EngineError Nat :=
  write (fun _ changed => changed != 0) f

/-- Do all of the work or nothing of it. `refused` wraps the refusal to begin inside another
transaction. No other connection holds a lock and the file does not fail, so a commit is not refused. -/
def transaction (refused : EngineError → ε) (body : Action ε α) : Action ε α := fun c =>
  match c.begin with
  | .error e => ⟨.error (refused e), c, []⟩
  | .ok c =>
    match body c with
    | ⟨.ok a, c, events⟩ => ⟨.ok a, { c with backup := none }, events⟩
    | ⟨.error e, c, events⟩ => ⟨.error e, c.abandon, events⟩

end Action

end Catalogue
