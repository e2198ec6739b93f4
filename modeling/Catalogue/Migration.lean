import Catalogue.Store.Action

/-! The migrations that build the schema, and how the pending ones are applied: all in one transaction,
in the order of their versions, each followed by the version it reaches. -/

set_option autoImplicit false

namespace Catalogue

/-- A definition that a script asks for; what exists already is left alone. -/
inductive Definition where
  | table (relation : Relation)
  | index (name : String) (relation : Relation) (column : String)
  deriving DecidableEq, Repr

structure Migration where
  version : Nat
  script : List Definition
  deriving DecidableEq, Repr

namespace Migration

def all : List Migration := [
  ⟨1, [.table .books, .table .reviews]⟩,
  ⟨2, [
    .index "idx_reviews_book_id" .reviews "book_id",
    .index "idx_books_pages" .books "pages",
    .index "idx_books_title" .books "title"]⟩]

def latest : Nat := (all.getLast?.map (·.version)).getD 0

end Migration

/-- The schema after a definition, or none if what it asks for is there. -/
def Definition.extend (schema : Schema) : Definition → Except EngineError (Option Schema)
  | .table relation =>
    if (schema.table? relation.name).isSome || (schema.view? relation.name).isSome then .ok none
    else some <$> schema.createTable relation.name relation.columns
  | .index name relation column => do
    let extended ← schema.ensureIndex name relation.name column
    return if extended = schema then none else some extended

def Definition.run (definition : Definition) : Action EngineError Unit := do
  match ← Action.query fun store => definition.extend store.schema with
  | none => pure ()
  | some schema => Action.writeAlways fun _ store => .ok ((), { store with schema })

def setUserVersion (version : Int) : Action EngineError Unit :=
  Action.writeAlways fun _ store => .ok ((), { store with userVersion := version })

namespace Migration

def runScript : List Definition → Action EngineError Unit
  | [] => pure ()
  | definition :: rest => do definition.run; runScript rest

def run (migration : Migration) : Action EngineError Unit := do
  runScript migration.script
  setUserVersion migration.version

/-- Apply migrations in order to a store that was at version `start`. -/
def runAll (start : Nat) : List Migration → Action DatabaseError Unit
  | [] => pure ()
  | migration :: rest => do
    migration.run.mapError (.migration migration.version)
    Action.report (.migrated migration.version start)
    runAll start rest

def pending (version : Nat) : List Migration := all.filter (version < ·.version)

def apply : Action DatabaseError Unit := do
  let version ← (Action.query Store.version?).mapError .engine
  if latest < version then Action.fail (.unsupportedVersion version latest)
  else if version = latest then pure ()
  else Action.transaction .engine (runAll version (pending version))

end Migration

end Catalogue
