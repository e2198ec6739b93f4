import Catalogue.Store.Action

/-! Statements that reach the store past the repositories: single rows with any values, and changes of
the schema. What a statement asks of the schema is checked before it may write. -/

set_option autoImplicit false

namespace Catalogue

/-- The key that a value stands for: a null asks for the next one, and what is no integer is refused. -/
def Cell.toNewKey? (id : Cell) : Except EngineError (Option Int) :=
  match id.withAffinity .integer with
  | .null => .ok none
  | .int n => .ok (some n)
  | _ => .error .datatypeMismatch

namespace Table

variable {α : Type}

/-- Store a row under a given key or the next one; `taken` is the refusal of a key in use. -/
def put (table : Table α) (key? : Option Int) (cells : α) (taken : EngineError) :
    Except EngineError (Int × Table α) :=
  match key? with
  | none => table.add cells
  | some key =>
    match table.insert key cells with
    | some table => .ok (key, table)
    | none => .error taken

end Table

namespace Store

def keySpelling (store : Store) (relation : Relation) : String × String :=
  match store.schema.table? relation.name with
  | none => (relation.name, "id")
  | some table => (table.name, ((table.column? "id").map (·.name)).getD "id")

def duplicateKey (store : Store) (relation : Relation) : EngineError :=
  let (table, column) := store.keySpelling relation
  .duplicateKey table column

def nullColumns (columns : List (String × Cell)) : List String :=
  (columns.filter (·.2 == .null)).map (·.1)

def putBook (store : Store) (id title pages : Cell) : Except EngineError (Int × Store) := do
  let key? ← id.toNewKey?
  let cells : BookCells := ⟨title.withAffinity .text, pages.withAffinity .integer⟩
  if key?.isNone then discard <| store.books.add cells
  store.schema.checkValues .books (nullColumns [("title", title), ("pages", pages)])
  let (key, books) ← store.books.put key? cells (store.duplicateKey .books)
  return (key, { store with books })

def putReview (store : Store) (enforced : Bool) (id reviewer content bookId : Cell) :
    Except EngineError (Int × Store) := do
  let key? ← id.toNewKey?
  let cells : ReviewCells :=
    ⟨reviewer.withAffinity .text, content.withAffinity .text, bookId.withAffinity .integer⟩
  if key?.isNone then discard <| store.reviews.add cells
  store.schema.checkValues .reviews (nullColumns [("reviewer", reviewer), ("content", content)])
  let (key, reviews) ← store.reviews.put key? cells (store.duplicateKey .reviews)
  store.checkParent enforced cells.bookId
  return (key, { store with reviews })

def withSchema (store : Store) (change : Schema → Except EngineError Schema) :
    Except EngineError (Unit × Store) :=
  (change store.schema).map fun schema => ((), { store with schema })

/-- Drop a table with its rows. Where references are enforced, dropping the books deletes them first,
and their reviews with them. -/
def dropTable (store : Store) (enforced : Bool) (name : String) : Except EngineError (Unit × Store) := do
  let schema ← store.schema.dropTable name
  if sameName name Relation.books.name then
    let (_, store) := store.deleteBooks enforced fun _ => true
    return ((), { store with schema, books := .empty })
  else if sameName name Relation.reviews.name then return ((), { store with schema, reviews := .empty })
  else return ((), { store with schema })

def dump (store : Store) : Except EngineError (List (Row BookCells) × List (Row ReviewCells)) := do
  store.schema.checkReadable .books
  store.schema.checkReadable .reviews
  return (store.books.rows, store.reviews.rows)

end Store

namespace Direct

def prepared {α β : Type} (check : Bool → Schema → Except EngineError β) (statement : Action EngineError α) :
    Action EngineError α := fun c =>
  match check c.foreignKeys c.store.schema with
  | .ok _ => statement c
  | .error e => ⟨.error e, c, []⟩

def putBook (id title pages : Cell) : Action EngineError Int :=
  prepared (fun _ schema => schema.checkInsertable .books) <|
    Action.writeAlways fun _ store => store.putBook id title pages

def putReview (id reviewer content bookId : Cell) : Action EngineError Int :=
  let check (enforced : Bool) (schema : Schema) : Except EngineError Unit := do
    schema.checkInsertable .reviews
    if enforced then schema.checkParent
  prepared check <| Action.writeAlways fun enforced store => store.putReview enforced id reviewer content bookId

def alter (change : Schema → Except EngineError Schema) : Action EngineError Unit :=
  prepared (fun _ => change) <| Action.writeAlways fun _ store => store.withSchema change

def createTable (name : String) (columns : List String) : Action EngineError Unit :=
  alter (·.createTable name columns)

def createView (name : String) : Action EngineError Unit := alter (·.createView name)

def dropIndex (name : String) : Action EngineError Unit := alter (·.dropIndex name)

def dropTable (name : String) : Action EngineError Unit :=
  prepared (fun _ schema => schema.dropTable name) <|
    Action.writeAlways fun enforced store => store.dropTable enforced name

def switch (change : Connection → Except EngineError Connection) : Action EngineError Unit := fun c =>
  match change c with
  | .ok c => ⟨.ok (), c, []⟩
  | .error e => ⟨.error e, c, []⟩

end Direct

end Catalogue
