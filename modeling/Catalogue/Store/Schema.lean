import Catalogue.Store.Error

/-! The tables, views and indexes of a store. Names are kept as they were given and looked up without
regard to the case of ASCII letters. -/

set_option autoImplicit false

namespace Catalogue

def sameName (a b : String) : Bool := a.toLower == b.toLower

inductive Relation where
  | books
  | reviews
  deriving DecidableEq, Repr

def Relation.name : Relation → String
  | .books => "books"
  | .reviews => "reviews"

/-- The columns that the program reads, in the order in which it declares them. -/
def Relation.columns : Relation → List String
  | .books => ["id", "title", "pages"]
  | .reviews => ["id", "reviewer", "content", "book_id"]

/-- A column of a table. A generated one is worked out from the others: it can be read and indexed, it takes no
value, and the engine leaves it out where it tells the columns of a table. -/
structure Column where
  name : String
  generated : Bool
  deriving DecidableEq, Repr

namespace Column

def plain (name : String) : Column := ⟨name, false⟩

instance : Coe String Column := ⟨plain⟩

def hasName (column : Column) (name : String) : Bool := sameName name column.name

end Column

structure TableEntry where
  name : String
  columns : List Column
  deriving DecidableEq, Repr

def Relation.declared (relation : Relation) : TableEntry := ⟨relation.name, relation.columns.map .plain⟩

structure IndexEntry where
  name : String
  table : String
  deriving DecidableEq, Repr

structure Schema where
  tables : List TableEntry
  views : List String
  indexes : List IndexEntry
  /-- Whether a table with a key was ever made: from then on the engine keeps a table of marks. -/
  numbered : Bool
  deriving DecidableEq, Repr

namespace TableEntry

def column? (table : TableEntry) (name : String) : Option Column := table.columns.find? (·.hasName name)

def hasColumn (table : TableEntry) (name : String) : Bool := (table.column? name).isSome

end TableEntry

namespace Schema

def empty : Schema := ⟨[], [], [], false⟩

def table? (schema : Schema) (name : String) : Option TableEntry :=
  schema.tables.find? fun table => sameName table.name name

def view? (schema : Schema) (name : String) : Option String := schema.views.find? (sameName name)

def index? (schema : Schema) (name : String) : Option IndexEntry :=
  schema.indexes.find? fun index => sameName index.name name

def hasTable (schema : Schema) (name : String) : Bool := schema.tables.any (·.name == name)

/-- Whether the columns that the engine tells of a table hold one under exactly this name. -/
def hasColumn (schema : Schema) (table column : String) : Bool :=
  (schema.table? table).any fun entry => entry.columns.contains (.plain column)

/-- Columns that hold a value even where an insertion gives none or gives a null. -/
def acceptsNull (column : String) : Bool := ["id", "book_id"].any (sameName column)

def mayBeLeftOut (column : String) : Bool := acceptsNull column || sameName column "pages"

/-- Whether an insertion of the columns of `relation` gives a column a value, or the column does
without one; `nulls` are the columns whose value is a null. -/
def isFilled (relation : Relation) (nulls : List String) (column : String) : Bool :=
  if relation.columns.any (sameName column) then acceptsNull column || !nulls.any (sameName column)
  else mayBeLeftOut column

/-- Every column of a table that takes a value needs one; the first without one is the one named. -/
def checkValues (schema : Schema) (relation : Relation) (nulls : List String) : Except EngineError Unit :=
  match schema.table? relation.name with
  | none => .ok ()
  | some table =>
    match table.columns.find? fun column => !column.generated && !isFilled relation nulls column.name with
    | none => .ok ()
    | some column => .error (.missingValue table.name column.name)

def checkGiven (relation : Relation) (table : TableEntry) (column : String) : Except EngineError Unit :=
  match table.column? column with
  | none => .error (.noColumnNamed relation.name column)
  | some found => if found.generated then .error (.generatedInserted found.name) else .ok ()

def checkInsertable (schema : Schema) (relation : Relation) : Except EngineError Unit :=
  match schema.table? relation.name with
  | none =>
    match schema.view? relation.name with
    | some view => .error (.viewModified view)
    | none => .error (.noSuchTable relation.name)
  | some table => relation.columns.forM (checkGiven relation table)

def declaredName (schema : Schema) (relation : Relation) : String :=
  ((schema.table? relation.name).map (·.name)).getD relation.name

/-- Reviews refer to a table of books that has a key, which is never generated. -/
def checkParent (schema : Schema) : Except EngineError Unit :=
  let mismatch := EngineError.foreignKeyMismatch (schema.declaredName .reviews) Relation.books.name
  match schema.table? Relation.books.name with
  | none =>
    if (schema.view? Relation.books.name).isSome then .error mismatch
    else .error (.noSuchTable s!"main.{Relation.books.name}")
  | some table => if (table.column? "id").any (!·.generated) then .ok () else .error mismatch

def checkReadable (schema : Schema) (relation : Relation) : Except EngineError Unit :=
  match schema.table? relation.name with
  | none =>
    if (schema.view? relation.name).isSome then .error (.noSuchColumn "id")
    else .error (.noSuchTable relation.name)
  | some table =>
    match relation.columns.find? fun column => !table.hasColumn column with
    | none => .ok ()
    | some column => .error (.noSuchColumn column)

def reservedStart : String := "sqlite_"

/-- A table of the engine itself: two lists of all there is, each under two names, and the marks. -/
def ownTable? (schema : Schema) (name : String) : Option String :=
  let own (ending : String) (present : Bool) : Option String :=
    if present then some (reservedStart ++ ending) else none
  let asked := name.toLower
  if asked == reservedStart ++ "master" || asked == reservedStart ++ "schema" then own "master" true
  else if asked == reservedStart ++ "temp_master" || asked == reservedStart ++ "temp_schema" then
    own "temp_master" true
  else if asked == reservedStart ++ "sequence" then own "sequence" schema.numbered
  else none

def checkFree (schema : Schema) (name : String) : Except EngineError Unit := do
  if reservedStart.toList.isPrefixOf name.toLower.toList then throw (.reservedName name)
  if (schema.table? name).isSome then throw (.alreadyExists "table" name)
  if (schema.view? name).isSome then throw (.alreadyExists "view" name)
  if (schema.index? name).isSome then throw (.nameTakenByIndex name)

def repeated? : (earlier columns : List String) → Option String
  | _, [] => none
  | earlier, column :: rest =>
    if earlier.any (sameName column) then some column else repeated? (column :: earlier) rest

def createTable (schema : Schema) (name : String) (columns : List String) : Except EngineError Schema := do
  schema.checkFree name
  if columns.isEmpty then throw (.unexpectedToken ")")
  match repeated? [] columns with
  | some column => throw (.duplicateColumn column)
  | none => return { schema with
      tables := schema.tables ++ [⟨name, columns.map .plain⟩]
      numbered := schema.numbered || columns.any (sameName "id") }

def createView (schema : Schema) (name : String) : Except EngineError Schema := do
  schema.checkFree name
  return { schema with views := schema.views ++ [name] }

/-- Index one column of a table; an index that exists stays as it is. -/
def ensureIndex (schema : Schema) (name table column : String) : Except EngineError Schema :=
  match schema.table? table with
  | none =>
    if (schema.view? table).isSome then .error .viewIndexed else .error (.noSuchTable s!"main.{table}")
  | some entry =>
    if (schema.table? name).isSome || (schema.view? name).isSome then .error (.nameTakenByTable name)
    else if (schema.index? name).isSome then .ok schema
    else if entry.hasColumn column then
      .ok { schema with indexes := schema.indexes ++ [⟨name, entry.name⟩] }
    else .error (.noSuchColumn column)

def dropTable (schema : Schema) (name : String) : Except EngineError Schema :=
  match schema.ownTable? name, schema.table? name, schema.view? name with
  | some own, _, _ => .error (.ownTable own)
  | none, none, some view => .error (.notAView view)
  | none, none, none => .error (.noSuchTable name)
  | none, some entry, _ => .ok { schema with
      tables := schema.tables.filter fun table => !sameName table.name name
      indexes := schema.indexes.filter fun index => !sameName index.table entry.name }

def dropIndex (schema : Schema) (name : String) : Except EngineError Schema :=
  if (schema.index? name).isNone then .error (.noSuchIndex name)
  else .ok { schema with indexes := schema.indexes.filter fun index => !sameName index.name name }

end Schema

end Catalogue
