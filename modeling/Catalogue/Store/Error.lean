import Catalogue.Text.Octets

/-! What the storage engine refuses, by cause. -/

set_option autoImplicit false

namespace Catalogue

inductive StorageClass where
  | null
  | integer
  | real
  | text
  | blob
  deriving DecidableEq, Repr

def StorageClass.name : StorageClass → String
  | .null => "Null"
  | .integer => "Integer"
  | .real => "Real"
  | .text => "Text"
  | .blob => "Blob"

inductive EngineError where
  | notADatabase
  | cannotOpen (path : String)
  | foreignHost (name : String)
  | unknownMode (kind name : String)
  /-- A mode asks for more than an earlier one granted. -/
  | modeNotAllowed (name : String)
  | unknownFileSystem (name : String)
  | companionClosed
  | journalLeft
  | undeletable
  | locked
  | lockFailed
  | permissionsUnknown
  | unreadable
  /-- What is written to the file does not stay. -/
  | notKept
  | nestedTransaction
  | nothingToCommit
  | nothingToRollBack
  | readOnly
  | full
  | integerOutOfRange (value : Int) (index : Nat)
  | wrongClass (found : StorageClass) (index : Nat) (column : String)
  | malformedText (index : Nat) (fault : Text.Fault)
  | datatypeMismatch
  | missingValue (table column : String)
  | duplicateKey (table column : String)
  | foreignKey
  | foreignKeyMismatch (child parent : String)
  | noSuchTable (name : String)
  | noSuchColumn (name : String)
  | noSuchIndex (name : String)
  | noColumnNamed (table column : String)
  | generatedInserted (column : String)
  | duplicateColumn (name : String)
  | alreadyExists (kind name : String)
  | nameTakenByTable (name : String)
  | nameTakenByIndex (name : String)
  | reservedName (name : String)
  | ownTable (name : String)
  | notAView (name : String)
  | viewModified (name : String)
  | viewIndexed
  | patternTooComplex
  | tooManySortTerms
  | noRows
  | unexpectedToken (token : String)
  deriving DecidableEq, Repr

namespace EngineError

def message : EngineError → String
  | notADatabase => "file is not a database"
  | cannotOpen path => s!"unable to open database file: {path}"
  | foreignHost name => s!"invalid uri authority: {name}"
  | unknownMode kind name => s!"no such {kind} mode: {name}"
  | modeNotAllowed name => s!"access mode not allowed: {name}"
  | unknownFileSystem name => s!"no such vfs: {name}"
  | companionClosed => "unable to open database file"
  | locked => "database is locked"
  | unreadable | notKept | undeletable | lockFailed | permissionsUnknown => "disk I/O error"
  | nestedTransaction => "cannot start a transaction within a transaction"
  | nothingToCommit => "cannot commit - no transaction is active"
  | nothingToRollBack => "cannot rollback - no transaction is active"
  | readOnly | journalLeft => "attempt to write a readonly database"
  | full => "database or disk is full"
  | integerOutOfRange value index => s!"Integer {value} out of range at index {index}"
  | wrongClass found index column => s!"Invalid column type {found.name} at index: {index}, name: {column}"
  | malformedText index fault => s!"Conversion error from type Text at index: {index}, {fault.message}"
  | datatypeMismatch => "datatype mismatch"
  | missingValue table column => s!"NOT NULL constraint failed: {table}.{column}"
  | duplicateKey table column => s!"UNIQUE constraint failed: {table}.{column}"
  | foreignKey => "FOREIGN KEY constraint failed"
  | foreignKeyMismatch child parent =>
    "foreign key mismatch - \"" ++ child ++ "\" referencing \"" ++ parent ++ "\""
  | noSuchTable name => s!"no such table: {name}"
  | noSuchColumn name => s!"no such column: {name}"
  | noSuchIndex name => s!"no such index: {name}"
  | noColumnNamed table column => s!"table {table} has no column named {column}"
  | generatedInserted column => "cannot INSERT into generated column \"" ++ column ++ "\""
  | duplicateColumn name => s!"duplicate column name: {name}"
  | alreadyExists kind name => s!"{kind} {name} already exists"
  | nameTakenByTable name => s!"there is already a table named {name}"
  | nameTakenByIndex name => s!"there is already an index named {name}"
  | reservedName name => s!"object name reserved for internal use: {name}"
  | ownTable name => s!"table {name} may not be dropped"
  | notAView name => s!"use DROP VIEW to delete view {name}"
  | viewModified name => s!"cannot modify {name} because it is a view"
  | viewIndexed => "views may not be indexed"
  | patternTooComplex => "LIKE or GLOB pattern too complex"
  | tooManySortTerms => "too many terms in ORDER BY clause"
  | noRows => "Query returned no rows"
  | unexpectedToken token => "near \"" ++ token ++ "\": syntax error"

def causes : EngineError → List String
  | notADatabase => ["Error code 26: File opened that is not a database file"]
  | cannotOpen _ | companionClosed => ["Error code 14: Unable to open the database file"]
  | foreignHost _ | unknownMode _ _ | unknownFileSystem _ | patternTooComplex | tooManySortTerms =>
    ["Error code 1: SQL error or missing database"]
  | modeNotAllowed _ => ["Error code 3: Access permission denied"]
  | readOnly => ["Error code 8: Attempt to write a readonly database"]
  | locked => ["Error code 5: The database file is locked"]
  | unreadable => ["Error code 266: Error reading from disk"]
  | journalLeft =>
    ["Error code 776: Database has hot journal that must be rolled back (requires write access)"]
  | notKept => ["Error code 1034: Error flushing data to persistent storage (fsync)"]
  | permissionsUnknown => ["Error code 1802: Error invoking fstat to get file metadata"]
  | undeletable => ["Error code 2570: I/O error within xDelete of a VFS object"]
  | lockFailed => ["Error code 3850: I/O error in the advisory file locking layer"]
  | full => ["Error code 13: Insertion failed because database is full"]
  | malformedText _ fault => [fault.message]
  | _ => []

end EngineError

end Catalogue
