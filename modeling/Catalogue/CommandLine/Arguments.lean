import Catalogue.IntRange
import Catalogue.Page
import Catalogue.Text.Numeral

/-! The arguments of a run: options of the program, a command, and the command's own options and values.

An argument that begins with a dash, other than a dash alone, is an option; after two dashes nothing
is. An option takes its value after an equals sign or from the next argument. -/

set_option autoImplicit false

namespace Catalogue.CommandLine

structure PageArguments where
  number : UInt32
  size : UInt32
  sort : List String
  deriving DecidableEq, Repr

inductive Command where
  | add (title : String) (pages : Int32)
  | get (id : Int)
  | rename (id : Int) (title : String)
  | review (id : Int) (reviewer content : String)
  | list (page : PageArguments)
  | longerThan (pages : Int32) (page : PageArguments)
  | search (pattern : String) (page : PageArguments)
  | delete (id : Int)
  | count
  deriving DecidableEq, Repr

structure Invocation where
  database : String
  logLevel : Option String
  logDirectory : Option String
  command : Command
  deriving DecidableEq, Repr

inductive Asked where
  | run (invocation : Invocation)
  | version
  | help
  | usage
  deriving DecidableEq, Repr

/-! Classes of arguments. -/

def isOption (argument : String) : Bool := argument.toList.head? == some '-' && argument != "-"

def longName? (argument : String) : Option String :=
  match argument.toList with
  | '-' :: '-' :: rest => some (String.ofList (rest.takeWhile (· ≠ '=')))
  | _ => none

/-- The value that stands in the argument of a long option, behind the first equals sign. -/
def attached? (argument : String) : Option String :=
  match argument.toList.dropWhile (· ≠ '=') with
  | '=' :: rest => some (String.ofList rest)
  | _ => none

/-! Numbers. -/

def readWithin? (range : IntRange) (text : String) : Option Int := (Text.readInt? text).bind range.restrict?

def readId? : String → Option Int := readWithin? .int64

def readInt32? (text : String) : Option Int32 := (readWithin? .int32 text).map Int32.ofInt

def readUInt32? (text : String) : Option UInt32 :=
  (readWithin? .uint32 text).map fun n => UInt32.ofNat n.toNat

/-! Scanning. -/

structure Scanned where
  options : List (String × String)
  values : List String
  deriving DecidableEq, Repr

def scan? (known : List String) (seen : Scanned) : List String → Option Scanned
  | [] => some seen
  | argument :: rest =>
    if argument == "--" then some { seen with values := seen.values ++ rest }
    else if !isOption argument then scan? known { seen with values := seen.values ++ [argument] } rest
    else match longName? argument with
      | none => none
      | some name =>
        if !known.contains name then none
        else match attached? argument, rest with
          | some value, rest => scan? known { seen with options := seen.options ++ [(name, value)] } rest
          | none, value :: rest =>
            if isOption value then none
            else scan? known { seen with options := seen.options ++ [(name, value)] } rest
          | none, [] => none

namespace Scanned

def single? (scanned : Scanned) (name : String) : Option (Option String) :=
  match scanned.options.filter (·.1 == name) with
  | [] => some none
  | [(_, value)] => some (some value)
  | _ => none

/-- A number that may be given once; `default` is meant if it is not. -/
def number? {α : Type} (scanned : Scanned) (name : String) (read : String → Option α) (default : α) :
    Option α :=
  (scanned.single? name).bind fun
    | none => some default
    | some text => read text

def page? (scanned : Scanned) : Option PageArguments := do
  let number ← scanned.number? "page" readUInt32? 0
  let size ← scanned.number? "size" readUInt32? 10
  return ⟨number, size, (scanned.options.filter (·.1 == "sort")).map (·.2)⟩

end Scanned

def pageOptions : List String := ["page", "size", "sort"]

def command? (name : String) (arguments : List String) : Option Command :=
  let scanned? known := scan? known ⟨[], []⟩ arguments
  match name with
  | "add" => do
    let scanned ← scanned? ["pages"]
    match scanned.values with
    | [title] => return .add title (← scanned.number? "pages" readInt32? 0)
    | _ => none
  | "get" => do
    match (← scanned? []).values with
    | [id] => return .get (← readId? id)
    | _ => none
  | "rename" => do
    match (← scanned? []).values with
    | [id, title] => return .rename (← readId? id) title
    | _ => none
  | "review" => do
    match (← scanned? []).values with
    | [id, reviewer, content] => return .review (← readId? id) reviewer content
    | _ => none
  | "list" => do
    let scanned ← scanned? pageOptions
    match scanned.values with
    | [] => return .list (← scanned.page?)
    | _ => none
  | "longer-than" => do
    let scanned ← scanned? pageOptions
    match scanned.values with
    | [pages] => return .longerThan (← readInt32? pages) (← scanned.page?)
    | _ => none
  | "search" => do
    let scanned ← scanned? pageOptions
    match scanned.values with
    | [pattern] => return .search pattern (← scanned.page?)
    | _ => none
  | "delete" => do
    match (← scanned? []).values with
    | [id] => return .delete (← readId? id)
    | _ => none
  | "count" => do
    match (← scanned? []).values with
    | [] => return .count
    | _ => none
  | _ => none

structure Settings where
  database : Option String
  logLevel : Option String
  logDirectory : Option String
  deriving DecidableEq, Repr

namespace Settings

/-- Take an option, which must not have been given before; a database path is not empty. -/
def set? (settings : Settings) (name value : String) : Option Settings :=
  match name with
  | "db" =>
    if settings.database.isSome || value.isEmpty then none else some { settings with database := some value }
  | "log-level" => if settings.logLevel.isSome then none else some { settings with logLevel := some value }
  | "log-dir" =>
    if settings.logDirectory.isSome then none else some { settings with logDirectory := some value }
  | _ => none

def defaultDatabase : String := "bookshelf.sqlite3"

def environmentNames : List String := ["BOOKSHELF_DB", "BOOKSHELF_LOG_LEVEL", "BOOKSHELF_LOG_DIR"]

def complete? (settings : Settings) (environment? : String → Option String) (command : Command) :
    Option Invocation := do
  let database := (settings.database.or (environment? "BOOKSHELF_DB")).getD defaultDatabase
  if database.isEmpty then none
  return {
    database
    logLevel := settings.logLevel.or (environment? "BOOKSHELF_LOG_LEVEL")
    logDirectory := settings.logDirectory.or (environment? "BOOKSHELF_LOG_DIR")
    command }

end Settings

/-- Read arguments in order; what asks for the version is answered before anything after it is read. -/
def readFrom (environment? : String → Option String) (settings : Settings) : List String → Asked
  | [] => .usage
  | argument :: rest =>
    if !isOption argument then
      if argument == "help" then .help
      else match (command? argument rest).bind (settings.complete? environment?) with
        | some invocation => .run invocation
        | none => .usage
    else if argument == "--version" || argument.toList.take 2 == ['-', 'V'] then .version
    else if argument == "--help" || argument.toList.take 2 == ['-', 'h'] then .help
    else match longName? argument with
      | none => .usage
      | some name =>
        match attached? argument, rest with
        | some value, rest =>
          match settings.set? name value with
          | some settings => readFrom environment? settings rest
          | none => .usage
        | none, value :: rest =>
          if isOption value then .usage
          else match settings.set? name value with
            | some settings => readFrom environment? settings rest
            | none => .usage
        | none, [] => .usage

def read (environment? : String → Option String) (arguments : List String) : Asked :=
  readFrom environment? ⟨none, none, none⟩ arguments

end Catalogue.CommandLine
