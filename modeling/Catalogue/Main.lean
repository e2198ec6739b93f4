import Catalogue.CommandLine.Run
import Catalogue.Json.Reader
import Catalogue.Store.Image

/-! The command as a program: the arguments, the environment and the files of the machine around a run.
A database file holds the JSON form of its store. -/

set_option autoImplicit false

namespace Catalogue.CommandLine

def absolute (path : NodePath) : String := "/" ++ "/".intercalate path

def wayTo (path : NodePath) : List NodePath := (List.range path.length).map fun n => path.take (n + 1)

/-- What the text of a file holds; a new file is an empty database. -/
def ofText (text : String) : Node :=
  if text.isEmpty then .database .empty
  else match (Json.read? text).bind Store.ofJson? with
    | some store => .database store
    | none => .foreign

def look (files : FileTree) (path : NodePath) : IO FileTree := do
  try
    let place := (← IO.currentDir) / absolute path
    match (← place.metadata).type with
    | .dir => return files.put path .directory
    | .file => return files.put path (← try ofText <$> IO.FS.readFile place catch _ => pure .foreign)
    | _ => return files.put path .device
  catch _ => return files

def besides (place : NodePath) : List NodePath :=
  [Companion.journal, .log, .index, .lock].map (·.beside place)

def destinations (directory : NodePath) : Asked → List NodePath
  | .run invocation =>
    let database := match Location.parse invocation.database with
      | .ok location =>
        if location.isTransient then []
        else
          let permissions := (location.modeOf.map (Path.visited directory)).getD []
          let place := Path.resolve directory location.path
          Path.visited directory location.path ++ besides place ++ permissions
      | .error _ => []
    let logs := match invocation.logDirectory with
      | some text =>
        let text := Text.trim text
        Path.visited [] text ++ [Path.resolve [] text ++ [Logging.fileName]]
      | none => []
    database ++ logs
  | _ => []

def isKept (before : FileTree) (place : NodePath) (store : Store) : Bool :=
  match before.node? place with
  | some (.database earlier) => earlier = store
  | _ => false

def toText (store : Store) : String := if store = .empty then "" else store.toJson.print ++ "\n"

/-- Remove the files that are gone after a run, make the directories and write the databases. -/
def keep (before files : FileTree) : IO Unit := do
  for (path, node) in before.nodes do
    if let .database _ := node then
      if (files.node? path).isNone then IO.FS.removeFile ((← IO.currentDir) / absolute path)
  for (path, node) in files.nodes.reverse do
    let place := (← IO.currentDir) / absolute path
    match node with
    | .directory => IO.FS.createDirAll place
    | .database store => if !isKept before path store then IO.FS.writeFile place (toText store)
    | .foreign | .device => pure ()

/-- Append the lines of a log to its file, unless something else stands there. -/
def keepLog (logging : Logging) (files : FileTree) : IO Unit := do
  if let some log := logging.active then
    if let some path := Logging.filePlace? log files then
      let free : Bool := match files.node? path with
        | some (.database store) => store = .empty
        | some .foreign => true
        | _ => false
      if free then
        let handle ← IO.FS.Handle.mk ((← IO.currentDir) / absolute path) .append
        for event in log.lines do
          handle.putStrLn (event.level.name.toUpper ++ " " ++ event.message)

end Catalogue.CommandLine

open Catalogue CommandLine in
def main (arguments : List String) : IO UInt32 := do
  let start ← IO.monoMsNow
  let directory := Path.names (← IO.currentDir).toString
  let environment ← Settings.environmentNames.mapM fun name => return (name, ← IO.getEnv name)
  let environment? (name : String) : Option String := (environment.lookup name).join
  let paths := directory :: destinations directory (CommandLine.read environment? arguments)
  let files ← (paths.flatMap wayTo).foldlM look ⟨[]⟩
  let elapsed := (← IO.monoMsNow) - start
  let finished := CommandLine.run ⟨environment?, directory, files, elapsed⟩ arguments
  keep files finished.files
  keepLog finished.logging finished.files
  finished.outcome.output?.forM (IO.println ·)
  finished.outcome.complaint?.forM (IO.eprintln ·)
  return finished.outcome.exitCode
