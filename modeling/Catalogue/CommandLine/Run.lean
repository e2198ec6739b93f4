import Catalogue.Book.Json
import Catalogue.CommandLine.Arguments
import Catalogue.FileTree.Database
import Catalogue.Json.Printer
import Catalogue.Logging.Directory
import Catalogue.Page.Json
import Catalogue.Repository.Ready
import Catalogue.Service

/-! One run of the command: open the database, carry out one use case, and print its result. -/

set_option autoImplicit false

namespace Catalogue.CommandLine

structure Failure where
  message : String
  causes : List String
  deriving DecidableEq, Repr

namespace Failure

def indented (margin : String) (text : String) : String :=
  (("\n" ++ margin).intercalate ((text.toList.splitOn '\n').map String.ofList))

def numbered : (index : Nat) → List String → List String
  | _, [] => []
  | index, cause :: rest =>
    ("    " ++ toString index ++ ": " ++ indented "       " cause) :: numbered (index + 1) rest

def render (failure : Failure) : String :=
  let lines := match failure.causes with
    | [] => []
    | [cause] => ["", "Caused by:", "    " ++ indented "    " cause]
    | causes => ["", "Caused by:"] ++ numbered 0 causes
  "\n".intercalate (("Error: " ++ failure.message) :: lines)

def ofRepository (error : RepositoryError) : Failure := ⟨error.message, error.causes⟩

def ofService (error : ServiceError) : Failure := ⟨error.message, error.causes⟩

end Failure

inductive Outcome where
  | printed (json : Json)
  | version
  | help
  | usage
  | failed (failure : Failure)

namespace Outcome

def exitCode : Outcome → UInt32
  | printed _ | version | help => 0
  | failed _ => 1
  | usage => 2

def versionLine : String := "bookshelf " ++ programVersion

def usageLines : String :=
  "Usage: bookshelf [--db FILE] [--log-level LEVEL] [--log-dir DIRECTORY] COMMAND\n" ++
    "Commands: add, get, rename, review, list, longer-than, search, delete, count"

def output? : Outcome → Option String
  | printed json => some json.print
  | version => some versionLine
  | help => some usageLines
  | usage | failed _ => none

def complaint? : Outcome → Option String
  | usage => some usageLines
  | failed failure => some failure.render
  | printed _ | version | help => none

end Outcome

/-- What a run finds: the environment variables, the directory it is started in, the files, and the
milliseconds that it takes to get at them. -/
structure World where
  environment? : String → Option String
  directory : NodePath
  files : FileTree
  elapsed : Nat

structure Finished where
  outcome : Outcome
  files : FileTree
  logging : Logging

/-- A sort term as it is written on the command line: a property, and after a comma a direction. -/
def readSortTerm (term : String) : Except Failure SortTerm :=
  let cs := term.toList
  let property := Text.trim (String.ofList (cs.takeWhile (· ≠ ',')))
  let direction := match cs.dropWhile (· ≠ ',') with
    | ',' :: rest => (Text.trim (String.ofList rest)).toLower
    | _ => "asc"
  match Direction.ofName? direction with
  | some direction => .ok ⟨property, direction⟩
  | none => .error ⟨"unknown sort direction " ++ ticked direction ++ " in " ++ ticked term, []⟩

def PageArguments.toRequest (page : PageArguments) : Except Failure PageRequest :=
  (page.sort.mapM readSortTerm).map fun orders => (PageRequest.ofSize page.number page.size).withSort ⟨orders⟩

def useCase {α : Type} (print : α → Json) (u : UseCase α) : Action Failure Json :=
  print <$> u.run.mapError .ofService

def query {α : Type} (print : α → Json) (f : Store → Except RepositoryError α) : Action Failure Json :=
  print <$> (Action.query f).mapError .ofRepository

def searchResult (page : Page Book) : Json :=
  .obj [("total_pages", .int page.totalPages), ("page", page.toJson Book.toJson)]

namespace Command

def perform : Command → Action Failure Json
  | add title pages => useCase Book.toJson (Service.create title pages)
  | get id => do
    match ← (Action.query fun store => Service.get store id).mapError .ofRepository with
    | some book => return book.toJson
    | none => Action.fail ⟨s!"book not found: {id}", []⟩
  | rename id title => useCase Book.toJson (Service.rename id title)
  | review id reviewer content => useCase Book.toJson (Service.addReview id reviewer content)
  | list page => do
    let request ← Action.ofExcept page.toRequest
    query (Slice.toJson Book.toJson) fun store => Service.list store request
  | longerThan pages page => do
    let request ← Action.ofExcept page.toRequest
    query (fun books => .arr (books.map Book.toJson)) fun store => Service.longerThan store pages request
  | search pattern page => do
    let request ← Action.ofExcept page.toRequest
    query searchResult fun store => Service.search store pattern request
  | delete id => useCase (fun _ => .obj [("deleted", .int id)]) (Service.delete id)
  | count => query (fun (n : Nat) => .obj [("count", .int n)]) Service.count

end Command

def session (command : Command) : Action Failure Json := do
  (Action.query Store.checkReady).mapError .ofRepository
  command.perform

/-- What opening a database finds, the place of its file, if it has one, and the files afterwards. -/
def lookFor (world : World) (name : String) : Found × Option NodePath × FileTree :=
  match Location.parse name with
  | .error e => (.refused e, none, world.files)
  | .ok location => world.files.openLocation world.directory location name

/-- Whether a run wrote to the database that it found: a save does, even one that changes nothing. -/
def hasWritten (found : Found) (reply : Reply Failure Json) : Bool :=
  found.store? ≠ some reply.connection.durable || reply.events.any Event.isSave

def onDatabase (world : World) (logging : Logging) (invocation : Invocation) : Finished :=
  let (found, place?, files) := lookFor world invocation.database
  let opened := openDatabase .file found world.elapsed
  let logging := logging.recordAll opened.events
  match opened.result with
  | .error e =>
    let message := "failed to open database " ++ ticked invocation.database
    ⟨.failed ⟨message, e.message :: e.causes⟩, files, logging⟩
  | .ok connection =>
    let reply := session invocation.command connection
    let outcome := match reply.result with
      | .ok json => .printed json
      | .error failure => .failed failure
    let files := match place? with
      | some place => files.closeAt place (hasWritten found reply) reply.connection.durable
      | none => files
    ⟨outcome, files, logging.recordAll reply.events⟩

/-- Start the log that an invocation asks for; directories that were made for it stay, also on failure. -/
def startLog (world : World) (invocation : Invocation) : Except LoggingError Logging × World :=
  match invocation.logDirectory with
  | none => (.ok .idle, world)
  | some directory =>
    let level := invocation.logLevel.getD Level.default.name
    let (result, files) := Logging.idle.initIn world.files level directory
    (result, { world with files })

def run (world : World) (arguments : List String) : Finished :=
  match read world.environment? arguments with
  | .version => ⟨.version, world.files, .idle⟩
  | .help => ⟨.help, world.files, .idle⟩
  | .usage => ⟨.usage, world.files, .idle⟩
  | .run invocation =>
    match startLog world invocation with
    | (.error e, world) => ⟨.failed ⟨e.message, []⟩, world.files, .idle⟩
    | (.ok logging, world) =>
      let logging := logging.record .commandStarted
      let finished := onDatabase { world with files := logging.withFile world.files } logging invocation
      { finished with files := finished.logging.withFile finished.files }

end Catalogue.CommandLine
