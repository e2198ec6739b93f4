import Catalogue.Calls
import Catalogue.CommandLine.Run

/-! Starts of the program one after another, each of which finds the files that the one before it left; and the same
commands as calls of the service, which are made one after another on one connection. -/

set_option autoImplicit false

namespace Catalogue.CommandLine

/-- A start of the program with arguments that ask for a command: what it finds besides the files. -/
structure Start where
  environment? : String → Option String
  directory : NodePath
  elapsed : Nat
  arguments : List String
  invocation : Invocation
  asks : read environment? arguments = .run invocation

namespace Start

def world (start : Start) (files : FileTree) : World := ⟨start.environment?, start.directory, files, start.elapsed⟩

def run (start : Start) (files : FileTree) : Finished := CommandLine.run (start.world files) start.arguments

def runAll (files : FileTree) : List Start → List Outcome × FileTree
  | [] => ([], files)
  | start :: rest =>
    let finished := start.run files
    let (later, last) := runAll finished.files rest
    (finished.outcome :: later, last)

end Start

/-- What a text asks to sort by. Before its first comma stands the property, behind it the direction in letters of any
case, with blanks around both that do not count; without a comma the order ascends. -/
def sortAsked (text : String) : Except Failure SortTerm :=
  match text.toList.splitOn ',' with
  | [] | [_] => .ok ⟨Text.trim text, .asc⟩
  | property :: rest =>
    let property := Text.trim (String.ofList property)
    let direction := (Text.trim (String.ofList ([','].intercalate rest))).toLower
    if direction = "asc" then .ok ⟨property, .asc⟩
    else if direction = "desc" then .ok ⟨property, .desc⟩
    else .error ⟨"unknown sort direction " ++ ticked direction ++ " in " ++ ticked text, []⟩

/-- A page of a number and a size, sorted by every term that is given, unless one of them cannot be read. -/
def PageArguments.asked (page : PageArguments) : Except Failure PageRequest := do
  return ⟨page.number, some page.size, ⟨← page.sort.mapM sortAsked⟩⟩

/-- The call of the service that a command comes to, unless the terms to sort by cannot be read. -/
def Command.call : Command → Except Failure Call
  | add title pages => .ok (.create title pages)
  | get id => .ok (.get id)
  | rename id title => .ok (.rename id title)
  | review id reviewer content => .ok (.addReview id reviewer content)
  | list page => page.asked.map .list
  | longerThan pages page => page.asked.map (.longerThan pages)
  | search pattern page => page.asked.map (.search pattern)
  | delete id => .ok (.delete id)
  | count => .ok .count

/-- What a start comes to among the files that it finds: a call, or a failure before any call is made. -/
def Start.request (start : Start) (files : FileTree) : Except Failure Call :=
  match startLog (start.world files) start.invocation with
  | (.error e, _) => .error ⟨e.message, []⟩
  | (.ok _, _) => start.invocation.command.call

def Start.requests (files : FileTree) : List Start → List (Except Failure Call)
  | [] => []
  | start :: rest => start.request files :: requests (start.run files).files rest

namespace Outcome

def ofResult {ε α : Type} (print : α → Json) (fail : ε → Failure) : Except ε α → Outcome
  | .ok a => .printed (print a)
  | .error e => .failed (fail e)

/-- How the answer to a call is shown. A book that is not there is no failure of the call, but one of the command. -/
def ofAnswer : (call : Call) → call.Answer → Outcome
  | .create _ _, reply | .rename _ _, reply | .addReview _ _ _, reply => ofResult Book.toJson .ofService reply
  | .delete id, reply => ofResult (fun _ => .obj [("deleted", .int id)]) .ofService reply
  | .get _, .ok (some book) => .printed book.toJson
  | .get id, .ok none => .failed ⟨s!"book not found: {id}", []⟩
  | .get _, .error e => .failed (.ofRepository e)
  | .list _, reply => ofResult (Slice.toJson Book.toJson) .ofRepository reply
  | .longerThan _ _, reply => ofResult (fun books => .arr (books.map Book.toJson)) .ofRepository reply
  | .search _ _, reply => ofResult searchResult .ofRepository reply
  | .count, reply => ofResult (fun (n : Nat) => .obj [("count", .int n)]) .ofRepository reply

end Outcome

def respond (c : Connection) : Except Failure Call → Outcome × Connection
  | .error failure => (.failed failure, c)
  | .ok call =>
    let (answer, next) := call.onConnection c
    (.ofAnswer call answer, next)

end Catalogue.CommandLine
