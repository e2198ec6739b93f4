import Catalogue.FileTree
import Catalogue.Logging

/-! The directory of a log among the files: made when the log is started, and looked up to read the log. -/

set_option autoImplicit false

namespace Catalogue.Logging

/-- Have a log at a level in a directory, which is made if the log has to be started. -/
def initIn (logging : Logging) (files : FileTree) (level directory : String) :
    Except LoggingError Logging × FileTree :=
  match logging.ask level directory with
  | .error e => (.error e, files)
  | .ok none => (.ok logging, files)
  | .ok (some (level, directory)) =>
    let attempt := files.createDirectories directory.text
    (logging.start (fun _ => attempt.result.mapError (·.message)) level directory, attempt.tree)

def fileName : String := "bookshelf_rCURRENT.log"

def filePlace? (log : ActiveLog) (files : FileTree) : Option NodePath :=
  (files.directory? (Path.parts log.directory.text)).toOption.map (· ++ [fileName])

/-- The files with that of the log. It is made for the first line, and empty as long as lines are held
back. -/
def withFile (logging : Logging) (files : FileTree) : FileTree :=
  match logging.active with
  | none => files
  | some log =>
    match filePlace? log files with
    | some place =>
      if log.lines.isEmpty || (files.node? place).isSome then files else files.put place (.database .empty)
    | none => files

/-- The log that is written to the directory at a path, seen from a directory. Where a directory has the
name of its file, the lines are lost. -/
def logAt? (logging : Logging) (files : FileTree) (origin : NodePath) (path : String) : Option ActiveLog := do
  let log ← logging.active
  let asked ← (files.walk (if Path.isAbsolute path then [] else origin) (Path.parts path)).toOption
  let place ← filePlace? log files
  if asked ≠ place.dropLast then none
  else match files.node? place with
    | some .directory => none
    | _ => some log

end Catalogue.Logging
