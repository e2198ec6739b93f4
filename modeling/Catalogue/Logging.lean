import Catalogue.Event
import Catalogue.Path
import Catalogue.Text.Blank

/-! The log of a process. It is started at most once, at one level and in one directory; asking for the
same again is no change, and asking for anything else is refused. -/

set_option autoImplicit false

namespace Catalogue

structure LogDirectory where
  text : String
  deriving DecidableEq, Repr

/-- Two spellings name one directory if they go through the same names. -/
def LogDirectory.same (a b : LogDirectory) : Bool := Path.names a.text == Path.names b.text

inductive LoggingError where
  | unknownLevel (name : String)
  | blankDirectory
  | relativeDirectory (text : String)
  | otherDirectory (active asked : LogDirectory)
  | otherLevel (active asked : Level)
  | cannotCreate (directory : LogDirectory) (reason : String)
  | taken
  deriving DecidableEq, Repr

def ticked (s : String) : String := "`" ++ s ++ "`"

def LoggingError.message : LoggingError → String
  | unknownLevel name => "unsupported log level " ++ ticked name ++ "; expected trace|debug|info|warn|error"
  | blankDirectory => "log_dir cannot be empty"
  | relativeDirectory text => "log_dir must be an absolute path, got " ++ ticked text
  | otherDirectory active asked =>
    "logging already initialized at " ++ ticked active.text ++ "; refusing to switch to " ++ ticked asked.text
  | otherLevel active asked =>
    "logging already initialized with level " ++ ticked active.name ++ "; refusing to switch to " ++
      ticked asked.name
  | cannotCreate directory reason =>
    "failed to create log directory " ++ ticked directory.text ++ ": " ++ reason
  | taken => "failed to start logger: Logger initialization failed"

/-- A level by its name, whatever the case of ASCII letters, blanks around it aside. -/
def Level.parse (text : String) : Except LoggingError Level :=
  match (Text.trim text).toLower with
  | "trace" => .ok .trace
  | "debug" => .ok .debug
  | "info" => .ok .info
  | "warn" | "warning" => .ok .warn
  | "error" => .ok .error
  | other => .error (.unknownLevel other)

def LogDirectory.parse (text : String) : Except LoggingError LogDirectory :=
  let text := Text.trim text
  if text.isEmpty then .error .blankDirectory
  else if Path.isAbsolute text then .ok ⟨text⟩
  else .error (.relativeDirectory text)

structure ActiveLog where
  level : Level
  directory : LogDirectory
  lines : List Event
  deriving DecidableEq, Repr

/-- A log at work serves whoever asks for the same one; the directory is compared first. -/
def ActiveLog.serve (log : ActiveLog) (level : Level) (directory : LogDirectory) :
    Except LoggingError Unit :=
  if !log.directory.same directory then .error (.otherDirectory log.directory directory)
  else if log.level ≠ level then .error (.otherLevel log.level level)
  else .ok ()

structure Logging where
  active : Option ActiveLog
  occupied : Bool
  deriving DecidableEq, Repr

namespace Logging

def idle : Logging := ⟨none, false⟩

def status (logging : Logging) : Option (Level × LogDirectory) :=
  logging.active.map fun log => (log.level, log.directory)

def record (logging : Logging) (event : Event) : Logging :=
  { logging with active := logging.active.map fun log =>
      if log.level.admits event.level then { log with lines := log.lines ++ [event] } else log }

def recordAll (logging : Logging) (events : List Event) : Logging := events.foldl record logging

/-- Start the log. `create` makes its directory, which may fail, and comes before the logger. -/
def start (logging : Logging) (create : LogDirectory → Except String Unit) (level : Level)
    (directory : LogDirectory) : Except LoggingError Logging := do
  (create directory).mapError (.cannotCreate directory)
  if logging.occupied then throw .taken
  let started : Logging := { logging with active := some ⟨level, directory, []⟩ }
  return started.record (.loggingStarted level directory.text)

/-- What has to be started for a log at a level in a directory; nothing if the log at work serves. -/
def ask (logging : Logging) (level directory : String) :
    Except LoggingError (Option (Level × LogDirectory)) := do
  let level ← Level.parse level
  let directory ← LogDirectory.parse directory
  match logging.active with
  | some log =>
    log.serve level directory
    return none
  | none => return some (level, directory)

def init (logging : Logging) (create : LogDirectory → Except String Unit) (level directory : String) :
    Except LoggingError Logging := do
  match ← logging.ask level directory with
  | none => return logging
  | some (level, directory) => logging.start create level directory

/-- Install another logger, which succeeds when there is none yet. -/
def occupy (logging : Logging) : Bool × Logging :=
  if logging.occupied || logging.active.isSome then (false, logging)
  else (true, { logging with occupied := true })

end Logging

inductive PanicPayload where
  | text (message : String)
  | other
  deriving DecidableEq, Repr

namespace PanicPayload

def limit : Nat := 160

/-- Line ends as blanks, and no more than `limit` characters; dots stand for what is cut off. -/
def singleLine (s : String) : String :=
  let flat := s.toList.map fun c => if c == '\n' || c == '\r' then ' ' else c
  String.ofList (flat.take limit ++ if limit < flat.length then ['.', '.', '.'] else [])

def render : PanicPayload → String
  | text message => singleLine message
  | other => singleLine "non-string panic payload"

end PanicPayload

def Logging.panic (logging : Logging) (location : String) (payload : PanicPayload) : Logging :=
  logging.record (.panicked location payload.render)

end Catalogue
