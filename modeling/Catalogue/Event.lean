import Catalogue.Failure

/-! What the program reports to its log: one constructor an event, with its level and its text. -/

set_option autoImplicit false

namespace Catalogue

inductive Level where
  | trace
  | debug
  | info
  | warn
  | error
  deriving DecidableEq, Repr

namespace Level

def name : Level → String
  | trace => "trace"
  | debug => "debug"
  | info => "info"
  | warn => "warn"
  | error => "error"

def severity : Level → Nat
  | trace => 0
  | debug => 1
  | info => 2
  | warn => 3
  | error => 4

def admits (kept level : Level) : Bool := kept.severity ≤ level.severity

def default : Level := debug

end Level

inductive Medium where
  | memory
  | file
  deriving DecidableEq, Repr

def Medium.name : Medium → String
  | .memory => "memory"
  | .file => "file"

inductive SaveMode where
  | insert
  | update
  deriving DecidableEq, Repr

def SaveMode.name : SaveMode → String
  | .insert => "insert"
  | .update => "update"

inductive OpenStep where
  | connect
  | bootstrap
  deriving DecidableEq, Repr

def OpenStep.code : OpenStep → String
  | .connect => "db_open_failed"
  | .bootstrap => "db_bootstrap_failed"

def programVersion : String := "0.1.0"

inductive Event where
  | openStarted (medium : Medium)
  | opened (medium : Medium) (elapsed : Nat)
  | openFailed (medium : Medium) (elapsed : Nat) (step : OpenStep) (error : DatabaseError)
  | migrated (version start : Nat)
  | saved (mode : SaveMode) (id : BookId) (reviews : Nat)
  | saveFailed (mode : SaveMode) (error : RepositoryError)
  | batchSaved (size : Nat)
  | batchFailed (size : Nat) (error : RepositoryError)
  | deleted (id : BookId) (books reviews : Nat)
  | cleared (books : Nat)
  | loggingStarted (level : Level) (directory : String)
  | panicked (location payload : String)
  | commandStarted
  deriving DecidableEq, Repr

namespace Event

def level : Event → Level
  | openStarted _ | opened _ _ | migrated _ _ | loggingStarted _ _ | commandStarted => .info
  | saved _ _ _ | batchSaved _ | deleted _ _ _ | cleared _ => .debug
  | openFailed _ _ _ _ | saveFailed _ _ | batchFailed _ _ | panicked _ _ => .error

def isSave : Event → Bool
  | saved _ _ _ | batchSaved _ => true
  | _ => false

def message : Event → String
  | openStarted medium => s!"event=db_open module=db status=start mode={medium.name}"
  | opened medium elapsed => s!"event=db_open module=db status=ok mode={medium.name} duration_ms={elapsed}"
  | openFailed medium elapsed step error =>
    s!"event=db_open module=db status=error mode={medium.name} duration_ms={elapsed} " ++
      s!"error_code={step.code} error={error.message}"
  | migrated version start => s!"event=db_migrate module=db status=ok version={version} from={start}"
  | saved mode id reviews =>
    s!"event=book_save module=repo status=ok mode={mode.name} book_id={id} reviews={reviews}"
  | saveFailed mode error =>
    s!"event=book_save module=repo status=error mode={mode.name} error={error.message}"
  | batchSaved size => s!"event=book_save_all module=repo status=ok batch={size}"
  | batchFailed size error =>
    s!"event=book_save_all module=repo status=error batch={size} error={error.message}"
  | deleted id books reviews =>
    s!"event=book_delete module=repo status=ok book_id={id} deleted={books} reviews={reviews}"
  | cleared books => s!"event=book_delete_all module=repo status=ok deleted={books}"
  | loggingStarted level directory =>
    s!"event=logging_init module=logging status=ok level={level.name} log_dir={directory} " ++
      s!"version={programVersion}"
  | panicked location payload =>
    s!"event=panic_captured module=logging status=error location={location} payload={payload}"
  | commandStarted => s!"event=cli_start module=cli status=ok version={programVersion}"

end Event

end Catalogue
