import Catalogue.Logging

/-! A process that asks for its log again and again. A request may fail at any point, and what was done by then
stays done. -/

set_option autoImplicit false

namespace Catalogue

/-- A request for a log, with what it meets: whether the directory can be made, and whether another logger is
installed by then. -/
structure LogRequest where
  level : String
  directory : String
  create : LogDirectory → Except String Unit
  occupied : Bool

namespace Logging

def startInPlace (logging : Logging) (create : LogDirectory → Except String Unit) (level : Level)
    (directory : LogDirectory) : Except LoggingError Unit × Logging :=
  match create directory with
  | .error reason => (.error (.cannotCreate directory reason), logging)
  | .ok () =>
    if logging.occupied then (.error .taken, logging)
    else
      let started : Logging := { logging with active := some ⟨level, directory, []⟩ }
      (.ok (), started.record (.loggingStarted level directory.text))

def serve (logging : Logging) (level : Level) (directory : LogDirectory) : Except LoggingError Unit :=
  match logging.active with
  | some log => log.serve level directory
  | none => .ok ()

/-- Have a log at a level in a directory. A log that was just started has to serve as any other, since it may
be that somebody else has started it. -/
def initInPlace (logging : Logging) (create : LogDirectory → Except String Unit) (level directory : String) :
    Except LoggingError Unit × Logging :=
  match Level.parse level, LogDirectory.parse directory with
  | .error e, _ | .ok _, .error e => (.error e, logging)
  | .ok level, .ok directory =>
    if logging.active.isSome then (logging.serve level directory, logging)
    else match logging.startInPlace create level directory with
      | (.error e, logging) => (.error e, logging)
      | (.ok (), logging) => (logging.serve level directory, logging)

theorem startInPlace_eq (logging : Logging) (create : LogDirectory → Except String Unit) (level : Level)
    (directory : LogDirectory) :
    logging.startInPlace create level directory =
      match logging.start create level directory with
      | .ok started => (.ok (), started)
      | .error e => (.error e, logging) := by
  simp only [startInPlace, start, bind, Except.bind]
  cases create directory with
  | error reason => rfl
  | ok _ => cases logging.occupied <;> rfl

theorem serve_record (logging : Logging) (event : Event) (level : Level) (directory : LogDirectory) :
    (logging.record event).serve level directory = logging.serve level directory := by
  cases active : logging.active with
  | none => simp [serve, record, active]
  | some log =>
    simp only [serve, record, active, Option.map_some]
    split <;> rfl

theorem serve_of_start {logging started : Logging} {create : LogDirectory → Except String Unit} {level : Level}
    {directory : LogDirectory} (done : logging.start create level directory = .ok started) :
    started.serve level directory = .ok () := by
  simp only [start, bind, Except.bind] at done
  split at done
  · cases done
  · split at done
    · cases done
    · rw [← Except.ok.inj done, serve_record]
      simp [serve, ActiveLog.serve, LogDirectory.same]

/-- In place or not, a request for a log comes to the same; if it fails, the log is as it was. -/
theorem initInPlace_eq (logging : Logging) (create : LogDirectory → Except String Unit) (level directory : String) :
    logging.initInPlace create level directory =
      match logging.init create level directory with
      | .ok started => (.ok (), started)
      | .error e => (.error e, logging) := by
  simp only [initInPlace, init, ask, startInPlace_eq]
  cases Level.parse level with
  | error e => rfl
  | ok level =>
    cases LogDirectory.parse directory with
    | error e => rfl
    | ok directory =>
      cases active : logging.active with
      | some log =>
        simp only [serve, active, bind, Except.bind]
        cases log.serve level directory <;> rfl
      | none =>
        simp only [bind, Except.bind, pure, Except.pure]
        cases started : logging.start create level directory with
        | error e => rfl
        | ok after => simp [serve_of_start started]

def meeting (logging : Logging) (request : LogRequest) : Logging := { logging with occupied := request.occupied }

def respond (logging : Logging) (request : LogRequest) : Except LoggingError Unit × Logging :=
  (logging.meeting request).initInPlace request.create request.level request.directory

def after (logging : Logging) (requests : List LogRequest) : Logging :=
  requests.foldl (fun logging request => (logging.respond request).2) logging

def replies : Logging → List LogRequest → List (Except LoggingError Unit)
  | _, [] => []
  | logging, request :: rest => (logging.respond request).1 :: replies (logging.respond request).2 rest

end Logging

end Catalogue
