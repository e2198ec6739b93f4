import Catalogue.Logging.Requests
import Catalogue.Proofs.Success

/-! The log of a process is configured at most once. The first request that succeeds decides which log it is, and from
then on requests for that log succeed and all others fail, however its level and its directory are spelled. -/

set_option autoImplicit false

namespace Catalogue

/-- A text that names a level, which may be in capitals and have blanks around it. -/
def Level.IsNamed (level : Level) (text : String) : Prop :=
  (Text.trim text).toLower = level.name ∨ (Text.trim text).toLower = "warning" ∧ level = .warn

theorem Level.parse_eq_ok_iff {text : String} {level : Level} : parse text = .ok level ↔ level.IsNamed text := by
  unfold parse IsNamed
  generalize (Text.trim text).toLower = word
  split
  all_goals cases level <;> simp_all [name]

theorem LogDirectory.parse_eq_ok_iff {text : String} {directory : LogDirectory} :
    parse text = .ok directory ↔ Path.isAbsolute (Text.trim text) = true ∧ directory = ⟨Text.trim text⟩ := by
  simp only [parse]
  generalize Text.trim text = text
  by_cases absolute : Path.isAbsolute text = true
  · have nonempty : text.isEmpty = false := by
      rw [← Bool.not_eq_true]
      intro empty
      rw [String.isEmpty_iff.mp empty] at absolute
      cases absolute
    simp [nonempty, absolute, eq_comm]
  · split <;> simp [absolute]

theorem ActiveLog.serve_eq_ok_iff {log : ActiveLog} {level : Level} {directory : LogDirectory} :
    log.serve level directory = .ok () ↔
      level = log.level ∧ Path.names directory.text = Path.names log.directory.text := by
  simp only [serve, LogDirectory.same, eq_comm (a := level), eq_comm (a := Path.names directory.text)]
  by_cases names : Path.names log.directory.text = Path.names directory.text
  · by_cases same : log.level = level <;> simp [names, same]
  · simp [names]

structure LogRequest.AsksFor (request : LogRequest) (level : Level) (directory : LogDirectory) : Prop where
  level : level.IsNamed request.level
  absolute : Path.isAbsolute (Text.trim request.directory) = true
  names : Path.names (Text.trim request.directory) = Path.names directory.text

structure LogRequest.Starts (request : LogRequest) : Prop where
  level : ∃ level : Level, level.IsNamed request.level
  absolute : Path.isAbsolute (Text.trim request.directory) = true
  created : request.create ⟨Text.trim request.directory⟩ = .ok ()
  free : request.occupied = false

namespace Logging

variable {logging : Logging} {request : LogRequest}

@[simp] theorem status_record (logging : Logging) (event : Event) : (logging.record event).status = logging.status := by
  cases active : logging.active with
  | none => simp [status, record, active]
  | some log =>
    simp only [status, record, active, Option.map_some]
    split <;> rfl

theorem start_eq_ok_iff {started : Logging} {create : LogDirectory → Except String Unit} {level : Level}
    {directory : LogDirectory} :
    logging.start create level directory = .ok started ↔ create directory = .ok () ∧ logging.occupied = false ∧
      started = { logging with active := some ⟨level, directory, []⟩ }.record (.loggingStarted level directory.text) := by
  simp only [start]
  cases create directory with
  | error reason => simp [bind, Except.bind]
  | ok _ =>
    cases logging.occupied <;>
      simp [bind, Except.bind, pure, Except.pure, throw, throwThe, MonadExceptOf.throw, eq_comm]

section

variable {started : Logging} {create : LogDirectory → Except String Unit} {level directory : String}

theorem init_eq_ok_iff_of_active {log : ActiveLog} (active : logging.active = some log) :
    logging.init create level directory = .ok started ↔ (∃ level' : Level, level'.IsNamed level ∧
      Path.isAbsolute (Text.trim directory) = true ∧ log.serve level' ⟨Text.trim directory⟩ = .ok ()) ∧
        started = logging := by
  simp only [init, ask, active, bind_eq_ok, Level.parse_eq_ok_iff, LogDirectory.parse_eq_ok_iff]
  constructor
  · rintro ⟨_, ⟨level', named, _, ⟨absolute, rfl⟩, _, served, asked⟩, done⟩
    obtain rfl := Except.ok.inj asked
    exact ⟨⟨level', named, absolute, served⟩, (Except.ok.inj done).symm⟩
  · rintro ⟨⟨level', named, absolute, served⟩, rfl⟩
    exact ⟨none, ⟨level', named, _, ⟨absolute, rfl⟩, (), served, rfl⟩, rfl⟩

theorem init_eq_ok_iff_of_idle (idle : logging.active = none) :
    logging.init create level directory = .ok started ↔ ∃ level' : Level, level'.IsNamed level ∧
      Path.isAbsolute (Text.trim directory) = true ∧
        logging.start create level' ⟨Text.trim directory⟩ = .ok started := by
  simp only [init, ask, idle, bind_eq_ok, Level.parse_eq_ok_iff, LogDirectory.parse_eq_ok_iff]
  constructor
  · rintro ⟨_, ⟨level', named, _, ⟨absolute, rfl⟩, asked⟩, begun⟩
    obtain rfl := Except.ok.inj asked
    exact ⟨level', named, absolute, begun⟩
  · rintro ⟨level', named, absolute, begun⟩
    exact ⟨some (level', _), ⟨level', named, _, ⟨absolute, rfl⟩, rfl⟩, begun⟩

end

theorem respond_of_ok {started : Logging}
    (done : (logging.meeting request).init request.create request.level request.directory =
      .ok started) : logging.respond request = (.ok (), started) := by
  rw [respond, initInPlace_eq, done]

theorem respond_of_error {e : LoggingError}
    (failed : (logging.meeting request).init request.create request.level request.directory =
      .error e) : logging.respond request = (.error e, logging.meeting request) := by
  rw [respond, initInPlace_eq, failed]

theorem respond_of_active {level : Level} {directory : LogDirectory}
    (status : logging.status = some (level, directory)) (request : LogRequest) :
    ((logging.respond request).1 = .ok () ↔ request.AsksFor level directory) ∧
      (logging.respond request).2.status = logging.status := by
  obtain ⟨log, active, same⟩ := Option.map_eq_some_iff.mp status
  obtain ⟨rfl, rfl⟩ := Prod.mk.inj same
  have atWork : (logging.meeting request).active = some log := active
  have served : ∀ started, (logging.meeting request).init request.create request.level
      request.directory = .ok started ↔ request.AsksFor log.level log.directory ∧
        started = logging.meeting request := by
    intro started
    refine (init_eq_ok_iff_of_active atWork).trans (and_congr_left' ?_)
    simp only [ActiveLog.serve_eq_ok_iff]
    constructor
    · rintro ⟨level, named, absolute, rfl, names⟩
      exact ⟨named, absolute, names⟩
    · rintro ⟨named, absolute, names⟩
      exact ⟨log.level, named, absolute, rfl, names⟩
  cases done : (logging.meeting request).init request.create request.level request.directory with
  | ok started =>
    obtain ⟨asks, rfl⟩ := (served started).mp done
    rw [respond_of_ok done]
    exact ⟨⟨fun _ => asks, fun _ => rfl⟩, status ▸ status⟩
  | error e =>
    rw [respond_of_error done]
    refine ⟨⟨fun ok => (by cases ok), fun asks => ?_⟩, rfl⟩
    rw [(served _).mpr ⟨asks, rfl⟩] at done
    cases done

/-- Without a log at work, a request that can be started decides which log it is, and any other changes nothing. -/
theorem respond_of_idle (status : logging.status = none) (request : LogRequest) :
    (request.Starts ∧ (logging.respond request).1 = .ok () ∧
        ∃ level : Level, level.IsNamed request.level ∧
          (logging.respond request).2.status = some (level, ⟨Text.trim request.directory⟩)) ∨
      ¬ request.Starts ∧ (∃ e, (logging.respond request).1 = .error e) ∧ (logging.respond request).2.status = none := by
  have idle : (logging.meeting request).active = none := Option.map_eq_none_iff.mp status
  cases done : (logging.meeting request).init request.create request.level request.directory with
  | ok started =>
    obtain ⟨level, named, absolute, begun⟩ := (init_eq_ok_iff_of_idle idle).mp done
    obtain ⟨created, free, rfl⟩ := start_eq_ok_iff.mp begun
    rw [respond_of_ok done]
    exact .inl ⟨⟨⟨level, named⟩, absolute, created, free⟩, rfl, level, named, status_record _ _⟩
  | error e =>
    rw [respond_of_error done]
    refine .inr ⟨fun ⟨⟨level, named⟩, absolute, created, free⟩ => ?_, ⟨e, rfl⟩, status⟩
    rw [(init_eq_ok_iff_of_idle idle).mpr ⟨level, named, absolute, start_eq_ok_iff.mpr ⟨created, free, rfl⟩⟩] at done
    cases done

@[simp] theorem after_nil (logging : Logging) : logging.after [] = logging := rfl

@[simp] theorem after_cons (logging : Logging) (request : LogRequest) (later : List LogRequest) :
    logging.after (request :: later) = (logging.respond request).2.after later := rfl

theorem after_append (logging : Logging) (earlier later : List LogRequest) :
    logging.after (earlier ++ later) = (logging.after earlier).after later := List.foldl_append

theorem status_after_of_active {level : Level} {directory : LogDirectory} (requests : List LogRequest)
    (status : logging.status = some (level, directory)) : (logging.after requests).status = some (level, directory) := by
  induction requests generalizing logging with
  | nil => exact status
  | cons request later ih => exact ih ((respond_of_active status request).2.trans status)

/-- As long as nothing but refusals was answered there is no log at work, and no longer. -/
theorem status_after_eq_none_iff {requests : List LogRequest} (status : logging.status = none) :
    (logging.after requests).status = none ↔ ∀ reply ∈ logging.replies requests, ∃ e, reply = .error e := by
  induction requests generalizing logging with
  | nil => simpa [replies] using status
  | cons request later ih =>
    rw [after_cons, replies, List.forall_mem_cons]
    rcases respond_of_idle status request with ⟨_, ok, level, _, begun⟩ | ⟨_, refused, idle⟩
    · simp [ok, status_after_of_active later begun]
    · exact (ih idle).trans (iff_and_self.mpr fun _ => refused)

theorem status_respond_of_error {e : LoggingError} (refused : (logging.respond request).1 = .error e) :
    (logging.respond request).2.status = logging.status := by
  cases status : logging.status with
  | some which => exact (respond_of_active status request).2.trans status
  | none =>
    rcases respond_of_idle status request with ⟨_, ok, _⟩ | ⟨_, _, idle⟩
    · rw [ok] at refused
      cases refused
    · exact idle

theorem respond_eq_ok_iff_of_idle (status : logging.status = none) (request : LogRequest) :
    (logging.respond request).1 = .ok () ↔ request.Starts := by
  rcases respond_of_idle status request with ⟨starts, ok, _⟩ | ⟨not, ⟨e, refused⟩, _⟩
  · exact iff_of_true ok starts
  · exact iff_of_false (fun ok => by rw [refused] at ok; cases ok) not

theorem status_after_of_started {earlier later : List LogRequest} (status : (logging.after earlier).status = none)
    (ok : ((logging.after earlier).respond request).1 = .ok ()) :
    ∃ level : Level, level.IsNamed request.level ∧
      (logging.after (earlier ++ request :: later)).status = some (level, ⟨Text.trim request.directory⟩) := by
  rcases respond_of_idle status request with ⟨_, _, level, named, begun⟩ | ⟨_, ⟨e, refused⟩, _⟩
  · refine ⟨level, named, ?_⟩
    rw [after_append, after_cons]
    exact status_after_of_active later begun
  · rw [refused] at ok
    cases ok

end Logging

/-- Whatever a process asks for and whatever comes of it, there is no log until a request succeeds. That request
decides the level and the directory for good: from then on the requests for that log succeed, and no others. A
refused request changes nothing, and as long as there is no log any request that can be started succeeds. -/
theorem log_configured_once (requests : List LogRequest) :
    ((Logging.idle.after requests).status = none ↔
      ∀ reply ∈ Logging.idle.replies requests, ∃ e, reply = .error e) ∧
    (∀ earlier request later, requests = earlier ++ request :: later → (Logging.idle.after earlier).status = none →
      ((Logging.idle.after earlier).respond request).1 = .ok () →
        ∃ level : Level, level.IsNamed request.level ∧
          (Logging.idle.after requests).status = some (level, ⟨Text.trim request.directory⟩)) ∧
    (∀ level directory, (Logging.idle.after requests).status = some (level, directory) →
      ∀ request, ((Logging.idle.after requests).respond request).1 = .ok () ↔ request.AsksFor level directory) ∧
    ((Logging.idle.after requests).status = none →
      ∀ request, ((Logging.idle.after requests).respond request).1 = .ok () ↔ request.Starts) ∧
    ∀ request e, ((Logging.idle.after requests).respond request).1 = .error e →
      ((Logging.idle.after requests).respond request).2.status = (Logging.idle.after requests).status := by
  refine ⟨Logging.status_after_eq_none_iff rfl, ?_, ?_, Logging.respond_eq_ok_iff_of_idle,
    fun _ _ => Logging.status_respond_of_error⟩
  · rintro earlier request later rfl status ok
    exact Logging.status_after_of_started status ok
  · intro level directory status request
    exact (Logging.respond_of_active status request).1

def LogRequest.unhindered (level directory : String) : LogRequest := ⟨level, directory, fun _ => .ok (), false⟩

def LogRequest.hindered : List LogRequest :=
  [.unhindered "loud" "/var/log", .unhindered "info" "log", ⟨"info", "/var/log", fun _ => .error "full", false⟩,
    ⟨"info", "/var/log", fun _ => .ok (), true⟩]

theorem log_configured_after_refusals :
    (Logging.idle.after LogRequest.hindered).status = none ∧
    (Logging.idle.after (LogRequest.hindered ++ [.unhindered " WARNING " " /var/./log/ "])).status =
      some (.warn, ⟨"/var/./log/"⟩) ∧
    ((Logging.idle.after (LogRequest.hindered ++ [.unhindered " WARNING " " /var/./log/ "])).respond
      (.unhindered "Warn" "/var//log")).1 = .ok () ∧
    ((Logging.idle.after (LogRequest.hindered ++ [.unhindered " WARNING " " /var/./log/ "])).respond
      (.unhindered "info" "/var/./log")).1 ≠ .ok () := by
  have refused : (Logging.idle.after LogRequest.hindered).status = none := by decide +kernel
  have warning : Level.warn.IsNamed " WARNING " := .inr ⟨by decide +kernel, rfl⟩
  obtain ⟨level, named, status⟩ := (log_configured_once _).2.1 LogRequest.hindered
    (.unhindered " WARNING " " /var/./log/ ") [] rfl refused <|
      ((log_configured_once _).2.2.2.1 refused _).mpr ⟨⟨.warn, warning⟩, by decide +kernel, rfl, rfl⟩
  obtain rfl : level = .warn :=
    Except.ok.inj ((Level.parse_eq_ok_iff.mpr named).symm.trans (Level.parse_eq_ok_iff.mpr warning))
  rw [show Text.trim (LogRequest.unhindered " WARNING " " /var/./log/ ").directory = "/var/./log/" by decide +kernel]
    at status
  have serves := (log_configured_once _).2.2.1 _ _ status
  refine ⟨refused, status, (serves _).mpr ⟨.inl (by decide +kernel), by decide +kernel, by decide +kernel⟩,
    fun ok => ?_⟩
  rcases ((serves _).mp ok).level with other | ⟨other, _⟩
  all_goals exact absurd other (by decide +kernel)

end Catalogue
