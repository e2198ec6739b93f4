import Catalogue.Proofs.Composed
import Catalogue.Proofs.Success

/-! What an action reports. One action after another reports what both do, statements report nothing, and a
transaction reports what is done in it, whether it is kept or undone. -/

set_option autoImplicit false

namespace Catalogue

namespace Action

variable {ε ζ α β : Type} {c d : Connection}

theorem events_bind_of_gives {x : Action ε α} {f : α → Action ε β} {a : α} (given : x.Gives c a d) :
    ((x >>= f) c).events = (x c).events ++ (f a d).events := by
  obtain ⟨ok, rfl⟩ := given
  rcases reply : x c with ⟨result, d, events⟩
  rw [reply] at ok
  obtain rfl : result = .ok a := ok
  rw [bind_apply_ok reply]

theorem events_bind_of_fails {x : Action ε α} {f : α → Action ε β} {e : ε} (failed : x.Fails c e) :
    ((x >>= f) c).events = (x c).events := by
  rcases reply : x c with ⟨result, d, events⟩
  obtain rfl : result = .error e := by rw [Fails, reply] at failed; exact failed
  rw [bind_apply_error reply]

theorem Composed.events_eq {x : Action ε α} (composed : x.Composed) (c : Connection) : (x c).events = [] := by
  induction composed generalizing c with
  | pure a => rfl
  | fail e => rfl
  | query f => rfl
  | write _ =>
    unfold Action.write
    split
    · rfl
    · split
      · split <;> rfl
      · rfl
      · rfl
  | @bind ε α β x f _ _ first rest =>
    rcases gives_or_fails x c with ⟨a, d, given⟩ | ⟨e, failed⟩
    · rw [events_bind_of_gives given, first, rest, List.append_nil]
    · rw [events_bind_of_fails failed, first]
  | mapError f _ ih => exact ih c

theorem Composed.reply_eq {x : Action ε α} {a : α} (composed : x.Composed) (given : x.Gives c a d) :
    x c = ⟨.ok a, d, []⟩ := by
  have silent := composed.events_eq c
  obtain ⟨ok, left⟩ := given
  rcases reply : x c with ⟨result, e, events⟩
  simp_all

theorem events_reportingError_of_gives {x : Action ε α} {event : ε → Event} {a : α} (given : x.Gives c a d) :
    (x.reportingError event c).events = (x c).events := by
  obtain ⟨ok, -⟩ := given
  rcases reply : x c with ⟨result, e, events⟩
  rw [reply] at ok
  obtain rfl : result = .ok a := ok
  simp only [reportingError, reply]

theorem events_reportingError_of_fails {x : Action ε α} {event : ε → Event} {e : ε} (failed : x.Fails c e) :
    (x.reportingError event c).events = (x c).events ++ [event e] := by
  rcases reply : x c with ⟨result, d, events⟩
  obtain rfl : result = .error e := by rw [Fails, reply] at failed; exact failed
  simp only [reportingError, reply]

theorem events_transaction {refused : EngineError → ε} {body : Action ε α} (free : c.backup = none) :
    (transaction refused body c).events = (body { c with backup := some c.store }).events := by
  unfold transaction Connection.begin Connection.inTransaction
  rw [free]
  rcases reply : body { c with backup := some c.store } with ⟨_ | a, d, events⟩ <;> simp [reply]

theorem events_transaction_of_nested {refused : EngineError → ε} {body : Action ε α} {kept : Store}
    (nested : c.backup = some kept) : (transaction refused body c).events = [] := by
  simp [transaction, Connection.begin, Connection.inTransaction, nested]

end Action

end Catalogue
