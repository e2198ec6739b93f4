import Catalogue.Proofs.Composed
import Catalogue.Proofs.Opening
import Catalogue.Repository.InPlace

/-! What a failure leaves behind. Work inside a transaction may stop anywhere, and one failure ends the
transaction by itself, but undoing what remains always gives the connection from before; and a caller's
books are written only when nothing can fail any more. -/

set_option autoImplicit false

namespace Catalogue

namespace Action

variable {ε ζ α β : Type}

/-- Done inside a transaction, the work changes nothing that undoing does not restore, and only a
failure ends the transaction. -/
def Undoable (x : Action ε α) : Prop :=
  ∀ c : Connection, c.inTransaction = true →
    (x c).connection.abandon = c.abandon ∧ ∀ a, (x c).result = .ok a → (x c).connection.inTransaction = true

theorem Undoable.of_stays {x : Action ε α} (stays : ∀ c, (x c).connection = c) : x.Undoable := by
  intro c open_
  rw [stays]
  exact ⟨rfl, fun _ _ => open_⟩

theorem Undoable.bind {x : Action ε α} {f : α → Action ε β} (first : x.Undoable)
    (rest : ∀ a, (f a).Undoable) : (x >>= f).Undoable := by
  intro c open_
  obtain ⟨undone, stillOpen⟩ := first c open_
  rcases reply : x c with ⟨result, d, events⟩
  rw [reply] at undone stillOpen
  cases result with
  | error e =>
    rw [bind_apply_error reply]
    exact ⟨undone, fun a h => by cases h⟩
  | ok a =>
    rw [bind_apply_ok reply]
    obtain ⟨undone', stillOpen'⟩ := rest a d (stillOpen a rfl)
    exact ⟨undone'.trans undone, stillOpen'⟩

theorem Undoable.mapError {x : Action ε α} (f : ε → ζ) (h : x.Undoable) : (x.mapError f).Undoable := by
  intro c open_
  refine ⟨(h c open_).1, fun a ok => (h c open_).2 a ?_⟩
  simp only [Action.mapError] at ok
  cases result : (x c).result with
  | error e => simp [result] at ok
  | ok b => simpa [result] using ok

theorem reportingError_connection (event : ε → Event) (x : Action ε α) (c : Connection) :
    (x.reportingError event c).connection = (x c).connection := by
  rcases reply : x c with ⟨_ | _, d, events⟩ <;> simp [reportingError, reply]

theorem reportingError_result (event : ε → Event) (x : Action ε α) (c : Connection) :
    (x.reportingError event c).result = (x c).result := by
  rcases reply : x c with ⟨_ | _, d, events⟩ <;> simp [reportingError, reply]

theorem Undoable.reportingError {x : Action ε α} (event : ε → Event) (h : x.Undoable) :
    (x.reportingError event).Undoable := by
  intro c open_
  rw [reportingError_connection, reportingError_result]
  exact h c open_

-- A statement either keeps the transaction open, with another store, or has undone it.
theorem undoable_write (changes : Bool → α → Bool) (f : Bool → Store → Except EngineError (α × Store)) :
    (write changes f).Undoable := by
  intro c open_
  obtain ⟨backup, saved⟩ := Option.isSome_iff_exists.mp open_
  unfold write
  split
  · exact ⟨rfl, fun _ _ => open_⟩
  · split
    · split
      · exact ⟨rfl, fun _ _ => open_⟩
      · simp [Connection.abandon, Connection.durable, Connection.inTransaction, saved]
    · simp [Connection.abandon, Connection.durable]
    · exact ⟨rfl, fun _ _ => open_⟩

theorem Composed.undoable {x : Action ε α} (composed : x.Composed) : x.Undoable := by
  induction composed with
  | pure a => exact .of_stays fun _ => rfl
  | fail e => exact .of_stays fun _ => rfl
  | query f => exact .of_stays fun _ => rfl
  | write _ => exact undoable_write _ _
  | bind _ _ first rest => exact first.bind rest
  | mapError f _ ih => exact ih.mapError f

/-- Failing, the action leaves the connection as it found it. -/
def Traceless (x : Action ε α) : Prop := ∀ c e, (x c).result = .error e → (x c).connection = c

theorem traceless_transaction {refused : EngineError → ε} {body : Action ε α} (undoable : body.Undoable) :
    (transaction refused body).Traceless := by
  intro c e failed
  unfold transaction at failed ⊢
  -- With a transaction open nothing is begun, and without one the backup taken at the start comes back.
  cases noneOpen : c.backup with
  | some store => simp [Connection.begin, Connection.inTransaction, noneOpen]
  | none =>
    have undone := (undoable { c with backup := some c.store } rfl).1
    simp only [Connection.begin, Connection.inTransaction, noneOpen, Option.isSome_none,
      Bool.false_eq_true, if_false] at failed ⊢
    rcases reply : body { c with backup := some c.store } with ⟨_ | a, d, events⟩
    · rw [reply] at undone
      simp only [Connection.abandon, Connection.durable, Option.getD_some] at undone ⊢
      rw [undone, ← noneOpen]
    · simp [reply] at failed

theorem Traceless.after_stays {x : Action ε α} {f : α → Action ε β} (stays : ∀ c, (x c).connection = c)
    (rest : ∀ a, (f a).Traceless) : (x >>= f).Traceless := by
  intro c e failed
  have same := stays c
  rcases reply : x c with ⟨_ | a, d, events⟩
  · rw [reply] at same
    rw [bind_apply_error reply]
    exact same
  · rw [reply] at same
    obtain rfl : d = c := same
    rw [bind_apply_ok reply] at failed ⊢
    exact rest a d e failed

theorem Traceless.after_check {result : Except ε α} {f : α → Action ε β} (rest : ∀ a, (f a).Traceless) :
    (ofExcept result >>= f).Traceless := .after_stays (fun _ => rfl) rest

theorem Traceless.before_total {x : Action ε α} {f : α → Action ε β} (first : x.Traceless)
    (total : ∀ a c e, (f a c).result ≠ .error e) : (x >>= f).Traceless := by
  intro c e failed
  rcases reply : x c with ⟨result, d, events⟩
  cases result with
  | error e' =>
    have unchanged := first c e'
    rw [reply] at unchanged
    rw [bind_apply_error reply]
    exact unchanged rfl
  | ok a =>
    rw [bind_apply_ok reply] at failed
    exact absurd failed (total a d e)

end Action

namespace Books

open Catalogue.Action

theorem save_traceless (book : Book) : (save book).Traceless :=
  .after_check fun _ =>
    .before_total (traceless_transaction ((cascade_composed book).undoable.reportingError _)) fun _ _ _ h => by cases h

theorem saveAll_traceless (books : List Book) : (saveAll books).Traceless :=
  .after_check fun _ =>
    .before_total (traceless_transaction ((cascadeAll_composed books).undoable.reportingError _)) fun _ _ _ h => by cases h

theorem deleteById_traceless (id : BookId) : (deleteById id).Traceless :=
  .before_total (traceless_transaction ((removeBook_composed id).undoable.mapError _)) fun _ _ _ h => by cases h

theorem deleteAll_traceless : deleteAll.Traceless :=
  .before_total (traceless_transaction (removeAll_composed.undoable.mapError _)) fun _ _ _ h => by cases h

/-- Whatever the connection holds and however far a write comes, its failure leaves the connection and the
caller's books exactly as they were. -/
theorem failed_write_leaves_no_trace (c : Connection) :
    (∀ book e, (saveInPlace book c).reply.result = .error e →
      (saveInPlace book c).reply.connection = c ∧ (saveInPlace book c).held = book) ∧
    (∀ books e, (saveAllInPlace books c).reply.result = .error e →
      (saveAllInPlace books c).reply.connection = c ∧ (saveAllInPlace books c).held = books) ∧
    (∀ id e, (deleteById id c).result = .error e → (deleteById id c).connection = c) ∧
    ∀ e, (deleteAll c).result = .error e → (deleteAll c).connection = c := by
  -- The caller's books change only after the transaction, so a failure finds them as they were passed.
  refine ⟨fun book e failed => ?_, fun books e failed => ?_, fun id => deleteById_traceless id c, deleteAll_traceless c⟩
  · rw [saveInPlace_eq] at failed ⊢
    cases result : (save book c).result with
    | ok saved => simp [result, Except.map] at failed
    | error e' => exact ⟨save_traceless book c e' result, rfl⟩
  · rw [saveAllInPlace_eq] at failed ⊢
    cases result : (saveAll books c).result with
    | ok saved => simp [result, Except.map] at failed
    | error e' => exact ⟨saveAll_traceless books c e' result, rfl⟩

theorem four_failures_leave_no_trace :
    let batch : List Book := [.withReviews "Ulysses" 730 [.new "Eve" "Odd"],
      ⟨some 1, "Dune II", 256, [.new "Eve" "Odd", ⟨some 9, "Ann", "Lost", none⟩]⟩]
    (saveAllInPlace batch .sample).reply.result = .error (.reviewNotFound 9) ∧
      (saveAllInPlace batch .sample).reply.connection = .sample ∧ (saveAllInPlace batch .sample).held = batch ∧
      (saveInPlace ⟨some 7, "Ulysses", 730, []⟩ .sample).reply.connection = .sample ∧
      (deleteById 1 (Connection.sample.setQueryOnly true)).connection = Connection.sample.setQueryOnly true ∧
      (deleteAll { Connection.sample with backup := some .fresh }).connection =
        { Connection.sample with backup := some .fresh } := by
  intro batch
  have lost : (saveAllInPlace batch .sample).reply.result = .error (.reviewNotFound 9) := by decide +kernel
  have unknown : (saveInPlace ⟨some 7, "Ulysses", 730, []⟩ .sample).reply.result = .error (.bookNotFound 7) := by
    decide +kernel
  have refused : (deleteById 1 (Connection.sample.setQueryOnly true)).result = .error (.engine .readOnly) := by
    decide +kernel
  have nested : (deleteAll { Connection.sample with backup := some .fresh }).result =
      .error (.engine .nestedTransaction) := by
    decide +kernel
  have traceless := failed_write_leaves_no_trace
  exact ⟨lost, ((traceless _).2.1 batch _ lost).1, ((traceless _).2.1 batch _ lost).2, ((traceless _).1 _ _ unknown).1,
    (traceless _).2.2.1 _ _ refused, (traceless _).2.2.2 _ nested⟩

end Books

end Catalogue
