import Catalogue.Store.Action

/-! Actions that succeed, and actions that fail. Each law says of one way to build an action what its success
comes from, or its failure, so that the success of a whole action unfolds into what its statements did, one
after another, and its failure into the one statement that failed. -/

set_option autoImplicit false

namespace Catalogue

theorem bind_eq_ok {ε α β : Type} {x : Except ε α} {f : α → Except ε β} {b : β} :
    (x >>= f) = .ok b ↔ ∃ a, x = .ok a ∧ f a = .ok b := by
  cases x <;> simp [bind, Except.bind]

theorem map_eq_ok {ε α β : Type} {result : Except ε α} {f : α → β} {b : β} :
    result.map f = .ok b ↔ ∃ a, result = .ok a ∧ b = f a := by
  cases result <;> simp [Except.map, eq_comm]

namespace Action

variable {ε ζ α β : Type} {c d : Connection}

/-- Started on `c`, the action succeeds with `a` and leaves `d`. -/
def Gives (x : Action ε α) (c : Connection) (a : α) (d : Connection) : Prop :=
  (x c).result = .ok a ∧ (x c).connection = d

theorem gives_of_ok {x : Action ε α} {a : α} (h : (x c).result = .ok a) : x.Gives c a (x c).connection := ⟨h, rfl⟩

@[simp] theorem gives_pure {a b : α} : (pure a : Action ε α).Gives c b d ↔ b = a ∧ d = c := by
  simp [Gives, pure_apply, eq_comm]

@[simp] theorem gives_fail {e : ε} {a : α} : ¬ (fail e).Gives c a d := by simp [Gives, fail]

@[simp] theorem gives_ofExcept {result : Except ε α} {a : α} :
    (ofExcept result).Gives c a d ↔ result = .ok a ∧ d = c := by simp [Gives, ofExcept, eq_comm]

@[simp] theorem gives_report {event : Event} {u : Unit} : (report event : Action ε Unit).Gives c u d ↔ d = c := by
  simp [Gives, report, eq_comm]

@[simp] theorem gives_query {f : Store → Except ε α} {a : α} :
    (query f).Gives c a d ↔ f c.store = .ok a ∧ d = c := by simp [Gives, query, eq_comm]

theorem gives_bind {x : Action ε α} {f : α → Action ε β} {b : β} :
    (x >>= f).Gives c b d ↔ ∃ a e, x.Gives c a e ∧ (f a).Gives e b d := by
  rcases reply : x c with ⟨result, e, events⟩
  cases result with
  | error err => simp [Gives, bind_apply_error reply, reply]
  | ok a => simp [Gives, bind_apply_ok reply, reply, and_assoc]

theorem gives_map {x : Action ε α} {f : α → β} {b : β} : (f <$> x).Gives c b d ↔ ∃ a, x.Gives c a d ∧ b = f a := by
  rw [map_eq_pure_bind, gives_bind]
  constructor
  · rintro ⟨a, e, first, rest⟩
    obtain ⟨rfl, rfl⟩ := gives_pure.mp rest
    exact ⟨a, first, rfl⟩
  · rintro ⟨a, first, rfl⟩
    exact ⟨a, d, first, gives_pure.mpr ⟨rfl, rfl⟩⟩

@[simp] theorem gives_discard {x : Action ε α} {u : PUnit} :
    (discard x).Gives c u d ↔ ∃ a, x.Gives c a d := by
  change ((fun _ => PUnit.unit) <$> x).Gives c u d ↔ _
  simp [gives_map]

@[simp] theorem gives_mapError {x : Action ε α} {f : ε → ζ} {a : α} :
    (x.mapError f).Gives c a d ↔ x.Gives c a d := by
  simp [Gives, mapError, mapError_eq_ok]

@[simp] theorem gives_reportingError {x : Action ε α} {event : ε → Event} {a : α} :
    (x.reportingError event).Gives c a d ↔ x.Gives c a d := by
  rcases reply : x c with ⟨_ | _, e, events⟩ <;> simp [Gives, reportingError, reply]

theorem gives_write {changes : Bool → α → Bool} {f : Bool → Store → Except EngineError (α × Store)} {a : α} :
    (write changes f).Gives c a d ↔ c.refusalOf? (changes c.foreignKeys a) = none ∧
      ∃ store, f c.foreignKeys c.store = .ok (a, store) ∧ d = { c with store } := by
  unfold Gives write
  cases refused : c.refusalOf? false with
  | some e => simp [Connection.refusalOf?_of_refused refused]
  | none =>
    cases done : f c.foreignKeys c.store with
    | error e => cases e <;> simp
    | ok answer =>
      obtain ⟨b, store⟩ := answer
      cases allowed : c.refusalOf? (changes c.foreignKeys b) with
      | some e =>
        simp only [allowed, reduceCtorEq, false_and, false_iff]
        rintro ⟨taken, _, same, -⟩
        cases same
        simp [taken] at allowed
      | none =>
        simp only [allowed, Except.ok.injEq, Prod.mk.injEq]
        constructor
        · rintro ⟨rfl, rfl⟩
          exact ⟨allowed, store, ⟨rfl, rfl⟩, rfl⟩
        · rintro ⟨-, _, ⟨rfl, rfl⟩, rfl⟩
          exact ⟨rfl, rfl⟩

theorem gives_writeAlways {f : Bool → Store → Except EngineError (α × Store)} {a : α} :
    (writeAlways f).Gives c a d ↔
      c.refusal? = none ∧ ∃ store, f c.foreignKeys c.store = .ok (a, store) ∧ d = { c with store } := gives_write

theorem gives_transaction {refused : EngineError → ε} {body : Action ε α} {a : α} :
    (transaction refused body).Gives c a d ↔
      c.backup = none ∧ ∃ e, body.Gives { c with backup := some c.store } a e ∧ d = { e with backup := none } := by
  unfold Gives transaction Connection.begin Connection.inTransaction
  cases noneOpen : c.backup with
  | some store => simp
  | none =>
    rcases reply : body { c with backup := some c.store } with ⟨_ | b, e, events⟩
    · simp [reply]
    · simp only [Option.isSome_none, Bool.false_eq_true, ↓reduceIte, reply, Except.ok.injEq, true_and]
      constructor
      · rintro ⟨rfl, rfl⟩
        exact ⟨e, ⟨rfl, rfl⟩, rfl⟩
      · rintro ⟨e, ⟨rfl, rfl⟩, rfl⟩
        exact ⟨rfl, rfl⟩

/-! Where what is done is known, so is the whole reply. -/

theorem write_eq_of_ok {changes : Bool → α → Bool} {f : Bool → Store → Except EngineError (α × Store)} {a : α}
    {store : Store} (allowed : c.refusalOf? (changes c.foreignKeys a) = none)
    (done : f c.foreignKeys c.store = .ok (a, store)) : write changes f c = ⟨.ok a, { c with store }, []⟩ := by
  simp only [write, Connection.refusalOf?_false_of_allowed allowed, done, allowed]

theorem writeCounted_eq_of_ok {f : Bool → Store → Except EngineError (Nat × Store)} {changed : Nat} {store : Store}
    (allowed : c.refusalOf? (changed != 0) = none) (done : f c.foreignKeys c.store = .ok (changed, store)) :
    writeCounted f c = ⟨.ok changed, { c with store }, []⟩ := write_eq_of_ok allowed done

theorem bind_eq_of_silent {x : Action ε α} {f : α → Action ε β} {a : α} (done : x c = ⟨.ok a, d, []⟩) :
    (x >>= f) c = f a d := bind_apply_ok done

theorem mapError_eq_of_ok {x : Action ε α} {a : α} {events : List Event} (f : ε → ζ)
    (done : x c = ⟨.ok a, d, events⟩) : x.mapError f c = ⟨.ok a, d, events⟩ := by
  simp only [mapError, done, mapError_ok]

theorem transaction_eq_of_ok {refused : EngineError → ε} {body : Action ε α} {a : α} {events : List Event}
    (free : c.backup = none) (done : body { c with backup := some c.store } = ⟨.ok a, d, events⟩) :
    transaction refused body c = ⟨.ok a, { d with backup := none }, events⟩ := by
  simp only [transaction, Connection.begin, Connection.inTransaction, free, Option.isSome_none, Bool.false_eq_true,
    if_false, done]

/-- Started on `c`, the action fails with `e`. -/
def Fails (x : Action ε α) (c : Connection) (e : ε) : Prop := (x c).result = .error e

theorem Gives.not_fails {x : Action ε α} {a : α} {e : ε} (given : x.Gives c a d) : ¬ x.Fails c e := by
  simp [Fails, given.1]

theorem gives_or_fails (x : Action ε α) (c : Connection) : (∃ a d, x.Gives c a d) ∨ ∃ e, x.Fails c e := by
  cases result : (x c).result with
  | ok a => exact .inl ⟨a, _, gives_of_ok result⟩
  | error e => exact .inr ⟨e, result⟩

@[simp] theorem fails_query {f : Store → Except ε α} {e : ε} : (query f).Fails c e ↔ f c.store = .error e := Iff.rfl

theorem fails_write_of_refused {changes : Bool → α → Bool} {f : Bool → Store → Except EngineError (α × Store)}
    {a : α} {store : Store} {e : EngineError} (done : f c.foreignKeys c.store = .ok (a, store))
    (refused : c.refusalOf? (changes c.foreignKeys a) = some e) : (write changes f).Fails c e := by
  unfold Fails write
  cases before : c.refusalOf? false with
  | some e' =>
    have same := Connection.refusalOf?_of_refused before (changes c.foreignKeys a)
    obtain rfl := Option.some.inj (same.symm.trans refused)
    rfl
  | none => simp only [done, refused]

theorem fails_writeAlways_of_refused {f : Bool → Store → Except EngineError (α × Store)} {a : α} {store : Store}
    {e : EngineError} (done : f c.foreignKeys c.store = .ok (a, store)) (refused : c.refusal? = some e) :
    (writeAlways f).Fails c e := fails_write_of_refused done refused

@[simp] theorem not_fails_pure {a : α} {e : ε} : ¬ (pure a : Action ε α).Fails c e := by simp [Fails, pure_apply]

@[simp] theorem not_fails_report {event : Event} {e : ε} : ¬ (report event : Action ε Unit).Fails c e := by
  simp [Fails, report]

theorem fails_bind {x : Action ε α} {f : α → Action ε β} {e : ε} :
    (x >>= f).Fails c e ↔ x.Fails c e ∨ ∃ a d, x.Gives c a d ∧ (f a).Fails d e := by
  rcases reply : x c with ⟨result, d, events⟩
  cases result with
  | error err => simp [Fails, Gives, bind_apply_error reply, reply]
  | ok a => simp [Fails, Gives, bind_apply_ok reply, reply, and_assoc]

theorem connection_bind_of_gives {x : Action ε α} {f : α → Action ε β} {a : α} (given : x.Gives c a d) :
    ((x >>= f) c).connection = (f a d).connection := by
  obtain ⟨ok, rfl⟩ := given
  rcases reply : x c with ⟨result, d, events⟩
  rw [reply] at ok
  obtain rfl : result = .ok a := ok
  rw [bind_apply_ok reply]

theorem connection_bind_of_fails {x : Action ε α} {f : α → Action ε β} {e : ε} (failed : x.Fails c e) :
    ((x >>= f) c).connection = (x c).connection := by
  rcases reply : x c with ⟨result, d, events⟩
  obtain rfl : result = .error e := by rw [Fails, reply] at failed; exact failed
  rw [bind_apply_error reply]

@[simp] theorem fails_mapError {x : Action ε α} {f : ε → ζ} {e : ζ} :
    (x.mapError f).Fails c e ↔ ∃ cause, x.Fails c cause ∧ f cause = e := by
  rcases reply : x c with ⟨_ | _, d, events⟩ <;> simp [Fails, mapError, reply]

@[simp] theorem fails_reportingError {x : Action ε α} {event : ε → Event} {e : ε} :
    (x.reportingError event).Fails c e ↔ x.Fails c e := by
  rcases reply : x c with ⟨_ | _, d, events⟩ <;> simp [Fails, reportingError, reply]

theorem fails_transaction {refused : EngineError → ε} {body : Action ε α} {e : ε} (free : c.backup = none) :
    (transaction refused body).Fails c e ↔ body.Fails { c with backup := some c.store } e := by
  unfold Fails transaction Connection.begin Connection.inTransaction
  rw [free]
  rcases reply : body { c with backup := some c.store } with ⟨_ | a, d, events⟩ <;> simp [reply]

theorem fails_transaction_of_nested {refused : EngineError → ε} {body : Action ε α} {kept : Store}
    (nested : c.backup = some kept) : (transaction refused body).Fails c (refused .nestedTransaction) := by
  simp [Fails, transaction, Connection.begin, Connection.inTransaction, nested]

end Action

end Catalogue
