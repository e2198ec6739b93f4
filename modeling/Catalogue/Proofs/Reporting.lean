import Catalogue.Proofs.Events
import Catalogue.Proofs.Readiness

/-! What the migrations report. Each is reported as it goes through, inside the one transaction of them all; so what
is reported is true where the last of them goes through, and false where a later one does not. -/

set_option autoImplicit false

namespace Catalogue

open Catalogue.Action

def Schema.Defines (schema : Schema) : Definition → Prop
  | .table relation => (schema.table? relation.name).isSome = true
  | .index name _ _ => (schema.index? name).isSome = true

/-- A migration has taken hold of a store: it has reached the version, and all that the script defines is there. -/
structure Store.InForce (store : Store) (migration : Migration) : Prop where
  version : migration.version ≤ store.userVersion
  defined : ∀ definition ∈ migration.script, store.schema.Defines definition

/-- Of each version that a log says was reached, the migration is in force. -/
def Store.BearsOut (store : Store) (events : List Event) : Prop :=
  ∀ version start, .migrated version start ∈ events →
    ∃ migration ∈ Migration.all, migration.version = version ∧ store.InForce migration

theorem Store.bearsOut_nil (store : Store) : store.BearsOut [] := fun _ _ member => absurd member List.not_mem_nil

namespace Migration

variable {c d : Connection}

def reports (start : Nat) (migrations : List Migration) : List Event :=
  migrations.map fun migration => .migrated migration.version start

theorem events_run_mapError (migration : Migration) (f : EngineError → DatabaseError) (c : Connection) :
    (migration.run.mapError f c).events = [] := (run_composed migration).events_eq c

theorem runAll_cons (start : Nat) (migration : Migration) (rest : List Migration) :
    runAll start (migration :: rest) = migration.run.mapError (.migration migration.version) >>= fun _ =>
      report (.migrated migration.version start) >>= fun _ => runAll start rest := rfl

theorem events_runAll_cons {start : Nat} {migration : Migration} {rest : List Migration}
    (given : migration.run.Gives c () d) :
    (runAll start (migration :: rest) c).events =
      .migrated migration.version start :: (runAll start rest d).events := by
  rw [runAll_cons, events_bind_of_gives (gives_mapError.mpr given), events_run_mapError, List.nil_append,
    events_bind_of_gives (a := ()) (gives_report.mpr rfl)]
  rfl

theorem events_runAll_of_gives {start : Nat} {migrations : List Migration}
    (given : (runAll start migrations).Gives c () d) :
    (runAll start migrations c).events = reports start migrations := by
  induction migrations generalizing c with
  | nil => rfl
  | cons migration rest ih =>
    obtain ⟨_, between, first, later⟩ := gives_bind.mp given
    obtain ⟨_, _, reported, later⟩ := gives_bind.mp later
    obtain rfl := gives_report.mp reported
    rw [events_runAll_cons (gives_mapError.mp first), ih later]
    rfl

/-- Of these migrations, the first few go through on a schema, and the next one does not. -/
def Halts (schema : Schema) (migrations earlier : List Migration) : Prop :=
  ∃ migration later between cause, migrations = earlier ++ migration :: later ∧
    schema.extendAll (asked earlier) = .ok between ∧ between.extendAll migration.script = .error cause

theorem extends_or_halts (schema : Schema) (migrations : List Migration) :
    (∃ extended, schema.extendAll (asked migrations) = .ok extended) ∨
      ∃ earlier, Halts schema migrations earlier := by
  induction migrations generalizing schema with
  | nil => exact .inl ⟨schema, rfl⟩
  | cons migration rest ih =>
    cases first : schema.extendAll migration.script with
    | error cause => exact .inr ⟨[], migration, rest, schema, cause, rfl, rfl, first⟩
    | ok between =>
      have further {later : List Migration} : schema.extendAll (asked (migration :: later)) =
          between.extendAll (asked later) := by
        rw [asked, List.flatMap_cons, Schema.extendAll_append, first]
        rfl
      rcases ih between with ⟨extended, all⟩ | ⟨earlier, next, later, reached, cause, split, extends_, stuck⟩
      · exact .inl ⟨extended, further.trans all⟩
      · exact .inr ⟨migration :: earlier, next, later, reached, cause, congrArg (migration :: ·) split,
          further.trans extends_, stuck⟩

theorem run_fails_of_error {migration : Migration} {cause : EngineError}
    (stuck : c.store.schema.extendAll migration.script = .error cause) : ∃ e, migration.run.Fails c e := by
  rcases gives_or_fails migration.run c with ⟨_, d, given⟩ | failed
  · obtain ⟨-, schema, extended, -⟩ := run_gives.mp given
    rw [stuck] at extended
    cases extended
  · exact failed

theorem runAll_cons_of_fails {start : Nat} {migration : Migration} {rest : List Migration} {cause : EngineError}
    (failed : migration.run.Fails c cause) :
    (∃ e, (runAll start (migration :: rest)).Fails c e) ∧ (runAll start (migration :: rest) c).events = [] := by
  have stops := fails_mapError (f := DatabaseError.migration migration.version).mpr ⟨cause, failed, rfl⟩
  rw [runAll_cons]
  exact ⟨⟨_, fails_bind.mpr (.inl stops)⟩, (events_bind_of_fails stops).trans (events_run_mapError _ _ c)⟩

theorem runAll_of_halts (allowed : c.refusal? = none) {start : Nat} {migrations earlier : List Migration}
    (halts : Halts c.store.schema migrations earlier) :
    (∃ e, (runAll start migrations).Fails c e) ∧ (runAll start migrations c).events = reports start earlier := by
  obtain ⟨migration, later, between, cause, rfl, extends_, stuck⟩ := halts
  induction earlier generalizing c with
  | nil =>
    obtain rfl := Except.ok.inj extends_
    obtain ⟨e, failed⟩ := run_fails_of_error stuck
    exact runAll_cons_of_fails failed
  | cons first rest ih =>
    rw [asked, List.flatMap_cons, Schema.extendAll_append] at extends_
    obtain ⟨schema, extended, extends_⟩ := bind_eq_ok.mp extends_
    have given := run_gives.mpr ⟨allowed, schema, extended, rfl⟩
    obtain ⟨⟨e, failed⟩, reported⟩ := ih (c := c.rebuilt schema first.version) allowed extends_
    refine ⟨⟨e, ?_⟩, ?_⟩
    · rw [List.cons_append, runAll_cons]
      refine fails_bind.mpr (.inr ⟨(), _, gives_mapError.mpr given, ?_⟩)
      exact fails_bind.mpr (.inr ⟨(), _, gives_report.mpr rfl, failed⟩)
    · rw [List.cons_append, events_runAll_cons given, reported]
      rfl

theorem runAll_of_refused {e : EngineError} (refused : c.refusal? = some e) {start : Nat}
    {migrations : List Migration} (some_ : migrations ≠ []) :
    (∃ e, (runAll start migrations).Fails c e) ∧ (runAll start migrations c).events = [] := by
  obtain ⟨migration, rest, rfl⟩ := List.exists_cons_of_ne_nil some_
  rcases gives_or_fails migration.run c with ⟨_, d, given⟩ | ⟨cause, failed⟩
  · rw [(run_gives.mp given).1] at refused
    cases refused
  · exact runAll_cons_of_fails failed

theorem apply_eq_of_older {version : Nat} (read : c.store.userVersion = version) (older : version < latest) :
    apply c = transaction .engine (runAll version (pending version)) c := by
  have asked : (Action.query Store.version?).mapError DatabaseError.engine c = ⟨.ok version, c, []⟩ :=
    mapError_eq_of_ok _ (by simp [query, Store.version?_eq_ok_iff.mpr read])
  rw [apply, bind_eq_of_silent asked, if_neg older.not_gt, if_neg older.ne]

theorem events_apply_of_not_older (current : ∀ version : Nat, c.store.userVersion = version → ¬ version < latest) :
    (apply c).events = [] := by
  let asking : Action DatabaseError Nat := (Action.query Store.version?).mapError .engine
  rcases gives_or_fails asking c with ⟨version, d, asked⟩ | ⟨e, failed⟩
  · rw [apply, events_bind_of_gives asked]
    obtain ⟨read, rfl⟩ := gives_query.mp (gives_mapError.mp asked)
    have current := current version (Store.version?_eq_ok_iff.mp read)
    split
    · rfl
    · rw [if_pos (by omega)]
      rfl
  · exact events_bind_of_fails failed

theorem events_apply_of_gives {version : Nat} (read : c.store.userVersion = version) (given : apply.Gives c () d) :
    (apply c).events = reports version (pending version) := by
  obtain ⟨version', read', rest⟩ := apply_gives.mp given
  obtain rfl : version' = version := by omega
  rcases rest with ⟨rfl, -⟩ | ⟨older, free, allowed, schema, extended, -⟩
  · refine events_apply_of_not_older fun version read' => ?_
    omega
  · rw [apply_eq_of_older read older, events_transaction free]
    exact events_runAll_of_gives (runAll_gives.mpr ⟨fun _ => allowed, schema, extended, rfl⟩)

theorem apply_of_halts {version : Nat} (read : c.store.userVersion = version) (free : c.backup = none)
    (allowed : c.refusal? = none) {earlier : List Migration}
    (halts : Halts c.store.schema (pending version) earlier) :
    (∃ e, apply.Fails c e) ∧ (apply c).events = reports version earlier := by
  have older : version < latest := by
    obtain ⟨migration, later, -, -, split, -⟩ := halts
    have member : migration ∈ pending version := by simp [split]
    obtain ⟨listed, after⟩ := List.mem_filter.mp member
    have bounded : ∀ migration ∈ all, migration.version ≤ latest := by decide
    exact lt_of_lt_of_le (of_decide_eq_true after) (bounded migration listed)
  let begun : Connection := { c with backup := some c.store }
  have halted : (∃ e, (runAll version (pending version)).Fails begun e) ∧
      (runAll version (pending version) begun).events = reports version earlier :=
    runAll_of_halts (c := begun) allowed halts
  obtain ⟨⟨e, failed⟩, reported⟩ := halted
  refine ⟨⟨e, ?_⟩, ?_⟩
  · rw [Fails, apply_eq_of_older read older]
    exact (fails_transaction free).mpr failed
  · rw [apply_eq_of_older read older, events_transaction free]
    exact reported

/-- A call that fails has reported nothing, or has halted behind what it reported. -/
theorem events_apply_of_fails {e : DatabaseError} (failed : apply.Fails c e) :
    (apply c).events = [] ∨ ∃ (version : Nat) (earlier : List Migration), c.store.userVersion = version ∧
      c.backup = none ∧ c.refusal? = none ∧ Halts c.store.schema (pending version) earlier ∧
        (apply c).events = reports version earlier := by
  by_cases old : ∃ version : Nat, c.store.userVersion = version ∧ version < latest
  · obtain ⟨version, read, older⟩ := old
    have some_ := (reached_pending older 0).1
    cases free : c.backup with
    | some kept =>
      rw [apply_eq_of_older read older]
      exact .inl (events_transaction_of_nested free)
    | none =>
      cases allowed : c.refusal? with
      | some cause =>
        rw [apply_eq_of_older read older, events_transaction free]
        exact .inl (runAll_of_refused (c := { c with backup := some c.store }) allowed some_).2
      | none =>
        rcases extends_or_halts c.store.schema (pending version) with ⟨schema, extended⟩ | ⟨earlier, halts⟩
        · have given := apply_gives.mpr ⟨version, read, .inr ⟨older, free, allowed, schema, extended, rfl⟩⟩
          exact absurd failed given.not_fails
        · exact .inr ⟨version, earlier, read, rfl, rfl, halts, (apply_of_halts read free allowed halts).2⟩
  · exact .inl (events_apply_of_not_older fun version read older => old ⟨version, read, older⟩)

theorem Halts.prefix_pending {schema : Schema} {migrations earlier : List Migration}
    (halts : Halts schema migrations earlier) : earlier <+: migrations := by
  obtain ⟨migration, later, -, -, rfl, -⟩ := halts
  exact List.prefix_append _ _

theorem mem_reports_iff {start version from_ : Nat} {migrations : List Migration} :
    .migrated version from_ ∈ reports start migrations ↔
      ∃ migration ∈ migrations, migration.version = version ∧ start = from_ := by
  simp [reports]

theorem not_inForce_of_mem_pending {version : Nat} (read : c.store.userVersion = version) {migration : Migration}
    (member : migration ∈ pending version) : ¬ c.store.InForce migration := by
  have after : version < migration.version := of_decide_eq_true (List.mem_filter.mp member).2
  rintro ⟨reached, -⟩
  omega

theorem Migrated.inForce (migrated : Migrated c d) {version : Nat} (read : c.store.userVersion = version)
    {migration : Migration} (member : migration ∈ pending version) : d.store.InForce migration := by
  obtain ⟨listed, after⟩ := List.mem_filter.mp member
  have bounded : ∀ migration ∈ all, migration.version ≤ latest := by decide
  have older : version < latest := lt_of_lt_of_le (of_decide_eq_true after) (bounded migration listed)
  refine ⟨?_, fun definition asked_ => ?_⟩
  · rw [migrated.version]
    exact_mod_cast bounded migration listed
  · have offered := migrated.offers definition (by
      rw [read]
      exact List.mem_flatMap.mpr ⟨migration, member, asked_⟩)
    cases definition with
    | table relation => exact migrated.table?_isSome read older relation
    | index name relation column => exact offered.2

theorem bearsOut_of_gives {version : Nat} (read : c.store.userVersion = version) (given : apply.Gives c () d) :
    d.store.BearsOut (apply c).events := by
  rw [events_apply_of_gives read given]
  intro version from_ member
  obtain ⟨migration, among, same, -⟩ := mem_reports_iff.mp member
  exact ⟨migration, (List.mem_filter.mp among).1, same, (migrated_of_gives given).inForce read among⟩

-- What was reported before the call halted was undone with the rest.
theorem not_bearsOut_of_halts {version : Nat} (read : c.store.userVersion = version) {earlier : List Migration}
    (some_ : earlier ≠ []) (among : earlier <+: pending version) : ¬ c.store.BearsOut (reports version earlier) := by
  intro borneOut
  obtain ⟨migration, rest, rfl⟩ := List.exists_cons_of_ne_nil some_
  obtain ⟨other, -, same, reached, -⟩ :=
    borneOut migration.version version (mem_reports_iff.mpr ⟨migration, List.mem_cons_self, rfl, rfl⟩)
  have after : version < migration.version :=
    of_decide_eq_true (List.mem_filter.mp (among.subset List.mem_cons_self)).2
  omega

theorem mem_events_openDatabase_iff {medium : Medium} {store : Store} {writing : Writing}
    {elapsed version from_ : Nat} :
    .migrated version from_ ∈ (openDatabase medium (.store store writing) elapsed).events ↔
      .migrated version from_ ∈ (apply (.opened store writing)).events := by
  rw [openDatabase]
  cases (apply (.opened store writing)).result <;> simp

/-- A call that comes to its end has reported each pending migration, and each of them is in force. One that fails
leaves everything as it was, and yet has reported the migrations that went through before one did not. So what is
reported is not borne out exactly where a migration goes through and one behind it does not, and opening a database
reports the same. -/
theorem reports_borne_out_unless_halted (c : Connection) :
    let start := c.store.userVersion.toNat
    ((apply c).result = .ok () → (apply c).events = reports start (pending start) ∧
      ∀ migration ∈ pending start, (apply c).connection.store.InForce migration) ∧
    (∀ e, (apply c).result = .error e → (apply c).connection = c ∧ ∃ earlier, earlier <+: pending start ∧
      (apply c).events = reports start earlier ∧ ∀ migration ∈ earlier, ¬ c.store.InForce migration) ∧
    (¬ (apply c).connection.store.BearsOut (apply c).events ↔ ∃ (version : Nat) (earlier : List Migration),
      c.store.userVersion = version ∧ c.inTransaction = false ∧ c.refusal? = none ∧ earlier ≠ [] ∧
        Halts c.store.schema (pending version) earlier) ∧
    ∀ medium store writing elapsed, c = .opened store writing → ∀ version from_,
      .migrated version from_ ∈ (openDatabase medium (.store store writing) elapsed).events ↔
        .migrated version from_ ∈ (apply c).events := by
  intro start
  have reaches {version : Nat} (read : c.store.userVersion = version) : start = version := by simp [start, read]
  refine ⟨fun ok => ?_, fun e failed => ⟨apply_traceless c e failed, ?_⟩, ⟨fun untrue => ?_, ?_⟩, ?_⟩
  · have given := gives_of_ok ok
    obtain ⟨version, read, -⟩ := apply_gives.mp given
    rw [reaches read]
    exact ⟨events_apply_of_gives read given, fun migration => (migrated_of_gives given).inForce read⟩
  · rcases events_apply_of_fails failed with none | ⟨version, earlier, read, -, -, halts, reported⟩
    · exact ⟨[], List.nil_prefix, none, by simp⟩
    · rw [reaches read]
      refine ⟨earlier, halts.prefix_pending, reported, fun migration member => ?_⟩
      exact not_inForce_of_mem_pending read (halts.prefix_pending.subset member)
  · rcases gives_or_fails apply c with ⟨⟨⟩, d, given⟩ | ⟨e, failed⟩
    · obtain ⟨version, read, -⟩ := apply_gives.mp given
      have borneOut := bearsOut_of_gives read given
      rw [← given.2] at borneOut
      exact absurd borneOut untrue
    · rcases events_apply_of_fails failed with none | ⟨version, earlier, read, free, allowed, halts, reported⟩
      · rw [none] at untrue
        exact absurd (Store.bearsOut_nil _) untrue
      · refine ⟨version, earlier, read, by simp [Connection.inTransaction, free], allowed, ?_, halts⟩
        rintro rfl
        rw [reported] at untrue
        exact absurd (Store.bearsOut_nil _) untrue
  · rintro ⟨version, earlier, read, free, allowed, some_, halts⟩
    have free : c.backup = none := by simpa [Connection.inTransaction] using free
    obtain ⟨⟨e, failed⟩, reported⟩ := apply_of_halts read free allowed halts
    rw [apply_traceless c e failed, reported]
    exact not_bearsOut_of_halts read some_ halts.prefix_pending
  · rintro medium store writing elapsed rfl version from_
    exact mem_events_openDatabase_iff

theorem reports_borne_out_beside_books :
    let c := Connection.on { Store.empty with schema := ⟨[⟨"books", ["pages", "title"]⟩], ["shelf"], [], false⟩ }
    (apply c).result = .ok () ∧ (apply c).events = [.migrated 1 0, .migrated 2 0] ∧
      ∀ migration ∈ all, (apply c).connection.store.InForce migration := by
  intro c
  have ok : (apply c).result = .ok () := by decide +kernel
  obtain ⟨reported, inForce⟩ := (reports_borne_out_unless_halted c).1 ok
  exact ⟨ok, reported, inForce⟩

-- A table of reviews without a book stops the second migration, and the first one is undone after it was reported.
theorem report_of_undone_migration :
    let c := Connection.on { Store.empty with schema := ⟨[⟨"reviews", ["id"]⟩], [], [], false⟩ }
    (apply c).events = [.migrated 1 0] ∧ (apply c).result = .error (.migration 2 (.noSuchColumn "book_id")) ∧
      (apply c).connection = c ∧ c.store.userVersion = 0 ∧ c.store.schema.table? "books" = none ∧
      ¬ (apply c).connection.store.BearsOut (apply c).events := by
  intro c
  have reported : (apply c).events = [.migrated 1 0] := by decide +kernel
  have left : (apply c).connection = c := by decide +kernel
  refine ⟨reported, by decide +kernel, left, rfl, by decide +kernel, ?_⟩
  rw [reported, left]
  intro borneOut
  obtain ⟨migration, -, same, reached, -⟩ := borneOut 1 0 List.mem_cons_self
  have reached : (migration.version : Int) ≤ 0 := reached
  omega

end Migration

end Catalogue
