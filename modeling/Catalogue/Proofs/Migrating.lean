import Mathlib.Tactic.IntervalCases
import Catalogue.Proofs.Rollback
import Catalogue.Proofs.Success

/-! What the pending migrations make of a database. On any schema they either come to their end, and then have
added what they ask for and touched nothing else, or they stop, and then nothing of them is left. -/

set_option autoImplicit false

namespace Catalogue

def Schema.extendAll (schema : Schema) : List Definition → Except EngineError Schema
  | [] => .ok schema
  | definition :: rest => do
    let extended? ← definition.extend schema
    (extended?.getD schema).extendAll rest

theorem Schema.extendAll_append {schema : Schema} {first second : List Definition} :
    schema.extendAll (first ++ second) = schema.extendAll first >>= fun between => between.extendAll second := by
  induction first generalizing schema with
  | nil => rfl
  | cons definition rest ih =>
    simp only [List.cons_append, extendAll]
    cases definition.extend schema with
    | error e => rfl
    | ok extended? => exact ih

theorem sameName_refl (name : String) : sameName name name = true := beq_self_eq_true _

theorem Relation.eq_of_sameName {relation other : Relation} (same : sameName relation.name other.name = true) :
    relation = other := by
  cases relation <;> cases other <;> first | rfl | exact absurd same (by decide +kernel)

/-- From one schema to another nothing goes, and what comes is asked for by a script: tables under names that were
free, and indexes. -/
structure Schema.Grows (script : List Definition) (before after : Schema) : Prop where
  tables : ∃ added, after.tables = before.tables ++ added ∧ ∀ table ∈ added, ∃ relation,
    .table relation ∈ script ∧ before.table? relation.name = none ∧ table = relation.declared
  views : after.views = before.views
  indexes : ∃ added, after.indexes = before.indexes ++ added ∧ ∀ index ∈ added, ∃ relation column,
    .index index.name relation column ∈ script ∧ sameName index.table relation.name = true
  numbered : before.numbered = true → after.numbered = true

def Schema.Offers (schema : Schema) : Definition → Prop
  | .table relation => (schema.table? relation.name).isSome = true ∨ (schema.view? relation.name).isSome = true
  | .index name relation _ => (schema.table? relation.name).isSome = true ∧ (schema.index? name).isSome = true

namespace Schema.Grows

variable {script script' : List Definition} {before between after : Schema}

theorem refl (script : List Definition) (schema : Schema) : schema.Grows script schema :=
  ⟨⟨[], by simp⟩, rfl, ⟨[], by simp⟩, id⟩

theorem table?_eq (grows : before.Grows script after) {name : String} {table : TableEntry}
    (found : before.table? name = some table) : after.table? name = some table := by
  obtain ⟨added, same, -⟩ := grows.tables
  simp only [table?] at found ⊢
  rw [same, List.find?_append, found, Option.some_or]

theorem index?_eq (grows : before.Grows script after) {name : String} {index : IndexEntry}
    (found : before.index? name = some index) : after.index? name = some index := by
  obtain ⟨added, same, -⟩ := grows.indexes
  simp only [index?] at found ⊢
  rw [same, List.find?_append, found, Option.some_or]

theorem free (grows : before.Grows script after) {name : String} (absent : after.table? name = none) :
    before.table? name = none := by
  cases found : before.table? name with
  | none => rfl
  | some table => simp [grows.table?_eq found] at absent

theorem trans (first : before.Grows script between) (second : between.Grows script' after) :
    before.Grows (script ++ script') after := by
  obtain ⟨tables, sameTables, askedTables⟩ := first.tables
  obtain ⟨tables', sameTables', askedTables'⟩ := second.tables
  obtain ⟨indexes, sameIndexes, askedIndexes⟩ := first.indexes
  obtain ⟨indexes', sameIndexes', askedIndexes'⟩ := second.indexes
  refine ⟨⟨tables ++ tables', by rw [sameTables', sameTables, List.append_assoc], ?_⟩, second.views.trans first.views,
    ⟨indexes ++ indexes', by rw [sameIndexes', sameIndexes, List.append_assoc], ?_⟩, second.numbered ∘ first.numbered⟩
  · refine List.forall_mem_append.mpr ⟨fun table member => ?_, fun table member => ?_⟩
    · obtain ⟨relation, asked, absent, same⟩ := askedTables table member
      exact ⟨relation, List.mem_append_left _ asked, absent, same⟩
    · obtain ⟨relation, asked, absent, same⟩ := askedTables' table member
      exact ⟨relation, List.mem_append_right _ asked, first.free absent, same⟩
  · refine List.forall_mem_append.mpr ⟨fun index member => ?_, fun index member => ?_⟩
    · obtain ⟨relation, column, asked, same⟩ := askedIndexes index member
      exact ⟨relation, column, List.mem_append_left _ asked, same⟩
    · obtain ⟨relation, column, asked, same⟩ := askedIndexes' index member
      exact ⟨relation, column, List.mem_append_right _ asked, same⟩

theorem offers (grows : before.Grows script after) {definition : Definition} (there : before.Offers definition) :
    after.Offers definition := by
  have table {name : String} (there : (before.table? name).isSome = true) : (after.table? name).isSome = true := by
    obtain ⟨entry, found⟩ := Option.isSome_iff_exists.mp there
    simp [grows.table?_eq found]
  cases definition with
  | table relation =>
    refine there.imp table fun view => ?_
    rwa [view?, grows.views]
  | index name relation column =>
    obtain ⟨entry, found⟩ := Option.isSome_iff_exists.mp there.2
    exact ⟨table there.1, by simp [grows.index?_eq found]⟩

end Schema.Grows

theorem Schema.createTable_eq_ok {schema extended : Schema} {name : String} {columns : List String}
    (h : schema.createTable name columns = .ok extended) :
    extended = { schema with
      tables := schema.tables ++ [⟨name, columns.map .plain⟩]
      numbered := schema.numbered || columns.any (sameName "id") } := by
  obtain ⟨_, -, h⟩ := bind_eq_ok.mp h
  by_cases none : columns.isEmpty = true
  · rw [if_pos none] at h
    cases h
  · rw [if_neg none] at h
    split at h
    · cases h
    · exact (Except.ok.inj h).symm

theorem Schema.ensureIndex_eq_ok {schema extended : Schema} {name table column : String}
    (h : schema.ensureIndex name table column = .ok extended) :
    ∃ entry, schema.table? table = some entry ∧
      ((schema.index? name).isSome = true ∧ extended = schema ∨
        extended = { schema with indexes := schema.indexes ++ [⟨name, entry.name⟩] }) := by
  unfold ensureIndex at h
  cases found : schema.table? table with
  | none =>
    simp only [found] at h
    split at h <;> cases h
  | some entry =>
    simp only [found] at h
    refine ⟨entry, rfl, ?_⟩
    split at h
    · cases h
    · split at h
      · rename_i there
        exact .inl ⟨there, (Except.ok.inj h).symm⟩
      · split at h
        · exact .inr (Except.ok.inj h).symm
        · cases h

theorem Definition.grows_of_extend {schema : Schema} {definition : Definition} {extended? : Option Schema}
    (h : definition.extend schema = .ok extended?) :
    schema.Grows [definition] (extended?.getD schema) ∧ (extended?.getD schema).Offers definition := by
  cases definition with
  | table relation =>
    simp only [extend] at h
    split at h
    · rename_i there
      obtain rfl := Except.ok.inj h
      exact ⟨.refl _ _, by simpa [Schema.Offers] using there⟩
    · rename_i absent
      simp only [Bool.or_eq_true, not_or, Option.not_isSome_iff_eq_none] at absent
      cases created : schema.createTable relation.name relation.columns with
      | error e => simp [created] at h
      | ok extended =>
        obtain rfl : some extended = extended? := by simpa [created] using h
        obtain rfl := Schema.createTable_eq_ok created
        refine ⟨⟨⟨_, rfl, ?_⟩, rfl, ⟨[], by simp⟩, by simp_all⟩, .inl ?_⟩
        · simp [absent.1, Relation.declared]
        · simp [Schema.table?, List.find?_append, sameName_refl]
  | index name relation column =>
    obtain ⟨extended, ensured, h⟩ := bind_eq_ok.mp h
    -- An index that is there already is told from a new one by the schema that comes back.
    have reached : extended?.getD schema = extended := by
      rw [← Except.ok.inj h]
      split
      · rename_i same
        exact same.symm
      · rfl
    rw [reached]
    obtain ⟨entry, found, ⟨there, rfl⟩ | rfl⟩ := Schema.ensureIndex_eq_ok ensured
    · exact ⟨.refl _ _, by simp [Schema.Offers, found, there]⟩
    · have same : sameName entry.name relation.name = true := by
        simpa using List.find?_some found
      have table : (schema.table? relation.name).isSome = true := by simp [found]
      refine ⟨⟨⟨[], by simp⟩, rfl, ⟨_, rfl, ?_⟩, id⟩, table, ?_⟩
      · intro index member
        obtain rfl := List.mem_singleton.mp member
        exact ⟨relation, column, List.mem_singleton_self _, same⟩
      · simp [Schema.index?, List.find?_append, sameName_refl]

theorem Schema.grows_of_extendAll {script : List Definition} {schema extended : Schema}
    (h : schema.extendAll script = .ok extended) :
    schema.Grows script extended ∧ ∀ definition ∈ script, extended.Offers definition := by
  induction script generalizing schema with
  | nil =>
    obtain rfl := Except.ok.inj h
    exact ⟨.refl _ _, by simp⟩
  | cons definition rest ih =>
    obtain ⟨extended?, first, h⟩ := bind_eq_ok.mp h
    obtain ⟨grows, offers⟩ := Definition.grows_of_extend first
    obtain ⟨growsMore, offersRest⟩ := ih h
    exact ⟨grows.trans growsMore, List.forall_mem_cons.mpr ⟨growsMore.offers offers, offersRest⟩⟩

def Connection.rebuilt (c : Connection) (schema : Schema) (version : Int) : Connection :=
  { c with store := { c.store with schema, userVersion := version } }

namespace Action

variable {α : Type} {c : Connection}

theorem fails_write_ok {f : Bool → Store → α × Store} {e : EngineError} :
    (writeAlways fun enforced store => .ok (f enforced store)).Fails c e ↔ c.refusal? = some e := by
  constructor
  · intro failed
    cases allowed : c.refusal? with
    | none =>
      have given : (writeAlways fun enforced store => .ok (f enforced store)).Gives c _ _ :=
        gives_writeAlways.mpr ⟨allowed, _, rfl, rfl⟩
      exact absurd failed given.not_fails
    | some cause =>
      have refused : (writeAlways fun enforced store => .ok (f enforced store)).Fails c cause :=
        fails_writeAlways_of_refused rfl allowed
      rw [Except.error.inj (failed.symm.trans refused)]
  · exact fails_writeAlways_of_refused rfl

end Action

open Catalogue.Action

variable {c d : Connection}

theorem Definition.run_gives {definition : Definition} :
    definition.run.Gives c () d ↔ ∃ extended?, definition.extend c.store.schema = .ok extended? ∧
      (extended?.isSome = true → c.refusal? = none) ∧
        d = c.rebuilt (extended?.getD c.store.schema) c.store.userVersion := by
  unfold run
  rw [gives_bind]
  constructor
  · rintro ⟨extended?, between, asked, rest⟩
    obtain ⟨extends_, rfl⟩ := gives_query.mp asked
    refine ⟨extended?, extends_, ?_⟩
    cases extended? with
    | none => exact ⟨by simp, (gives_pure.mp rest).2⟩
    | some schema =>
      obtain ⟨allowed, store, same, rfl⟩ := gives_writeAlways.mp rest
      obtain ⟨-, rfl⟩ := Prod.mk.inj (Except.ok.inj same)
      exact ⟨fun _ => allowed, rfl⟩
  · rintro ⟨extended?, extends_, allowed, rfl⟩
    refine ⟨extended?, c, gives_query.mpr ⟨extends_, rfl⟩, ?_⟩
    cases extended? with
    | none => exact gives_pure.mpr ⟨rfl, rfl⟩
    | some schema => exact gives_writeAlways.mpr ⟨allowed rfl, _, rfl, rfl⟩

theorem Definition.run_fails {definition : Definition} {e : EngineError} (failed : definition.run.Fails c e) :
    definition.extend c.store.schema = .error e ∨ c.refusal? = some e := by
  rcases fails_bind.mp failed with failed | ⟨extended?, between, asked, failed⟩
  · exact .inl failed
  · obtain ⟨-, rfl⟩ := gives_query.mp asked
    cases extended? with
    | none => exact absurd failed not_fails_pure
    | some schema => exact .inr (fails_write_ok.mp failed)

namespace Migration

theorem runScript_gives {script : List Definition} (gives : (runScript script).Gives c () d) :
    ∃ schema, c.store.schema.extendAll script = .ok schema ∧ d = c.rebuilt schema c.store.userVersion := by
  induction script generalizing c with
  | nil => exact ⟨_, rfl, (gives_pure.mp gives).2⟩
  | cons definition rest ih =>
    obtain ⟨_, between, first, gives⟩ := gives_bind.mp gives
    obtain ⟨extended?, extends_, -, rfl⟩ := Definition.run_gives.mp first
    obtain ⟨schema, extended, rfl⟩ := ih gives
    exact ⟨schema, bind_eq_ok.mpr ⟨extended?, extends_, extended⟩, rfl⟩

theorem runScript_gives_of_extendAll (allowed : c.refusal? = none) {script : List Definition} {schema : Schema}
    (extended : c.store.schema.extendAll script = .ok schema) :
    (runScript script).Gives c () (c.rebuilt schema c.store.userVersion) := by
  induction script generalizing c with
  | nil =>
    obtain rfl := Except.ok.inj extended
    exact gives_pure.mpr ⟨rfl, rfl⟩
  | cons definition rest ih =>
    obtain ⟨extended?, extends_, extended⟩ := bind_eq_ok.mp extended
    have first := Definition.run_gives.mpr ⟨extended?, extends_, fun _ => allowed, rfl⟩
    exact gives_bind.mpr ⟨(), _, first, ih (c := c.rebuilt _ _) allowed extended⟩

theorem runScript_fails {script : List Definition} {e : EngineError} (failed : (runScript script).Fails c e) :
    c.store.schema.extendAll script = .error e ∨ c.refusal? = some e := by
  induction script generalizing c with
  | nil => exact absurd failed not_fails_pure
  | cons definition rest ih =>
    rcases fails_bind.mp failed with failed | ⟨_, between, first, failed⟩
    · refine (Definition.run_fails failed).imp_left fun stuck => ?_
      rw [Schema.extendAll, stuck]
      rfl
    · obtain ⟨extended?, extends_, -, rfl⟩ := Definition.run_gives.mp first
      refine (ih failed).imp (fun stuck => ?_) id
      rw [Schema.extendAll, extends_]
      exact stuck

theorem run_gives {migration : Migration} :
    migration.run.Gives c () d ↔ c.refusal? = none ∧ ∃ schema,
      c.store.schema.extendAll migration.script = .ok schema ∧ d = c.rebuilt schema migration.version := by
  unfold run
  rw [gives_bind]
  constructor
  · rintro ⟨_, between, script, version⟩
    obtain ⟨schema, extended, rfl⟩ := runScript_gives script
    obtain ⟨allowed, store, same, rfl⟩ := gives_writeAlways.mp version
    obtain ⟨-, rfl⟩ := Prod.mk.inj (Except.ok.inj same)
    exact ⟨allowed, schema, extended, rfl⟩
  · rintro ⟨allowed, schema, extended, rfl⟩
    exact ⟨(), _, runScript_gives_of_extendAll allowed extended, gives_writeAlways.mpr ⟨allowed, _, rfl, rfl⟩⟩

theorem run_fails {migration : Migration} {e : EngineError} (failed : migration.run.Fails c e) :
    c.store.schema.extendAll migration.script = .error e ∨ c.refusal? = some e := by
  rcases fails_bind.mp failed with failed | ⟨_, between, script, failed⟩
  · exact runScript_fails failed
  · obtain ⟨schema, -, rfl⟩ := runScript_gives script
    have refused : (c.rebuilt schema c.store.userVersion).refusal? = some e := fails_write_ok.mp failed
    exact .inr refused

def asked (migrations : List Migration) : List Definition := migrations.flatMap (·.script)

def reached (version : Int) (migrations : List Migration) : Int := migrations.foldl (fun _ next => next.version) version

theorem runAll_gives {start : Nat} {migrations : List Migration} :
    (runAll start migrations).Gives c () d ↔ (migrations ≠ [] → c.refusal? = none) ∧ ∃ schema,
      c.store.schema.extendAll (asked migrations) = .ok schema ∧
        d = c.rebuilt schema (reached c.store.userVersion migrations) := by
  induction migrations generalizing c with
  | nil =>
    refine gives_pure.trans ⟨?_, ?_⟩
    · rintro ⟨-, rfl⟩
      exact ⟨fun none => absurd rfl none, _, rfl, rfl⟩
    · rintro ⟨-, schema, extended, rfl⟩
      obtain rfl := Except.ok.inj extended
      exact ⟨rfl, rfl⟩
  | cons migration rest ih =>
    have split : c.store.schema.extendAll (asked (migration :: rest)) =
        c.store.schema.extendAll migration.script >>= fun between => between.extendAll (asked rest) :=
      Schema.extendAll_append
    unfold runAll
    rw [gives_bind, split]
    constructor
    · rintro ⟨_, between, first, later⟩
      obtain ⟨allowed, schema, extended, rfl⟩ := run_gives.mp (gives_mapError.mp first)
      obtain ⟨_, between, reported, later⟩ := gives_bind.mp later
      obtain rfl := gives_report.mp reported
      obtain ⟨-, schema', extended', rfl⟩ := ih.mp later
      exact ⟨fun _ => allowed, schema', bind_eq_ok.mpr ⟨schema, extended, extended'⟩, rfl⟩
    · rintro ⟨allowed, schema', extended, rfl⟩
      obtain ⟨schema, extended, extended'⟩ := bind_eq_ok.mp extended
      have allowed := allowed (List.cons_ne_nil _ _)
      refine ⟨(), _, gives_mapError.mpr (run_gives.mpr ⟨allowed, schema, extended, rfl⟩), ?_⟩
      exact gives_bind.mpr ⟨(), _, gives_report.mpr rfl,
        (ih (c := c.rebuilt schema migration.version)).mpr ⟨fun _ => allowed, schema', extended', rfl⟩⟩

/-- Of these migrations, this one fails with this cause: its script goes wrong on the schema that those before it
build, or nothing can be written. -/
inductive Stuck (c : Connection) (migrations : List Migration) : Migration → EngineError → Prop
  | script {earlier later : List Migration} {migration : Migration} {between : Schema} {cause : EngineError} :
      migrations = earlier ++ migration :: later → c.store.schema.extendAll (asked earlier) = .ok between →
      between.extendAll migration.script = .error cause → Stuck c migrations migration cause
  | refused {migration : Migration} {cause : EngineError} : migration ∈ migrations → c.refusal? = some cause →
      Stuck c migrations migration cause

theorem runAll_fails {start : Nat} {migrations : List Migration} {e : DatabaseError}
    (failed : (runAll start migrations).Fails c e) :
    ∃ migration cause, e = .migration migration.version cause ∧ Stuck c migrations migration cause := by
  induction migrations generalizing c with
  | nil => exact absurd failed not_fails_pure
  | cons migration rest ih =>
    rcases fails_bind.mp failed with failed | ⟨_, between, first, failed⟩
    · obtain ⟨cause, stopped, rfl⟩ := fails_mapError.mp failed
      refine ⟨migration, cause, rfl, ?_⟩
      rcases run_fails stopped with stuck | refused
      · have split : migration :: rest = [] ++ migration :: rest := rfl
        exact .script split rfl stuck
      · exact .refused List.mem_cons_self refused
    · obtain ⟨-, schema, extended, rfl⟩ := run_gives.mp (gives_mapError.mp first)
      rcases fails_bind.mp failed with failed | ⟨_, between, reported, failed⟩
      · exact absurd failed not_fails_report
      · obtain rfl := gives_report.mp reported
        obtain ⟨later, cause, rfl, stuck⟩ := ih failed
        refine ⟨later, cause, rfl, ?_⟩
        cases stuck with
        | script split extended' stuck =>
          have longer : migration :: rest = (migration :: _) ++ later :: _ := congrArg (migration :: ·) split
          refine .script longer ?_ stuck
          exact Schema.extendAll_append.trans (bind_eq_ok.mpr ⟨schema, extended, extended'⟩)
        | refused member refused => exact .refused (List.mem_cons_of_mem _ member) refused

theorem runScript_composed (script : List Definition) : (runScript script).Composed := by
  induction script with
  | nil => exact .pure ()
  | cons definition rest ih =>
    refine .bind (.bind (.query _) fun extended? => ?_) fun _ => ih
    cases extended? with
    | none => exact .pure ()
    | some schema => exact Statement.writeAlways_composed _

theorem run_composed (migration : Migration) : migration.run.Composed :=
  .bind (runScript_composed migration.script) fun _ => Statement.writeAlways_composed _

theorem runAll_undoable (start : Nat) (migrations : List Migration) : (runAll start migrations).Undoable := by
  induction migrations with
  | nil => exact .of_stays fun _ => rfl
  | cons migration rest ih =>
    exact .bind (.mapError _ (run_composed migration).undoable) fun _ => .bind (.of_stays fun _ => rfl) fun _ => ih

theorem reached_pending {version : Nat} (older : version < latest) (start : Int) :
    pending version ≠ [] ∧ reached start (pending version) = latest := by
  have two : latest = 2 := by decide
  rw [two] at older
  interval_cases version
  · exact ⟨by decide, rfl⟩
  · exact ⟨by decide, rfl⟩

end Migration

theorem Store.version?_eq_ok_iff {store : Store} {version : Nat} :
    store.version? = .ok version ↔ store.userVersion = version := by
  unfold version?
  split
  · rw [Except.ok.injEq]
    omega
  · simp only [reduceCtorEq, false_iff]
    omega

namespace Migration

theorem apply_gives : apply.Gives c () d ↔ ∃ version : Nat, c.store.userVersion = version ∧
    (version = latest ∧ d = c ∨ version < latest ∧ c.backup = none ∧ c.refusal? = none ∧ ∃ schema,
      c.store.schema.extendAll (asked (pending version)) = .ok schema ∧ d = c.rebuilt schema latest) := by
  unfold apply
  rw [gives_bind]
  constructor
  · rintro ⟨version, between, read, rest⟩
    obtain ⟨read, rfl⟩ := gives_query.mp (gives_mapError.mp read)
    refine ⟨version, Store.version?_eq_ok_iff.mp read, ?_⟩
    split at rest
    · exact absurd rest gives_fail
    · split at rest
      · rename_i same
        exact .inl ⟨same, (gives_pure.mp rest).2⟩
      · have older : version < latest := by omega
        obtain ⟨some_, last⟩ := reached_pending older between.store.userVersion
        obtain ⟨free, e, body, rfl⟩ := gives_transaction.mp rest
        obtain ⟨allowed, schema, extended, rfl⟩ := runAll_gives.mp body
        refine .inr ⟨older, free, allowed some_, schema, extended, ?_⟩
        simp [Connection.rebuilt, last, free]
  · rintro ⟨version, read, rest⟩
    refine ⟨version, c, gives_mapError.mpr (gives_query.mpr ⟨Store.version?_eq_ok_iff.mpr read, rfl⟩), ?_⟩
    rcases rest with ⟨rfl, rfl⟩ | ⟨older, free, allowed, schema, extended, rfl⟩
    · rw [if_neg (lt_irrefl _), if_pos rfl]
      exact gives_pure.mpr ⟨rfl, rfl⟩
    · obtain ⟨-, last⟩ := reached_pending older c.store.userVersion
      rw [if_neg older.not_gt, if_neg older.ne]
      refine gives_transaction.mpr ⟨free, _, runAll_gives.mpr ⟨fun _ => allowed, schema, extended, rfl⟩, ?_⟩
      simp [Connection.rebuilt, last, free]

/-- Why nothing is migrated: the version is no number of a version, or of a newer program, or a transaction is open, or
a script does not go through. -/
inductive Stopped (c : Connection) : DatabaseError → Prop
  | negative : c.store.userVersion < 0 → Stopped c (.engine (.integerOutOfRange c.store.userVersion 0))
  | newer {version : Nat} : c.store.userVersion = version → latest < version →
      Stopped c (.unsupportedVersion version latest)
  | nested {version : Nat} : c.store.userVersion = version → version < latest → c.inTransaction = true →
      Stopped c (.engine .nestedTransaction)
  | script {version : Nat} {migration : Migration} {cause : EngineError} : c.store.userVersion = version →
      version < latest → c.inTransaction = false → Stuck c (pending version) migration cause →
      Stopped c (.migration migration.version cause)

theorem apply_fails {e : DatabaseError} (stops : apply.Fails c e) : Stopped c e := by
  rcases fails_bind.mp stops with failed | ⟨version, between, read, failed⟩
  · obtain ⟨cause, unread, rfl⟩ := fails_mapError.mp failed
    have unread : c.store.version? = .error cause := unread
    unfold Store.version? at unread
    split at unread
    · cases unread
    · cases unread
      exact .negative (by omega)
  · obtain ⟨read, rfl⟩ := gives_query.mp (gives_mapError.mp read)
    have read := Store.version?_eq_ok_iff.mp read
    split at failed
    · cases failed
      exact .newer read ‹_›
    · split at failed
      · exact absurd failed not_fails_pure
      · have older : version < latest := by omega
        cases noneOpen : between.backup with
        | some store =>
          have open_ : between.inTransaction = true := by simp [Connection.inTransaction, noneOpen]
          simp only [Fails, transaction, Connection.begin, open_, if_true] at failed
          cases failed
          exact .nested read older open_
        | none =>
          obtain ⟨migration, cause, rfl, stuck⟩ := runAll_fails ((fails_transaction noneOpen).mp failed)
          refine .script read older (by simp [Connection.inTransaction, noneOpen]) ?_
          cases stuck with
          | script split extended stuck => exact .script split extended stuck
          | refused member refused => exact .refused member refused

theorem apply_traceless : apply.Traceless := by
  refine .after_stays (fun _ => rfl) fun version => ?_
  split
  · exact fun _ _ _ => rfl
  · split
    · exact fun _ _ _ => rfl
    · exact traceless_transaction (runAll_undoable version _)

/-- What migrating makes of a connection: its store is of the latest version and has all that was asked for, and
everything that it held is there as it was. -/
structure Migrated (before after : Connection) : Prop where
  version : after.store.userVersion = latest
  books : after.store.books = before.store.books
  reviews : after.store.reviews = before.store.reviews
  grows : before.store.schema.Grows (asked (pending before.store.userVersion.toNat)) after.store.schema
  offers : ∀ definition ∈ asked (pending before.store.userVersion.toNat), after.store.schema.Offers definition
  rest : after = { before with store := after.store }

theorem migrated_of_gives (gives : apply.Gives c () d) : Migrated c d := by
  obtain ⟨version, read, ⟨rfl, rfl⟩ | ⟨older, -, -, schema, extended, rfl⟩⟩ := apply_gives.mp gives
  · have none : asked (pending d.store.userVersion.toNat) = [] := by
      rw [read]
      rfl
    refine ⟨read, rfl, rfl, .refl _ _, ?_, rfl⟩
    simp [none]
  · obtain ⟨grows, offers⟩ := Schema.grows_of_extendAll extended
    have same : c.store.userVersion.toNat = version := by rw [read, Int.toNat_natCast]
    rw [← same] at grows offers
    exact ⟨rfl, rfl, rfl, grows, offers, rfl⟩

/-- Whatever a database holds, migrating it comes to its end, keeps what is there, adds what is asked for and leaves
nothing for a second time; or it changes nothing, and there is a reason. It comes to its end exactly where nothing is
pending, or the scripts go through outside of any transaction. -/
theorem apply_completes_or_leaves_no_trace (c : Connection) :
    ((apply c).result = .ok () → Migrated c (apply c).connection ∧
      apply (apply c).connection = ⟨.ok (), (apply c).connection, []⟩) ∧
    (∀ e, (apply c).result = .error e → (apply c).connection = c ∧ Stopped c e) ∧
    ((apply c).result = .ok () ↔ ∃ version : Nat, c.store.userVersion = version ∧ (version = latest ∨
      version < latest ∧ c.inTransaction = false ∧ c.refusal? = none ∧
        ∃ schema, c.store.schema.extendAll (asked (pending version)) = .ok schema)) := by
  refine ⟨fun ok => ?_, fun e failed => ⟨apply_traceless c e failed, apply_fails failed⟩, ?_, ?_⟩
  · have migrated := migrated_of_gives (gives_of_ok ok)
    exact ⟨migrated, apply_latest migrated.version⟩
  · intro ok
    obtain ⟨version, read, ⟨same, -⟩ | ⟨older, free, allowed, schema, extended, -⟩⟩ := apply_gives.mp (gives_of_ok ok)
    · exact ⟨version, read, .inl same⟩
    · exact ⟨version, read, .inr ⟨older, by simp [Connection.inTransaction, free], allowed, schema, extended⟩⟩
  · rintro ⟨version, read, same | ⟨older, free, allowed, schema, extended⟩⟩
    · exact (apply_gives.mpr ⟨version, read, .inl ⟨same, rfl⟩⟩).1
    · have free : c.backup = none := by simpa [Connection.inTransaction] using free
      exact (apply_gives.mpr ⟨version, read, .inr ⟨older, free, allowed, schema, extended, rfl⟩⟩).1

-- A table of books without ids and a view beside it are left alone; and reviews that name no book stop the second
-- script, after the first one has made the books.
theorem apply_beside_other_tables :
    let kept := Connection.on { Store.empty with schema := ⟨[⟨"books", ["pages", "title"]⟩], ["shelf"], [], false⟩ }
    let left := Connection.on { Store.empty with schema := ⟨[⟨"reviews", ["id"]⟩], [], [], false⟩ }
    (apply kept).result = .ok () ∧ Migrated kept (apply kept).connection ∧
      (apply left).result = .error (.migration 2 (.noSuchColumn "book_id")) ∧ (apply left).connection = left := by
  intro kept left
  have ok : (apply kept).result = .ok () := by decide +kernel
  have failed : (apply left).result = .error (.migration 2 (.noSuchColumn "book_id")) := by decide +kernel
  have migrating := apply_completes_or_leaves_no_trace
  exact ⟨ok, ((migrating kept).1 ok).1, failed, ((migrating left).2.1 _ failed).1⟩

end Migration

end Catalogue
