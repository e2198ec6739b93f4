import Catalogue.Proofs.Migrating
import Catalogue.Repository.Ready

/-! Whether a database that was migrated can be used. The migrations pass over a table that has the name of one of
theirs in any spelling; the repositories ask for tables and columns under exactly their names. -/

set_option autoImplicit false

namespace Catalogue

/-- A schema has room for a relation: no table has its name in any spelling, or one has exactly its name and the
columns that the program reads, none of them generated. -/
def Schema.Suits (schema : Schema) (relation : Relation) : Prop :=
  schema.table? relation.name = none ∨
    schema.hasTable relation.name = true ∧ ∀ column ∈ relation.columns, schema.hasColumn relation.name column = true

namespace Store

variable {store : Store}

theorem checkRelation_eq_ok_iff {relation : Relation} :
    store.checkRelation relation = .ok () ↔ store.schema.hasTable relation.name = true ∧
      ∀ column ∈ relation.columns, store.schema.hasColumn relation.name column = true := by
  unfold checkRelation
  cases store.schema.hasTable relation.name with
  | false => simp
  | true =>
    cases missing : relation.columns.find? fun column => !store.schema.hasColumn relation.name column with
    | none => simpa using missing
    | some column =>
      have absent := List.find?_some missing
      simp only [Bool.not_true, Bool.false_eq_true, if_false, reduceCtorEq, true_and, false_iff, not_forall]
      exact ⟨column, List.mem_of_find?_eq_some missing, by simpa using absent⟩

theorem checkRelation_eq_error {relation : Relation} {e : RepositoryError}
    (failed : store.checkRelation relation = .error e) :
    store.schema.hasTable relation.name = false ∧ e = .missingTable relation.name ∨
      ∃ column ∈ relation.columns, store.schema.hasColumn relation.name column = false ∧
        e = .missingColumn relation.name column := by
  unfold checkRelation at failed
  split at failed
  · rename_i absent
    exact .inl ⟨by simpa using absent, (Except.error.inj failed).symm⟩
  · split at failed
    · cases failed
    · rename_i column missing
      have absent := List.find?_some missing
      exact .inr ⟨column, List.mem_of_find?_eq_some missing, by simpa using absent, (Except.error.inj failed).symm⟩

theorem checkReady_of_latest (version : store.userVersion = Migration.latest) :
    store.checkReady = (store.checkRelation .books >>= fun _ => store.checkRelation .reviews) := by
  have read : store.version? = .ok Migration.latest := version?_eq_ok_iff.mpr version
  simp [checkReady, read, bind, Except.bind]

theorem checkReady_eq_ok_iff (version : store.userVersion = Migration.latest) :
    store.checkReady = .ok () ↔ ∀ relation, store.checkRelation relation = .ok () := by
  rw [checkReady_of_latest version, bind_eq_ok]
  constructor
  · rintro ⟨_, books, reviews⟩ relation
    cases relation with
    | books => exact books
    | reviews => exact reviews
  · exact fun ready => ⟨(), ready .books, ready .reviews⟩

theorem checkReady_eq_error (version : store.userVersion = Migration.latest) {e : RepositoryError}
    (failed : store.checkReady = .error e) : ∃ relation, store.checkRelation relation = .error e := by
  rw [checkReady_of_latest version] at failed
  cases books : store.checkRelation .books with
  | error e' =>
    rw [books] at failed
    exact ⟨.books, books.trans failed⟩
  | ok _ =>
    rw [books] at failed
    exact ⟨.reviews, failed⟩

end Store

namespace Schema.Grows

variable {script : List Definition} {before after : Schema} {relation : Relation}

theorem hasTable_eq (grows : before.Grows script after) {table : TableEntry}
    (there : before.table? relation.name = some table) :
    after.hasTable relation.name = before.hasTable relation.name := by
  obtain ⟨added, same, fresh⟩ := grows.tables
  have new : added.any (·.name == relation.name) = false := by
    rw [List.any_eq_false]
    intro entry member named
    obtain ⟨other, -, absent, rfl⟩ := fresh entry member
    have equal : other.name = relation.name := eq_of_beq named
    obtain rfl : other = relation := Relation.eq_of_sameName (by rw [equal]; exact sameName_refl _)
    simp [absent] at there
  rw [hasTable, same, List.any_append, new, Bool.or_false]
  rfl

theorem hasColumn_eq (grows : before.Grows script after) {name : String} {table : TableEntry}
    (there : before.table? name = some table) (column : String) :
    after.hasColumn name column = before.hasColumn name column := by
  rw [hasColumn, hasColumn, grows.table?_eq there, there]

theorem table?_of_absent (grows : before.Grows script after) (absent : before.table? relation.name = none)
    (there : (after.table? relation.name).isSome = true) :
    after.table? relation.name = some relation.declared := by
  obtain ⟨added, same, fresh⟩ := grows.tables
  obtain ⟨table, found⟩ := Option.isSome_iff_exists.mp there
  have new : added.find? (fun table => sameName table.name relation.name) = some table := by
    have among := found
    rw [table?] at among absent
    rwa [same, List.find?_append, absent, Option.none_or] at among
  obtain ⟨other, -, -, rfl⟩ := fresh table (List.mem_of_find?_eq_some new)
  obtain rfl : other = relation := Relation.eq_of_sameName (by simpa [Relation.declared] using List.find?_some new)
  exact found

end Schema.Grows

namespace Migration

variable {c d : Connection}

theorem mem_asked_pending {version : Nat} (older : version < latest) (relation : Relation) :
    ∃ name column, .index name relation column ∈ asked (pending version) := by
  have two : latest = 2 := by decide
  rw [two] at older
  cases relation with
  | books => exact ⟨"idx_books_pages", "pages", by interval_cases version <;> decide⟩
  | reviews => exact ⟨"idx_reviews_book_id", "book_id", by interval_cases version <;> decide⟩

theorem Migrated.table?_isSome (migrated : Migrated c d) {version : Nat} (read : c.store.userVersion = version)
    (older : version < latest) (relation : Relation) : (d.store.schema.table? relation.name).isSome = true := by
  obtain ⟨name, column, member⟩ := mem_asked_pending older relation
  have offered := migrated.offers (.index name relation column) (by rw [read]; exact member)
  exact offered.1

theorem Migrated.checkRelation_eq_ok_iff (migrated : Migrated c d) {version : Nat} (read : c.store.userVersion = version)
    (older : version < latest) (relation : Relation) :
    d.store.checkRelation relation = .ok () ↔ c.store.schema.Suits relation := by
  rw [Store.checkRelation_eq_ok_iff, Schema.Suits]
  cases there : c.store.schema.table? relation.name with
  | some table =>
    simp only [migrated.grows.hasTable_eq there, migrated.grows.hasColumn_eq there, reduceCtorEq, false_or]
  | none =>
    have found := migrated.grows.table?_of_absent there (migrated.table?_isSome read older relation)
    refine iff_of_true ⟨?_, fun column listed => ?_⟩ (.inl rfl)
    · exact List.any_eq_true.mpr ⟨_, List.mem_of_find?_eq_some found, beq_self_eq_true _⟩
    · simpa [Schema.hasColumn, found, Relation.declared] using ⟨column, listed, rfl⟩

/-- A database of an older version that was migrated can be used exactly where its tables suited it before. Where one
did not, it is refused, and what is named as missing is a table that has its name in another spelling, or a column that
a table lacks or only has as a generated one. -/
theorem ready_after_apply {c : Connection} (older : c.store.userVersion < latest)
    (applied : (apply c).result = .ok ()) :
    let after := (apply c).connection.store
    (after.checkReady = .ok () ↔ ∀ relation, c.store.schema.Suits relation) ∧
    ∀ e, after.checkReady = .error e → ∃ (relation : Relation) (table : TableEntry),
      c.store.schema.table? relation.name = some table ∧
        (c.store.schema.hasTable relation.name = false ∧ e = .missingTable relation.name ∨
          ∃ column ∈ relation.columns, .plain column ∉ table.columns ∧ e = .missingColumn relation.name column) := by
  intro after
  have migrated := migrated_of_gives (Action.gives_of_ok applied)
  obtain ⟨version, read, -⟩ := apply_gives.mp (Action.gives_of_ok applied)
  have older : version < latest := by omega
  refine ⟨?_, fun e failed => ?_⟩
  · rw [Store.checkReady_eq_ok_iff migrated.version]
    exact forall_congr' (migrated.checkRelation_eq_ok_iff read older)
  · obtain ⟨relation, failed⟩ := Store.checkReady_eq_error migrated.version failed
    cases there : c.store.schema.table? relation.name with
    | none =>
      have suited := (migrated.checkRelation_eq_ok_iff read older relation).mpr (.inl there)
      exact absurd (suited.symm.trans failed) (by simp)
    | some table =>
      refine ⟨relation, table, there, ?_⟩
      rcases Store.checkRelation_eq_error failed with ⟨absent, rfl⟩ | ⟨column, listed, absent, rfl⟩
      · exact .inl ⟨(migrated.grows.hasTable_eq there).symm.trans absent, rfl⟩
      · have absent := (migrated.grows.hasColumn_eq there column).symm.trans absent
        exact .inr ⟨column, listed, by simpa [Schema.hasColumn, there] using absent, rfl⟩

theorem ready_after_apply_beside_books :
    let c := Connection.on
      { Store.empty with schema := ⟨[⟨"books", ["pages", "shelf", "title", "id"]⟩], [], [], false⟩ }
    (apply c).result = .ok () ∧ (apply c).connection.store.checkReady = .ok () := by
  intro c
  have applied : (apply c).result = .ok () := by decide +kernel
  have suits : ∀ relation, c.store.schema.Suits relation := by
    intro relation
    cases relation with
    | books => exact .inr (by decide +kernel)
    | reviews => exact .inl (by decide +kernel)
  exact ⟨applied, (ready_after_apply (by decide +kernel) applied).1.mpr suits⟩

-- A table of reviews that lacks columns is passed over by the migrations and refused by the repositories, and so is a
-- table of books that has its pages as a generated column.
theorem not_ready_after_apply :
    let lacking := Connection.on { Store.empty with schema := ⟨[⟨"reviews", ["id", "book_id"]⟩], [], [], false⟩ }
    let generating := Connection.on
      { Store.empty with schema := ⟨[⟨"books", ["id", "title", "n", ⟨"pages", true⟩]⟩], [], [], true⟩ }
    (lacking.store.userVersion = 0 ∧ (apply lacking).result = .ok () ∧
      (apply lacking).connection.store.userVersion = latest ∧
      (apply lacking).connection.store.checkReady = .error (.missingColumn "reviews" "reviewer")) ∧
    (generating.store.userVersion = 0 ∧ (apply generating).result = .ok () ∧
      (apply generating).connection.store.userVersion = latest ∧
      (apply generating).connection.store.checkReady = .error (.missingColumn "books" "pages")) :=
  ⟨⟨rfl, by decide +kernel, by decide +kernel, by decide +kernel⟩,
    ⟨rfl, by decide +kernel, by decide +kernel, by decide +kernel⟩⟩

end Migration

end Catalogue
