import Mathlib.Control.Monad.Basic
import Catalogue.History

/-! What opening a database makes of it, when it is empty and when nothing is left to migrate. -/

set_option autoImplicit false

namespace Catalogue

def Schema.latest : Schema where
  tables := [⟨"books", ["id", "title", "pages"]⟩, ⟨"reviews", ["id", "reviewer", "content", "book_id"]⟩]
  views := []
  indexes := [⟨"idx_reviews_book_id", "reviews"⟩, ⟨"idx_books_pages", "books"⟩, ⟨"idx_books_title", "books"⟩]
  numbered := true

def Store.fresh : Store := ⟨Migration.latest, .latest, .empty, .empty⟩

theorem openDatabase_empty (medium : Medium) (elapsed : Nat) :
    (openDatabase medium (.store .empty .allowed) elapsed).result = .ok (.on .fresh) := by
  have applied : (Migration.apply (.opened .empty .allowed)).result = .ok () := by decide +kernel
  have reached : (Migration.apply (.opened .empty .allowed)).connection = .on .fresh := by decide +kernel
  simp only [openDatabase, applied, reached]

-- An empty database can be opened only where it can be written to.
theorem openDatabase_empty_eq_ok {medium : Medium} {writing : Writing} {elapsed : Nat} {c : Connection}
    (opened : (openDatabase medium (.store .empty writing) elapsed).result = .ok c) : c = .on .fresh := by
  cases writing with
  | allowed => simpa [openDatabase_empty] using opened.symm
  | readOnly =>
    have refused : (Migration.apply (.opened .empty .readOnly)).result = .error (.migration 1 .readOnly) := by
      decide +kernel
    simp [openDatabase, refused] at opened
  | unjournaled =>
    have refused : (Migration.apply (.opened .empty .unjournaled)).result = .error (.migration 1 .companionClosed) := by
      decide +kernel
    simp [openDatabase, refused] at opened

theorem Migration.apply_latest {c : Connection} (version : c.store.userVersion = latest) :
    apply c = ⟨.ok (), c, []⟩ := by
  have read : c.store.version? = .ok latest := by
    unfold Store.version?
    rw [version]
    decide +kernel
  simp [apply, Bind.bind, Action.bind, Action.mapError, Action.query, read, Pure.pure, Action.pure]

theorem openDatabase_latest {store : Store} (version : store.userVersion = Migration.latest) (medium : Medium)
    (writing : Writing) (elapsed : Nat) :
    (openDatabase medium (.store store writing) elapsed).result = .ok (.opened store writing) := by
  simp [openDatabase, Migration.apply_latest (c := .opened store writing) version]

theorem openDatabase_latest_eq_ok {medium : Medium} {store : Store} {writing : Writing} {elapsed : Nat}
    {c : Connection} (version : store.userVersion = Migration.latest)
    (opened : (openDatabase medium (.store store writing) elapsed).result = .ok c) : c = .opened store writing :=
  Except.ok.inj (opened.symm.trans (openDatabase_latest version medium writing elapsed))

/-- A new database with two books in it, the first of them with two reviews. -/
def Connection.sample : Connection := Write.performAll (.on .fresh)
  [.save (.withReviews "Dune" 412 [.new "Ann" "Vast", .new "Bob" "Long"]), .create "Emma" 474]

theorem reached_sample : Reached .sample :=
  .written (.create "Emma" 474) (.written (.save _) (.opened (openDatabase_empty .memory 0)))

end Catalogue
