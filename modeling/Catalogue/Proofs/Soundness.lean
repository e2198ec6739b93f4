import Catalogue.Proofs.Keeping
import Catalogue.Proofs.Opening

/-! What holds of every store that only the catalogue has written to. Each write that succeeds keeps it, a
write that fails changes nothing, and so it holds after every history. -/

set_option autoImplicit false

namespace Catalogue

/-- Ids are positive, each book row holds a book that may be stored, and each review row a review of a
stored book; and nothing is left to migrate. -/
structure Store.Sound (store : Store) : Prop where
  books : ∀ row ∈ store.books.rows, 1 ≤ row.id ∧ ∃ book : Book, row.cells = book.cells ∧ ¬ book.pages < 0
  reviews : ∀ row ∈ store.reviews.rows, 1 ≤ row.id ∧
    ∃ (review : Review) (owner : BookId), row.cells = review.cells owner ∧ store.books.contains owner = true
  schema : store.schema = .latest
  userVersion : store.userVersion = Migration.latest

theorem Store.sound_fresh : Store.fresh.Sound :=
  ⟨by simp [fresh, Table.empty], by simp [fresh, Table.empty], rfl, rfl⟩

namespace Table.Stored

variable {α : Type} {before after : Table α} {key? : Option Int} {cells : α} {id : Int}

theorem one_le (h : before.Stored key? cells id after) (positive : ∀ row ∈ before.rows, 1 ≤ row.id) : 1 ≤ id := by
  cases key? with
  | none =>
    have := h.mark_lt_of_new
    have := before.mark_nonneg
    omega
  | some key =>
    obtain ⟨row, found⟩ := contains_iff_find?.mp (h.present key rfl)
    obtain ⟨member, same⟩ := find?_eq_some_iff.mp found
    rw [h.eq_of_key, ← same]
    exact positive row member

end Table.Stored

theorem ReviewsStored.forall_rows {book : BookId} {before after : Table ReviewCells} {reviews : List Review}
    {ids : List ReviewId} {P : ReviewCells → Prop} (h : ReviewsStored book before reviews ids after)
    (new : ∀ review : Review, P (review.cells book)) (old : ∀ row ∈ before.rows, 1 ≤ row.id ∧ P row.cells) :
    ∀ row ∈ after.rows, 1 ≤ row.id ∧ P row.cells := by
  induction h with
  | nil => exact old
  | cons stored _ ih =>
    refine ih (stored.forall_rows ⟨stored.one_le fun row member => (old row member).1, new _⟩ old)

theorem Cascaded.sound {before after : Store} {book : Book} {ids : Books.SavedIds}
    (h : Cascaded before book ids after) (valid : ¬ book.pages < 0) (sound : before.Sound) : after.Sound := by
  obtain ⟨written, stored, removed⟩ := h.reviews
  refine ⟨h.row.forall_rows ⟨h.row.one_le fun row member => (sound.books row member).1, book, rfl, valid⟩ sound.books, ?_,
    h.schema.trans sound.schema, h.userVersion.trans sound.userVersion⟩
  intro row member
  rw [removed, Table.rows_remove, List.mem_filter] at member
  refine stored.forall_rows (P := fun cells => ∃ (review : Review) (owner : BookId), cells = review.cells owner ∧
    after.books.contains owner = true) (fun review => ⟨review, ids.book, rfl, h.row.contains_id⟩) ?_ row member.1
  intro row member
  obtain ⟨positive, review, owner, cells, owned⟩ := sound.reviews row member
  exact ⟨positive, review, owner, cells, h.row.contains_of_contains owned⟩

theorem Store.Sound.without {store : Store} (sound : store.Sound) (id : BookId) : (store.without id).Sound := by
  refine ⟨fun row member => sound.books row (List.mem_filter.mp member).1, fun row member => ?_, sound.schema,
    sound.userVersion⟩
  obtain ⟨member, unowned⟩ := List.mem_filter.mp member
  obtain ⟨positive, review, owner, cells, owned⟩ := sound.reviews row member
  refine ⟨positive, review, owner, cells, ?_⟩
  -- A review that stays belongs to another book, which stays as well.
  have other : (owner == id) = false := by
    have ofOwner : row.isOf id = (owner == id) := Row.isOf_of_int (by rw [cells]; rfl)
    simpa [ofOwner] using unowned
  obtain ⟨book, found⟩ := Table.contains_iff_find?.mp owned
  refine Table.contains_iff_find?.mpr ⟨book, ?_⟩
  simp [Store.without, Table.find?_remove, found, Option.filter, Table.id_of_find? found, other]

theorem Store.Sound.cleared {store : Store} (sound : store.Sound) : store.cleared.Sound :=
  ⟨by simp [Store.cleared], by simp [Store.cleared], sound.schema, sound.userVersion⟩

/-- A connection between two calls: a sound store and no transaction open. -/
structure Connection.Sound (c : Connection) : Prop where
  store : c.store.Sound
  free : c.backup = none

theorem Connection.Sound.eq_of_reopened {c d : Connection} (sound : c.Sound) {writing : Writing} {elapsed : Nat}
    (opened : (openDatabase .file (.store c.durable writing) elapsed).result = .ok d) :
    d = .opened c.store writing := by
  have closed : c.durable = c.store := by rw [durable, sound.free, Option.getD_none]
  rw [closed] at opened
  exact openDatabase_latest_eq_ok sound.store.userVersion opened

theorem Books.keep_sound : Keep Connection.Sound :=
  have store : Keep fun c => c.store.Sound :=
    .of_store (fun cascaded valid sound => cascaded.sound valid sound) (fun id sound => sound.without id) (·.cleared)
  { save := fun book c sound => ⟨store.save book c sound.store, Keep.free.save book c sound.free⟩
    saveAll := fun books c sound => ⟨store.saveAll books c sound.store, Keep.free.saveAll books c sound.free⟩
    deleteById := fun id c sound => ⟨store.deleteById id c sound.store, Keep.free.deleteById id c sound.free⟩
    deleteAll := fun c sound => ⟨store.deleteAll c sound.store, Keep.free.deleteAll c sound.free⟩ }

namespace Reached

theorem sound_opened {c : Connection} {medium : Medium} {writing : Writing} {elapsed : Nat}
    (opened : (openDatabase medium (.store .empty writing) elapsed).result = .ok c) : c.Sound := by
  obtain rfl : c = .on .fresh := openDatabase_empty_eq_ok opened
  exact ⟨Store.sound_fresh, rfl⟩

theorem sound {c : Connection} (reached : Reached c) : c.Sound := by
  induction reached with
  | opened opened => exact sound_opened opened
  | reopened _ opened ih =>
    rw [ih.eq_of_reopened opened]
    exact ⟨ih.store, rfl⟩
  | written write _ ih => exact Books.keep_sound.perform write ih

end Reached

end Catalogue
