import Catalogue.Proofs.Composed
import Catalogue.Proofs.Opening
import Catalogue.Proofs.Success
import Catalogue.Store.Direct

/-! What a deletion does to the two tables. The reviews of a book are removed before the book is, so it makes no
difference whether references are enforced. -/

set_option autoImplicit false

namespace Catalogue

namespace Store

variable {store : Store}

def without (store : Store) (id : BookId) : Store :=
  { store with books := store.books.remove (·.id == id), reviews := store.reviews.remove (·.isOf id) }

def cleared (store : Store) : Store :=
  { store with books := store.books.remove fun _ => true, reviews := store.reviews.remove fun _ => true }

theorem contains_without (store : Store) (id : BookId) : (store.without id).books.contains id = false := by
  rw [← Table.find?_eq_none_iff, without, Table.find?_remove, Option.filter_eq_none_iff]
  intro row found
  simp [Table.id_of_find? found]

theorem contains_cleared (store : Store) (id : BookId) : store.cleared.books.contains id = false := by
  rw [← Table.find?_eq_none_iff, cleared, Table.find?_remove]
  simp

theorem without_without (store : Store) (id : BookId) : (store.without id).without id = store.without id := by
  simp only [without, Table.remove_remove]

theorem without_comm (store : Store) (first second : BookId) :
    (store.without first).without second = (store.without second).without first := by
  simp only [without, Table.remove_or, Bool.or_comm]

/-- Whether a row is stored that deleting a book takes. -/
def anyOf (store : Store) (id : BookId) : Bool := store.reviews.rows.any (·.isOf id) || store.books.contains id

def anyRow (store : Store) : Bool :=
  (store.reviews.rows.any fun _ => true) || store.books.rows.any fun _ => true

/-- Between two stores a book has gone, with all of its reviews, and nothing else. -/
structure Loses (before after : Store) (id : BookId) : Prop where
  books : ∀ row, row ∈ after.books.rows ↔ row ∈ before.books.rows ∧ row.id ≠ id
  reviews : ∀ row, row ∈ after.reviews.rows ↔ row ∈ before.reviews.rows ∧ row.isOf id = false
  bookMark : after.books.mark = before.books.mark
  reviewMark : after.reviews.mark = before.reviews.mark
  schema : after.schema = before.schema
  userVersion : after.userVersion = before.userVersion

theorem loses_without (store : Store) (id : BookId) : store.Loses (store.without id) id :=
  ⟨fun row => by simp [without], fun row => by simp [without], rfl, rfl, rfl, rfl⟩

structure LosesAll (before after : Store) : Prop where
  books : after.books.rows = []
  reviews : after.reviews.rows = []
  bookMark : after.books.mark = before.books.mark
  reviewMark : after.reviews.mark = before.reviews.mark
  schema : after.schema = before.schema
  userVersion : after.userVersion = before.userVersion

theorem losesAll_cleared (store : Store) : store.LosesAll store.cleared :=
  ⟨by simp [cleared], by simp [cleared], rfl, rfl, rfl, rfl⟩

end Store

namespace Books

open Catalogue.Action Table

variable {c : Connection}

/-! What a deletion does inside its transaction. It is two statements, and each is refused only where it would
change the file, so the whole goes through just where there is nothing to change or changes are taken. -/

theorem deleteReviews_eq {picked : Row ReviewCells → Bool}
    (allowed : c.refusalOf? (c.store.reviews.rows.any picked) = none) :
    Statement.deleteReviews picked c = ⟨.ok (c.store.reviews.count picked),
      { c with store := (c.store.deleteReviews picked).2 }, []⟩ := by
  rw [← count_bne_zero] at allowed
  exact writeCounted_eq_of_ok allowed rfl

theorem deleteBooks_eq {picked : Row BookCells → Bool} (allowed : c.refusalOf? (c.store.books.rows.any picked) = none)
    (unowned : ∀ review ∈ c.store.reviews.rows, ∀ book ∈ c.store.books.rows, picked book = true →
      review.isOf book.id = false) :
    Statement.deleteBooks picked c = ⟨.ok (c.store.books.count picked),
      { c with store := { c.store with books := c.store.books.remove picked } }, []⟩ := by
  rw [← count_bne_zero] at allowed
  exact writeCounted_eq_of_ok allowed (congrArg Except.ok (Store.deleteBooks_of_unowned unowned c.foreignKeys))

theorem removeBook_eq {id : BookId} (allowed : c.refusalOf? (c.store.anyOf id) = none) :
    removeBook id c = ⟨.ok (c.store.reviews.count (·.isOf id), c.store.books.count (·.id == id)),
      { c with store := c.store.without id }, []⟩ := by
  obtain ⟨reviews, books⟩ := (c.refusalOf?_or _ _).mp allowed
  let between : Connection := { c with store := (c.store.deleteReviews (·.isOf id)).2 }
  have unowned : ∀ review ∈ between.store.reviews.rows, ∀ book ∈ between.store.books.rows, (book.id == id) = true →
      review.isOf book.id = false := by
    intro review member book _ picked
    obtain ⟨-, kept⟩ := List.mem_filter.mp member
    rw [beq_iff_eq] at picked
    simpa [picked] using kept
  refine (bind_eq_of_silent (deleteReviews_eq reviews)).trans ?_
  exact bind_eq_of_silent (deleteBooks_eq (c := between) books unowned)

theorem allowed_of_removeBook {id : BookId} {counts : Nat × Nat} {d : Connection}
    (given : (removeBook id).Gives c counts d) : c.refusalOf? (c.store.anyOf id) = none := by
  obtain ⟨reviews, e, first, rest⟩ := gives_bind.mp given
  obtain ⟨books, e', second, -⟩ := gives_bind.mp rest
  obtain ⟨owned, store, removed, rfl⟩ := gives_write.mp first
  obtain ⟨present, store', removed', -⟩ := gives_write.mp second
  cases removed
  cases removed'
  refine (c.refusalOf?_or _ _).mpr ⟨?_, ?_⟩
  · rw [← count_bne_zero]
    exact owned
  · rw [Table.contains, ← count_bne_zero]
    exact present

theorem clearReviews_eq (allowed : c.refusalOf? (!c.foreignKeys || c.store.anyRow) = none) :
    Statement.clearReviews c = ⟨.ok (c.store.reviews.count fun _ => true),
      { c with store := (c.store.deleteReviews fun _ => true).2 }, []⟩ := by
  obtain ⟨whole, rows⟩ := (c.refusalOf?_or _ _).mp allowed
  obtain ⟨reviews, -⟩ := (c.refusalOf?_or _ _).mp rows
  rw [← count_bne_zero] at reviews
  exact write_eq_of_ok ((c.refusalOf?_or _ _).mpr ⟨whole, reviews⟩) rfl

theorem removeAll_eq (allowed : c.refusalOf? (!c.foreignKeys || c.store.anyRow) = none) :
    removeAll c = ⟨.ok c.store.books.rows.length, { c with store := c.store.cleared }, []⟩ := by
  let between : Connection := { c with store := (c.store.deleteReviews fun _ => true).2 }
  have reviews : (discard Statement.clearReviews) c = ⟨.ok (), between, []⟩ :=
    bind_eq_of_silent (clearReviews_eq allowed)
  have unowned : ∀ review ∈ between.store.reviews.rows, ∀ book ∈ between.store.books.rows, true = true →
      review.isOf book.id = false := by
    simp [between, Store.deleteReviews]
  obtain ⟨whole, rows⟩ := (c.refusalOf?_or _ _).mp allowed
  obtain ⟨-, books⟩ := (c.refusalOf?_or _ _).mp rows
  rw [← count_bne_zero] at books
  have cleared : Statement.clearBooks between = ⟨.ok (c.store.books.count fun _ => true), _, []⟩ :=
    write_eq_of_ok ((c.refusalOf?_or _ _).mpr ⟨whole, books⟩)
      (congrArg Except.ok (Store.deleteBooks_of_unowned unowned c.foreignKeys))
  refine (bind_eq_of_silent reviews).trans (cleared.trans ?_)
  simp [between, Store.deleteReviews, Store.cleared, Table.count]

theorem allowed_of_removeAll {deleted : Nat} {d : Connection} (given : removeAll.Gives c deleted d) :
    c.refusalOf? (!c.foreignKeys || c.store.anyRow) = none := by
  obtain ⟨_, e, first, second⟩ := gives_bind.mp given
  obtain ⟨_, first⟩ := gives_discard.mp first
  obtain ⟨owned, store, removed, rfl⟩ := gives_write.mp first
  obtain ⟨present, store', removed', -⟩ := gives_write.mp second
  cases removed
  cases removed'
  obtain ⟨whole, reviews⟩ := (c.refusalOf?_or _ _).mp owned
  obtain ⟨-, books⟩ := (c.refusalOf?_or _ _).mp present
  refine (c.refusalOf?_or _ _).mpr ⟨whole, (c.refusalOf?_or _ _).mpr ⟨?_, ?_⟩⟩
  · rw [← count_bne_zero]
    exact reviews
  · rw [← count_bne_zero]
    exact books

/-- A deletion succeeds just where what there is to delete may be changed, and reports the rows that it removed. -/
theorem deleteById_eq (free : c.backup = none) {id : BookId} (allowed : c.refusalOf? (c.store.anyOf id) = none) :
    deleteById id c = ⟨.ok (), { c with store := c.store.without id },
      [.deleted id (c.store.books.count (·.id == id)) (c.store.reviews.count (·.isOf id))]⟩ := by
  have removed := mapError_eq_of_ok RepositoryError.engine
    (removeBook_eq (c := { c with backup := some c.store }) allowed)
  refine (bind_eq_of_silent (transaction_eq_of_ok free removed)).trans ?_
  simp only [report, free]

theorem deleteAll_eq (free : c.backup = none) (allowed : c.refusalOf? (!c.foreignKeys || c.store.anyRow) = none) :
    deleteAll c = ⟨.ok c.store.books.rows.length, { c with store := c.store.cleared },
      [.cleared c.store.books.rows.length]⟩ := by
  have removed := mapError_eq_of_ok RepositoryError.engine
    (removeAll_eq (c := { c with backup := some c.store }) allowed)
  refine (bind_eq_of_silent (transaction_eq_of_ok free removed)).trans ?_
  rw [free]
  rfl

theorem allowed_of_deleteById {id : BookId} {d : Connection} {u : Unit} (h : (deleteById id).Gives c u d) :
    c.refusalOf? (c.store.anyOf id) = none ∧ c.backup = none := by
  obtain ⟨_, e, removed, -⟩ := gives_bind.mp h
  obtain ⟨free, e, body, -⟩ := gives_transaction.mp removed
  exact ⟨allowed_of_removeBook (c := { c with backup := some c.store }) (gives_mapError.mp body), free⟩

theorem allowed_of_deleteAll {d : Connection} {deleted : Nat} (h : deleteAll.Gives c deleted d) :
    c.refusalOf? (!c.foreignKeys || c.store.anyRow) = none ∧ c.backup = none := by
  obtain ⟨_, e, removed, -⟩ := gives_bind.mp h
  obtain ⟨free, e, body, -⟩ := gives_transaction.mp removed
  exact ⟨allowed_of_removeAll (c := { c with backup := some c.store }) (gives_mapError.mp body), free⟩

theorem deleteById_gives {id : BookId} {d : Connection} {u : Unit} (h : (deleteById id).Gives c u d) :
    c.backup = none ∧ d = { c with store := c.store.without id } := by
  obtain ⟨allowed, free⟩ := allowed_of_deleteById h
  rw [Gives, deleteById_eq free allowed] at h
  exact ⟨free, h.2.symm⟩

theorem deleteAll_gives {d : Connection} {deleted : Nat} (h : deleteAll.Gives c deleted d) :
    c.backup = none ∧ deleted = c.store.books.rows.length ∧ d = { c with store := c.store.cleared } := by
  obtain ⟨allowed, free⟩ := allowed_of_deleteAll h
  rw [Gives, deleteAll_eq free allowed] at h
  exact ⟨free, (Except.ok.inj h.1).symm, h.2.symm⟩

/-- Whatever rows there are, a deletion takes a book and all of its reviews and nothing else, whether references are
enforced or not. Once more it takes nothing, and two deletions take the same in either order. Deleting a book deletes
what its id names, and deleting all takes every row, the reviews of no book among them. -/
theorem deletion_takes_whole_aggregate {c : Connection} (free : c.backup = none) (allowed : c.refusal? = none) :
    (∀ id, ∃ after, c.store.Loses after id ∧
      (∀ enforced, (deleteById id { c with foreignKeys := enforced }).result = .ok () ∧
        (deleteById id { c with foreignKeys := enforced }).connection =
          { c with store := after, foreignKeys := enforced }) ∧
      (deleteById id { c with store := after }).result = .ok () ∧
      (deleteById id { c with store := after }).connection = { c with store := after }) ∧
    (∀ first second, ∃ d e, (deleteById first c).connection = d ∧ (deleteById second c).connection = e ∧
      (deleteById second d).result = .ok () ∧ (deleteById first e).result = .ok () ∧
        (deleteById second d).connection = (deleteById first e).connection) ∧
    (∀ book, (∀ id, book.id = some id → delete book c = deleteById id c) ∧
      (book.id = none → delete book c = ⟨.ok (), c, []⟩)) ∧
    ∀ enforced, (deleteAll { c with foreignKeys := enforced }).result = .ok c.store.books.rows.length ∧
      ∃ after, c.store.LosesAll after ∧
        (deleteAll { c with foreignKeys := enforced }).connection = { c with store := after, foreignKeys := enforced } := by
  replace allowed (changes : Bool) : c.refusalOf? changes = none := c.refusalOf?_of_allowed allowed changes
  refine ⟨fun id => ⟨c.store.without id, c.store.loses_without id, fun enforced => ?_, ?_, ?_⟩,
    fun first second => ⟨_, _, rfl, rfl, ?_⟩, fun book => ⟨fun id named => ?_, fun unnamed => ?_⟩, fun enforced => ?_⟩
  · rw [deleteById_eq (c := { c with foreignKeys := enforced }) free (allowed _)]
    exact ⟨rfl, rfl⟩
  · rw [deleteById_eq (c := { c with store := c.store.without id }) free (allowed _)]
  · rw [deleteById_eq (c := { c with store := c.store.without id }) free (allowed _), Store.without_without]
  · rw [deleteById_eq free (allowed _), deleteById_eq free (allowed _),
      deleteById_eq (c := { c with store := c.store.without first }) free (allowed _),
      deleteById_eq (c := { c with store := c.store.without second }) free (allowed _), Store.without_comm]
    exact ⟨rfl, rfl, rfl⟩
  · rw [delete, named]
  · rw [delete, unnamed]
    rfl
  · rw [deleteAll_eq (c := { c with foreignKeys := enforced }) free (allowed _)]
    exact ⟨rfl, _, c.store.losesAll_cleared, rfl⟩

theorem deletion_takes_whole_aggregate_beside_others :
    let odd := (Direct.putReview .null (.text "Eve") (.text "Odd") .null .sample).connection
    let c := (Direct.putReview .null (.text "Kim") (.text "Fine") (.int 9) { odd with foreignKeys := false }).connection
    c.store.reviews.rows.map (·.cells.bookId) = [.int 1, .int 1, .null, .int 9] ∧ c.backup = none ∧ c.refusal? = none ∧
      (deleteById 1 c).result = .ok () ∧ c.store.Loses (deleteById 1 c).connection.store 1 ∧
      c.store.Loses (deleteById 9 { c with foreignKeys := true }).connection.store 9 ∧
      (deleteAll c).result = .ok 2 ∧ c.store.LosesAll (deleteAll c).connection.store := by
  intro odd c
  have free : c.backup = none := by decide +kernel
  have allowed : c.refusal? = none := by decide +kernel
  obtain ⟨each, -, -, all⟩ := deletion_takes_whole_aggregate free allowed
  obtain ⟨first, loses, gone, -⟩ := each 1
  obtain ⟨second, loses', gone', -⟩ := each 9
  obtain ⟨counted, last, losesAll, cleared⟩ := all c.foreignKeys
  have two : c.store.books.rows.length = 2 := by decide +kernel
  refine ⟨by decide +kernel, free, allowed, (gone c.foreignKeys).1, ?_, ?_, by rw [← two]; exact counted, ?_⟩
  · rw [(gone c.foreignKeys).2]
    exact loses
  · rw [(gone' true).2]
    exact loses'
  · rw [cleared]
    exact losesAll

end Books
end Catalogue
