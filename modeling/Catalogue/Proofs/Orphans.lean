import Catalogue.Proofs.Events
import Catalogue.Proofs.Verdict
import Catalogue.Store.Direct

/-! The reviews of a book that its last save does not list. One statement removes them where the book lists none at
all, and one statement each where it lists some; either way the same rows go, and as many are counted. -/

set_option autoImplicit false

namespace Catalogue

/-- Between two stores the reviews of a book that are not kept have gone, so many of them, and nothing else. -/
structure Store.Sheds (before after : Store) (book : BookId) (kept : List ReviewId) (gone : Nat) : Prop where
  reviews : ∀ row, row ∈ after.reviews.rows ↔ row ∈ before.reviews.rows ∧ (row.isOf book = false ∨ row.id ∈ kept)
  counted : after.reviews.rows.length + gone = before.reviews.rows.length
  reviewMark : after.reviews.mark = before.reviews.mark
  books : after.books = before.books
  schema : after.schema = before.schema
  userVersion : after.userVersion = before.userVersion

def Store.shed (store : Store) (book : BookId) (kept : List ReviewId) : Store :=
  { store with reviews := store.reviews.remove fun row => row.isOf book && !kept.contains row.id }

def Store.orphanCount (store : Store) (book : BookId) (kept : List ReviewId) : Nat :=
  store.reviews.count fun row => row.isOf book && !kept.contains row.id

namespace Store

variable {kept kept' : List ReviewId}

theorem sheds_shed (store : Store) (book : BookId) (kept : List ReviewId) :
    store.Sheds (store.shed book kept) book kept (store.orphanCount book kept) where
  reviews row := by
    rw [shed, Table.rows_remove, List.mem_filter]
    cases row.isOf book <;> simp
  counted := store.reviews.length_remove _
  reviewMark := rfl
  books := rfl
  schema := rfl
  userVersion := rfl

theorem shed_congr (store : Store) (book : BookId) (same : ∀ id, id ∈ kept' ↔ id ∈ kept) :
    store.shed book kept' = store.shed book kept ∧ store.orphanCount book kept' = store.orphanCount book kept := by
  have contains : ∀ id, kept'.contains id = kept.contains id := by
    intro id
    rw [Bool.eq_iff_iff, List.contains_iff_mem, List.contains_iff_mem]
    exact same id
  simp only [shed, orphanCount, contains, and_self]

end Store

namespace Books

open Catalogue.Action

variable {c d : Connection}

theorem deleteUnlisted_eq (allowed : c.refusal? = none) (book : BookId) (kept : List ReviewId) :
    deleteUnlisted book kept c =
      ⟨.ok (c.store.orphanCount book kept), { c with store := c.store.shed book kept }, []⟩ := by
  obtain ⟨deleted, d, given, -⟩ := deleteUnlisted_unfailing book kept c allowed
  obtain ⟨rfl, rfl⟩ := deleteUnlisted_gives given
  exact (deleteUnlisted_composed book kept).reply_eq given

theorem deleteOrphans_eq (allowed : c.refusal? = none) (book : BookId) (kept : List ReviewId) :
    deleteOrphans book kept c =
      ⟨.ok (c.store.orphanCount book kept), { c with store := c.store.shed book kept }, []⟩ := by
  obtain ⟨deleted, d, given, -⟩ := deleteOrphans_unfailing book kept c allowed
  obtain ⟨rfl, rfl⟩ := deleteOrphans_gives given
  exact (deleteOrphans_composed book kept).reply_eq given

/-- Wherever writes are taken, the reviews of a book that are not kept go, and are counted, whether they are removed
one by one or, where none is kept, by one statement; the other rows stay as they are. In which order ids are kept and
how often does not matter, and ids of other books' reviews or of none do not either. And writes are taken wherever a
save comes to this. -/
theorem orphans_shed_either_way (c : Connection) (book : BookId) (kept : List ReviewId) :
    (c.refusal? = none → ∃ after gone, c.store.Sheds after book kept gone ∧
      deleteOrphans book kept c = ⟨.ok gone, { c with store := after }, []⟩ ∧
      deleteUnlisted book kept c = ⟨.ok gone, { c with store := after }, []⟩ ∧
      ∀ kept', (∀ id, id ∈ kept' ↔ id ∈ kept) → deleteOrphans book kept' c = deleteOrphans book kept c) ∧
    (c.refusal? = none → Statement.deleteReviews (·.isOf book) c = deleteUnlisted book [] c) ∧
    ∀ saved id ids d e, (saveRow saved).Gives c id d → (saveReviews id saved.reviews).Gives d ids e →
      e.refusal? = none := by
  refine ⟨fun allowed => ?_, fun allowed => ?_, fun saved id ids d e row reviews => ?_⟩
  · refine ⟨c.store.shed book kept, c.store.orphanCount book kept, c.store.sheds_shed book kept,
      deleteOrphans_eq allowed book kept, deleteUnlisted_eq allowed book kept, fun kept' same => ?_⟩
    obtain ⟨shed, counted⟩ := c.store.shed_congr book same
    rw [deleteOrphans_eq allowed, deleteOrphans_eq allowed, shed, counted]
  · have bulk := deleteOrphans_eq allowed book []
    rw [deleteUnlisted_eq allowed, ← bulk]
    rfl
  · have allowed := allowed_of_saveRow row
    obtain ⟨books, -, rfl⟩ := saveRow_gives row
    obtain ⟨table, -, rfl⟩ := saveReviews_gives reviews
    exact allowed

-- Beside the reviews of the book there are one of no book and one of a book that is not stored; kept are a review of the
-- book, twice, one of another book and one that is nowhere.
theorem orphans_shed_beside_others :
    let odd := (Direct.putReview .null (.text "Eve") (.text "Odd") .null .sample).connection
    let c := (Direct.putReview .null (.text "Kim") (.text "Fine") (.int 9) { odd with foreignKeys := false }).connection
    let book : Book := ⟨some 1, "Dune", 412, [⟨some 2, "Bob", "Long", none⟩]⟩
    c.store.reviews.rows.map (·.cells.bookId) = [.int 1, .int 1, .null, .int 9] ∧
      (deleteOrphans 1 [2, 7, 4, 2] c).result = .ok 1 ∧
      c.store.Sheds (deleteOrphans 1 [2, 7, 4, 2] c).connection.store 1 [2, 7, 4, 2] 1 ∧
      deleteOrphans 1 [4, 2, 7] c = deleteOrphans 1 [2, 7, 4, 2] c ∧
      (Statement.deleteReviews (·.isOf 1) c).result = .ok 2 ∧ (deleteUnlisted 1 [] c).result = .ok 2 ∧
      (saveReviews 1 book.reviews (saveRow book c).connection).connection.refusal? = none := by
  intro odd c book
  have allowed : c.refusal? = none := by decide +kernel
  have counted : (deleteOrphans 1 [2, 7, 4, 2] c).result = .ok 1 := by decide +kernel
  have row : (saveRow book).Gives c 1 (saveRow book c).connection := gives_of_ok (by decide +kernel)
  have written : (saveReviews 1 book.reviews (saveRow book c).connection).result = .ok [2] := by decide +kernel
  obtain ⟨after, gone, sheds, removed, -, kept⟩ := (orphans_shed_either_way c 1 [2, 7, 4, 2]).1 allowed
  obtain ⟨-, bulk, reached⟩ := orphans_shed_either_way c 1 []
  have all : (Statement.deleteReviews (·.isOf 1) c).result = .ok 2 := by decide +kernel
  have same : gone = 1 := by
    rw [removed] at counted
    exact Except.ok.inj counted
  refine ⟨by decide +kernel, counted, ?_, kept [4, 2, 7] (by simp; tauto), all, ?_,
    reached book 1 [2] _ _ row (gives_of_ok written)⟩
  · rw [removed, ← same]
    exact sheds
  · rw [← bulk allowed]
    exact all

end Books

end Catalogue
