import Catalogue.Proofs.Rows
import Catalogue.Proofs.Success
import Catalogue.Proofs.Table
import Catalogue.Repository.Delete

/-! Actions put together from statements and queries. What holds of every statement and is kept as one
action follows upon another holds of all of them, by induction on how they are put together. -/

set_option autoImplicit false

namespace Catalogue

/-- Where a statement says that it changes nothing, it leaves the store as it was. -/
def Action.Tells {α : Type} (changes : Bool → α → Bool) (f : Bool → Store → Except EngineError (α × Store)) : Prop :=
  ∀ ⦃enforced store a after⦄, f enforced store = .ok (a, after) → changes enforced a = false → after = store

/-- Actions that are statements, queries and failures, one after another. -/
inductive Action.Composed : {ε α : Type} → Action ε α → Prop
  | pure {ε α : Type} (a : α) : Composed (pure a : Action ε α)
  | fail {ε α : Type} (e : ε) : Composed (Action.fail e : Action ε α)
  | query {ε α : Type} (f : Store → Except ε α) : Composed (Action.query f)
  | write {α : Type} {changes : Bool → α → Bool} {f : Bool → Store → Except EngineError (α × Store)} :
      Action.Tells changes f → Composed (Action.write changes f)
  | bind {ε α β : Type} {x : Action ε α} {f : α → Action ε β} :
      Composed x → (∀ a, Composed (f a)) → Composed (x >>= f)
  | mapError {ε ζ α : Type} {x : Action ε α} (f : ε → ζ) : Composed x → Composed (x.mapError f)

theorem Action.Composed.map {ε α β : Type} {x : Action ε α} (f : α → β) (h : x.Composed) : (f <$> x).Composed := by
  rw [map_eq_pure_bind]
  exact h.bind fun a => .pure (f a)

namespace Store

variable {store after : Store} {enforced : Bool}

theorem updateReview_eq_ok {id : ReviewId} {review : Review} {book : BookId}
    {changed : Nat}
    (h : store.updateReview enforced id review.reviewer review.content book = .ok (changed, after)) :
    changed = store.reviews.count (·.id == id) ∧
      after = { store with reviews := store.reviews.set id (review.cells book) } := by
  unfold updateReview at h
  split at h
  · obtain ⟨_, -, same⟩ := bind_eq_ok.mp h
    cases same
    exact ⟨rfl, rfl⟩
  · cases h
    exact ⟨rfl, rfl⟩

theorem deleteBooks_of_unowned {picked : Row BookCells → Bool}
    (unowned : ∀ review ∈ store.reviews.rows, ∀ book ∈ store.books.rows, picked book = true →
      review.isOf book.id = false) (enforced : Bool) :
    store.deleteBooks enforced picked = (store.books.count picked, { store with books := store.books.remove picked }) := by
  have kept : (store.reviews.remove fun review =>
      store.books.rows.any fun book => picked book && review.isOf book.id) = store.reviews := by
    refine (Table.remove_congr fun review member => ?_).trans (Table.remove_false _)
    simp only [List.any_eq_false, Bool.and_eq_true, not_and, Bool.not_eq_true]
    exact unowned review member
  simp only [deleteBooks, kept, ite_self]

/-! A statement that finds no row leaves the store as it was. -/

theorem updateReview_of_count_eq_zero {id : ReviewId} {review : Review} {book : BookId}
    (h : store.updateReview enforced id review.reviewer review.content book = .ok (0, after)) : after = store := by
  obtain ⟨unmatched, rfl⟩ := updateReview_eq_ok h
  rw [Table.set_of_count_eq_zero unmatched.symm]

theorem deleteReviews_of_count_eq_zero {picked : Row ReviewCells → Bool} (unmatched : store.reviews.count picked = 0) :
    (store.deleteReviews picked).2 = store := by
  rw [deleteReviews, Table.remove_of_count_eq_zero unmatched]

theorem deleteBooks_of_count_eq_zero {picked : Row BookCells → Bool} (unmatched : store.books.count picked = 0) :
    (store.deleteBooks enforced picked).2 = store := by
  have unpicked := List.countP_eq_zero.mp unmatched
  rw [deleteBooks_of_unowned fun _ _ book member picked => absurd picked (unpicked book member),
    Table.remove_of_count_eq_zero unmatched]

end Store

namespace Statement

open Catalogue.Action

theorem writeAlways_composed {α : Type} (f : Bool → Store → Except EngineError (α × Store)) :
    (writeAlways f).Composed :=
  .write fun _ _ _ _ _ unchanged => nomatch unchanged

-- What changes nothing has found no row.
theorem composed_of_count {changes : Bool → Nat → Bool} {f : Bool → Store → Except EngineError (Nat × Store)}
    (counts : ∀ enforced changed, changes enforced changed = false → changed = 0)
    (kept : ∀ enforced store after, f enforced store = .ok (0, after) → after = store) : (write changes f).Composed := by
  refine .write fun enforced store changed after done unchanged => ?_
  rw [counts enforced changed unchanged] at done
  exact kept enforced store after done

theorem writeCounted_composed {f : Bool → Store → Except EngineError (Nat × Store)}
    (kept : ∀ enforced store after, f enforced store = .ok (0, after) → after = store) : (writeCounted f).Composed :=
  composed_of_count (fun _ _ unchanged => bne_eq_false_iff_eq.mp unchanged) kept

theorem updateBook_composed (id : BookId) (book : Book) : (updateBook id book).Composed := by
  refine writeCounted_composed fun enforced store after done => ?_
  obtain ⟨unmatched, rfl⟩ := Prod.mk.inj (Except.ok.inj done)
  rw [Table.set_of_count_eq_zero unmatched]

theorem updateReview_composed (id : ReviewId) (book : BookId) (review : Review) :
    (updateReview id book review).Composed :=
  writeCounted_composed fun _ _ _ done => Store.updateReview_of_count_eq_zero done

theorem deleteReviews_composed (picked : Row ReviewCells → Bool) : (deleteReviews picked).Composed := by
  refine writeCounted_composed fun enforced store after done => ?_
  obtain ⟨unmatched, rfl⟩ := Prod.mk.inj (Except.ok.inj done)
  exact Store.deleteReviews_of_count_eq_zero unmatched

theorem deleteBooks_composed (picked : Row BookCells → Bool) : (deleteBooks picked).Composed := by
  refine writeCounted_composed fun enforced store after done => ?_
  obtain ⟨unmatched, rfl⟩ := Prod.mk.inj (Except.ok.inj done)
  exact Store.deleteBooks_of_count_eq_zero unmatched

theorem eq_zero_of_clears (enforced : Bool) (deleted : Nat) (unchanged : clears enforced deleted = false) : deleted = 0 :=
  bne_eq_false_iff_eq.mp (Bool.or_eq_false_iff.mp unchanged).2

theorem clearReviews_composed : clearReviews.Composed := by
  refine composed_of_count eq_zero_of_clears fun enforced store after done => ?_
  obtain ⟨unmatched, rfl⟩ := Prod.mk.inj (Except.ok.inj done)
  exact Store.deleteReviews_of_count_eq_zero unmatched

theorem clearBooks_composed : clearBooks.Composed := by
  refine composed_of_count eq_zero_of_clears fun enforced store after done => ?_
  obtain ⟨unmatched, rfl⟩ := Prod.mk.inj (Except.ok.inj done)
  exact Store.deleteBooks_of_count_eq_zero unmatched

end Statement

namespace Books

theorem deleteReviewsById_composed (ids : List ReviewId) : (deleteReviewsById ids).Composed := by
  induction ids with
  | nil => exact .pure 0
  | cons id rest ih => exact .bind (Statement.deleteReviews_composed _) fun _ => ih.bind fun _ => .pure _

theorem deleteUnlisted_composed (book : BookId) (kept : List ReviewId) : (deleteUnlisted book kept).Composed :=
  .bind (.query _) fun _ => deleteReviewsById_composed _

theorem deleteOrphans_composed (book : BookId) (kept : List ReviewId) : (deleteOrphans book kept).Composed := by
  unfold deleteOrphans
  split
  · exact Statement.deleteReviews_composed _
  · exact deleteUnlisted_composed book kept

theorem saveRow_composed (book : Book) : (saveRow book).Composed := by
  unfold saveRow
  split
  · exact .mapError _ (Statement.writeAlways_composed _)
  · refine .bind (.mapError _ (Statement.updateBook_composed _ _)) fun changed => ?_
    split
    · exact .fail _
    · exact .pure _

theorem saveReview_composed (book : BookId) (review : Review) : (saveReview book review).Composed := by
  unfold saveReview
  split
  · exact .mapError _ (Statement.writeAlways_composed _)
  · refine .bind (.mapError _ (Statement.updateReview_composed _ _ _)) fun changed => ?_
    split
    · exact .fail _
    · exact .pure _

theorem saveReviews_composed (book : BookId) (reviews : List Review) : (saveReviews book reviews).Composed := by
  induction reviews with
  | nil => exact .pure []
  | cons review rest ih => exact .bind (saveReview_composed book review) fun _ => ih.bind fun _ => .pure _

theorem cascade_composed (book : Book) : (cascade book).Composed :=
  .bind (saveRow_composed book) fun id => .bind (saveReviews_composed id book.reviews) fun reviewIds =>
    .bind (.map _ (.mapError _ (deleteOrphans_composed id reviewIds))) fun _ => .pure _

theorem removeBook_composed (id : BookId) : (removeBook id).Composed :=
  .bind (Statement.deleteReviews_composed _) fun _ => .bind (Statement.deleteBooks_composed _) fun _ => .pure _

theorem removeAll_composed : removeAll.Composed :=
  .bind (.map _ Statement.clearReviews_composed) fun _ => Statement.clearBooks_composed

theorem cascadeAll_composed (books : List Book) : (cascadeAll books).Composed := by
  induction books with
  | nil => exact .pure []
  | cons book rest ih => exact .bind (cascade_composed book) fun _ => ih.bind fun _ => .pure _

end Books

end Catalogue
