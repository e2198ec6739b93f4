import Mathlib.Data.List.Count
import Catalogue.Proofs.Batch
import Catalogue.Proofs.Neighbours
import Catalogue.Receipt

/-! The ids under which a batch finds its reviews when it is over. They are the ids that the batch listed and those
that it gave out, each of them once, so an id that is there twice was listed before it was given out. -/

set_option autoImplicit false

namespace Catalogue

/-- Ids given out one after another from a mark on, and the mark that they lead to. -/
structure GivenOut (before : Int) (ids : List Int) (after : Int) : Prop where
  ascending : ids.Pairwise (· < ·)
  above : ∀ id ∈ ids, before < id
  below : ∀ id ∈ ids, id ≤ after
  le : before ≤ after

namespace GivenOut

variable {before between after id : Int} {ids ids' : List Int}

theorem nil (le : before ≤ after) : GivenOut before [] after := ⟨.nil, by simp, by simp, le⟩

theorem singleton (above : before < id) (below : id ≤ after) : GivenOut before [id] after :=
  ⟨List.pairwise_singleton _ _, by simpa using above, by simpa using below, above.le.trans below⟩

theorem append (first : GivenOut before ids between) (later : GivenOut between ids' after) :
    GivenOut before (ids ++ ids') after where
  ascending := List.pairwise_append.mpr ⟨first.ascending, later.ascending,
    fun a old b new => (first.below a old).trans_lt (later.above b new)⟩
  above := List.forall_mem_append.mpr ⟨first.above, fun b new => first.le.trans_lt (later.above b new)⟩
  below := List.forall_mem_append.mpr ⟨fun a old => (first.below a old).trans later.le, later.below⟩
  le := first.le.trans later.le

theorem le_after (given : GivenOut before ids after) (known : id ≤ before ∨ id ∈ ids) : id ≤ after :=
  known.elim (fun old => old.trans given.le) (given.below id)

theorem nodup (given : GivenOut before ids after) : ids.Nodup := given.ascending.imp ne_of_lt

end GivenOut

theorem newIds_cons (had got : Option Int) (more more' : List (Option Int)) :
    newIds (had :: more) (got :: more') = (if had.isNone then got else none).toList ++ newIds more more' := by
  unfold newIds
  rw [List.zip_cons_cons, List.filterMap_cons]
  split <;> simp_all

theorem newIds_append {had got more more' : List (Option Int)} (length : had.length = got.length) :
    newIds (had ++ more) (got ++ more') = newIds had got ++ newIds more more' := by
  rw [newIds, List.zip_append length, List.filterMap_append]
  rfl

theorem Table.Stored.givenOut {α : Type} {before after : Table α} {key? : Option Int} {cells : α} {id : Int}
    (h : before.Stored key? cells id after) :
    GivenOut before.mark (if key?.isNone then some id else none).toList after.mark := by
  cases key? with
  | none => exact .singleton h.mark_lt_of_new (le_mark_of_find? h.find?_id)
  | some key => exact .nil h.mark_of_key.ge

namespace ReviewsStored

variable {book : BookId} {before after : Table ReviewCells} {reviews : List Review} {ids : List ReviewId}

theorem givenOut (h : ReviewsStored book before reviews ids after) :
    GivenOut before.mark (newIds (reviews.map (·.id)) (ids.map some)) after.mark := by
  induction h with
  | nil => exact .nil le_rfl
  | cons stored _ ih =>
    rw [List.map_cons, List.map_cons, newIds_cons]
    exact stored.givenOut.append ih

theorem perm (h : ReviewsStored book before reviews ids after) :
    ids.Perm (reviews.filterMap (·.id) ++ newIds (reviews.map (·.id)) (ids.map some)) := by
  induction h with
  | nil => exact .nil
  | @cons before between after review rest id ids stored later ih =>
    rw [List.map_cons, List.map_cons, newIds_cons]
    cases key : review.id with
    | some key' =>
      rw [key] at stored
      rw [List.filterMap_cons_some key, stored.eq_of_key]
      exact ih.cons key'
    | none =>
      rw [List.filterMap_cons_none key]
      exact (ih.cons id).trans List.perm_middle.symm

end ReviewsStored

namespace Cascaded

variable {before after : Store} {book : Book} {ids : Books.SavedIds}

theorem reviews_givenOut (h : Cascaded before book ids after) :
    GivenOut before.reviews.mark (newIds (book.reviews.map (·.id)) (ids.reviews.map some)) after.reviews.mark := by
  obtain ⟨written, stored, removed⟩ := h.reviews
  rw [removed]
  exact stored.givenOut

theorem reviewIds_perm (h : Cascaded before book ids after) :
    ids.reviews.Perm (book.reviewIds ++ newIds (book.reviews.map (·.id)) (ids.reviews.map some)) := by
  obtain ⟨written, stored, -⟩ := h.reviews
  exact stored.perm

end Cascaded

namespace CascadedAll

variable {before after : Store} {books : List Book} {ids : List Books.SavedIds}

theorem reviews_givenOut (h : CascadedAll before books ids after) :
    GivenOut before.reviews.mark
      (newIds (books.flatMap (·.reviews.map (·.id))) ((ids.flatMap (·.reviews)).map some)) after.reviews.mark := by
  induction h with
  | nil => exact .nil le_rfl
  | cons first _ ih =>
    rw [List.flatMap_cons, List.flatMap_cons, List.map_append, newIds_append (by simp [first.length_eq])]
    exact first.reviews_givenOut.append ih

theorem reviewIds_perm (h : CascadedAll before books ids after) :
    (ids.flatMap (·.reviews)).Perm (books.flatMap Book.reviewIds ++
      newIds (books.flatMap (·.reviews.map (·.id))) ((ids.flatMap (·.reviews)).map some)) := by
  induction h with
  | nil => exact .nil
  | @cons before between after book rest ids more first later ih =>
    simp only [List.flatMap_cons, List.map_append]
    rw [newIds_append (by simp [first.length_eq])]
    refine (first.reviewIds_perm.append ih).trans ?_
    -- The new ids of the first book change places with the listed ones of the others.
    rw [List.append_assoc, List.append_assoc, ← List.append_assoc (newIds _ _),
      ← List.append_assoc (rest.flatMap Book.reviewIds)]
    exact (List.perm_append_comm.append_right _).append_left book.reviewIds

-- An id that the batch gave out is above the mark; all others are there as often as they were listed.
theorem count_le_one (h : CascadedAll before books ids after) (distinct : (books.flatMap Book.reviewIds).Nodup)
    {key : ReviewId} (old : key ∈ books.flatMap Book.reviewIds → key ≤ before.reviews.mark) :
    (ids.flatMap (·.reviews)).count key ≤ 1 := by
  rw [h.reviewIds_perm.count_eq, List.count_append]
  by_cases listed : key ∈ books.flatMap Book.reviewIds
  · have once := List.nodup_iff_count_le_one.mp distinct key
    have never := List.count_eq_zero_of_not_mem fun again =>
      absurd (h.reviews_givenOut.above key again) (not_lt.mpr (old listed))
    omega
  · have once := List.nodup_iff_count_le_one.mp h.reviews_givenOut.nodup key
    have never := List.count_eq_zero_of_not_mem listed
    omega

end CascadedAll

namespace Books

theorem SavedIds.map_id_stamp (ids : SavedIds) {book : Book} (length : ids.reviews.length = book.reviews.length) :
    (ids.stamp book).reviews.map (·.id) = ids.reviews.map some := by
  have paired : (book.reviews.zip ids.reviews).map (some ∘ Prod.snd) = ids.reviews.map some := by
    rw [← List.map_map, List.map_snd_zip length.le]
  rw [stamp, Book.stamp, ← List.map_uncurry_zip_eq_zipWith, List.map_map]
  exact paired

theorem map_id_zipWith_stamp {stored : List SavedIds} {books : List Book}
    (lengths : List.Forall₂ (fun saved book => saved.reviews.length = book.reviews.length) stored books) :
    ((stored.zipWith SavedIds.stamp books).flatMap (·.reviews)).map (·.id) =
      (stored.flatMap (·.reviews)).map some := by
  induction lengths with
  | nil => rfl
  | cons length _ ih =>
    simp only [List.zipWith_cons_cons, List.flatMap_cons, List.map_append]
    rw [SavedIds.map_id_stamp _ length, ih]

/-- When a batch is saved, no id under which a review was stored before stands at two of its reviews, and neither does
any id that the batch did not list; so if all that it lists was stored, its reviews have distinct ids. -/
theorem saveAllInPlace_repeats_none_stored {c : Connection} {books : List Book} {ids : List BookId}
    (succeeds : (saveAllInPlace books c).reply.result = .ok ids) :
    let written := ((saveAllInPlace books c).held.flatMap (·.reviews)).map (·.id)
    let listed := books.flatMap Book.reviewIds
    none ∉ written ∧
      (∀ key, (key ∈ listed → c.store.reviews.contains key = true) → written.count (some key) ≤ 1) ∧
      ((∀ key ∈ listed, c.store.reviews.contains key = true) → written.Nodup) := by
  intro written listed
  obtain ⟨stored, after, cascaded, distinct, same⟩ : ∃ stored after, CascadedAll c.store books stored after ∧
      listed.Nodup ∧ written = (stored.flatMap (·.reviews)).map some := by
    simp only [written, saveAllInPlace_eq] at succeeds ⊢
    obtain ⟨⟨ids', saved⟩, result, rfl⟩ := map_eq_ok.mp succeeds
    obtain ⟨-, -, distinct, stored, after, same, cascaded, -⟩ := saveAll_gives (Action.gives_of_ok result)
    obtain ⟨rfl, rfl⟩ := Prod.mk.inj same
    rw [result]
    exact ⟨stored, after, cascaded, distinct, map_id_zipWith_stamp (cascaded.stored.imp fun _ _ kept => kept.2)⟩
  have once (key : ReviewId) (old : key ∈ listed → c.store.reviews.contains key = true) :
      written.count (some key) ≤ 1 := by
    rw [same, List.count_map_of_injective _ _ (Option.some_injective _)]
    exact cascaded.count_le_one distinct fun member => Table.le_mark_of_contains (old member)
  have named : none ∉ written := by simp [same]
  refine ⟨named, once, fun old => List.nodup_iff_count_le_one.mpr fun entry => ?_⟩
  cases entry with
  | none => exact (List.count_eq_zero_of_not_mem named).trans_le zero_le_one
  | some key => exact once key (old key)

theorem saveAllInPlace_repeats_none_beside_new :
    let books : List Book := [.withReviews "Ulysses" 730 [.new "Eve" "Odd", ⟨some 2, "Bob", "Short", none⟩],
      ⟨some 2, "Emma", 480, [⟨some 1, "Ann", "Vast", none⟩, .new "Kim" "Fine"]⟩]
    (saveAllInPlace books .sample).reply.result = .ok [3, 2] ∧
      (∀ key ∈ books.flatMap Book.reviewIds, Connection.sample.store.reviews.contains key = true) ∧
      (((saveAllInPlace books .sample).held.flatMap (·.reviews)).map (·.id)).Nodup := by
  intro books
  have succeeds : (saveAllInPlace books .sample).reply.result = .ok [3, 2] := by decide +kernel
  have stored : ∀ key ∈ books.flatMap Book.reviewIds, Connection.sample.store.reviews.contains key = true := by
    decide +kernel
  exact ⟨succeeds, stored, (saveAllInPlace_repeats_none_stored succeeds).2.2 stored⟩

-- An id that is not stored yet is listed once, and is stored by then: the batch gave it to a new review.
theorem saveAllInPlace_repeats_given_out :
    let books : List Book := [.withReviews "Ulysses" 730 [.new "Eve" "Odd"],
      ⟨some 2, "Emma", 480, [⟨some 3, "Eve", "Even", none⟩]⟩]
    Reached .sample ∧ (saveAllInPlace books .sample).reply.result = .ok [3, 2] ∧
      (saveAllInPlace books .sample).held =
        [⟨some 3, "Ulysses", 730, [⟨some 3, "Eve", "Odd", some 3⟩]⟩,
          ⟨some 2, "Emma", 480, [⟨some 3, "Eve", "Even", some 2⟩]⟩] ∧
      ¬ (((saveAllInPlace books .sample).held.flatMap (·.reviews)).map (·.id)).Nodup :=
  ⟨reached_sample, by decide +kernel, by decide +kernel, by decide +kernel⟩

end Books

end Catalogue
