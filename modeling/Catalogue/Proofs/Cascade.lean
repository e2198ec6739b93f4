import Catalogue.Proofs.Composed

/-! What a successful save does to the two tables: one row stored in the book table, the reviews stored
one after another, and the book's other reviews removed. -/

set_option autoImplicit false

namespace Catalogue

namespace Table

variable {α : Type}

/-- What becomes of a table once a row is stored: under the key that it has, which has to be there, or
under the next one, which has to fit into 64 bits. -/
structure Stored (before : Table α) (key? : Option Int) (cells : α) (id : Int) (after : Table α) : Prop where
  id_eq : id = key?.getD (before.mark + 1)
  present : ∀ key, key? = some key → before.contains key = true
  inRange : key? = none → id ≤ IntRange.int64.high
  mark : after.mark = max before.mark id
  find? : ∀ other, after.find? other = if other = id then some ⟨id, cells⟩ else before.find? other

theorem stored_add {table added : Table α} {cells : α} {id : Int} (h : table.add cells = .ok (id, added)) :
    table.Stored none cells id added := by
  have room := mark_lt_of_add_eq_ok h
  obtain ⟨rfl, mark, find?⟩ := add_eq_ok h
  refine ⟨rfl, fun key h => (by cases h), fun _ => by omega, ?_, find?⟩
  rw [mark]
  omega

theorem stored_set {table : Table α} {id : Int} (cells : α) (present : table.contains id = true) :
    table.Stored (some id) cells id (table.set id cells) := by
  refine ⟨rfl, fun key h => (by cases h; exact present), fun h => (by cases h), ?_, find?_set_of_contains present⟩
  have := le_mark_of_contains present
  rw [mark_set]
  omega

namespace Stored

variable {before after : Table α} {key? : Option Int} {cells : α} {id : Int}

theorem find?_id (h : before.Stored key? cells id after) : after.find? id = some ⟨id, cells⟩ := by
  rw [h.find?, if_pos rfl]

theorem contains_iff (h : before.Stored key? cells id after) {other : Int} :
    after.contains other = true ↔ other = id ∨ before.contains other = true := by
  rw [contains_iff_find?, contains_iff_find?, h.find?]
  split <;> simp [*]

theorem contains_id (h : before.Stored key? cells id after) : after.contains id = true := h.contains_iff.mpr (.inl rfl)

theorem contains_of_contains (h : before.Stored key? cells id after) {other : Int}
    (present : before.contains other = true) : after.contains other = true := h.contains_iff.mpr (.inr present)

theorem mark_lt_of_new (h : before.Stored none cells id after) : before.mark < id := by
  have := h.id_eq
  simp only [Option.getD_none] at this
  omega

theorem eq_of_key {key : Int} (h : before.Stored (some key) cells id after) : id = key := h.id_eq

theorem forall_rows {P : Row α → Prop} (h : before.Stored key? cells id after) (new : P ⟨id, cells⟩)
    (old : ∀ row ∈ before.rows, P row) : ∀ row ∈ after.rows, P row := by
  intro row member
  rw [mem_rows_iff, h.find?] at member
  split at member
  · obtain rfl := Option.some.inj member
    exact new
  · exact old row (mem_rows_iff.mpr member)

end Stored

end Table

/-- The row that reviews stored under ids, one after another, leave under an id: the last one counts. -/
def lastRow (book : BookId) (stored : List (Review × ReviewId)) (id : ReviewId) : Option (Row ReviewCells) :=
  (stored.reverse.find? (·.2 == id)).map fun entry => ⟨entry.2, entry.1.cells book⟩

theorem lastRow_cons (book : BookId) (entry : Review × ReviewId) (rest : List (Review × ReviewId)) (id : ReviewId) :
    lastRow book (entry :: rest) id =
      (lastRow book rest id).or (if id = entry.2 then some ⟨entry.2, entry.1.cells book⟩ else none) := by
  simp only [lastRow, List.reverse_cons, List.find?_append, List.find?_singleton, beq_iff_eq, eq_comm (a := entry.2)]
  split <;> simp

theorem lastRow_eq_some_iff {book : BookId} {stored : List (Review × ReviewId)} (distinct : (stored.map (·.2)).Nodup)
    {id : ReviewId} {row : Row ReviewCells} :
    lastRow book stored id = some row ↔ ∃ review, (review, id) ∈ stored ∧ row = ⟨id, review.cells book⟩ := by
  have distinct' : (stored.reverse.map (·.2)).Nodup := by rwa [List.map_reverse, List.nodup_reverse]
  simp only [lastRow, Option.map_eq_some_iff, Table.find?_key_eq_some_iff distinct', List.mem_reverse]
  constructor
  · rintro ⟨⟨review, _⟩, ⟨member, rfl⟩, rfl⟩
    exact ⟨review, member, rfl⟩
  · rintro ⟨review, member, rfl⟩
    exact ⟨(review, id), ⟨member, rfl⟩, rfl⟩

theorem lastRow_eq_none_iff {book : BookId} {stored : List (Review × ReviewId)} {id : ReviewId} :
    lastRow book stored id = none ↔ id ∉ stored.map (·.2) := by
  simp only [lastRow, Option.map_eq_none_iff, List.find?_eq_none, List.mem_reverse, beq_iff_eq, List.mem_map,
    not_exists, not_and]

theorem id_of_lastRow {book : BookId} {stored : List (Review × ReviewId)} {id : ReviewId} {row : Row ReviewCells}
    (h : lastRow book stored id = some row) : row.id = id := by
  obtain ⟨entry, found, rfl⟩ := Option.map_eq_some_iff.mp h
  simpa using List.find?_some found

theorem isOf_of_lastRow {book : BookId} {stored : List (Review × ReviewId)} {id : ReviewId} {row : Row ReviewCells}
    (h : lastRow book stored id = some row) : row.isOf book = true := by
  obtain ⟨entry, -, rfl⟩ := Option.map_eq_some_iff.mp h
  simp [Row.isOf_cells]

/-- Reviews stored one after another as those of a book, and the ids that they got. -/
inductive ReviewsStored (book : BookId) : Table ReviewCells → List Review → List ReviewId → Table ReviewCells → Prop
  | nil {table : Table ReviewCells} : ReviewsStored book table [] [] table
  | cons {before between after : Table ReviewCells} {review : Review} {rest : List Review} {id : ReviewId}
      {ids : List ReviewId} : before.Stored review.id (review.cells book) id between →
      ReviewsStored book between rest ids after → ReviewsStored book before (review :: rest) (id :: ids) after

namespace ReviewsStored

variable {book : BookId} {before after : Table ReviewCells} {reviews : List Review} {ids : List ReviewId}

theorem length_eq (h : ReviewsStored book before reviews ids after) : ids.length = reviews.length := by
  induction h with
  | nil => rfl
  | cons _ _ ih => simp [ih]

theorem map_zip (h : ReviewsStored book before reviews ids after) : (reviews.zip ids).map (·.2) = ids :=
  List.map_snd_zip h.length_eq.le

theorem mark_le (h : ReviewsStored book before reviews ids after) : before.mark ≤ after.mark := by
  induction h with
  | nil => exact le_rfl
  | cons stored _ ih => exact le_trans (by rw [stored.mark]; exact le_max_left _ _) ih

theorem find? (h : ReviewsStored book before reviews ids after) (id : ReviewId) :
    after.find? id = (lastRow book (reviews.zip ids) id).or (before.find? id) := by
  induction h with
  | nil => rfl
  | cons stored _ ih =>
    rw [ih, stored.find?, List.zip_cons_cons, lastRow_cons, Option.or_assoc]
    split <;> rfl

-- A review keeps the id that it has, and a new one gets an id above all that were there.
theorem id_of_mem_zip (h : ReviewsStored book before reviews ids after) {review : Review} {id : ReviewId}
    (member : (review, id) ∈ reviews.zip ids) :
    (∀ key, review.id = some key → id = key) ∧ (review.id = none → before.mark < id) := by
  induction h with
  | nil => simp at member
  | cons stored _ ih =>
    rw [List.zip_cons_cons, List.mem_cons] at member
    rcases member with same | member
    · cases same
      refine ⟨fun key has => ?_, fun new => ?_⟩
      · rw [has] at stored
        exact stored.eq_of_key
      · rw [new] at stored
        exact stored.mark_lt_of_new
    · refine ⟨(ih member).1, fun new => lt_of_le_of_lt ?_ ((ih member).2 new)⟩
      rw [stored.mark]
      exact le_max_left _ _

theorem new_ascending (h : ReviewsStored book before reviews ids after) :
    (reviews.zip ids).Pairwise fun a b => a.1.id = none → b.1.id = none → a.2 < b.2 := by
  induction h with
  | nil => exact .nil
  | cons stored later ih =>
    refine List.pairwise_cons.mpr ⟨fun entry member _ new => ?_, ih⟩
    refine lt_of_le_of_lt ?_ ((later.id_of_mem_zip member).2 new)
    rw [stored.mark]
    exact le_max_right _ _

theorem origin (h : ReviewsStored book before reviews ids after) {id : ReviewId} (member : id ∈ ids) :
    id ∈ reviews.filterMap (·.id) ∨ before.mark < id := by
  obtain ⟨review, paired⟩ : ∃ review, (review, id) ∈ reviews.zip ids := by
    obtain ⟨i, bound, rfl⟩ := List.getElem_of_mem member
    have bound' : i < reviews.length := h.length_eq ▸ bound
    exact ⟨reviews[i], List.mem_iff_getElem.mpr ⟨i, by simp [bound, bound'], by simp⟩⟩
  cases key : review.id with
  | none => exact .inr ((h.id_of_mem_zip paired).2 key)
  | some key' =>
    obtain rfl := (h.id_of_mem_zip paired).1 key' key
    exact .inl (List.mem_filterMap.mpr ⟨review, (List.of_mem_zip paired).1, key⟩)

theorem kept_subset (h : ReviewsStored book before reviews ids after) : reviews.filterMap (·.id) ⊆ ids := by
  induction h with
  | nil => exact List.Subset.refl []
  | @cons _ _ _ review _ _ _ stored _ ih =>
    cases key : review.id with
    | none =>
      rw [List.filterMap_cons_none key]
      exact List.subset_cons_of_subset _ ih
    | some key' =>
      rw [key] at stored
      rw [List.filterMap_cons_some key, stored.eq_of_key]
      exact List.cons_subset_cons key' ih

theorem nodup_ids (h : ReviewsStored book before reviews ids after) (distinct : (reviews.filterMap (·.id)).Nodup)
    (stored : ∀ key ∈ reviews.filterMap (·.id), key ≤ before.mark) : ids.Nodup := by
  induction h with
  | nil => exact .nil
  | @cons before between after review rest id ids first later ih =>
    have kept : before.mark ≤ between.mark := by rw [first.mark]; exact le_max_left _ _
    have taken : id ≤ between.mark := by rw [first.mark]; exact le_max_right _ _
    cases key : review.id with
    | none =>
      -- The new id is above the mark: no later review had it, and none gets it again.
      rw [key] at first
      rw [List.filterMap_cons_none key] at distinct stored
      refine List.nodup_cons.mpr ⟨fun again => ?_, ih distinct fun k member => (stored k member).trans kept⟩
      rcases later.origin again with had | above
      · exact absurd first.mark_lt_of_new (not_lt.mpr (stored id had))
      · exact absurd above (not_lt.mpr taken)
    | some key' =>
      rw [key] at first
      obtain rfl := first.eq_of_key
      rw [List.filterMap_cons_some key] at distinct stored
      obtain ⟨fresh, distinct⟩ := List.nodup_cons.mp distinct
      refine List.nodup_cons.mpr ⟨fun again => ?_, ih distinct fun k member =>
        (stored k (List.mem_cons_of_mem _ member)).trans kept⟩
      rcases later.origin again with had | above
      · exact fresh had
      · exact absurd above (not_lt.mpr taken)

end ReviewsStored

namespace Books

open Catalogue.Action Table

theorem insertBook_gives {book : Book} {c d : Connection} {id : BookId} (h : (Statement.insertBook book).Gives c id d) :
    ∃ books, c.store.books.Stored none book.cells id books ∧ d = { c with store := { c.store with books } } := by
  obtain ⟨-, store, inserted, rfl⟩ := gives_write.mp h
  simp only [Store.insertBook, bind_eq_ok] at inserted
  obtain ⟨_, -, ⟨id', books⟩, added, same⟩ := inserted
  cases same
  exact ⟨books, stored_add added, rfl⟩

theorem saveRow_gives {book : Book} {c d : Connection} {id : BookId} (h : (saveRow book).Gives c id d) :
    ∃ books, c.store.books.Stored book.id book.cells id books ∧ d = { c with store := { c.store with books } } := by
  unfold saveRow at h
  cases key : book.id with
  | none =>
    rw [key] at h
    exact insertBook_gives (gives_mapError.mp h)
  | some key' =>
    simp only [key] at h
    obtain ⟨changed, e, updated, rest⟩ := gives_bind.mp h
    obtain ⟨-, store, counted, rfl⟩ := gives_write.mp (gives_mapError.mp updated)
    simp only [Except.ok.injEq, Store.updateBook, Prod.mk.injEq] at counted
    obtain ⟨rfl, rfl⟩ := counted
    split at rest
    · exact absurd rest gives_fail
    · rename_i some_
      obtain ⟨rfl, rfl⟩ := gives_pure.mp rest
      have present : c.store.books.contains id = true := by simpa [count_id_eq_zero_iff] using some_
      exact ⟨_, stored_set book.cells present, rfl⟩

theorem saveReview_gives {book : BookId} {review : Review} {c d : Connection} {id : ReviewId}
    (h : (saveReview book review).Gives c id d) :
    ∃ reviews, c.store.reviews.Stored review.id (review.cells book) id reviews ∧
      d = { c with store := { c.store with reviews } } := by
  unfold saveReview at h
  cases key : review.id with
  | none =>
    rw [key] at h
    obtain ⟨-, store, inserted, rfl⟩ := gives_write.mp (gives_mapError.mp h)
    simp only [Store.insertReview, bind_eq_ok] at inserted
    obtain ⟨_, -, ⟨id', reviews⟩, added, _, -, same⟩ := inserted
    cases same
    exact ⟨reviews, stored_add added, rfl⟩
  | some key' =>
    simp only [key] at h
    obtain ⟨changed, e, updated, rest⟩ := gives_bind.mp h
    obtain ⟨-, store, counted, rfl⟩ := gives_write.mp (gives_mapError.mp updated)
    obtain ⟨rfl, rfl⟩ := Store.updateReview_eq_ok counted
    split at rest
    · exact absurd rest gives_fail
    · rename_i some_
      obtain ⟨rfl, rfl⟩ := gives_pure.mp rest
      have present : c.store.reviews.contains id = true := by simpa [count_id_eq_zero_iff] using some_
      exact ⟨_, stored_set (review.cells book) present, rfl⟩

theorem saveReviews_gives {book : BookId} {reviews : List Review} {c d : Connection} {ids : List ReviewId}
    (h : (saveReviews book reviews).Gives c ids d) :
    ∃ table, ReviewsStored book c.store.reviews reviews ids table ∧
      d = { c with store := { c.store with reviews := table } } := by
  induction reviews generalizing c ids with
  | nil =>
    obtain ⟨rfl, rfl⟩ := gives_pure.mp h
    exact ⟨_, .nil, rfl⟩
  | cons review rest ih =>
    obtain ⟨id, e, first, h⟩ := gives_bind.mp h
    obtain ⟨later, e', more, h⟩ := gives_bind.mp h
    obtain ⟨rfl, rfl⟩ := gives_pure.mp h
    obtain ⟨between, stored, rfl⟩ := saveReview_gives first
    obtain ⟨after, rest, rfl⟩ := ih more
    exact ⟨after, .cons stored rest, rfl⟩

theorem deleteReviewsById_gives {ids : List ReviewId} {c d : Connection} {deleted : Nat}
    (h : (deleteReviewsById ids).Gives c deleted d) :
    deleted = c.store.reviews.count (fun row => ids.contains row.id) ∧
      d = { c with store := { c.store with reviews := c.store.reviews.remove fun row => ids.contains row.id } } := by
  induction ids generalizing c deleted with
  | nil =>
    obtain ⟨rfl, rfl⟩ := gives_pure.mp h
    simp [remove_false, Table.count]
  | cons id rest ih =>
    obtain ⟨first, e, head, h⟩ := gives_bind.mp h
    obtain ⟨more, e', tail, h⟩ := gives_bind.mp h
    obtain ⟨rfl, rfl⟩ := gives_pure.mp h
    obtain ⟨-, store, removed, rfl⟩ := gives_write.mp head
    cases removed
    obtain ⟨rfl, rfl⟩ := ih tail
    simp only [count_remove, remove_or, List.contains_cons, and_self]

-- An id among those of the book's reviews is that of a stored row, which can only be one of them.
theorem contains_unlisted {table : Table ReviewCells} {row : Row ReviewCells} (member : row ∈ table.rows)
    (book : BookId) (kept : List ReviewId) :
    (((table.rows.filter (·.isOf book)).map (·.id)).filter (!kept.contains ·)).contains row.id =
      (row.isOf book && !kept.contains row.id) := by
  rw [Bool.eq_iff_iff]
  simp only [List.contains_iff_mem, List.mem_filter, List.mem_map, Bool.and_eq_true]
  constructor
  · rintro ⟨⟨other, ⟨member', ofBook⟩, same⟩, unlisted⟩
    rw [List.inj_on_of_nodup_map table.nodup_ids member' member same] at ofBook
    exact ⟨ofBook, unlisted⟩
  · rintro ⟨ofBook, unlisted⟩
    exact ⟨⟨row, ⟨member, ofBook⟩, rfl⟩, unlisted⟩

theorem deleteUnlisted_gives {book : BookId} {kept : List ReviewId} {c d : Connection} {deleted : Nat}
    (h : (deleteUnlisted book kept).Gives c deleted d) :
    deleted = c.store.reviews.count (fun row => row.isOf book && !kept.contains row.id) ∧
      d = { c with store := { c.store with
        reviews := c.store.reviews.remove fun row => row.isOf book && !kept.contains row.id } } := by
  obtain ⟨ids, e, asked, h⟩ := gives_bind.mp h
  obtain ⟨found, rfl⟩ := gives_query.mp asked
  cases found
  have same : ∀ row ∈ e.store.reviews.rows, _ := fun row member => contains_unlisted member book kept
  obtain ⟨counted, removed⟩ := deleteReviewsById_gives h
  rw [remove_congr same] at removed
  rw [count_congr same] at counted
  exact ⟨counted, removed⟩

theorem deleteOrphans_gives {book : BookId} {kept : List ReviewId} {c d : Connection} {deleted : Nat}
    (h : (deleteOrphans book kept).Gives c deleted d) :
    deleted = c.store.reviews.count (fun row => row.isOf book && !kept.contains row.id) ∧
      d = { c with store := { c.store with
        reviews := c.store.reviews.remove fun row => row.isOf book && !kept.contains row.id } } := by
  unfold deleteOrphans at h
  split at h
  · rename_i nothing
    obtain ⟨-, store, removed, rfl⟩ := gives_write.mp h
    cases removed
    rw [List.isEmpty_iff] at nothing
    simp [nothing]
  · exact deleteUnlisted_gives h

end Books

/-- What a store becomes by saving a book with the reviews that it owns, under these ids. -/
structure Cascaded (before : Store) (book : Book) (ids : Books.SavedIds) (after : Store) : Prop where
  row : before.books.Stored book.id book.cells ids.book after.books
  reviews : ∃ written, ReviewsStored ids.book before.reviews book.reviews ids.reviews written ∧
    after.reviews = written.remove fun row => row.isOf ids.book && !ids.reviews.contains row.id
  schema : after.schema = before.schema
  userVersion : after.userVersion = before.userVersion

inductive CascadedAll : Store → List Book → List Books.SavedIds → Store → Prop
  | nil {store : Store} : CascadedAll store [] [] store
  | cons {before between after : Store} {book : Book} {rest : List Book} {ids : Books.SavedIds}
      {more : List Books.SavedIds} : Cascaded before book ids between → CascadedAll between rest more after →
      CascadedAll before (book :: rest) (ids :: more) after

namespace Cascaded

variable {before after : Store} {book : Book} {ids : Books.SavedIds}

theorem length_eq (h : Cascaded before book ids after) : ids.reviews.length = book.reviews.length := by
  obtain ⟨written, stored, -⟩ := h.reviews
  exact stored.length_eq

theorem eq_of_key (h : Cascaded before book ids after) {key : BookId} (has : book.id = some key) : ids.book = key := by
  have row := h.row
  rw [has] at row
  exact row.eq_of_key

theorem mark_lt_of_new (h : Cascaded before book ids after) (new : book.id = none) : before.books.mark < ids.book := by
  have row := h.row
  rw [new] at row
  exact row.mark_lt_of_new

theorem find?_review (h : Cascaded before book ids after) (id : ReviewId) :
    after.reviews.find? id =
      (lastRow ids.book (book.reviews.zip ids.reviews) id).or
        ((before.reviews.find? id).filter (!·.isOf ids.book)) := by
  obtain ⟨written, stored, removed⟩ := h.reviews
  rw [removed, Table.find?_remove, stored.find?]
  cases last : lastRow ids.book (book.reviews.zip ids.reviews) id with
  | some row =>
    have listed : row.id ∈ ids.reviews := by
      rw [id_of_lastRow last, ← stored.map_zip]
      by_contra unlisted
      rw [lastRow_eq_none_iff.mpr unlisted] at last
      cases last
    simp [listed]
  | none =>
    rw [lastRow_eq_none_iff, stored.map_zip] at last
    cases found : before.reviews.find? id with
    | none => rfl
    | some row =>
      have same := Table.id_of_find? found
      simp [Option.filter_some, same, last]

end Cascaded

namespace Books

open Catalogue.Action

theorem cascade_gives {book : Book} {c d : Connection} {ids : SavedIds} (h : (cascade book).Gives c ids d) :
    ∃ after, Cascaded c.store book ids after ∧ d = { c with store := after } := by
  obtain ⟨id, e, row, h⟩ := gives_bind.mp h
  obtain ⟨reviewIds, e', reviews, h⟩ := gives_bind.mp h
  obtain ⟨_, e'', orphans, h⟩ := gives_bind.mp h
  obtain ⟨rfl, rfl⟩ := gives_pure.mp h
  obtain ⟨_, orphans⟩ := gives_discard.mp orphans
  obtain ⟨books, stored, rfl⟩ := saveRow_gives row
  obtain ⟨written, reviewsStored, rfl⟩ := saveReviews_gives reviews
  rw [(deleteOrphans_gives (gives_mapError.mp orphans)).2]
  exact ⟨{ c.store with
      books := books
      reviews := written.remove fun row => row.isOf id && !reviewIds.contains row.id },
    ⟨stored, ⟨written, reviewsStored, rfl⟩, rfl, rfl⟩, rfl⟩

section

variable {α β : Type}

def checkedTransaction (check : Except RepositoryError Unit) (body : Action RepositoryError α)
    (failure : RepositoryError → Event) (event : α → Event) (answer : α → β) : Action RepositoryError β := do
  ofExcept check
  let a ← transaction .engine (body.reportingError failure)
  report (event a)
  return answer a

variable {check : Except RepositoryError Unit} {body : Action RepositoryError α} {failure : RepositoryError → Event}
  {event : α → Event} {answer : α → β} {c d : Connection}

theorem gives_checkedTransaction {b : β} :
    (checkedTransaction check body failure event answer).Gives c b d ↔
      ∃ a e, check = .ok () ∧ c.backup = none ∧ body.Gives { c with backup := some c.store } a e ∧ b = answer a ∧
        d = { e with backup := none } := by
  constructor
  · intro given
    obtain ⟨_, e, passed, written⟩ := gives_bind.mp given
    obtain ⟨checked, same⟩ := gives_ofExcept.mp passed
    obtain ⟨a, e', written, rest⟩ := gives_bind.mp written
    obtain ⟨_, e'', reported, rest⟩ := gives_bind.mp rest
    subst same
    obtain rfl := gives_report.mp reported
    obtain ⟨rfl, rfl⟩ := gives_pure.mp rest
    obtain ⟨free, e', done, rfl⟩ := gives_transaction.mp written
    exact ⟨a, e', checked, free, gives_reportingError.mp done, rfl, rfl⟩
  · rintro ⟨a, e, checked, free, done, rfl, rfl⟩
    have written : (transaction RepositoryError.engine (body.reportingError failure)).Gives c a
        { e with backup := none } := gives_transaction.mpr ⟨free, e, gives_reportingError.mpr done, rfl⟩
    refine gives_bind.mpr ⟨(), c, gives_ofExcept.mpr ⟨checked, rfl⟩, gives_bind.mpr ⟨a, _, written, ?_⟩⟩
    exact gives_bind.mpr ⟨(), _, gives_report.mpr rfl, gives_pure.mpr ⟨rfl, rfl⟩⟩

end

theorem save_eq (book : Book) :
    let mode := if book.isPersisted then SaveMode.update else SaveMode.insert
    save book = checkedTransaction (book.validate.mapError .validation) (cascade book) (.saveFailed mode)
      (fun ids => .saved mode ids.book (ids.stamp book).reviews.length) fun ids => (ids.book, ids.stamp book) := rfl

theorem saveAll_eq (books : List Book) :
    saveAll books = checkedTransaction (checkBatch [] books) (cascadeAll books) (.batchFailed books.length)
      (fun stored => .batchSaved stored.length)
      fun stored => (stored.map (·.book), stored.zipWith SavedIds.stamp books) := rfl

theorem save_gives {book saved : Book} {id : BookId} {c d : Connection} (h : (save book).Gives c (id, saved) d) :
    c.backup = none ∧ ¬ book.pages < 0 ∧ ∃ ids after, (id, saved) = (ids.book, ids.stamp book) ∧
      Cascaded c.store book ids after ∧ d = { c with store := after } := by
  rw [save_eq] at h
  obtain ⟨ids, e, valid, free, done, same, rfl⟩ := gives_checkedTransaction.mp h
  obtain ⟨after, cascaded, rfl⟩ := cascade_gives done
  refine ⟨free, fun negative => ?_, ids, after, same, cascaded, by simp [← free]⟩
  simp [Book.validate, negative] at valid

theorem cascadeAll_gives {books : List Book} {c d : Connection} {ids : List SavedIds}
    (h : (cascadeAll books).Gives c ids d) :
    ∃ after, CascadedAll c.store books ids after ∧ d = { c with store := after } := by
  induction books generalizing c ids with
  | nil =>
    obtain ⟨rfl, rfl⟩ := gives_pure.mp h
    exact ⟨_, .nil, rfl⟩
  | cons book rest ih =>
    obtain ⟨first, e, head, tail⟩ := gives_bind.mp h
    obtain ⟨more, e', tail, answer⟩ := gives_bind.mp tail
    obtain ⟨rfl, rfl⟩ := gives_pure.mp answer
    obtain ⟨between, cascaded, rfl⟩ := cascade_gives head
    obtain ⟨after, later, rfl⟩ := ih tail
    exact ⟨after, .cons cascaded later, rfl⟩

theorem checkReviewIds_eq_ok_iff {seen ids seen' : List ReviewId} :
    checkReviewIds seen ids = .ok seen' ↔ ids.Nodup ∧ (∀ id ∈ ids, id ∉ seen) ∧ seen' = ids.reverse ++ seen := by
  induction ids generalizing seen with
  | nil => simp [checkReviewIds, eq_comm]
  | cons id rest ih =>
    unfold checkReviewIds
    by_cases again : id ∈ seen
    · simp [again]
    · simp only [List.contains_iff_mem, again, if_false, ih, List.nodup_cons, List.mem_cons, List.reverse_cons,
        List.append_assoc, List.singleton_append]
      grind

theorem checkBatch_eq_ok_iff {seen : List ReviewId} {books : List Book} :
    checkBatch seen books = .ok () ↔ (∀ book ∈ books, ¬ book.pages < 0) ∧ (books.flatMap Book.reviewIds).Nodup ∧
      ∀ id ∈ books.flatMap Book.reviewIds, id ∉ seen := by
  induction books generalizing seen with
  | nil => simp [checkBatch]
  | cons book rest ih =>
    unfold checkBatch
    by_cases negative : book.pages < 0
    · simp [Book.validate, negative, bind, Except.bind]
    · have valid : book.validate = .ok () := by simp [Book.validate, negative]
      rw [valid, mapError_ok, bind_eq_ok]
      simp only [bind_eq_ok, checkReviewIds_eq_ok_iff, ih, List.forall_mem_cons, negative, not_false_eq_true,
        true_and, List.flatMap_cons, List.nodup_append, List.mem_append]
      constructor
      · rintro ⟨-, seen', ⟨distinct, unseen, rfl⟩, valid, distinct', apart⟩
        simp only [List.mem_append, List.mem_reverse, not_or] at apart
        refine ⟨valid, ⟨distinct, distinct', fun id first other later same => ?_⟩, ?_⟩
        · exact (apart other later).1 (same ▸ first)
        · rintro id (first | later)
          · exact unseen id first
          · exact (apart id later).2
      · rintro ⟨valid, ⟨distinct, distinct', apart⟩, unseen⟩
        refine ⟨(), _, ⟨distinct, fun id first => unseen id (.inl first), rfl⟩, valid, distinct', fun id later => ?_⟩
        simp only [List.mem_append, List.mem_reverse, not_or]
        exact ⟨fun first => apart id first id later rfl, unseen id (.inr later)⟩

theorem saveAll_gives {books saved : List Book} {ids : List BookId} {c d : Connection}
    (h : (saveAll books).Gives c (ids, saved) d) :
    c.backup = none ∧ (∀ book ∈ books, ¬ book.pages < 0) ∧ (books.flatMap Book.reviewIds).Nodup ∧ ∃ stored after,
      (ids, saved) = (stored.map (·.book), stored.zipWith SavedIds.stamp books) ∧
        CascadedAll c.store books stored after ∧ d = { c with store := after } := by
  rw [saveAll_eq] at h
  obtain ⟨stored, e, passed, free, done, same, rfl⟩ := gives_checkedTransaction.mp h
  obtain ⟨valid, distinct, -⟩ := checkBatch_eq_ok_iff.mp passed
  obtain ⟨after, cascaded, rfl⟩ := cascadeAll_gives done
  exact ⟨free, valid, distinct, stored, after, same, cascaded, by simp [← free]⟩

end Books

end Catalogue
