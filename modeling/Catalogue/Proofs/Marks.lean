import Catalogue.Proofs.Soundness

/-! The marks of the tables never fall, so no id that was ever stored is above them, and none that is gone comes
back; and no id is given out that does not fit into 64 bits. -/

set_option autoImplicit false

namespace Catalogue

structure Store.MarksLe (before after : Store) : Prop where
  books : before.books.mark ≤ after.books.mark
  reviews : before.reviews.mark ≤ after.reviews.mark

namespace Store.MarksLe

theorem refl (store : Store) : store.MarksLe store := ⟨le_rfl, le_rfl⟩

theorem trans {a b c : Store} (first : a.MarksLe b) (second : b.MarksLe c) : a.MarksLe c :=
  ⟨first.books.trans second.books, first.reviews.trans second.reviews⟩

end Store.MarksLe

theorem Cascaded.marks_le {before after : Store} {book : Book} {ids : Books.SavedIds}
    (h : Cascaded before book ids after) : before.MarksLe after := by
  obtain ⟨written, stored, removed⟩ := h.reviews
  refine ⟨?_, ?_⟩
  · rw [h.row.mark]
    exact le_max_left _ _
  · rw [removed]
    exact stored.mark_le

theorem Books.keep_marks (start : Store) : Keep fun c => start.MarksLe c.store :=
  .of_store (fun cascaded _ below => below.trans cascaded.marks_le) (fun _ below => ⟨below.books, below.reviews⟩)
    fun below => ⟨below.books, below.reviews⟩

namespace Reaches

variable {start c : Connection}

theorem reached (later : Reaches start c) (reached : Reached start) : Reached c := by
  induction later with
  | here => exact reached
  | reopened _ opened ih => exact ih.reopened opened
  | written write _ ih => exact ih.written write

theorem marks_le (later : Reaches start c) (reached : Reached start) : start.store.MarksLe c.store := by
  induction later with
  | here => exact .refl _
  | reopened later opened ih =>
    rw [(later.reached reached).sound.eq_of_reopened opened]
    exact ih
  | written write _ ih => exact (Books.keep_marks start.store).perform write ih

theorem book_le_mark (later : Reaches start c) (reached : Reached start) {row : Row BookCells}
    (member : row ∈ start.store.books.rows) : row.id ≤ c.store.books.mark :=
  (start.store.books.le_mark row member).trans (later.marks_le reached).books

theorem review_le_mark (later : Reaches start c) (reached : Reached start) {row : Row ReviewCells}
    (member : row ∈ start.store.reviews.rows) : row.id ≤ c.store.reviews.mark :=
  (start.store.reviews.le_mark row member).trans (later.marks_le reached).reviews

end Reaches

/-- A table that comes after another: its mark has not fallen, and a row that was not there has an id above it. -/
structure Table.Follows {α : Type} (before after : Table α) : Prop where
  mark : before.mark ≤ after.mark
  key : ∀ id, after.contains id = true → before.contains id = true ∨ before.mark < id

namespace Table.Follows

variable {α : Type} {a b c : Table α} {id : Int}

theorem refl (table : Table α) : table.Follows table := ⟨le_rfl, fun _ => .inl⟩

theorem trans (first : a.Follows b) (second : b.Follows c) : a.Follows c := by
  refine ⟨first.mark.trans second.mark, fun id stored => ?_⟩
  rcases second.key id stored with there | above
  · exact first.key id there
  · exact .inr (first.mark.trans_lt above)

theorem remove (first : a.Follows b) (picked : Row α → Bool) : a.Follows (b.remove picked) := by
  refine ⟨first.mark, fun id stored => first.key id ?_⟩
  obtain ⟨row, found⟩ := contains_iff_find?.mp stored
  rw [find?_remove, Option.filter_eq_some_iff] at found
  exact contains_iff_find?.mpr ⟨row, found.1⟩

-- An id that was given out is not above the mark, so a row that had it and is gone does not come back.
theorem gone_of_le (later : b.Follows c) (old : id ≤ b.mark) (absent : b.contains id = false) :
    c.contains id = false := by
  rw [← Bool.not_eq_true]
  intro again
  rcases later.key id again with there | above
  · simp [absent] at there
  · exact absurd above (not_lt.mpr old)

theorem gone (first : a.Follows b) (second : b.Follows c) (stored : a.contains id = true)
    (absent : b.contains id = false) : c.contains id = false :=
  second.gone_of_le ((le_mark_of_contains stored).trans first.mark) absent

end Table.Follows

theorem Table.Stored.follows {α : Type} {before after : Table α} {key? : Option Int} {cells : α} {id : Int}
    (h : before.Stored key? cells id after) : before.Follows after := by
  refine ⟨by rw [h.mark]; exact le_max_left _ _, fun other stored => ?_⟩
  rcases h.contains_iff.mp stored with rfl | there
  · cases key? with
    | none => exact .inr h.mark_lt_of_new
    | some key =>
      rw [h.eq_of_key]
      exact .inl (h.present key rfl)
  · exact .inl there

theorem ReviewsStored.follows {book : BookId} {before after : Table ReviewCells} {reviews : List Review}
    {ids : List ReviewId} (h : ReviewsStored book before reviews ids after) : before.Follows after := by
  induction h with
  | nil => exact .refl _
  | cons stored _ ih => exact stored.follows.trans ih

structure Store.Follows (before after : Store) : Prop where
  books : before.books.Follows after.books
  reviews : before.reviews.Follows after.reviews

theorem Store.Follows.refl (store : Store) : store.Follows store := ⟨.refl _, .refl _⟩

theorem Cascaded.follows {start before after : Store} {book : Book} {ids : Books.SavedIds}
    (h : Cascaded before book ids after) (earlier : start.Follows before) : start.Follows after := by
  obtain ⟨written, stored, removed⟩ := h.reviews
  refine ⟨earlier.books.trans h.row.follows, ?_⟩
  rw [removed]
  exact (earlier.reviews.trans stored.follows).remove _

theorem Books.keep_follows (start : Store) : Keep fun c => start.Follows c.store :=
  .of_store (fun cascaded _ earlier => cascaded.follows earlier)
    (fun _ earlier => ⟨earlier.books.remove _, earlier.reviews.remove _⟩)
    fun earlier => ⟨earlier.books.remove _, earlier.reviews.remove _⟩

namespace Reaches

variable {start c d : Connection}

theorem performAll (first : Reaches start c) (writes : List Write) : Reaches start (Write.performAll c writes) := by
  induction writes generalizing c with
  | nil => exact first
  | cons write rest ih => exact ih (first.written write)

theorem follows (later : Reaches start c) (reached : Reached start) : start.store.Follows c.store := by
  induction later with
  | here => exact .refl _
  | reopened later opened ih =>
    rw [(later.reached reached).sound.eq_of_reopened opened]
    exact ih
  | written write _ ih => exact (Books.keep_follows start.store).perform write ih

theorem gone (first : Reaches start c) (second : Reaches c d) (reached : Reached start) :
    (∀ id, start.store.books.contains id = true → c.store.books.contains id = false →
      d.store.books.contains id = false) ∧
    ∀ id, start.store.reviews.contains id = true → c.store.reviews.contains id = false →
      d.store.reviews.contains id = false := by
  have earlier := first.follows reached
  have later := second.follows (first.reached reached)
  exact ⟨fun id => earlier.books.gone later.books, fun id => earlier.reviews.gone later.reviews⟩

end Reaches

namespace Table.Stored

variable {α : Type} {before after : Table α} {key? : Option Int} {cells : α} {id : Int}

theorem mark_of_new (h : before.Stored none cells id after) : after.mark = before.mark + 1 := by
  have next : id = before.mark + 1 := h.id_eq
  rw [h.mark, next]
  omega

theorem mark_of_key {key : Int} (h : before.Stored (some key) cells id after) : after.mark = before.mark := by
  have old := le_mark_of_contains (h.present key rfl)
  rw [h.mark, h.eq_of_key]
  omega

theorem mark_inRange (h : before.Stored key? cells id after) (inRange : before.mark ≤ IntRange.int64.high) :
    after.mark ≤ IntRange.int64.high := by
  rw [h.mark]
  refine max_le inRange ?_
  cases key? with
  | none => exact h.inRange rfl
  | some key =>
    rw [h.eq_of_key]
    exact (le_mark_of_contains (h.present key rfl)).trans inRange

end Table.Stored

def Review.newCount (reviews : List Review) : Nat := reviews.countP (·.id.isNone)

theorem Review.newCount_cons (review : Review) (rest : List Review) :
    newCount (review :: rest) = newCount rest + if review.id.isNone then 1 else 0 := List.countP_cons

theorem Review.newCount_append {kept news : List Review} (named : ∀ review ∈ kept, ∃ key, review.id = some key)
    (new : ∀ review ∈ news, review.id = none) : newCount (kept ++ news) = news.length := by
  have none : kept.countP (·.id.isNone) = 0 := by
    refine List.countP_eq_zero.mpr fun review listed => ?_
    obtain ⟨key, has⟩ := named review listed
    simp [has]
  have all : news.countP (·.id.isNone) = news.length :=
    List.countP_eq_length.mpr fun review listed => by simp [new review listed]
  rw [newCount, List.countP_append, none, all, Nat.zero_add]

theorem Table.Stored.mark_newCount {before between : Table ReviewCells} {review : Review} {cells : ReviewCells}
    {id : ReviewId} (stored : before.Stored review.id cells id between) (rest : List Review) :
    between.mark + Review.newCount rest = before.mark + Review.newCount (review :: rest) := by
  rw [Review.newCount_cons]
  cases named : review.id with
  | none =>
    rw [named] at stored
    simp only [stored.mark_of_new, Option.isNone_none, if_true]
    omega
  | some key =>
    rw [named] at stored
    simp [stored.mark_of_key]

theorem ReviewsStored.mark_eq {book : BookId} {before after : Table ReviewCells} {reviews : List Review}
    {ids : List ReviewId} (h : ReviewsStored book before reviews ids after) :
    after.mark = before.mark + Review.newCount reviews := by
  induction h with
  | nil => simp [Review.newCount]
  | cons stored _ ih => rw [ih, stored.mark_newCount]

namespace Cascaded

variable {before after : Store} {book : Book} {ids : Books.SavedIds}

theorem bookMark_of_new (h : Cascaded before book ids after) (new : book.id = none) :
    after.books.mark = before.books.mark + 1 := by
  have row := h.row
  rw [new] at row
  exact row.mark_of_new

theorem bookMark_of_key (h : Cascaded before book ids after) {key : BookId} (has : book.id = some key) :
    after.books.mark = before.books.mark := by
  have row := h.row
  rw [has] at row
  exact row.mark_of_key

theorem reviewMark_eq (h : Cascaded before book ids after) :
    after.reviews.mark = before.reviews.mark + Review.newCount book.reviews := by
  obtain ⟨written, stored, removed⟩ := h.reviews
  rw [removed, Table.mark_remove, stored.mark_eq]

end Cascaded

theorem ReviewsStored.mark_inRange {book : BookId} {before after : Table ReviewCells} {reviews : List Review}
    {ids : List ReviewId} (h : ReviewsStored book before reviews ids after)
    (inRange : before.mark ≤ IntRange.int64.high) : after.mark ≤ IntRange.int64.high := by
  induction h with
  | nil => exact inRange
  | cons stored _ ih => exact ih (stored.mark_inRange inRange)

structure Store.InRange (store : Store) : Prop where
  books : store.books.mark ≤ IntRange.int64.high
  reviews : store.reviews.mark ≤ IntRange.int64.high

theorem Cascaded.inRange {before after : Store} {book : Book} {ids : Books.SavedIds}
    (h : Cascaded before book ids after) (inRange : before.InRange) : after.InRange := by
  obtain ⟨written, stored, removed⟩ := h.reviews
  refine ⟨h.row.mark_inRange inRange.books, ?_⟩
  rw [removed]
  exact stored.mark_inRange inRange.reviews

theorem Books.keep_inRange : Keep fun c => c.store.InRange :=
  .of_store (fun cascaded _ inRange => cascaded.inRange inRange) (fun _ inRange => ⟨inRange.books, inRange.reviews⟩)
    fun inRange => ⟨inRange.books, inRange.reviews⟩

theorem Reached.inRange {c : Connection} (reached : Reached c) : c.store.InRange := by
  induction reached with
  | opened opened =>
    rw [openDatabase_empty_eq_ok opened]
    exact ⟨by decide, by decide⟩
  | reopened reached opened ih =>
    rw [reached.sound.eq_of_reopened opened]
    exact ih
  | written write _ ih => exact Books.keep_inRange.perform write ih

end Catalogue
