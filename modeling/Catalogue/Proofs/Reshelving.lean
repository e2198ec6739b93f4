import Catalogue.Proofs.Neighbours
import Catalogue.Proofs.Overtaking
import Catalogue.Proofs.Progress
import Catalogue.Proofs.Shelf
import Catalogue.Proofs.Shelving

/-! What a write makes of the shelf of a store. A new book is one more volume, a book that is saved with its own reviews
and new ones is another volume in place of the old, and a deleted book is a volume less; the others stay as they are. -/

set_option autoImplicit false

namespace Catalogue

namespace Cascaded

variable {before after : Store} {book : Book} {ids : Books.SavedIds}

-- A book that lists no reviews of others leaves the others as they are.
theorem find?_other (h : Cascaded before book ids after) (soundBefore : before.Sound) (soundAfter : after.Sound)
    (owned : ∀ key ∈ book.reviewIds, ∀ row, before.reviews.find? key = some row → row.isOf ids.book = true)
    {other : BookId} (apart : other ≠ ids.book) : Books.find? after other = Books.find? before other := by
  have same := soundBefore.find?_eq other
  rw [(h.spares soundBefore soundAfter apart).find?_eq soundBefore soundAfter same, same]
  refine congrArg Except.ok ?_
  cases stored : before.books.find? other with
  | none => rfl
  | some row =>
    obtain rfl := Table.id_of_find? stored
    rw [Option.map_some, Option.map_some]
    refine congrArg some (Book.without_eq_self fun review member key has listed => ?_)
    obtain ⟨reviewRow, picked, rfl⟩ := List.mem_map.mp member
    obtain ⟨stands, ofOther⟩ := List.mem_filter.mp picked
    obtain rfl : reviewRow.id = key := Option.some.inj has
    -- A listed review is new, or belongs to the saved book.
    rcases h.review_origin listed with old | above
    · exact apart (soundBefore.readable.eq_of_isOf stands ofOther (owned _ old _ (Table.mem_rows_iff.mp stands)))
    · exact absurd (before.reviews.le_mark reviewRow stands) (not_le.mpr above)

end Cascaded

namespace Store.Sound

variable {store : Store}

theorem find?_without (sound : store.Sound) (gone id : BookId) :
    Books.find? (store.without gone) id = if id = gone then .ok none else Books.find? store id := by
  rw [(sound.without gone).find?_eq, sound.find?_eq, Store.without, Table.find?_remove]
  cases stored : store.books.find? id with
  | none => simp
  | some row =>
    obtain rfl := Table.id_of_find? stored
    by_cases same : row.id = gone
    · simp [same, Option.filter]
    · -- The reviews of another book are none of those that go.
      have reviews : (store.without gone).reviewsOf row.id = store.reviewsOf row.id := by
        rw [reviewsOf, Store.without, Table.rows_remove, List.filter_filter, reviewsOf]
        refine congrArg _ (List.filter_congr fun review member => ?_)
        cases ofRow : review.isOf row.id with
        | false => rfl
        | true =>
          cases ofGone : review.isOf gone with
          | false => rfl
          | true => exact absurd (sound.readable.eq_of_isOf member ofRow ofGone) same
      rw [Store.without] at reviews
      simp [same, Option.filter, bookOf, reviews]

theorem isOf_of_find? (sound : store.Sound) {id : BookId} {book : Book}
    (found : Books.find? store id = .ok (some book)) :
    ∀ key ∈ book.reviewIds, ∀ row, store.reviews.find? key = some row → row.isOf id = true := by
  rw [sound.find?_eq] at found
  obtain ⟨bookRow, stored, rfl⟩ := Option.map_eq_some_iff.mp (Except.ok.inj found)
  obtain rfl := Table.id_of_find? stored
  intro key listed row same
  obtain ⟨review, member, has⟩ := List.mem_filterMap.mp listed
  obtain ⟨reviewRow, picked, rfl⟩ := List.mem_map.mp member
  obtain ⟨stands, owned⟩ := List.mem_filter.mp picked
  obtain rfl : reviewRow.id = key := Option.some.inj has
  rw [Table.mem_rows_iff.mp stands] at same
  rwa [← Option.some.inj same]

end Store.Sound

theorem Store.Owns.newCount_append {store : Store} {book : BookId} {kept news : List Review}
    (owned : store.Owns book kept) (new : ∀ review ∈ news, review.id = none) :
    Review.newCount (kept ++ news) = news.length := by
  refine Review.newCount_append (fun review listed => ?_) new
  obtain ⟨-, key, has, -⟩ := owned.each review listed
  exact ⟨key, has⟩

namespace Books

open Catalogue.Action

variable {c d : Connection}

theorem cascaded_of_save (reached : Reached c) {book saved : Book} {id : BookId}
    (gives : (save book).Gives c (id, saved) d) :
    ∃ ids : SavedIds, ids.book = id ∧ Cascaded c.store book ids d.store ∧ d.store.Sound := by
  have sound := (reached_of_save reached gives).sound.store
  obtain ⟨-, -, ids, after, same, cascaded, rfl⟩ := save_gives gives
  obtain ⟨rfl, -⟩ := Prod.mk.inj same
  exact ⟨ids, rfl, cascaded, sound⟩

theorem shelf_of_create (reached : Reached c) {title : String} {pages : Int32} {id : BookId} {saved : Book}
    (gives : (save (.new title pages)).Gives c (id, saved) d) (volume : Volume)
    (made : volume = ⟨c.store.shelf.bookMark + 1, title, pages, []⟩) :
    id = volume.id ∧ find? d.store volume.id = .ok (some volume.toBook) ∧
      d.store.shelf = { c.store.shelf with volumes := c.store.shelf.volumes ++ [volume], bookMark := volume.id } := by
  subst made
  have sound := reached.sound.store
  obtain ⟨ids, rfl, cascaded, sound'⟩ := cascaded_of_save reached gives
  have row : c.store.books.Stored none (Book.new title pages).cells ids.book d.store.books := cascaded.row
  have next : ids.book = c.store.shelf.bookMark + 1 := row.id_eq
  have none : ids.reviews = [] := List.length_eq_zero_iff.mp cascaded.length_eq
  have distinct : ids.reviews.Nodup := none ▸ List.nodup_nil
  have stamped : ((Book.new title pages).stamp (c.store.shelf.bookMark + 1) []).inOrder =
      (⟨c.store.shelf.bookMark + 1, title, pages, []⟩ : Volume).toBook := by
    simp [Book.inOrder, Book.stamp, Book.new, Book.withReviews, Volume.toBook]
  have found := (cascaded.savedAs sound' distinct).found
  rw [SavedIds.stamp, none, next, stamped] at found
  have free : c.store.books.find? (c.store.shelf.bookMark + 1) = .none := Table.find?_above_mark (Int.lt_succ _)
  refine ⟨next, found, Shelf.eq_of_get d.store.ascending_shelf ?_ (fun other => ?_) ?_ ?_⟩
  · refine List.pairwise_append.mpr
      ⟨c.store.ascending_shelf, List.pairwise_singleton _ _, fun old member new last => ?_⟩
    obtain ⟨stored, stands, rfl⟩ := List.mem_map.mp member
    obtain rfl := List.mem_singleton.mp last
    exact Int.lt_add_one_of_le (c.store.books.le_mark stored stands)
  · rw [Shelf.get_snoc (by rw [Store.find?_shelf, free, Option.map_none])]
    refine Except.ok.inj ((sound'.find?_eq_get other).symm.trans ?_)
    by_cases here : other = c.store.shelf.bookMark + 1
    · rw [if_pos here, here]
      exact found
    · rw [if_neg here, cascaded.find?_other sound sound' (by simp [Book.reviewIds, Book.new, Book.withReviews])
        (by rwa [next]), sound.find?_eq_get]
  · exact (cascaded.bookMark_of_new rfl)
  · exact cascaded.reviewMark_eq.trans (Int.add_zero _)

section

variable {id : BookId} {book book' : Book} {title : String} {news : List Review}

/-- A stored book is saved with its own reviews and new ones, while ids are left for these. -/
theorem update_gives (reached : Reached c) (allowed : c.refusal? = none) (found : find? c.store id = .ok (some book))
    (new : ∀ review ∈ news, review.id = none) (revised : book' = ⟨some id, title, book.pages, book.reviews ++ news⟩)
    (room : c.store.reviews.mark + news.length ≤ IntRange.int64.high) : ∃ saved d, (save book').Gives c saved d := by
  subst revised
  have sound := reached.sound.store
  obtain ⟨-, owned⟩ := sound.owns_of_find? found
  have valid := sound.valid_of_find? found
  refine save_gives_of_admits reached.sound allowed
    { valid := valid
      present := fun key named => Option.some.inj named ▸ sound.contains_of_find? found
      reviews := fun key listed => ?_
      room := by simp
      reviewRoom := by rwa [owned.newCount_append new] }
  rw [Book.reviewIds_append_new new] at listed
  exact owned.contains_of_mem listed

theorem shelf_of_update (reached : Reached c) (found : find? c.store id = .ok (some book))
    (new : ∀ review ∈ news, review.id = none) (revised : book' = ⟨some id, title, book.pages, book.reviews ++ news⟩)
    {saved : BookId × Book} (gives : (save book').Gives c saved d) (volume : Volume) (named : volume.id = id)
    (after : find? d.store id = .ok (some volume.toBook)) :
    d.store.shelf = { c.store.shelf.put volume with reviewMark := c.store.shelf.reviewMark + news.length } := by
  subst named revised
  have sound := reached.sound.store
  obtain ⟨id, saved⟩ := saved
  obtain ⟨ids, rfl, cascaded, sound'⟩ := cascaded_of_save reached gives
  have same : ids.book = volume.id := cascaded.eq_of_key rfl
  obtain ⟨-, owns⟩ := sound.owns_of_find? found
  have owned : ∀ key ∈ Book.reviewIds ⟨some volume.id, title, book.pages, book.reviews ++ news⟩, ∀ row,
      c.store.reviews.find? key = some row → row.isOf ids.book = true := by
    rw [Book.reviewIds_append_new new, same]
    exact sound.isOf_of_find? found
  obtain ⟨old, stands, -⟩ : ∃ old, c.store.shelf.find? volume.id = some old ∧ old.toBook = book := by
    rw [sound.find?_eq_get] at found
    exact Option.map_eq_some_iff.mp (Except.ok.inj found)
  -- Under its id the volume is found, and under the others what was found before.
  have get (other : BookId) : d.store.shelf.get other = (c.store.shelf.put volume).get other := by
    rw [Shelf.get_put stands]
    refine Except.ok.inj ((sound'.find?_eq_get other).symm.trans ?_)
    by_cases here : other = volume.id
    · rw [if_pos here, here, after]
    · rw [if_neg here, cascaded.find?_other sound sound' owned (by rwa [same]), sound.find?_eq_get]
  refine Shelf.eq_of_get d.store.ascending_shelf (Shelf.ascending_put c.store.ascending_shelf volume) get
    (cascaded.bookMark_of_key rfl) (cascaded.reviewMark_eq.trans ?_)
  rw [owns.newCount_append new]
  rfl

theorem find?_of_review (reached : Reached c) (found : find? c.store id = .ok (some book)) {reviewer content : String}
    {saved : BookId × Book} (gives : (save (book.addReview (.new reviewer content))).Gives c saved d) :
    find? d.store id = .ok (some { book with
      reviews := book.reviews ++ [(Review.new reviewer content).stamp (c.store.reviews.mark + 1) id] }) := by
  obtain ⟨named, owned⟩ := reached.sound.store.owns_of_find? found
  obtain ⟨bookId, title, pages, reviews⟩ := book
  obtain rfl : bookId = some id := named
  obtain ⟨key, above, after⟩ := find?_of_addReview reached owned gives
  obtain ⟨id', saved⟩ := saved
  obtain ⟨ids, rfl, cascaded, sound'⟩ := cascaded_of_save reached gives
  -- The new id is above the mark that was, and not above the mark that is, which is the next number.
  have stored : d.store.reviews.contains key = true := by
    refine (sound'.owns_of_find? after).2.contains_of_mem ?_
    simp [Review.stamp]
  have below := Table.le_mark_of_contains stored
  have mark : d.store.reviews.mark = c.store.reviews.mark + 1 := by
    rw [cascaded.reviewMark_eq]
    exact congrArg _ (congrArg Nat.cast (owned.newCount_append (by simp [Review.new])))
  obtain rfl : key = c.store.reviews.mark + 1 := by omega
  exact after

end

end Books

end Catalogue
