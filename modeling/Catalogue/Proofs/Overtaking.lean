import Catalogue.Proofs.Revising
import Catalogue.Proofs.Saving

/-! A rename and a new review of one book, requested by two clients at the same time. Nothing ties a load
to the save that follows it, so a save that falls between them is overwritten; when none does, it is as if
one client had come after the other. -/

set_option autoImplicit false

namespace Catalogue

/-- Reviews that are stored as those of a book, in the order of their ids. -/
structure Store.Owns (store : Store) (book : BookId) (reviews : List Review) : Prop where
  each : ∀ review ∈ reviews, review.bookId = some book ∧
    ∃ key, review.id = some key ∧ store.reviews.contains key = true
  ascending : reviews.Pairwise fun a b => a.id.getD 0 < b.id.getD 0

namespace Store

variable {store : Store}

theorem Sound.owns_of_find? (sound : store.Sound) {id : BookId} {book : Book}
    (found : Books.find? store id = .ok (some book)) : book.id = some id ∧ store.Owns id book.reviews := by
  rw [sound.find?_eq] at found
  obtain ⟨row, stored, rfl⟩ := Option.map_eq_some_iff.mp (Except.ok.inj found)
  obtain rfl := Table.id_of_find? stored
  refine ⟨rfl, fun review member => ?_, store.ascending_reviewsOf row.id⟩
  obtain ⟨reviewRow, picked, rfl⟩ := List.mem_map.mp member
  obtain ⟨stands, owned⟩ := List.mem_filter.mp picked
  rw [← sound.readable.bookId_eq_iff stands, beq_iff_eq] at owned
  exact ⟨owned, reviewRow.id, rfl, Table.contains_of_mem stands⟩

namespace Owns

variable {book : BookId} {reviews : List Review}

theorem reviewIds_nodup (owned : store.Owns book reviews) : (reviews.filterMap (·.id)).Nodup := by
  have below : (reviews.filterMap (·.id)).Pairwise (· < ·) := by
    rw [List.pairwise_filterMap]
    refine owned.ascending.imp fun less a first b second => ?_
    simpa [first, second] using less
  exact below.imp ne_of_lt

theorem contains_of_mem (owned : store.Owns book reviews) {key : ReviewId} (member : key ∈ reviews.filterMap (·.id)) :
    store.reviews.contains key = true := by
  obtain ⟨review, listed, same⟩ := List.mem_filterMap.mp member
  obtain ⟨-, key', same', stored⟩ := owned.each review listed
  obtain rfl := Option.some.inj (same.symm.trans same')
  exact stored

theorem of_append {more : List Review} (owned : store.Owns book (reviews ++ more)) : store.Owns book reviews :=
  ⟨fun review listed => owned.each review (List.mem_append_left _ listed), (List.pairwise_append.mp owned.ascending).1⟩

-- Stored again under their own ids, the reviews are what they were.
theorem zipWith_stamp (owned : store.Owns book reviews) {ids : List ReviewId} (length : ids.length = reviews.length)
    (same : ∀ entry ∈ reviews.zip ids, ∀ key, entry.1.id = some key → entry.2 = key) :
    reviews.zipWith (fun review id => review.stamp id book) ids = reviews := by
  have stamped : (reviews.zip ids).map (fun entry => entry.1.stamp entry.2 book) = (reviews.zip ids).map (·.1) := by
    refine List.map_congr_left fun entry paired => ?_
    obtain ⟨named, key, has, -⟩ := owned.each entry.1 (List.of_mem_zip paired).1
    rw [same entry paired key has, Review.stamp, ← named, ← has]
  rw [List.map_zip_eq_zipWith] at stamped
  exact stamped.trans (List.map_fst_zip length.ge)

end Owns

end Store

theorem Book.reviewIds_append_new {id : Option BookId} {title : String} {pages : Int32} {kept news : List Review}
    (new : ∀ review ∈ news, review.id = none) :
    reviewIds ⟨id, title, pages, kept ++ news⟩ = kept.filterMap (·.id) := by
  rw [reviewIds, List.filterMap_append, List.filterMap_eq_nil_iff.mpr new, List.append_nil]

namespace Books

theorem find?_of_save {c d : Connection} (reached : Reached c) {id : BookId} {title : String} {pages : Int32}
    {kept news : List Review} (owned : c.store.Owns id kept) (new : ∀ review ∈ news, review.id = none)
    {saved : BookId × Book} (gives : (save ⟨some id, title, pages, kept ++ news⟩).Gives c saved d) :
    ∃ keys : List ReviewId, keys.length = news.length ∧ (∀ key ∈ keys, c.store.reviews.mark < key) ∧
      find? d.store id =
        .ok (some ⟨some id, title, pages, kept ++ news.zipWith (fun review key => review.stamp key id) keys⟩) := by
  have persisted : Book.reviewIds ⟨some id, title, pages, kept ++ news⟩ = kept.filterMap (·.id) :=
    Book.reviewIds_append_new new
  obtain ⟨id', book⟩ := saved
  obtain ⟨ids, -, -, effect⟩ := savedAs_of_gives reached (persisted ▸ owned.reviewIds_nodup)
    (fun key member => owned.contains_of_mem (persisted ▸ member)) gives
  obtain ⟨bookId, ids⟩ := ids
  obtain rfl : bookId = id := effect.kept id rfl
  -- The ids of the reviews that were there come first, as the reviews do.
  obtain ⟨oldKeys, keys, rfl, length⟩ : ∃ oldKeys keys, ids = oldKeys ++ keys ∧ oldKeys.length = kept.length :=
    ⟨ids.take kept.length, ids.drop kept.length, (List.take_append_drop _ _).symm, by
      have := effect.length_eq
      simp only [List.length_append] at this
      simp [this]⟩
  have length' : keys.length = news.length := by
    have := effect.length_eq
    simp only [List.length_append] at this
    omega
  have paired : (kept ++ news).zip (oldKeys ++ keys) = kept.zip oldKeys ++ news.zip keys := List.zip_append length.symm
  have listed {entry : Review × ReviewId} (member : entry ∈ kept.zip oldKeys ++ news.zip keys) :
      entry ∈ (kept ++ news).zip (oldKeys ++ keys) := paired ▸ member
  have unnamed {entry : Review × ReviewId} (member : entry ∈ news.zip keys) : entry.1.id = none :=
    new entry.1 (List.of_mem_zip member).1
  have above : ∀ entry ∈ news.zip keys, c.store.reviews.mark < entry.2 := fun entry member =>
    effect.newReviews entry (listed (List.mem_append_right _ member)) (unnamed member)
  have same : kept.zipWith (fun review key => review.stamp key bookId) oldKeys = kept :=
    owned.zipWith_stamp length fun entry member => (effect.rows entry (listed (List.mem_append_left _ member))).1
  have ascending : (news.zip keys).Pairwise fun a b => a.2 < b.2 := by
    have all : ((kept ++ news).zip (oldKeys ++ keys)).Pairwise fun a b => a.1.id = none → b.1.id = none → a.2 < b.2 :=
      effect.ascending
    rw [paired, List.pairwise_append] at all
    exact all.2.1.imp_of_mem fun first second less => less (unnamed first) (unnamed second)
  have sorted : (kept ++ news.zipWith (fun review key => review.stamp key bookId) keys).Pairwise
      fun a b => a.id.getD 0 < b.id.getD 0 := by
    rw [← List.map_uncurry_zip_eq_zipWith]
    refine List.pairwise_append.mpr ⟨owned.ascending, List.pairwise_map.mpr ascending, fun a old b added => ?_⟩
    obtain ⟨-, key, has, stored⟩ := owned.each a old
    obtain ⟨row, found⟩ := Table.contains_iff_find?.mp stored
    obtain ⟨entry, member, rfl⟩ := List.mem_map.mp added
    rw [has]
    exact lt_of_le_of_lt (Table.le_mark_of_find? found) (above entry member)
  refine ⟨keys, length', fun key member => ?_, ?_⟩
  · rw [← List.map_snd_zip length'.le, List.mem_map] at member
    obtain ⟨entry, member, rfl⟩ := member
    exact above entry member
  · have merged := mergeSort_reviews_eq (List.Perm.refl _) sorted
    rw [effect.found, Book.inOrder, SavedIds.stamp, Book.stamp]
    dsimp only
    rw [List.zipWith_append length.symm, same, merged]

section

variable {c d : Connection} {id : BookId} {title reviewer content : String} {pages : Int32} {reviews : List Review}
  {saved : BookId × Book}

theorem find?_of_rename (reached : Reached c) (owned : c.store.Owns id reviews)
    (gives : (save ⟨some id, title, pages, reviews⟩).Gives c saved d) :
    find? d.store id = .ok (some ⟨some id, title, pages, reviews⟩) := by
  rw [← List.append_nil reviews] at gives
  obtain ⟨keys, -, -, found⟩ := find?_of_save reached owned (by simp) gives
  simpa using found

theorem find?_of_addReview (reached : Reached c) (owned : c.store.Owns id reviews)
    (gives : (save ⟨some id, title, pages, reviews ++ [.new reviewer content]⟩).Gives c saved d) :
    ∃ key, c.store.reviews.mark < key ∧ find? d.store id =
      .ok (some ⟨some id, title, pages, reviews ++ [(Review.new reviewer content).stamp key id]⟩) := by
  obtain ⟨keys, length, above, found⟩ := find?_of_save reached owned (by simp [Review.new]) gives
  obtain ⟨key, rfl⟩ := List.length_eq_one_iff.mp length
  exact ⟨key, above key (List.mem_singleton_self key), found⟩

end

end Books

/-- A book is renamed by one client and reviewed by another, their requests in any order, and both succeed. No
review that was there is lost. If neither client's save falls between the load and the save of the other, the book
has the title and the review, as if one client had come after the other; a client that was overtaken undoes what
the other has done. -/
theorem rename_beside_review {c : Connection} (reached : Reached c) {id : BookId} {title reviewer content : String}
    {turns : List Turn} {renamed reviewed : Book}
    (ok : (Interleaving.run ⟨Service.rename id title, Service.addReview id reviewer content, c⟩ turns).results? =
      some (.ok renamed, .ok reviewed)) :
    let last := (Interleaving.run ⟨Service.rename id title, Service.addReview id reviewer content, c⟩ turns).connection
    ∃ (book : Book) (key : ReviewId), Books.find? c.store id = .ok (some book) ∧ c.store.reviews.mark < key ∧
      let review := (Review.new reviewer content).stamp key id
      (¬ Overtaken .first turns ∧ ¬ Overtaken .second turns ∧
          Books.find? last.store id = .ok (some { book with title, reviews := book.reviews ++ [review] }) ∧
          (last = ((Service.addReview id reviewer content).run ((Service.rename id title).run c).connection).connection ∨
            last = ((Service.rename id title).run ((Service.addReview id reviewer content).run c).connection).connection)) ∨
        (Overtaken .first turns ∧ ¬ Overtaken .second turns ∧
          Books.find? last.store id = .ok (some { book with title })) ∨
        (Overtaken .second turns ∧ ¬ Overtaken .first turns ∧
          Books.find? last.store id = .ok (some { book with reviews := book.reviews ++ [review] })) := by
  -- Both use cases are revisions, and each may be the one that saves first.
  rw [Service.rename_eq, Service.addReview_eq] at ok ⊢
  intro last
  let work : Turn → Revision := Turn.pick (.rename title) (.addReview reviewer content)
  obtain ⟨phase, saved, standing⟩ := @Interleaving.standing_of_results? id work c turns renamed reviewed ok
  change Standing id work c turns phase last at standing
  generalize last = e at standing ⊢
  cases standing with
  | unsaved clear => exact absurd (saved .first) (clear .first)
  | led _ _ _ _ _ _ clear => exact absurd (saved _) clear
  | @followed turn book copy first second d _ _ found gives ahead copied gives' =>
    obtain ⟨named, owned⟩ := reached.sound.store.owns_of_find? found
    obtain ⟨bookId, title', pages, reviews⟩ := book
    obtain rfl : bookId = some id := named
    have between : Reached d := Books.reached_of_save reached gives
    have marks : c.store.MarksLe d.store := by
      rw [← gives.2]
      exact (Books.keep_marks c.store).save _ c (.refl _)
    cases turn with
    | first =>
      have renamed := Books.find?_of_rename reached owned gives
      have owned' := (between.sound.store.owns_of_find? renamed).2
      rcases copied with ⟨overtaken, stale⟩ | ⟨free, loaded⟩
      · obtain rfl := Option.some.inj (Except.ok.inj (found.symm.trans stale))
        obtain ⟨key, above, final⟩ := Books.find?_of_addReview between owned' gives'
        exact ⟨_, key, found, marks.reviews.trans_lt above, .inr (.inr ⟨overtaken, ahead, final⟩)⟩
      · obtain rfl := Option.some.inj (Except.ok.inj (renamed.symm.trans loaded))
        obtain ⟨key, above, final⟩ := Books.find?_of_addReview between owned' gives'
        exact ⟨_, key, found, marks.reviews.trans_lt above,
          .inl ⟨ahead, free, final, .inl (UseCase.run_revise_twice found gives renamed gives').symm⟩⟩
    | second =>
      obtain ⟨key, above, reviewed⟩ := Books.find?_of_addReview reached owned gives
      have owned' := (between.sound.store.owns_of_find? reviewed).2
      rcases copied with ⟨overtaken, stale⟩ | ⟨free, loaded⟩
      · obtain rfl := Option.some.inj (Except.ok.inj (found.symm.trans stale))
        have final := Books.find?_of_rename between owned'.of_append gives'
        exact ⟨_, key, found, above, .inr (.inl ⟨overtaken, ahead, final⟩)⟩
      · obtain rfl := Option.some.inj (Except.ok.inj (reviewed.symm.trans loaded))
        have final := Books.find?_of_rename between owned' gives'
        exact ⟨_, key, found, above,
          .inl ⟨free, ahead, final, .inr (UseCase.run_revise_twice found gives reviewed gives').symm⟩⟩

theorem rename_before_review :
    let both := Interleaving.run ⟨Service.rename 2 "Emma II", Service.addReview 2 "Eve" "Odd", .sample⟩
      [.first, .first, .second, .second, .first, .second]
    both.results? = some (.ok ⟨some 2, "Emma II", 474, [⟨some 3, "Eve", "Odd", some 2⟩]⟩,
        .ok ⟨some 2, "Emma II", 474, [⟨some 3, "Eve", "Odd", some 2⟩]⟩) ∧
      ∃ book : Book, Books.find? Connection.sample.store 2 = .ok (some book) := by
  intro both
  have ok : both.results? = some (.ok ⟨some 2, "Emma II", 474, [⟨some 3, "Eve", "Odd", some 2⟩]⟩,
      .ok ⟨some 2, "Emma II", 474, [⟨some 3, "Eve", "Odd", some 2⟩]⟩) := by decide +kernel
  obtain ⟨book, -, found, -⟩ := rename_beside_review reached_sample ok
  exact ⟨ok, book, found⟩

-- The review is saved after the rename has loaded the book, and is gone when the rename has saved it: neither of
-- the two serial orders ends so.
theorem rename_overwrites_review :
    let both := Interleaving.run ⟨Service.rename 1 "Dune II", Service.addReview 1 "Eve" "Odd", .sample⟩
      [.first, .second, .second, .second, .first, .first]
    Reached .sample ∧ Connection.sample.store.books.contains 1 = true ∧
      both.results? = some
        (.ok ⟨some 1, "Dune II", 412, [⟨some 1, "Ann", "Vast", some 1⟩, ⟨some 2, "Bob", "Long", some 1⟩]⟩,
          .ok ⟨some 1, "Dune", 412, [⟨some 1, "Ann", "Vast", some 1⟩, ⟨some 2, "Bob", "Long", some 1⟩,
            ⟨some 3, "Eve", "Odd", some 1⟩]⟩) ∧
      Books.find? both.connection.store 1 =
        .ok (some ⟨some 1, "Dune II", 412, [⟨some 1, "Ann", "Vast", some 1⟩, ⟨some 2, "Bob", "Long", some 1⟩]⟩) ∧
      (∀ book, Books.find? both.connection.store 1 = .ok (some book) → ∀ review ∈ book.reviews, review.reviewer ≠ "Eve") ∧
      both.connection ≠ ((Service.addReview 1 "Eve" "Odd").run
        ((Service.rename 1 "Dune II").run .sample).connection).connection ∧
      both.connection ≠ ((Service.rename 1 "Dune II").run
        ((Service.addReview 1 "Eve" "Odd").run .sample).connection).connection := by
  intro both
  have found : Books.find? both.connection.store 1 =
      .ok (some ⟨some 1, "Dune II", 412, [⟨some 1, "Ann", "Vast", some 1⟩, ⟨some 2, "Bob", "Long", some 1⟩]⟩) := by
    decide +kernel
  refine ⟨reached_sample, by decide +kernel, by decide +kernel, found, fun book same => ?_, by decide +kernel,
    by decide +kernel⟩
  obtain rfl := Option.some.inj (Except.ok.inj (found.symm.trans same))
  simp

end Catalogue
