import Catalogue.Calls
import Catalogue.Proofs.Requests

/-! A sound store as a shelf. What is read from the store is what is read from the shelf: the books under their ids,
and the windows of all requests, with the same refusals. -/

set_option autoImplicit false

namespace Catalogue

def Row.note (row : Row ReviewCells) : Note := ⟨row.id, row.cells.reviewer.characters, row.cells.content.characters⟩

namespace Store

/-- The book in a row as a volume, with the reviews that the book owns. -/
def volumeOf (store : Store) (row : Row BookCells) : Volume :=
  ⟨row.id, row.cells.title.characters, Int32.ofInt row.cells.pages.number,
    (store.reviews.rows.filter (·.isOf row.id)).map Row.note⟩

def shelf (store : Store) : Shelf := ⟨store.books.rows.map store.volumeOf, store.books.mark, store.reviews.mark⟩

variable {store : Store}

theorem find?_shelf (id : BookId) : store.shelf.find? id = (store.books.find? id).map store.volumeOf :=
  List.find?_map

theorem ascending_shelf (store : Store) : store.shelf.volumes.Pairwise fun a b => a.id < b.id :=
  List.pairwise_map.mpr store.books.ascending

namespace Sound

theorem toBook_volumeOf (sound : store.Sound) (row : Row BookCells) :
    (store.volumeOf row).toBook = store.bookOf row := by
  have reviews : ((store.reviews.rows.filter (·.isOf row.id)).map Row.note).map
      (fun note : Note => (⟨some note.id, note.reviewer, note.content, some row.id⟩ : Review)) =
        store.reviewsOf row.id := by
    rw [List.map_map, reviewsOf]
    refine List.map_congr_left fun review member => ?_
    obtain ⟨stands, owned⟩ := List.mem_filter.mp member
    rw [← sound.readable.bookId_eq_iff stands, beq_iff_eq] at owned
    simp only [Function.comp_apply, Row.note, ← owned]
    rfl
  rw [bookOf, ← reviews]
  rfl

theorem find?_eq_get (sound : store.Sound) (id : BookId) : Books.find? store id = .ok (store.shelf.get id) := by
  rw [sound.find?_eq, Shelf.get, find?_shelf, Option.map_map]
  refine congrArg Except.ok (Option.map_congr fun row _ => (sound.toBook_volumeOf row).symm)

theorem toBook_volumes (sound : store.Sound) (rows : List (Row BookCells)) :
    (rows.map store.volumeOf).map Volume.toBook = rows.map store.bookOf := by
  rw [List.map_map]
  exact List.map_congr_left fun row _ => sound.toBook_volumeOf row

end Sound

end Store

/-! ## Pages -/

namespace PageRequest

variable {α : Type}

theorem cut_window (request : PageRequest) (xs : List α) : (request.window 0).cut xs = request.cut xs := by
  unfold cut
  cases size : request.size with
  | none => exact request.cut_window_of_none size 0 xs
  | some size' => rw [request.cut_window_of_some size, request.offset_of_some size, Nat.add_zero]

theorem sliceOf_eq (request : PageRequest) (xs : List α) :
    request.sliceOf xs = ⟨request.cut xs, request, request.endsBefore xs.length⟩ := by
  have behind : (!(request.beyond xs).isEmpty) = request.endsBefore xs.length := by
    unfold beyond endsBefore
    cases size : request.size with
    | none => rfl
    | some size' =>
      rw [Bool.eq_iff_iff, Bool.not_eq_true', List.isEmpty_eq_false_iff, ne_eq, List.drop_eq_nil_iff, not_le,
        request.offset_of_some size, ← Nat.succ_mul]
      simp
  rw [sliceOf, cut_window, behind]

end PageRequest

namespace Shelf

variable {request : PageRequest}

theorem window_of_fault {fault : RepositoryError} (found : request.fault? = some fault)
    (picked : Except EngineError (List Volume)) : window request picked = .error fault := by
  rw [window, found]

theorem window_of_long (none : request.fault? = none) (long : sortTermLimit < request.sort.keys.length)
    (picked : Except EngineError (List Volume)) : window request picked = .error (.engine .tooManySortTerms) := by
  rw [window, none]
  exact if_pos long

theorem window_of_granted (granted : request.Granted) (picked : Except EngineError (List Volume)) :
    window request picked = (picked.mapError .engine).map fun volumes =>
      request.cut ((volumes.map Volume.toBook).mergeSort fun a b => (request.sort.compare a b).isLE) := by
  obtain ⟨none, short⟩ := PageRequest.granted_iff.mp granted
  rw [window, none]
  exact if_neg (Nat.not_lt.mpr short)

end Shelf

namespace Store.Sound

variable {store : Store}

theorem cut_sorted (sound : store.Sound) {request : PageRequest} (granted : request.Granted) (filter : Filter) :
    request.cut (store.sorted filter request.sort) =
      request.cut ((((store.books.rows.filter (filter.picks store)).map store.volumeOf).map Volume.toBook).mergeSort
        fun a b => (request.sort.compare a b).isLE) := by
  rw [sound.toBook_volumes, sound.readable.sorted_eq_mergeSort granted.known]

/-- The window of a query is that of the volumes that it picks, with the same refusals. -/
theorem findBooks_eq_window (sound : store.Sound) (filter : Filter) (request : PageRequest) :
    findBooks store filter request 0 =
      Shelf.window request ((filter.select store).map fun rows => rows.map store.volumeOf) := by
  rcases request.fault_or_long_or_granted with ⟨fault, found⟩ | ⟨none, long⟩ | granted
  · rw [findBooks_of_fault found, Shelf.window_of_fault found]
  · rw [findBooks_of_long none long, Shelf.window_of_long none long]
  · rw [Shelf.window_of_granted granted]
    rcases Filter.select_eq_or store filter with selected | ⟨refused, -⟩
    · rw [sound.readable.findBooks_of_select selected granted, map_rowsOf, PageRequest.cut_window,
        sound.cut_sorted granted, selected]
      rfl
    · rw [findBooks_of_select_error refused granted, refused]
      rfl

theorem text_title (sound : store.Sound) {row : Row BookCells} (member : row ∈ store.books.rows) :
    row.cells.title = .text (store.volumeOf row).title := by
  obtain ⟨-, book, cells, -⟩ := sound.books row member
  simp only [volumeOf, cells, Book.cells, Cell.characters]

theorem lt_pages_iff (sound : store.Sound) {row : Row BookCells} (member : row ∈ store.books.rows) (pages : Int32) :
    decide (pages < (store.volumeOf row).pages) = (row.cells.pages.compare (.int pages.toInt)).isGT := by
  obtain ⟨-, book, cells, -⟩ := sound.books row member
  simp only [volumeOf, cells, Book.cells, Cell.number, Int32.ofInt_toInt, Cell.compare, Int32.lt_iff_toInt_lt]
  rw [Bool.eq_iff_iff, decide_eq_true_eq, Ordering.isGT_iff_eq_gt, compare_gt_iff_gt]

/-- The volumes whose titles a pattern finds are those of the rows that the engine picks by its glob pattern. -/
theorem titled_eq (sound : store.Sound) (pattern : String) :
    store.shelf.titled pattern = ((Filter.titleLike pattern).select store).map fun rows => rows.map store.volumeOf := by
  have long : (TitleSearch.byLike true pattern).tooLong = decide (Shelf.patternLimit < Like.size pattern) := by
    rw [← Like.utf8ByteSize_toGlob]
    rfl
  have compared : store.books.rows.any (fun row => (TitleSearch.byLike true pattern).examines row.cells.title) =
      decide (∃ volume ∈ store.shelf.volumes, Like.Compares pattern volume.title) := by
    rw [Bool.eq_iff_iff, List.any_eq_true, decide_eq_true_eq]
    constructor
    · rintro ⟨row, member, examined⟩
      rw [sound.text_title member, TitleSearch.examines_indexed] at examined
      exact ⟨_, List.mem_map_of_mem member, examined⟩
    · rintro ⟨_, listed, compared⟩
      obtain ⟨row, member, rfl⟩ := List.mem_map.mp listed
      exact ⟨row, member, by rwa [sound.text_title member, TitleSearch.examines_indexed]⟩
  have found : store.shelf.volumes.filter (fun volume => Like.Finds (Like.ended pattern) (Text.ended volume.title)) =
      (store.books.rows.filter fun row => (TitleSearch.byLike true pattern).holds
        (TitleSearch.byLike true pattern).tokens? row.cells.title).map store.volumeOf := by
    rw [shelf, List.filter_map]
    refine congrArg _ (List.filter_congr fun row member => ?_)
    rw [Bool.eq_iff_iff, sound.text_title member, TitleSearch.holds_indexed, Function.comp_apply, decide_eq_true_eq]
  rw [Filter.select, TitleSearch.ofLike_eq pattern sound, TitleSearch.find, Shelf.titled, long, compared, found]
  by_cases refused : Shelf.patternLimit < Like.size pattern ∧
      ∃ volume ∈ store.shelf.volumes, Like.Compares pattern volume.title
  · rw [if_pos refused, if_pos (by simpa using refused)]
    rfl
  · rw [if_neg refused, if_neg (by simpa using refused)]
    rfl

/-! ## The queries of the service -/

theorem list_eq (sound : store.Sound) (request : PageRequest) :
    Service.list store request = store.shelf.list request := by
  rcases request.fault_or_long_or_granted with ⟨fault, found⟩ | ⟨none, long⟩ | granted
  · rw [Service.list, Books.slice, findBooks_of_fault found, Shelf.list, Shelf.window_of_fault found]
    rfl
  · rw [Service.list, Books.slice, findBooks_of_long none long, Shelf.list, Shelf.window_of_long none long]
    rfl
  · have every : store.books.rows.filter (Filter.everything.picks store) = store.books.rows :=
      List.filter_eq_self.mpr fun _ _ => rfl
    rw [Service.list, sound.slice_eq granted, PageRequest.sliceOf_eq, sound.cut_sorted granted, length_sorted,
      Shelf.list, Shelf.window_of_granted granted, Table.count, List.countP_eq_length_filter, every, shelf,
      List.length_map]
    rfl

theorem longerThan_eq (sound : store.Sound) (pages : Int32) (request : PageRequest) :
    Service.longerThan store pages request = store.shelf.longerThan pages request := by
  have picked : (store.shelf.volumes.filter (pages < ·.pages)) =
      (store.books.rows.filter fun row => (row.cells.pages.compare (.int pages.toInt)).isGT).map store.volumeOf := by
    rw [shelf, List.filter_map]
    exact congrArg _ (List.filter_congr fun row member => sound.lt_pages_iff member pages)
  rw [Service.longerThan, Books.longerThan, sound.findBooks_eq_window, Shelf.longerThan, picked]
  rfl

theorem search_eq (sound : store.Sound) (pattern : String) (request : PageRequest) :
    Service.search store pattern request = store.shelf.search pattern request := by
  rw [Service.search, Books.titleLike, Books.pageOf, sound.findBooks_eq_window, Shelf.search, sound.titled_eq, countBooks]
  cases (Filter.titleLike pattern).select store with
  | error e => rfl
  | ok rows => simp [Except.map, bind, Except.bind, pure, Except.pure]

theorem count_eq : Service.count store = .ok store.shelf.count := by
  rw [Shelf.count, shelf, List.length_map]
  rfl

end Store.Sound

end Catalogue
