import Catalogue.Proofs.Reading
import Catalogue.Repository.Ready

/-! Which queries a sound store answers. A request is refused for what it asks and never for what the
rows hold. -/

set_option autoImplicit false

namespace Catalogue

def SortTerm.columnTerm (term : SortTerm) : ColumnTerm :=
  ⟨(SortColumn.ofProperty? term.property).getD .id, term.direction⟩

/-- The terms of an ordering, with the id at the end if it is not among them. -/
def Sorting.terms (sorting : Sorting) : List ColumnTerm :=
  let terms := sorting.orders.map SortTerm.columnTerm
  if terms.any (·.column == .id) then terms else terms ++ [⟨.id, .asc⟩]

structure PageRequest.Granted (request : PageRequest) : Prop where
  known : ∀ term ∈ request.sort.orders, term.property ∈ ["id", "title", "pages"]
  short : request.sort.terms.length ≤ sortTermLimit
  sized : request.size ≠ some 0
  offset : request.offset ≤ IntRange.int64.high

/-- The stretch of a result that a request is about, with `extra` rows past its end. -/
def PageRequest.window (request : PageRequest) (extra : Nat) : Window :=
  ⟨request.offset, request.size.map (·.toNat + extra)⟩

namespace Sorting

theorem columnTerms_eq {orders : List SortTerm} (known : ∀ term ∈ orders, term.property ∈ ["id", "title", "pages"]) :
    columnTerms orders = .ok (orders.map SortTerm.columnTerm) := by
  induction orders with
  | nil => rfl
  | cons term rest ih =>
    obtain ⟨first, rest⟩ := List.forall_mem_cons.mp known
    obtain ⟨property, direction⟩ := term
    simp only [List.mem_cons, List.not_mem_nil, or_false] at first
    rcases first with rfl | rfl | rfl <;> simp [columnTerms, ih rest, SortTerm.columnTerm, SortColumn.ofProperty?]

theorem resolve_eq {sorting : Sorting} (known : ∀ term ∈ sorting.orders, term.property ∈ ["id", "title", "pages"]) :
    sorting.resolve = .ok sorting.terms := by
  rw [resolve, columnTerms_eq known]
  rfl

theorem known_of_columnTerms {orders : List SortTerm} {terms : List ColumnTerm}
    (resolved : columnTerms orders = .ok terms) : ∀ term ∈ orders, term.property ∈ ["id", "title", "pages"] := by
  induction orders generalizing terms with
  | nil => simp
  | cons term rest ih =>
    have known {column : SortColumn} (named : SortColumn.ofProperty? term.property = some column) :
        term.property ∈ ["id", "title", "pages"] := by
      unfold SortColumn.ofProperty? at named
      split at named
      · simp_all
      · simp_all
      · simp_all
      · cases named
    unfold columnTerms at resolved
    split at resolved
    · cases resolved
    · rename_i column named
      cases later : columnTerms rest with
      | error e => simp [later] at resolved
      | ok terms' => exact List.forall_mem_cons.mpr ⟨known named, ih later⟩

theorem known_of_resolve {sorting : Sorting} {terms : List ColumnTerm} (resolved : sorting.resolve = .ok terms) :
    ∀ term ∈ sorting.orders, term.property ∈ ["id", "title", "pages"] := by
  unfold resolve at resolved
  cases checked : columnTerms sorting.orders with
  | error e => simp [checked, Except.map] at resolved
  | ok terms' => exact known_of_columnTerms checked

end Sorting

theorem Window.ofRequest_eq {request : PageRequest} (sized : request.size ≠ some 0)
    (offset : request.offset ≤ IntRange.int64.high) (extra : Nat) :
    ofRequest request extra = .ok (request.window extra) := by
  unfold ofRequest PageRequest.window
  cases same : request.size with
  | none => simp [PageRequest.offset, same]
  | some size =>
    have positive : size ≠ 0 := by
      rintro rfl
      exact sized same
    simp [positive, offset]

theorem Window.sized_of_ofRequest {request : PageRequest} {extra : Nat} {window : Window}
    (windowed : ofRequest request extra = .ok window) :
    request.size ≠ some 0 ∧ request.offset ≤ IntRange.int64.high := by
  unfold ofRequest at windowed
  cases size : request.size with
  | none => simp [PageRequest.offset, size, IntRange.int64]
  | some size' =>
    simp only [size] at windowed
    split at windowed
    · cases windowed
    · rename_i sized
      split at windowed
      · exact ⟨by simpa using sized, by assumption⟩
      · cases windowed

theorem PageRequest.granted_of_checks {request : PageRequest} {terms : List ColumnTerm} {extra : Nat} {window : Window}
    (resolved : request.sort.resolve = .ok terms) (windowed : Window.ofRequest request extra = .ok window)
    (short : ¬ sortTermLimit < terms.length) :
    request.Granted ∧ terms = request.sort.terms ∧ window = request.window extra := by
  have known := Sorting.known_of_resolve resolved
  obtain rfl := Except.ok.inj (resolved.symm.trans (Sorting.resolve_eq known))
  obtain ⟨sized, offset⟩ := Window.sized_of_ofRequest windowed
  obtain rfl := Except.ok.inj (windowed.symm.trans (Window.ofRequest_eq sized offset extra))
  exact ⟨⟨known, Nat.le_of_not_lt short, sized, offset⟩, rfl, rfl⟩

theorem Window.cut_sublist {α : Type} (window : Window) (rows : List α) : (window.cut rows).Sublist rows := by
  unfold cut
  split
  · exact List.drop_sublist _ _
  · exact (List.take_sublist _ _).trans (List.drop_sublist _ _)

namespace Filter

def Granted : Filter → Prop
  | everything | longerThan _ => True
  | titleLike pattern => (String.ofList (Like.toGlob pattern)).utf8ByteSize ≤ TitleSearch.patternLimit

instance : DecidablePred Granted
  | everything | longerThan _ => isTrue trivial
  | titleLike pattern =>
    inferInstanceAs (Decidable ((String.ofList (Like.toGlob pattern)).utf8ByteSize ≤ TitleSearch.patternLimit))

def picks (store : Store) : Filter → Row BookCells → Bool
  | everything, _ => true
  | longerThan pages, row => (row.cells.pages.compare (.int pages.toInt)).isGT
  | titleLike pattern, row =>
    (TitleSearch.ofLike store pattern).holds (TitleSearch.ofLike store pattern).tokens? row.cells.title

theorem select_eq (store : Store) {filter : Filter} (granted : filter.Granted) :
    filter.select store = .ok (store.books.rows.filter (filter.picks store)) := by
  cases filter with
  | everything => exact congrArg Except.ok (List.filter_eq_self.mpr fun _ _ => rfl).symm
  | longerThan pages => rfl
  | titleLike pattern =>
    have short : (TitleSearch.ofLike store pattern).tooLong = false := decide_eq_false (Nat.not_lt.mpr granted)
    rw [select, TitleSearch.find, short]
    rfl

-- Only a pattern that is too long keeps a filter from picking rows, and only if some title is matched against it.
theorem select_eq_or (store : Store) (filter : Filter) :
    filter.select store = .ok (store.books.rows.filter (filter.picks store)) ∨
      filter.select store = .error .patternTooComplex ∧ ¬ filter.Granted := by
  by_cases granted : filter.Granted
  · exact .inl (select_eq store granted)
  · cases filter with
    | everything => exact absurd trivial granted
    | longerThan pages => exact absurd trivial granted
    | titleLike pattern =>
      rw [select, TitleSearch.find]
      split
      · exact .inr ⟨rfl, granted⟩
      · exact .inl rfl

end Filter

namespace Store

variable {store : Store}

def rowsOf (store : Store) (filter : Filter) (request : PageRequest) (extra : Nat) : List (Row BookCells) :=
  (request.window extra).cut (sortRows request.sort.terms (store.books.rows.filter (filter.picks store)))

theorem mem_of_mem_rowsOf {filter : Filter} {request : PageRequest} {extra : Nat} {row : Row BookCells}
    (member : row ∈ store.rowsOf filter request extra) : row ∈ store.books.rows :=
  (List.mem_filter.mp (List.mem_mergeSort.mp ((Window.cut_sublist _ _).subset member))).1

theorem nodup_rowsOf (store : Store) (filter : Filter) (request : PageRequest) (extra : Nat) :
    ((store.rowsOf filter request extra).map (·.id)).Nodup := by
  have picked := store.books.nodup_ids.sublist ((List.filter_sublist (p := filter.picks store)).map (·.id))
  have sorted : ((sortRows request.sort.terms (store.books.rows.filter (filter.picks store))).map (·.id)).Nodup :=
    ((List.mergeSort_perm _ _).map _).nodup_iff.mpr picked
  exact sorted.sublist ((Window.cut_sublist _ _).map _)

theorem rowsOf_whole {filter : Filter} {request : PageRequest} (whole : request.size = none) (extra : Nat) :
    store.rowsOf filter request extra = sortRows request.sort.terms (store.books.rows.filter (filter.picks store)) := by
  have all : request.window extra = ⟨0, none⟩ := by simp [PageRequest.window, PageRequest.offset, whole]
  rw [rowsOf, all, Window.cut, List.drop_zero]

theorem mem_rowsOf_iff {filter : Filter} {request : PageRequest} (whole : request.size = none) {extra : Nat}
    {row : Row BookCells} :
    row ∈ store.rowsOf filter request extra ↔ row ∈ store.books.rows ∧ filter.picks store row = true := by
  rw [rowsOf_whole whole, sortRows, List.mem_mergeSort, List.mem_filter]

theorem length_rowsOf {filter : Filter} {request : PageRequest} (whole : request.size = none) (extra : Nat) :
    (store.rowsOf filter request extra).length = store.books.count (filter.picks store) := by
  rw [rowsOf_whole whole, sortRows, List.length_mergeSort, Table.count, List.countP_eq_length_filter]

namespace Readable

theorem findBooks_of_select (readable : store.Readable) {filter : Filter}
    (selected : filter.select store = .ok (store.books.rows.filter (filter.picks store))) {request : PageRequest}
    (granted : request.Granted) (extra : Nat) :
    findBooks store filter request extra = .ok ((store.rowsOf filter request extra).map store.bookOf) := by
  have rows : selectRows store filter request.sort.terms (request.window extra) =
      .ok (store.rowsOf filter request extra) := by
    rw [selectRows, if_neg (Nat.not_lt.mpr granted.short), selected]
    rfl
  have read : (store.rowsOf filter request extra).mapM Row.toBook = .ok ((store.rowsOf filter request extra).map Row.book) :=
    mapM_eq_ok_map fun row member => readable.toBook_eq (mem_of_mem_rowsOf member)
  simp only [findBooks, Sorting.resolve_eq granted.known, Window.ofRequest_eq granted.sized granted.offset, rows, read,
    mapError_ok, bind, Except.bind, readable.attachReviews_eq (store.nodup_rowsOf filter request extra)]

theorem findBooks_eq_ok (readable : store.Readable) {filter : Filter} {request : PageRequest} {extra : Nat}
    {books : List Book} (found : findBooks store filter request extra = .ok books) :
    request.Granted ∧ filter.select store = .ok (store.books.rows.filter (filter.picks store)) ∧
      books = (store.rowsOf filter request extra).map store.bookOf := by
  obtain ⟨terms, resolved, rest⟩ := bind_eq_ok.mp found
  obtain ⟨window, windowed, rest⟩ := bind_eq_ok.mp rest
  obtain ⟨rows, picked, -⟩ := bind_eq_ok.mp rest
  rw [mapError_eq_ok, selectRows] at picked
  split at picked
  · cases picked
  · rename_i short
    obtain ⟨granted, -, -⟩ := PageRequest.granted_of_checks resolved windowed short
    rcases Filter.select_eq_or store filter with selected | ⟨refused, -⟩
    · exact ⟨granted, selected, Except.ok.inj (found.symm.trans (readable.findBooks_of_select selected granted extra))⟩
    · rw [refused] at picked
      cases picked

end Readable

namespace Sound

theorem findBooks_eq (sound : store.Sound) {filter : Filter} (picked : filter.Granted) {request : PageRequest}
    (granted : request.Granted) (extra : Nat) :
    findBooks store filter request extra = .ok ((store.rowsOf filter request extra).map store.bookOf) :=
  sound.readable.findBooks_of_select (Filter.select_eq store picked) granted extra

end Sound

theorem findBooks_of_select_error {filter : Filter} {e : EngineError} (refused : filter.select store = .error e)
    {request : PageRequest} (granted : request.Granted) (extra : Nat) :
    findBooks store filter request extra = .error (.engine e) := by
  have none : selectRows store filter request.sort.terms (request.window extra) = .error e := by
    rw [selectRows, if_neg (Nat.not_lt.mpr granted.short), refused]
    rfl
  simp only [findBooks, Sorting.resolve_eq granted.known, Window.ofRequest_eq granted.sized granted.offset, none,
    mapError_error, bind, Except.bind]

theorem findBooks_tooManyTerms {filter : Filter} {request : PageRequest}
    (known : ∀ term ∈ request.sort.orders, term.property ∈ ["id", "title", "pages"])
    (sized : request.size ≠ some 0) (offset : request.offset ≤ IntRange.int64.high)
    (long : sortTermLimit < request.sort.terms.length) (extra : Nat) :
    findBooks store filter request extra = .error (.engine .tooManySortTerms) := by
  have refused : selectRows store filter request.sort.terms (request.window extra) = .error .tooManySortTerms :=
    if_pos long
  rw [findBooks, Sorting.resolve_eq known, Window.ofRequest_eq sized offset]
  simp only [bind, Except.bind, refused]
  rfl

theorem findBooks_tooComplex {pattern : String} {request : PageRequest} (granted : request.Granted)
    (long : ¬ (Filter.titleLike pattern).Granted) {row : Row BookCells} (member : row ∈ store.books.rows)
    (examined : (TitleSearch.ofLike store pattern).examines row.cells.title = true) (extra : Nat) :
    findBooks store (.titleLike pattern) request extra = .error (.engine .patternTooComplex) := by
  have tooLong : (TitleSearch.ofLike store pattern).tooLong = true := decide_eq_true (Nat.not_le.mp long)
  have some_ : store.books.rows.any (fun row => (TitleSearch.ofLike store pattern).examines row.cells.title) = true :=
    List.any_eq_true.mpr ⟨row, member, examined⟩
  refine findBooks_of_select_error ?_ granted extra
  rw [Filter.select, TitleSearch.find, tooLong, some_]
  rfl

theorem countBooks_of_select {filter : Filter}
    (selected : filter.select store = .ok (store.books.rows.filter (filter.picks store))) :
    countBooks store filter = .ok (store.books.count (filter.picks store)) := by
  rw [countBooks, selected, Table.count, List.countP_eq_length_filter]
  rfl

theorem countBooks_eq (store : Store) {filter : Filter} (picked : filter.Granted) :
    countBooks store filter = .ok (store.books.count (filter.picks store)) :=
  countBooks_of_select (Filter.select_eq store picked)

theorem Readable.pageOf_of_select (readable : store.Readable) {filter : Filter}
    (selected : filter.select store = .ok (store.books.rows.filter (filter.picks store))) {request : PageRequest}
    (granted : request.Granted) :
    Books.pageOf store filter request =
      .ok ⟨(store.rowsOf filter request 0).map store.bookOf, request, store.books.count (filter.picks store)⟩ := by
  rw [Books.pageOf, readable.findBooks_of_select selected granted, countBooks_of_select selected]
  rfl

theorem Sound.pageOf_eq (sound : store.Sound) {filter : Filter} (picked : filter.Granted) {request : PageRequest}
    (granted : request.Granted) :
    Books.pageOf store filter request =
      .ok ⟨(store.rowsOf filter request 0).map store.bookOf, request, store.books.count (filter.picks store)⟩ :=
  sound.readable.pageOf_of_select (Filter.select_eq store picked) granted

theorem Sound.find?_review_eq (sound : store.Sound) (id : ReviewId) :
    Reviews.find? store id = .ok ((store.reviews.find? id).map Row.review) := by
  unfold Reviews.find?
  cases found : store.reviews.find? id with
  | none => rfl
  | some row =>
    simp only [sound.readable.toReview_eq (Table.find?_eq_some_iff.mp found).1]
    rfl

theorem Sound.ofBook_eq (sound : store.Sound) (book : BookId) : Reviews.ofBook store book = .ok (store.reviewsOf book) := by
  unfold Reviews.ofBook
  rw [mapM_eq_ok_map fun row member => sound.readable.toReview_eq (List.mem_filter.mp member).1]
  rfl

end Store

def Query.Granted : Query → Prop
  | page request | slice request | longerThan _ request => request.Granted
  | titleLike pattern request => (Filter.titleLike pattern).Granted ∧ request.Granted
  | countTitleLike pattern => (Filter.titleLike pattern).Granted
  | find _ | contains _ | count | all | review _ | reviewsOf _ | countReviews | countReviewsOf _ => True

theorem PageRequest.granted_unpaged : unpaged.Granted := ⟨by simp [unpaged, Sorting.unsorted], by decide, by decide, by decide⟩

theorem Store.Sound.answer_eq_ok {store : Store} (sound : store.Sound) {query : Query} (granted : query.Granted) :
    ∃ answer, query.answer store = .ok answer := by
  have everything : Filter.everything.Granted := trivial
  cases query with
  | find id => exact ⟨_, sound.find?_eq id⟩
  | contains id => exact ⟨_, rfl⟩
  | count => exact ⟨_, store.countBooks_eq everything⟩
  | all => exact ⟨_, sound.findBooks_eq everything PageRequest.granted_unpaged 0⟩
  | page request => exact ⟨_, sound.pageOf_eq everything granted⟩
  | slice request =>
    rw [Query.answer, Books.slice, sound.findBooks_eq everything granted]
    cases request.size with
    | none => exact ⟨_, rfl⟩
    | some size => exact ⟨_, rfl⟩
  | longerThan pages request =>
    have picked : (Filter.longerThan pages).Granted := trivial
    exact ⟨_, sound.findBooks_eq picked granted 0⟩
  | titleLike pattern request => exact ⟨_, sound.pageOf_eq granted.1 granted.2⟩
  | countTitleLike pattern => exact ⟨_, store.countBooks_eq granted⟩
  | review id => exact ⟨_, sound.find?_review_eq id⟩
  | reviewsOf book => exact ⟨_, sound.ofBook_eq book⟩
  | countReviews => exact ⟨_, rfl⟩
  | countReviewsOf book => exact ⟨_, rfl⟩

theorem Store.Sound.ready {store : Store} (sound : store.Sound) : store.checkReady = .ok () := by
  have version : store.version? = .ok Migration.latest := by
    rw [Store.version?, sound.userVersion]
    decide +kernel
  have books : store.checkRelation .books = .ok () := by
    rw [Store.checkRelation, sound.schema]
    decide +kernel
  have reviews : store.checkRelation .reviews = .ok () := by
    rw [Store.checkRelation, sound.schema]
    decide +kernel
  simp [Store.checkReady, version, books, reviews, bind, Except.bind]

/-- Whatever is done to a new database, failing calls among it: no id occurs twice, each lies between one and its
mark, no book is of negative length, each review belongs to a stored book, and each query is answered. -/
theorem consistent_after_operations {medium : Medium} {writing : Writing} {elapsed : Nat} {c : Connection}
    (opened : (openDatabase medium (.store .empty writing) elapsed).result = .ok c) (operations : List Operation) :
    let store := (Operation.performAll c operations).store
    (store.books.rows.map (·.id)).Nodup ∧ (store.reviews.rows.map (·.id)).Nodup ∧
      (∀ row ∈ store.books.rows, 1 ≤ row.id ∧ row.id ≤ store.books.mark ∧
        ∃ pages, row.cells.pages = .int pages ∧ 0 ≤ pages ∧ pages ≤ 0x7FFFFFFF) ∧
      (∀ row ∈ store.reviews.rows, 1 ≤ row.id ∧ row.id ≤ store.reviews.mark ∧
        ∃ book ∈ store.books.rows, row.cells.bookId = .int book.id) ∧
      store.checkReady = .ok () ∧ ∀ query : Query, query.Granted → ∃ answer, query.answer store = .ok answer := by
  intro store
  have sound : store.Sound := (Books.keep_sound.performAll operations (Reached.sound_opened opened)).store
  refine ⟨store.books.nodup_ids, store.reviews.nodup_ids, fun row member => ?_, fun row member => ?_, sound.ready,
    fun query granted => sound.answer_eq_ok granted⟩
  · obtain ⟨positive, book, cells, valid⟩ := sound.books row member
    have nonneg : 0 ≤ book.pages.toInt := by simpa [Int32.lt_iff_toInt_lt] using valid
    have below := book.pages.toInt_lt
    exact ⟨positive, store.books.le_mark row member, book.pages.toInt, by rw [cells]; rfl, nonneg, by omega⟩
  · obtain ⟨positive, review, owner, cells, owned⟩ := sound.reviews row member
    obtain ⟨book, found⟩ := Table.contains_iff_find?.mp owned
    obtain ⟨stored, rfl⟩ := Table.find?_eq_some_iff.mp found
    exact ⟨positive, store.reviews.le_mark row member, book, stored, by rw [cells]; rfl⟩

theorem consistent_after_three :
    (openDatabase .memory (.store .empty .allowed) 0).result = .ok (.on .fresh) ∧
      (Query.slice ⟨0, some 2, .on ⟨"title", .desc⟩⟩).Granted ∧
        ∃ answer, Query.answer (Operation.performAll (.on .fresh)
          [.write (.save (.withReviews "Dune" 412 [.new "Ann" "Vast"])), .write (.save ⟨some 5, "Emma", 474, []⟩),
            .write (.deleteById 7)]).store (.slice ⟨0, some 2, .on ⟨"title", .desc⟩⟩) = .ok answer := by
  have granted : (Query.slice ⟨0, some 2, .on ⟨"title", .desc⟩⟩).Granted :=
    ⟨by simp [Sorting.on], by decide, by decide, by decide⟩
  have opened := openDatabase_empty .memory 0
  exact ⟨opened, granted, (consistent_after_operations opened _).2.2.2.2.2 _ granted⟩

end Catalogue
