import Catalogue.Proofs.Paging
import Catalogue.Proofs.Sorting

/-! Which page requests are refused, and with what. The checks of a request look at nothing but the request, so all
queries refuse the same ones with the same error; and what they grant fits into the numbers that they count with. -/

set_option autoImplicit false

namespace Catalogue

namespace Sorting

variable {sorting : Sorting} {property : String}

theorem unknown?_eq_none_iff :
    sorting.unknown? = none ↔ ∀ term ∈ sorting.orders, term.property ∈ ["id", "title", "pages"] := by
  simp only [unknown?, List.find?_eq_none, List.forall_mem_map, decide_eq_true_eq, not_not]

theorem ofProperty?_eq_none_iff : SortColumn.ofProperty? property = none ↔ property ∉ ["id", "title", "pages"] := by
  unfold SortColumn.ofProperty?
  split <;> simp_all

theorem columnTerms_of_unknown {orders : List SortTerm} (unknown : unknown? ⟨orders⟩ = some property) :
    columnTerms orders = .error (.invalidSort property) := by
  induction orders with
  | nil => cases unknown
  | cons term rest ih =>
    rw [unknown?, List.map_cons, List.find?_cons] at unknown
    unfold columnTerms
    split at unknown
    · rename_i stranger
      obtain rfl := Option.some.inj unknown
      rw [ofProperty?_eq_none_iff.mpr (of_decide_eq_true stranger)]
    · rename_i known
      split
      · rename_i unnamed
        exact absurd (ofProperty?_eq_none_iff.mp unnamed) (of_decide_eq_false known)
      · rw [ih unknown]
        rfl

theorem resolve_of_unknown (unknown : sorting.unknown? = some property) :
    sorting.resolve = .error (.invalidSort property) := by
  rw [resolve, columnTerms_of_unknown unknown]
  rfl

end Sorting

namespace PageRequest

variable {request : PageRequest} {e : RepositoryError}

theorem windowFault?_eq_none_iff :
    request.windowFault? = none ↔ request.size ≠ some 0 ∧ request.offset ≤ IntRange.int64.high := by
  unfold windowFault?
  cases size : request.size with
  | none => simp [offset, size, IntRange.int64]
  | some size' =>
    simp only [ne_eq, Option.some.injEq, ← not_lt]
    split <;> simp_all

theorem invalidRequest_of_windowFault (fault : request.windowFault? = some e) :
    ∃ detail, e = .invalidRequest detail := by
  unfold windowFault? at fault
  split at fault
  · cases fault
  · split at fault
    · cases fault
      exact ⟨_, rfl⟩
    · split at fault <;> cases fault
      exact ⟨_, rfl⟩

theorem ofRequest_of_windowFault (fault : request.windowFault? = some e) (extra : Nat) :
    Window.ofRequest request extra = .error e := by
  unfold windowFault? at fault
  unfold Window.ofRequest
  cases size : request.size with
  | none => simp [size] at fault
  | some size' =>
    simp only [size] at fault ⊢
    by_cases zero : size' = 0
    · rw [if_pos zero] at fault ⊢
      rw [Option.some.inj fault]
    · rw [if_neg zero] at fault ⊢
      split at fault
      · rename_i beyond
        rw [if_neg (not_le.mpr beyond), Option.some.inj fault]
      · cases fault

theorem fault?_eq_none_iff : request.fault? = none ↔ request.sort.unknown? = none ∧ request.windowFault? = none := by
  rw [fault?, Option.or_eq_none_iff, Option.map_eq_none_iff]

theorem fault?_eq_invalidSort_iff {property : String} :
    request.fault? = some (.invalidSort property) ↔ request.sort.unknown? = some property := by
  rw [fault?, Option.or_eq_some_iff]
  constructor
  · rintro (sort | ⟨-, window⟩)
    · simpa using sort
    · obtain ⟨detail, other⟩ := invalidRequest_of_windowFault window
      cases other
  · exact fun unknown => .inl (congrArg (Option.map RepositoryError.invalidSort) unknown)

theorem exists_fault?_eq_invalidRequest_iff :
    (∃ detail, request.fault? = some (.invalidRequest detail)) ↔
      request.sort.unknown? = none ∧ (request.size = some 0 ∨ IntRange.int64.high < request.offset) := by
  have window : request.windowFault? ≠ none ↔ request.size = some 0 ∨ IntRange.int64.high < request.offset := by
    rw [ne_eq, windowFault?_eq_none_iff, not_and_or, not_not, not_le]
  rw [← window]
  constructor
  · rintro ⟨detail, fault⟩
    rw [fault?, Option.or_eq_some_iff] at fault
    rcases fault with sort | ⟨sort, within⟩
    · obtain ⟨property, -, other⟩ := Option.map_eq_some_iff.mp sort
      cases other
    · exact ⟨Option.map_eq_none_iff.mp sort, by simp [within]⟩
  · rintro ⟨sort, within⟩
    obtain ⟨e, fault⟩ := Option.ne_none_iff_exists'.mp within
    obtain ⟨detail, rfl⟩ := invalidRequest_of_windowFault fault
    exact ⟨detail, by rw [fault?, sort, fault]; rfl⟩

theorem granted_iff : request.Granted ↔ request.fault? = none ∧ request.sort.keys.length ≤ sortTermLimit := by
  rw [fault?_eq_none_iff, Sorting.unknown?_eq_none_iff, windowFault?_eq_none_iff]
  constructor
  · intro granted
    refine ⟨⟨granted.known, granted.sized, granted.offset⟩, ?_⟩
    simpa [Sorting.terms_eq granted.known] using granted.short
  · rintro ⟨⟨known, sized, offset⟩, short⟩
    exact ⟨known, by simpa [Sorting.terms_eq known] using short, sized, offset⟩

theorem fault_or_long_or_granted (request : PageRequest) :
    (∃ fault, request.fault? = some fault) ∨ (request.fault? = none ∧ sortTermLimit < request.sort.keys.length) ∨
      request.Granted := by
  cases found : request.fault? with
  | some fault => exact .inl ⟨fault, rfl⟩
  | none =>
    rcases Nat.lt_or_ge sortTermLimit request.sort.keys.length with long | short
    · exact .inr (.inl ⟨rfl, long⟩)
    · exact .inr (.inr (granted_iff.mpr ⟨found, short⟩))

end PageRequest

theorem Store.findBooks_of_fault {store : Store} {filter : Filter} {request : PageRequest} {e : RepositoryError}
    (fault : request.fault? = some e) (extra : Nat) : findBooks store filter request extra = .error e := by
  rw [PageRequest.fault?, Option.or_eq_some_iff] at fault
  rcases fault with sort | ⟨sort, window⟩
  · obtain ⟨property, unknown, rfl⟩ := Option.map_eq_some_iff.mp sort
    rw [findBooks, Sorting.resolve_of_unknown unknown]
    rfl
  · have known := Sorting.unknown?_eq_none_iff.mp (Option.map_eq_none_iff.mp sort)
    rw [findBooks, Sorting.resolve_eq known, PageRequest.ofRequest_of_windowFault window]
    rfl

theorem Store.findBooks_of_long {store : Store} {filter : Filter} {request : PageRequest}
    (none : request.fault? = none) (long : sortTermLimit < request.sort.keys.length) (extra : Nat) :
    findBooks store filter request extra = .error (.engine .tooManySortTerms) := by
  obtain ⟨sort, window⟩ := PageRequest.fault?_eq_none_iff.mp none
  have known := Sorting.unknown?_eq_none_iff.mp sort
  obtain ⟨sized, offset⟩ := PageRequest.windowFault?_eq_none_iff.mp window
  exact findBooks_tooManyTerms known sized offset (by rwa [Sorting.terms_eq known, List.length_map]) extra

namespace Selection

variable {store : Store} {request : PageRequest} {selection : Selection}

theorem books_of_findBooks_error {selection : Selection} {e : RepositoryError}
    (failed : ∀ extra, findBooks store selection.filter request extra = .error e) :
    selection.books store request = .error e := by
  cases selection with
  | slice =>
    have first : findBooks store .everything request 1 = .error e := failed 1
    rw [books, Books.slice, first]
    rfl
  | page =>
    have first : findBooks store .everything request 0 = .error e := failed 0
    rw [books, Books.page, Books.pageOf, first]
    rfl
  | longerThan pages => exact failed 0
  | titleLike pattern =>
    have first : findBooks store (.titleLike pattern) request 0 = .error e := failed 0
    rw [books, Books.titleLike, Books.pageOf, first]
    rfl

theorem books_of_granted (sound : store.Sound) (granted : request.Granted) (selection : Selection) :
    (∃ found, selection.books store request = .ok found) ∨
      ¬ selection.filter.Granted ∧ selection.books store request = .error (.engine .patternTooComplex) := by
  have paged (filter : Filter) : (∃ found, (Books.pageOf store filter request).map (·.content) = .ok found) ∨
      ¬ filter.Granted ∧
        (Books.pageOf store filter request).map (·.content) = .error (.engine .patternTooComplex) := by
    rcases sound.pageOf_counts filter granted with ⟨-, page, -, asked, -⟩ | ⟨long, refused, -⟩
    · rw [asked]
      exact .inl ⟨_, rfl⟩
    · rw [refused]
      exact .inr ⟨long, rfl⟩
  cases selection with
  | slice =>
    rw [books, sound.slice_eq granted]
    exact .inl ⟨_, rfl⟩
  | page => exact paged .everything
  | longerThan pages =>
    have picked : (Filter.longerThan pages).Granted := trivial
    exact .inl ⟨_, sound.findBooks_cut picked granted 0⟩
  | titleLike pattern => exact paged (.titleLike pattern)

/-- A request comes to its fault if it has one, and otherwise to books or to a refusal of the engine, which is due to
the length of the ordering or of the pattern. -/
theorem books_cases (sound : store.Sound) (request : PageRequest) (selection : Selection) :
    (∃ e, request.fault? = some e ∧ selection.books store request = .error e) ∨
    (request.fault? = none ∧ ∃ e, selection.books store request = .error (.engine e) ∧
      (sortTermLimit < request.sort.keys.length ∨ ¬ selection.filter.Granted)) ∨
    (request.Granted ∧ ∃ found, selection.books store request = .ok found) := by
  rcases request.fault_or_long_or_granted with ⟨fault, found⟩ | ⟨none, long⟩ | granted
  · exact .inl ⟨fault, found, books_of_findBooks_error fun extra => Store.findBooks_of_fault found extra⟩
  · exact .inr (.inl ⟨none, _, books_of_findBooks_error fun extra => Store.findBooks_of_long none long extra, .inl long⟩)
  · right
    rcases books_of_granted sound granted selection with found | ⟨long, refused⟩
    · exact .inr ⟨granted, found⟩
    · exact .inl ⟨(PageRequest.granted_iff.mp granted).1, _, refused, .inr long⟩

theorem books_eq_error_iff (sound : store.Sound) {e : RepositoryError} (own : ∀ cause, e ≠ .engine cause) :
    selection.books store request = .error e ↔ request.fault? = some e := by
  rcases books_cases sound request selection with
    ⟨e', fault, failed⟩ | ⟨none, cause, failed, -⟩ | ⟨granted, found, asked⟩
  · rw [failed, fault, Except.error.injEq, Option.some.injEq]
  · rw [failed, none]
    exact iff_of_false (fun same => own cause (Except.error.inj same).symm) (by simp)
  · rw [asked, (PageRequest.granted_iff.mp granted).1]
    exact iff_of_false (by simp) (by simp)

theorem books_eq_ok_iff (sound : store.Sound) (short : request.sort.keys.length ≤ sortTermLimit)
    (picked : selection.filter.Granted) :
    (∃ found, selection.books store request = .ok found) ↔ request.fault? = none := by
  rcases books_cases sound request selection with ⟨e, fault, failed⟩ | ⟨-, -, -, long | long⟩ | ⟨granted, asked⟩
  · rw [failed, fault]
    exact iff_of_false (by simp) (by simp)
  · exact absurd short (not_le.mpr long)
  · exact absurd picked long
  · exact iff_of_true asked (PageRequest.granted_iff.mp granted).1

end Selection

-- The product of two 32-bit numbers fits into 64 bits.
theorem PageRequest.offset_lt (request : PageRequest) : request.offset < 2 ^ 64 := by
  unfold offset
  split
  · rename_i size _
    calc request.number.toNat * size.toNat < 2 ^ 32 * 2 ^ 32 :=
          Nat.mul_lt_mul_of_lt_of_lt request.number.toNat_lt size.toNat_lt
      _ = 2 ^ 64 := by decide
  · decide

/-- The numbers that a request is asked with: the offset and the limit of its window, with a row past its end or
without, and the number of the page after it. -/
structure PageRequest.Fits (request : PageRequest) : Prop where
  offset : ∀ extra, (request.window extra).offset ≤ IntRange.int64.high
  limit : ∀ extra ≤ 1, ∀ limit ∈ (request.window extra).limit, (limit : Int) ≤ IntRange.int64.high
  number : request.number.toNat + 1 < 2 ^ 64

theorem PageRequest.Granted.fits {request : PageRequest} (granted : request.Granted) : request.Fits where
  offset _ := granted.offset
  limit extra one limit bounded := by
    obtain ⟨size, -, rfl⟩ := Option.map_eq_some_iff.mp bounded
    have := size.toNat_lt
    simp only [IntRange.int64]
    omega
  number := by
    have := request.number.toNat_lt
    omega

theorem Page.totalPages_le_totalSize {α : Type} (page : Page α) : page.totalPages ≤ page.totalSize := by
  unfold totalPages
  split
  · split
    · rename_i size _ positive
      have divided : page.totalSize ⌈/⌉ size.toNat ≤ page.totalSize :=
        (ceilDiv_le_iff_le_mul positive).mpr (Nat.le_mul_of_pos_left _ positive)
      exact divided
    · split <;> omega
  · split <;> omega

-- No more books are counted than ids were given out.
theorem Reached.totalSize_le {c : Connection} (reached : Reached c) {filter : Filter} {request : PageRequest}
    {page : Page Book} (asked : Books.pageOf c.store filter request = .ok page) :
    (page.totalSize : Int) ≤ IntRange.int64.high := by
  obtain ⟨content, -, rest⟩ := bind_eq_ok.mp asked
  obtain ⟨total, counted, same⟩ := bind_eq_ok.mp rest
  cases same
  have rows : total ≤ c.store.books.rows.length := by
    rw [countBooks, mapError_eq_ok, map_eq_ok] at counted
    obtain ⟨picked, selected, rfl⟩ := counted
    rcases Filter.select_eq_or c.store filter with whole | ⟨refused, -⟩
    · rw [Except.ok.inj (selected.symm.trans whole)]
      exact List.length_filter_le _ _
    · cases selected.symm.trans refused
  have marked := Table.length_le_mark fun row member => (reached.sound.store.books row member).1
  have inRange := reached.inRange.books
  dsimp only
  omega

namespace Books

/-- Whichever query a page request is made of, it is refused for the first property that books cannot be sorted by, or
else for a window that is none, and for nothing else but what is too long for the engine; and no number that it is
answered with is out of range. -/
theorem requests_judged_alike {c : Connection} (reached : Reached c) (request : PageRequest) (selection : Selection) :
    let answer := selection.books c.store request
    (∀ property, answer = .error (.invalidSort property) ↔ request.sort.unknown? = some property) ∧
    ((∃ detail, answer = .error (.invalidRequest detail)) ↔
      request.sort.unknown? = none ∧ (request.size = some 0 ∨ IntRange.int64.high < request.offset)) ∧
    (request.sort.keys.length ≤ sortTermLimit → selection.filter.Granted →
      ((∃ found, answer = .ok found) ↔
        request.sort.unknown? = none ∧ ¬ (request.size = some 0 ∨ IntRange.int64.high < request.offset))) ∧
    request.offset < 2 ^ 64 ∧ ((∃ found, answer = .ok found) → request.Fits) ∧
    ∀ page, pageOf c.store selection.filter request = .ok page →
      (page.totalSize : Int) ≤ IntRange.int64.high ∧ page.totalPages ≤ page.totalSize := by
  intro answer
  have sound := reached.sound.store
  refine ⟨fun property => ?_, ?_, fun short picked => ?_, request.offset_lt, fun asked => ?_,
    fun page asked => ⟨reached.totalSize_le asked, page.totalPages_le_totalSize⟩⟩
  · rw [Selection.books_eq_error_iff sound (by simp [RepositoryError.engine]), PageRequest.fault?_eq_invalidSort_iff]
  · rw [← PageRequest.exists_fault?_eq_invalidRequest_iff]
    exact exists_congr fun detail => Selection.books_eq_error_iff sound (by simp [RepositoryError.engine])
  · rw [Selection.books_eq_ok_iff sound short picked, PageRequest.fault?_eq_none_iff,
      PageRequest.windowFault?_eq_none_iff, not_or, not_lt]
  · obtain ⟨found, asked⟩ := asked
    rcases Selection.books_cases sound request selection with ⟨e, -, failed⟩ | ⟨-, e, failed, -⟩ | ⟨granted, -⟩
    · cases asked.symm.trans failed
    · cases asked.symm.trans failed
    · exact granted.fits

theorem requests_judged_alike_at_edges :
    let capital : PageRequest := ⟨0, some 0, ⟨[⟨"title", .asc⟩, ⟨"Pages", .desc⟩, ⟨"author", .asc⟩]⟩⟩
    let last := PageRequest.ofSize 0xFFFFFFFF 0xFFFFFFFF
    let middle := PageRequest.ofSize 0x80000000 0xFFFFFFFF
    Selection.slice.books Connection.sample.store capital = .error (.invalidSort "Pages") ∧
      (∃ detail, (Selection.titleLike "D%").books Connection.sample.store last = .error (.invalidRequest detail)) ∧
      (∃ found, (Selection.longerThan 400).books Connection.sample.store middle = .ok found) ∧ middle.Fits := by
  intro capital last middle
  obtain ⟨sort, -⟩ := requests_judged_alike reached_sample capital .slice
  obtain ⟨-, window, -⟩ := requests_judged_alike reached_sample last (.titleLike "D%")
  obtain ⟨-, -, accepted, -, fits, -⟩ := requests_judged_alike reached_sample middle (.longerThan 400)
  have found := (accepted (by decide) trivial).mpr ⟨by decide, by decide⟩
  exact ⟨(sort "Pages").mpr (by decide), window.mpr ⟨by decide, by decide⟩, found, fits found⟩

end Books

end Catalogue
