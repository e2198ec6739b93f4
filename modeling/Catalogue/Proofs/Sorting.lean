import Catalogue.Page.Meaning
import Catalogue.Proofs.Searching
import Catalogue.Proofs.TextOrder
import Catalogue.Proofs.Windows

/-! The order of a query's books. The terms of a request make a strict order of books of distinct ids, in which one
list alone holds given books; so what a query finds depends on the stored books and on nothing else, and terms that
decide nothing may be left out. -/

set_option autoImplicit false

namespace Catalogue

/-! ## Books under the terms of an ordering -/

namespace SortTerm

/-- A term that comes too late to tell books apart: its property was compared before, or the id was. -/
def RedundantAfter (term : SortTerm) (earlier : List SortTerm) : Prop :=
  ∃ other ∈ earlier, other.property = term.property ∨ other.property = "id"

instance transCmp_tied : Std.TransCmp fun _ _ : Book => Ordering.eq where
  eq_swap := rfl
  isLE_trans _ _ := rfl

instance transCmp_ascending (property : String) : Std.TransCmp (ascending property) := by
  unfold ascending
  split <;> infer_instance

instance transCmp_compare (term : SortTerm) : Std.TransCmp term.compare := by
  unfold compare
  cases term.direction
  · exact transCmp_ascending term.property
  · exact inferInstanceAs (Std.TransCmp fun a b => ascending term.property b a)

instance transCmp_lexicographic (terms : List SortTerm) : Std.TransCmp (lexicographic terms) := by
  induction terms with
  | nil => exact transCmp_tied
  | cons term rest ih =>
    have := ih
    exact inferInstanceAs (Std.TransCmp (compareLex term.compare (lexicographic rest)))

theorem lexicographic_cons (term : SortTerm) (rest : List SortTerm) (a b : Book) :
    lexicographic (term :: rest) a b = (term.compare a b).then (lexicographic rest a b) := rfl

theorem lexicographic_append (earlier later : List SortTerm) (a b : Book) :
    lexicographic (earlier ++ later) a b = (lexicographic earlier a b).then (lexicographic later a b) := by
  induction earlier with
  | nil => rfl
  | cons term rest ih => rw [List.cons_append, lexicographic_cons, lexicographic_cons, ih, Ordering.then_assoc]

theorem compare_eq_eq_iff {term : SortTerm} {a b : Book} :
    term.compare a b = .eq ↔ ascending term.property a b = .eq := by
  unfold compare
  cases term.direction with
  | asc => rfl
  | desc =>
    change ascending term.property b a = .eq ↔ _
    exact Std.OrientedCmp.eq_comm

-- Books that tie under terms tie under each of them.
theorem ascending_eq_eq {terms : List SortTerm} {a b : Book} (tie : lexicographic terms a b = .eq) {term : SortTerm}
    (member : term ∈ terms) : ascending term.property a b = .eq := by
  induction terms with
  | nil => cases member
  | cons first rest ih =>
    obtain ⟨head, tail⟩ := Ordering.then_eq_eq.mp tie
    rcases List.mem_cons.mp member with rfl | later
    · exact compare_eq_eq_iff.mp head
    · exact ih tail later

theorem ascending_id_eq_eq_iff {a b : Book} : ascending "id" a b = .eq ↔ a.id.getD 0 = b.id.getD 0 :=
  Std.LawfulEqOrd.compare_eq_iff_eq

/-- Between books of distinct ids, a term that comes too late makes no difference. -/
theorem lexicographic_drop {earlier : List SortTerm} {term : SortTerm} (redundant : term.RedundantAfter earlier)
    (later : List SortTerm) {a b : Book} (distinct : a.id.getD 0 ≠ b.id.getD 0) :
    lexicographic (earlier ++ term :: later) a b = lexicographic (earlier ++ later) a b := by
  rw [lexicographic_append, lexicographic_append, lexicographic_cons]
  cases before : lexicographic earlier a b with
  | lt | gt => rfl
  | eq =>
    obtain ⟨other, member, same | identity⟩ := redundant
    · have tie : term.compare a b = .eq := compare_eq_eq_iff.mpr (same ▸ ascending_eq_eq before member)
      rw [tie]
      rfl
    · have tie := identity ▸ ascending_eq_eq before member
      exact absurd (ascending_id_eq_eq_iff.mp tie) distinct

end SortTerm

namespace Sorting

structure Allowed (sorting : Sorting) : Prop where
  known : ∀ term ∈ sorting.orders, term.property ∈ ["id", "title", "pages"]
  short : sorting.keys.length ≤ sortTermLimit

theorem exists_id_mem_keys (sorting : Sorting) : ∃ term ∈ sorting.keys, term.property = "id" := by
  unfold keys
  split
  · rename_i named
    simpa using named
  · exact ⟨⟨"id", .asc⟩, by simp, rfl⟩

instance transCmp_compare (sorting : Sorting) : Std.TransCmp sorting.compare :=
  SortTerm.transCmp_lexicographic sorting.keys

theorem compare_ne_eq (sorting : Sorting) {a b : Book} (distinct : a.id.getD 0 ≠ b.id.getD 0) :
    sorting.compare a b ≠ .eq := by
  intro tie
  obtain ⟨term, member, named⟩ := sorting.exists_id_mem_keys
  have same := SortTerm.ascending_eq_eq tie member
  rw [named] at same
  exact distinct (SortTerm.ascending_id_eq_eq_iff.mp same)

-- Whether the id is added at the end does not change when a term that comes too late is left out.
theorem keys_drop {earlier : List SortTerm} {term : SortTerm} (redundant : term.RedundantAfter earlier)
    (later : List SortTerm) : ∃ rest, (⟨earlier ++ term :: later⟩ : Sorting).keys = earlier ++ term :: rest ∧
      (⟨earlier ++ later⟩ : Sorting).keys = earlier ++ rest := by
  have named : term.property = "id" → ∃ other ∈ earlier, other.property = "id" := by
    intro identity
    obtain ⟨other, member, same | identity'⟩ := redundant
    · exact ⟨other, member, same.trans identity⟩
    · exact ⟨other, member, identity'⟩
  have same : (earlier ++ term :: later).any (·.property == "id") = (earlier ++ later).any (·.property == "id") := by
    rw [Bool.eq_iff_iff]
    simp only [List.any_append, List.any_cons, Bool.or_eq_true, List.any_eq_true, beq_iff_eq]
    grind
  unfold keys
  rw [same]
  split
  · exact ⟨later, rfl, rfl⟩
  · exact ⟨later ++ [⟨"id", .asc⟩], by simp, by simp⟩

theorem compare_drop {earlier later : List SortTerm} {term : SortTerm} (redundant : term.RedundantAfter earlier)
    {a b : Book} (distinct : a.id.getD 0 ≠ b.id.getD 0) :
    (⟨earlier ++ term :: later⟩ : Sorting).compare a b = (⟨earlier ++ later⟩ : Sorting).compare a b := by
  obtain ⟨rest, keys, keys'⟩ := keys_drop redundant later
  rw [compare, compare, keys, keys', SortTerm.lexicographic_drop redundant rest distinct]

theorem Allowed.drop {earlier later : List SortTerm} {term : SortTerm}
    (allowed : (⟨earlier ++ term :: later⟩ : Sorting).Allowed) (redundant : term.RedundantAfter earlier) :
    (⟨earlier ++ later⟩ : Sorting).Allowed := by
  obtain ⟨rest, keys, keys'⟩ := keys_drop redundant later
  refine ⟨fun other member => allowed.known other ?_, ?_⟩
  · rcases List.mem_append.mp member with before | after
    · exact List.mem_append_left _ before
    · exact List.mem_append_right _ (List.mem_cons_of_mem _ after)
  · have short := allowed.short
    rw [keys, List.length_append, List.length_cons] at short
    rw [keys', List.length_append]
    omega

theorem known_keys {sorting : Sorting} (known : ∀ term ∈ sorting.orders, term.property ∈ ["id", "title", "pages"]) :
    ∀ term ∈ sorting.keys, term.property ∈ ["id", "title", "pages"] := by
  unfold keys
  split
  · exact known
  · exact List.forall_mem_append.mpr ⟨known, by simp⟩

theorem terms_eq {sorting : Sorting} (known : ∀ term ∈ sorting.orders, term.property ∈ ["id", "title", "pages"]) :
    sorting.terms = sorting.keys.map SortTerm.columnTerm := by
  have named : (sorting.orders.map SortTerm.columnTerm).any (·.column == .id) =
      sorting.orders.any (·.property == "id") := by
    rw [List.any_map, Bool.eq_iff_iff, List.any_eq_true, List.any_eq_true]
    refine exists_congr fun term => and_congr_right fun member => ?_
    have property := known term member
    simp only [List.mem_cons, List.not_mem_nil, or_false] at property
    rcases property with property | property | property <;>
      simp [SortTerm.columnTerm, SortColumn.ofProperty?, property]
  unfold terms keys
  simp only [named]
  split
  · rfl
  · simp [SortTerm.columnTerm, SortColumn.ofProperty?]

end Sorting

namespace Store

variable {store : Store} {filter : Filter} {sort : Sorting}

theorem mem_sorted_iff {book : Book} :
    book ∈ store.sorted filter sort ↔
      ∃ row ∈ store.books.rows, filter.picks store row = true ∧ store.bookOf row = book := by
  rw [(store.sorted_perm filter sort).mem_iff]
  simp only [List.mem_map, List.mem_filter, and_assoc]

theorem nodup_sorted (store : Store) (filter : Filter) (sort : Sorting) :
    ((store.sorted filter sort).map (·.id)).Nodup := by
  have distinct := (store.nodup_rowsOf filter (PageRequest.unpaged.withSort sort) 0).map (Option.some_injective _)
  rw [rowsOf_whole rfl, List.map_map] at distinct
  rw [sorted, List.map_map]
  exact distinct

-- Stored books have ids, so books of one number are one book.
theorem pairwise_sorted_ids (store : Store) (filter : Filter) (sort : Sorting) :
    (store.sorted filter sort).Pairwise fun a b => a.id.getD 0 ≠ b.id.getD 0 := by
  refine (List.pairwise_map.mp (store.nodup_sorted filter sort)).imp_of_mem fun first second distinct same => ?_
  obtain ⟨_, -, -, rfl⟩ := mem_sorted_iff.mp first
  obtain ⟨_, -, -, rfl⟩ := mem_sorted_iff.mp second
  exact distinct (congrArg some same)

namespace Readable

theorem cells_eq (readable : store.Readable) {row : Row BookCells} (member : row ∈ store.books.rows) :
    row.cells = (store.bookOf row).cells := by
  obtain ⟨book, cells, -⟩ := readable.books row member
  obtain ⟨id, _⟩ := row
  subst cells
  rw [bookOf, Row.book_of_cells]
  rfl

theorem columnTerm_compare_eq (readable : store.Readable) {term : SortTerm}
    (known : term.property ∈ ["id", "title", "pages"]) {a b : Row BookCells} (first : a ∈ store.books.rows)
    (second : b ∈ store.books.rows) :
    term.columnTerm.compare a b = term.compare (store.bookOf a) (store.bookOf b) := by
  have column {a b : Row BookCells} (first : a ∈ store.books.rows) (second : b ∈ store.books.rows) :
      term.columnTerm.column.compare a b = SortTerm.ascending term.property (store.bookOf a) (store.bookOf b) := by
    simp only [List.mem_cons, List.not_mem_nil, or_false] at known
    rcases known with named | named | named
    all_goals simp only [SortTerm.columnTerm, named, SortColumn.ofProperty?, Option.getD_some, SortColumn.compare,
      SortTerm.ascending, compareOn]
    · rfl
    · rw [readable.cells_eq first, readable.cells_eq second]
      exact Cell.compare_text _ _
    · rw [readable.cells_eq first, readable.cells_eq second]
      rfl
  unfold ColumnTerm.compare SortTerm.compare
  rw [column first second]
  cases term with
  | mk property direction =>
    cases direction with
    | asc => rfl
    | desc => exact Std.OrientedCmp.eq_swap.symm

theorem compareAll_eq (readable : store.Readable) {terms : List SortTerm}
    (known : ∀ term ∈ terms, term.property ∈ ["id", "title", "pages"]) {a b : Row BookCells}
    (first : a ∈ store.books.rows) (second : b ∈ store.books.rows) :
    ColumnTerm.compareAll (terms.map SortTerm.columnTerm) a b =
      SortTerm.lexicographic terms (store.bookOf a) (store.bookOf b) := by
  induction terms with
  | nil => rfl
  | cons term rest ih =>
    obtain ⟨head, tail⟩ := List.forall_mem_cons.mp known
    rw [List.map_cons, ColumnTerm.compareAll, SortTerm.lexicographic_cons,
      readable.columnTerm_compare_eq head first second, ih tail]

theorem sorted_eq_mergeSort (readable : store.Readable)
    (known : ∀ term ∈ sort.orders, term.property ∈ ["id", "title", "pages"]) (filter : Filter) :
    store.sorted filter sort = ((store.books.rows.filter (filter.picks store)).map store.bookOf).mergeSort
      fun a b => (sort.compare a b).isLE := by
  refine List.map_mergeSort fun a first b second => ?_
  rw [Sorting.terms_eq known, readable.compareAll_eq (Sorting.known_keys known) (List.mem_filter.mp first).1
    (List.mem_filter.mp second).1]
  rfl

theorem pairwise_sorted (readable : store.Readable)
    (known : ∀ term ∈ sort.orders, term.property ∈ ["id", "title", "pages"]) (filter : Filter) :
    (store.sorted filter sort).Pairwise fun a b => sort.compare a b = .lt := by
  have ascending : (store.sorted filter sort).Pairwise fun a b => (sort.compare a b).isLE = true := by
    rw [readable.sorted_eq_mergeSort known]
    refine List.pairwise_mergeSort (fun a b c => Std.TransCmp.isLE_trans) (fun a b => ?_) _
    have reversed : sort.compare b a = (sort.compare a b).swap := Std.OrientedCmp.eq_swap
    rw [reversed]
    cases sort.compare a b <;> rfl
  refine (ascending.and (store.pairwise_sorted_ids filter sort)).imp fun {a b} below => ?_
  have apart := sort.compare_ne_eq below.2
  cases order : sort.compare a b with
  | lt => rfl
  | eq => exact absurd order apart
  | gt =>
    rw [order] at below
    cases below.1

end Readable

end Store

theorem Sorting.eq_of_pairwise {sort : Sorting} {books others : List Book}
    (increasing : books.Pairwise fun a b => sort.compare a b = .lt)
    (increasing' : others.Pairwise fun a b => sort.compare a b = .lt)
    (same : ∀ book, book ∈ others ↔ book ∈ books) : others = books := by
  have irrefl : Std.Irrefl fun a b => sort.compare a b = .lt := ⟨fun a below => by
    rw [(Std.ReflCmp.compare_self : sort.compare a a = .eq)] at below
    cases below⟩
  have antisymm : Std.Antisymm fun a b => sort.compare a b = .lt := ⟨fun a b below above => by
    rw [(Std.OrientedCmp.eq_swap : sort.compare b a = (sort.compare a b).swap), below] at above
    cases above⟩
  exact increasing'.eq_of_mem_iff increasing same

theorem Store.Readable.sorted_drop {store : Store} (readable : store.Readable) {earlier later : List SortTerm}
    {term : SortTerm}
    (known : ∀ other ∈ earlier ++ term :: later, other.property ∈ ["id", "title", "pages"])
    (redundant : term.RedundantAfter earlier) {filter : Filter} :
    store.sorted filter ⟨earlier ++ term :: later⟩ = store.sorted filter ⟨earlier ++ later⟩ := by
  have known' : ∀ other ∈ earlier ++ later, other.property ∈ ["id", "title", "pages"] := fun other member =>
    known other (by simp only [List.mem_append, List.mem_cons] at member ⊢; tauto)
  have increasing : (store.sorted filter ⟨earlier ++ term :: later⟩).Pairwise fun a b =>
      (⟨earlier ++ term :: later⟩ : Sorting).compare a b = .lt := readable.pairwise_sorted known filter
  refine (Sorting.eq_of_pairwise increasing ?_ fun book => by rw [mem_sorted_iff, mem_sorted_iff]).symm
  refine ((readable.pairwise_sorted known' filter).and (store.pairwise_sorted_ids filter _)).imp fun below => ?_
  rw [Sorting.compare_drop redundant below.2]
  exact below.1

/-! ## The queries that are answered with books in an order -/

inductive Selection where
  | slice
  | page
  | longerThan (pages : Int32)
  | titleLike (pattern : String)
  deriving DecidableEq, Repr

namespace Selection

variable {store : Store} {request : PageRequest}

def filter : Selection → Filter
  | slice | page => .everything
  | longerThan pages => .longerThan pages
  | titleLike pattern => .titleLike pattern

def books (store : Store) (request : PageRequest) : Selection → Except RepositoryError (List Book)
  | slice => (Books.slice store request).map (·.content)
  | page => (Books.page store request).map (·.content)
  | longerThan pages => Books.longerThan store pages request
  | titleLike pattern => (Books.titleLike store pattern request).map (·.content)

/-- The rows that a query is about. A pattern and a title end at their first NUL, and only an index on the titles
tells the characters at the beginning of a title apart that matching does not. -/
def Matches (store : Store) : Selection → Row BookCells → Prop
  | slice, _ | page, _ => True
  | longerThan pages, row => pages < (store.bookOf row).pages
  | titleLike pattern, row =>
    let pattern := Like.ended pattern
    let title := Text.ended (store.bookOf row).title
    if (store.schema.index? "idx_books_title").isSome then Like.Finds pattern title
    else Like.Admits (pattern.toList.map Cell.seen) (title.toList.map Cell.seen)

theorem matches_iff (readable : store.Readable) (selection : Selection) {row : Row BookCells}
    (member : row ∈ store.books.rows) : selection.filter.picks store row = true ↔ selection.Matches store row := by
  cases selection with
  | slice => exact iff_of_true rfl trivial
  | page => exact iff_of_true rfl trivial
  | longerThan pages =>
    change (row.cells.pages.compare (.int pages.toInt)).isGT = true ↔ pages < (store.bookOf row).pages
    rw [readable.cells_eq member, Ordering.isGT_iff_eq_gt, Int32.lt_iff_toInt_lt]
    exact compare_gt_iff_gt
  | titleLike pattern =>
    have title : row.cells.title = .text (store.bookOf row).title := congrArg BookCells.title (readable.cells_eq member)
    have searched : TitleSearch.ofLike store pattern =
        .byLike (store.schema.index? "idx_books_title").isSome pattern := rfl
    rw [filter, Filter.picks, searched, title]
    simp only [Matches]
    split
    · rename_i indexed
      rw [indexed, TitleSearch.holds_indexed]
    · rename_i bare
      rw [TitleSearch.holds_byLike]
      exact and_iff_right fun indexed => absurd indexed bare

theorem all_eq (store : Store) : Books.all store = page.books store .unpaged := by
  rw [Books.all, books, Books.page, Books.pageOf]
  cases findBooks store .everything .unpaged 0 <;> rfl

theorem granted_of_allowed (whole : request.size = none) (allowed : request.sort.Allowed) : request.Granted := by
  refine ⟨allowed.known, ?_, by simp [whole], by simp [PageRequest.offset, whole, IntRange.int64]⟩
  rw [Sorting.terms_eq allowed.known, List.length_map]
  exact allowed.short

theorem books_of_select (readable : store.Readable) {selection : Selection}
    (selected : selection.filter.select store = .ok (store.books.rows.filter (selection.filter.picks store)))
    (whole : request.size = none) (allowed : request.sort.Allowed) :
    selection.books store request = .ok (store.sorted selection.filter request.sort) := by
  have granted := granted_of_allowed whole allowed
  have found (extra : Nat) :
      findBooks store selection.filter request extra = .ok (store.sorted selection.filter request.sort) := by
    rw [readable.findBooks_of_select selected granted, Store.rowsOf_whole whole]
    rfl
  have paged := readable.pageOf_of_select selected granted
  rw [Store.rowsOf_whole whole] at paged
  cases selection with
  | slice =>
    have found : findBooks store .everything request 1 = .ok (store.sorted .everything request.sort) := found 1
    rw [books, Books.slice, found, whole]
    rfl
  | page => exact congrArg (Except.map (·.content)) paged
  | longerThan pages => exact found 0
  | titleLike pattern => exact congrArg (Except.map (·.content)) paged

theorem books_of_select_error {selection : Selection}
    (refused : selection.filter.select store = .error .patternTooComplex) (long : ¬ selection.filter.Granted)
    (granted : request.Granted) : selection.books store request = .error (.engine .patternTooComplex) := by
  cases selection with
  | slice => exact absurd trivial long
  | page => exact absurd trivial long
  | longerThan pages => exact absurd trivial long
  | titleLike pattern =>
    have failed : findBooks store (.titleLike pattern) request 0 = .error (.engine .patternTooComplex) :=
      Store.findBooks_of_select_error refused granted 0
    rw [books, Books.titleLike, Books.pageOf, failed]
    rfl

/-- What a query finds depends on the rows of the store, and on whether its titles are indexed. -/
theorem books_congr {other : Store} (books : other.books.rows = store.books.rows)
    (reviews : other.reviews.rows = store.reviews.rows) (schema : other.schema = store.schema) (selection : Selection) :
    selection.books other request = selection.books store request := by
  have selected (filter : Filter) : filter.select other = filter.select store := by
    cases filter <;> simp only [Filter.select, TitleSearch.ofLike, books, schema]
  have attached (found : List Book) : attachReviews other found = attachReviews store found := by
    have read (ids : List BookId) : reviewsOfAll other ids = reviewsOfAll store ids := by
      simp only [reviewsOfAll, reviews]
    simp only [attachReviews, funext read]
  have found (filter : Filter) (extra : Nat) :
      findBooks other filter request extra = findBooks store filter request extra := by
    simp only [findBooks, selectRows, selected, attached]
  cases selection <;>
    simp only [Selection.books, Books.slice, Books.page, Books.longerThan, Books.titleLike, Books.pageOf, countBooks,
      found, selected]

end Selection

/-- Whatever it is ordered by, a query without a size finds exactly the books that it is about, each once, and in a
strict order, in which no other list holds them. So it finds the same in any store with the same rows, and the same
without a term whose property was compared before, or the id was. Only a pattern that is too long is refused. -/
theorem Books.sorting_is_canonical {store : Store} (readable : store.Readable) {request : PageRequest}
    (whole : request.size = none) (allowed : request.sort.Allowed) (selection : Selection) :
    Books.all store = Selection.page.books store .unpaged ∧
    ((∃ found, selection.books store request = .ok found ∧
      (found.map (·.id)).Nodup ∧
      (∀ book, book ∈ found ↔ ∃ row ∈ store.books.rows, selection.Matches store row ∧ store.bookOf row = book) ∧
      (found.Pairwise fun a b => request.sort.compare a b = .lt) ∧
      (∀ others : List Book, (∀ book, book ∈ others ↔ book ∈ found) →
        (others.Pairwise fun a b => request.sort.compare a b = .lt) → others = found) ∧
      (∀ earlier term later, request.sort.orders = earlier ++ term :: later → term.RedundantAfter earlier →
        selection.books store (request.withSort ⟨earlier ++ later⟩) = .ok found) ∧
      ∀ other : Store, (∀ row, row ∈ other.books.rows ↔ row ∈ store.books.rows) →
        other.reviews.rows = store.reviews.rows → other.schema = store.schema →
          selection.books other request = .ok found) ∨
    ¬ selection.filter.Granted ∧ selection.books store request = .error (.engine .patternTooComplex)) := by
  refine ⟨Selection.all_eq store, ?_⟩
  rcases Filter.select_eq_or store selection.filter with selected | ⟨refused, long⟩
  · left
    have increasing := readable.pairwise_sorted allowed.known selection.filter
    have asked := Selection.books_of_select readable selected whole allowed
    refine ⟨_, asked, store.nodup_sorted _ _, fun book => ?_, increasing,
      fun others same increasing' => Sorting.eq_of_pairwise increasing increasing' same, ?_, ?_⟩
    · rw [Store.mem_sorted_iff]
      exact exists_congr fun row => and_congr_right fun member =>
        and_congr_left' (selection.matches_iff readable member)
    · intro earlier term later orders redundant
      have sort : request.sort = ⟨earlier ++ term :: later⟩ := congrArg Sorting.mk orders
      rw [sort] at allowed
      have dropped : selection.books store (request.withSort ⟨earlier ++ later⟩) =
          .ok (store.sorted selection.filter ⟨earlier ++ later⟩) :=
        Selection.books_of_select readable selected whole (allowed.drop redundant)
      rw [dropped, sort, readable.sorted_drop allowed.known redundant]
    · intro other same reviews schema
      rw [Selection.books_congr (Table.rows_ext other.books.ascending store.books.ascending same) reviews schema, asked]
  · exact .inr ⟨long, Selection.books_of_select_error refused long (Selection.granted_of_allowed whole allowed)⟩

/-- A store in which two books have one title, and one book an id below all that are given out. -/
def Store.tied : Store :=
  { Store.fresh with
    books := {
      rows := [⟨-3, (Book.new "Emma" 474).cells⟩, ⟨1, (Book.new "Dune" 412).cells⟩, ⟨2, (Book.new "Emma" 300).cells⟩]
      mark := 2
      ascending := by simp
      le_mark := by simp
      mark_nonneg := by decide } }

theorem Books.sorting_is_canonical_amid_ties :
    let orders : List SortTerm := [⟨"title", .desc⟩, ⟨"title", .asc⟩, ⟨"id", .desc⟩, ⟨"pages", .asc⟩]
    Store.tied.Readable ∧ (⟨orders⟩ : Sorting).Allowed ∧
      ∃ found, Selection.slice.books .tied (PageRequest.unpaged.withSort ⟨orders⟩) = .ok found ∧
        Selection.slice.books .tied (PageRequest.unpaged.withSort ⟨[⟨"title", .desc⟩, ⟨"id", .desc⟩, ⟨"pages", .asc⟩]⟩) =
          .ok found ∧
        found = [⟨some 2, "Emma", 300, []⟩, ⟨some (-3), "Emma", 474, []⟩, ⟨some 1, "Dune", 412, []⟩] := by
  intro orders
  have readable : Store.tied.Readable := by
    refine ⟨?_, List.forall_mem_nil _⟩
    simp only [Store.tied, List.forall_mem_cons]
    exact ⟨⟨_, rfl, by decide⟩, ⟨_, rfl, by decide⟩, ⟨_, rfl, by decide⟩, List.forall_mem_nil _⟩
  have allowed : (⟨orders⟩ : Sorting).Allowed := ⟨by decide, by decide⟩
  have whole : (PageRequest.unpaged.withSort ⟨orders⟩).size = none := rfl
  rcases (Books.sorting_is_canonical readable whole allowed .slice).2 with
    ⟨found, asked, -, members, -, only, drop, -⟩ | ⟨long, -⟩
  · refine ⟨readable, allowed, found, asked, ?_, ?_⟩
    · exact drop [⟨"title", .desc⟩] ⟨"title", .asc⟩ _ rfl ⟨_, List.mem_singleton_self _, .inl rfl⟩
    · refine (only _ (fun book => ?_) (by decide +kernel)).symm
      have stored : Store.tied.books.rows.map Store.tied.bookOf =
          [⟨some (-3), "Emma", 474, []⟩, ⟨some 1, "Dune", 412, []⟩, ⟨some 2, "Emma", 300, []⟩] := by decide +kernel
      have found : book ∈ Store.tied.books.rows.map Store.tied.bookOf ↔ book ∈ found := by
        rw [members, List.mem_map]
        exact exists_congr fun row => and_congr_right fun _ => (iff_of_eq (true_and _)).symm
      rw [← found, stored]
      simp only [List.mem_cons, List.not_mem_nil, or_false]
      tauto
  · exact absurd trivial long

end Catalogue
