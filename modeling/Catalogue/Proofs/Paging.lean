import Mathlib.Data.Int.Interval
import Catalogue.Proofs.Marks
import Catalogue.Proofs.Windows

/-! Asking for one page after another. The pages of a query are windows of one sorted list that lie side by side, and
each answer knows whether its window is the last, so who asks on visits the list once from end to end and stops. -/

set_option autoImplicit false

namespace Catalogue

/-- A page knows whether more follows, as a slice does. -/
def Page.toSlice {α : Type} (page : Page α) : Slice α := ⟨page.content, page.request, page.hasNext⟩

/-- Asking for the page after each answer until nothing follows: the answers, none of which is an error. -/
inductive Follows {ε α : Type} (ask : PageRequest → Except ε (Slice α)) : PageRequest → List (Slice α) → Prop where
  | last {request : PageRequest} {slice : Slice α} : ask request = .ok slice → slice.hasNext = false →
      Follows ask request [slice]
  | next {request : PageRequest} {slice : Slice α} {rest : List (Slice α)} : ask request = .ok slice →
      slice.hasNext = true → Follows ask slice.request.next rest → Follows ask request (slice :: rest)

def PageRequest.nth (size : UInt32) (sort : Sorting) (number : Nat) : PageRequest :=
  (ofSize (UInt32.ofNat number) size).withSort sort

def Slice.ofWindow {α : Type} (xs : List α) (size : UInt32) (sort : Sorting) (number : Nat) : Slice α where
  content := (xs.drop (number * size.toNat)).take size.toNat
  request := .nth size sort number
  hasNext := (number + 1) * size.toNat < xs.length

theorem flatten_windows {α : Type} (xs : List α) (size count : Nat) :
    ((List.range count).map fun number => (xs.drop (number * size)).take size).flatten = xs.take (count * size) := by
  induction count with
  | zero => simp
  | succ count ih =>
    rw [List.range_succ, List.map_append, List.flatten_append, ih, Nat.succ_mul, List.take_add]
    simp

theorem PageRequest.next_nth (size : UInt32) (sort : Sorting) {number : Nat} (below : number + 1 < 2 ^ 32) :
    (nth size sort number).next = nth size sort (number + 1) := by
  have inner : UInt32.ofNat number ≠ 0xFFFFFFFF := by
    intro same
    have := congrArg UInt32.toNat same
    rw [UInt32.toNat_ofNat_of_lt' (by simp only [UInt32.size]; omega)] at this
    simp at this
    omega
  simp [nth, next, isUnpaged, withSort, ofSize, inner, UInt32.ofNat_add]

theorem PageRequest.offset_nth (size : UInt32) (sort : Sorting) {number : Nat} (below : number < 2 ^ 32) :
    (nth size sort number).offset = number * size.toNat := by
  simp only [nth, offset, ofSize, withSort]
  rw [UInt32.toNat_ofNat_of_lt' below]

namespace Follows

variable {ε α : Type} {ask : PageRequest → Except ε (Slice α)} {request : PageRequest} {slices slices' : List (Slice α)}

-- The answers decide how the asking goes on, and when it stops.
theorem unique (first : Follows ask request slices) (second : Follows ask request slices') : slices = slices' := by
  induction first generalizing slices' with
  | last asked ends =>
    cases second with
    | last asked' _ => rw [Except.ok.inj (asked.symm.trans asked')]
    | next asked' continues _ =>
      rw [Except.ok.inj (asked.symm.trans asked')] at ends
      exact absurd continues (by rw [ends]; decide)
  | next asked continues _ ih =>
    cases second with
    | last asked' ends =>
      rw [Except.ok.inj (asked.symm.trans asked')] at continues
      exact absurd continues (by rw [ends]; decide)
    | next asked' _ rest =>
      obtain rfl := Except.ok.inj (asked.symm.trans asked')
      rw [ih rest]

variable {xs : List α} {size : UInt32} {sort : Sorting} {count : Nat}

-- By induction on how many windows are left. No number is passed over at the end, for there are no more windows
-- than numbers.
theorem windows_from (numbers : count ≤ 2 ^ 32)
    (asked : ∀ number < count, ask (.nth size sort number) = .ok (.ofWindow xs size sort number))
    (continues : ∀ number < count, (Slice.ofWindow xs size sort number).hasNext = true ↔ number + 1 < count)
    (left : Nat) {number : Nat} (reaches : number + left + 1 = count) :
    Follows ask (.nth size sort number) ((List.range' number (left + 1)).map (Slice.ofWindow xs size sort)) := by
  induction left generalizing number with
  | zero =>
    refine .last (asked number (by omega)) ?_
    rw [← Bool.not_eq_true, continues number (by omega)]
    omega
  | succ left ih =>
    rw [List.range'_succ, List.map_cons]
    refine .next (asked number (by omega)) ((continues number (by omega)).mpr (by omega)) ?_
    rw [Slice.ofWindow, PageRequest.next_nth size sort (by omega)]
    exact ih (by omega)

theorem windows (positive : 0 < size.toNat) (bounded : xs.length ≤ size.toNat * 2 ^ 32)
    (asked : ∀ number < 2 ^ 32, number = 0 ∨ number * size.toNat < xs.length →
      ask (.nth size sort number) = .ok (.ofWindow xs size sort number)) :
    ∃ slices, Follows ask ((PageRequest.ofSize 0 size).withSort sort) slices ∧
      slices.length = max 1 (xs.length ⌈/⌉ size.toNat) ∧
      (∀ slice ∈ slices.dropLast, slice.content.length = size.toNat) ∧ (slices.map (·.content)).flatten = xs := by
  obtain ⟨left, count⟩ : ∃ left, max 1 (xs.length ⌈/⌉ size.toNat) = left + 1 :=
    ⟨_, (Nat.succ_pred_eq_of_pos (by simp)).symm⟩
  have numbers : left + 1 ≤ 2 ^ 32 := by
    rw [← count]
    exact max_le (by decide) ((ceilDiv_le_iff_le_mul positive).mpr bounded)
  have within : ∀ number, number < left + 1 ↔ number = 0 ∨ number * size.toNat < xs.length := by
    intro number
    rw [← count, lt_max_iff, lt_ceilDiv_iff positive, Nat.lt_one_iff]
  have visited := windows_from numbers
    (fun number below => asked number (below.trans_le numbers) ((within number).mp below))
    (fun number _ => by simp [Slice.ofWindow, within]) left (Nat.zero_add (left + 1))
  rw [← List.range_eq_range'] at visited
  refine ⟨_, visited, ?_, ?_, ?_⟩
  · rw [List.length_map, List.length_range, count]
  · rw [List.range_succ, List.map_append, List.map_singleton, List.dropLast_concat]
    intro slice member
    obtain ⟨number, below, rfl⟩ := List.mem_map.mp member
    -- Another window begins where this one ends.
    have full := (within (number + 1)).mp (by simpa using below)
    rw [Nat.succ_mul] at full
    simp only [Slice.ofWindow, List.length_take, List.length_drop]
    omega
  · have past := mt (within (left + 1)).mpr (lt_irrefl _)
    rw [List.map_map]
    exact (flatten_windows xs size.toNat (left + 1)).trans (List.take_of_length_le (by omega))

end Follows

theorem Table.length_le_mark {α : Type} {table : Table α} (positive : ∀ row ∈ table.rows, 1 ≤ row.id) :
    (table.rows.length : Int) ≤ table.mark := by
  have between : (table.rows.map (·.id)).toFinset ⊆ Finset.Icc 1 table.mark := by
    intro id member
    obtain ⟨row, stored, rfl⟩ := List.mem_map.mp (List.mem_toFinset.mp member)
    exact Finset.mem_Icc.mpr ⟨positive row stored, table.le_mark row stored⟩
  have card := Finset.card_le_card between
  rw [List.toFinset_card_of_nodup table.nodup_ids, List.length_map, Int.card_Icc] at card
  have := table.mark_nonneg
  omega

theorem Page.Counts.toSlice_eq {α : Type} {page : Page α} {request : PageRequest} {xs : List α}
    (counts : page.Counts request xs) : page.toSlice = request.sliceOf xs := by
  have next : page.hasNext = !(request.beyond xs).isEmpty := by
    rw [Bool.eq_iff_iff, counts.hasNext, Bool.not_eq_true', List.isEmpty_eq_false_iff_exists_mem]
  rw [toSlice, counts.content, counts.asked, next, PageRequest.sliceOf]

namespace PageRequest

variable {α : Type}

theorem sliceOf_unpaged (sort : Sorting) (xs : List α) :
    (unpaged.withSort sort).sliceOf xs = ⟨xs, unpaged.withSort sort, false⟩ := by
  rw [sliceOf, cut_window_unpaged]
  rfl

theorem cut_window_nth (size : UInt32) (sort : Sorting) {number : Nat} (below : number < 2 ^ 32) (extra : Nat)
    (xs : List α) :
    ((nth size sort number).window extra).cut xs = (xs.drop (number * size.toNat)).take (size.toNat + extra) := by
  rw [cut_window_of_some rfl, offset_nth size sort below]

theorem sliceOf_nth (size : UInt32) (sort : Sorting) {number : Nat} (below : number < 2 ^ 32) (xs : List α) :
    (nth size sort number).sliceOf xs = .ofWindow xs size sort number := by
  have next : (!((nth size sort number).beyond xs).isEmpty) = decide ((number + 1) * size.toNat < xs.length) := by
    rw [Bool.eq_iff_iff, Bool.not_eq_true', List.isEmpty_eq_false_iff, beyond, offset_nth size sort below,
      decide_eq_true_eq, Nat.succ_mul]
    exact List.drop_eq_nil_iff.not.trans not_le
  rw [sliceOf, cut_window_nth size sort below, next]
  rfl

end PageRequest

namespace Store.Sound

variable {store : Store} {filter : Filter} {sort : Sorting} {size : UInt32}

theorem findBooks_whole (sound : store.Sound) (picked : filter.Granted)
    (granted : (PageRequest.unpaged.withSort sort).Granted) (extra : Nat) :
    findBooks store filter (PageRequest.unpaged.withSort sort) extra = .ok (store.sorted filter sort) := by
  rw [sound.findBooks_cut picked granted, PageRequest.cut_window_unpaged]
  rfl

theorem findBooks_window (sound : store.Sound) (picked : filter.Granted) {number : Nat} (below : number < 2 ^ 32)
    (granted : (PageRequest.nth size sort number).Granted) (extra : Nat) :
    findBooks store filter (.nth size sort number) extra =
      .ok (((store.sorted filter sort).drop (number * size.toNat)).take (size.toNat + extra)) := by
  rw [sound.findBooks_cut picked granted, PageRequest.cut_window_nth size sort below]
  rfl

end Store.Sound

inductive Listing where
  | slices
  | pages
  | titled (pattern : String)
  deriving DecidableEq, Repr

namespace Listing

variable {store : Store} {sort : Sorting} {size : UInt32}

def filter : Listing → Filter
  | slices | pages => .everything
  | titled pattern => .titleLike pattern

def ask (store : Store) : Listing → PageRequest → Except RepositoryError (Slice Book)
  | slices, request => Books.slice store request
  | pages, request => (Books.page store request).map Page.toSlice
  | titled pattern, request => (Books.titleLike store pattern request).map Page.toSlice

-- Whether it is answered with slices or with pages, a listing is a window of one sorted list.
theorem ask_eq (sound : store.Sound) (listing : Listing) (picked : listing.filter.Granted) {request : PageRequest}
    (granted : request.Granted) :
    listing.ask store request = .ok (request.sliceOf (store.sorted listing.filter request.sort)) := by
  have paged {filter : Filter} (picked : filter.Granted) : (Books.pageOf store filter request).map Page.toSlice =
      .ok (request.sliceOf (store.sorted filter request.sort)) := by
    rw [sound.pageOf_cut picked granted]
    exact congrArg Except.ok (Page.counts_cut granted.sized _).toSlice_eq
  cases listing with
  | slices => exact sound.slice_eq granted
  | pages => exact paged picked
  | titled pattern => exact paged picked

theorem ask_whole (sound : store.Sound) (listing : Listing) (picked : listing.filter.Granted)
    (granted : (PageRequest.unpaged.withSort sort).Granted) :
    listing.ask store (PageRequest.unpaged.withSort sort) =
      .ok ⟨store.sorted listing.filter sort, PageRequest.unpaged.withSort sort, false⟩ := by
  rw [listing.ask_eq sound picked granted, PageRequest.sliceOf_unpaged]
  rfl

theorem ask_window (sound : store.Sound) (listing : Listing) (picked : listing.filter.Granted) {number : Nat}
    (below : number < 2 ^ 32)
    (granted : (PageRequest.nth size sort number).Granted) :
    listing.ask store (.nth size sort number) =
      .ok (.ofWindow (store.sorted listing.filter sort) size sort number) := by
  rw [listing.ask_eq sound picked granted, PageRequest.sliceOf_nth size sort below]
  rfl

end Listing

-- No table has as many rows as there are offsets.
theorem Reached.granted_nth {c : Connection} (reached : Reached c) {filter : Filter} {sort : Sorting} {size : UInt32}
    (granted : (PageRequest.unpaged.withSort sort).Granted) (sized : size ≠ 0) {number : Nat} (below : number < 2 ^ 32)
    (inside : number = 0 ∨ number * size.toNat < (c.store.sorted filter sort).length) :
    (PageRequest.nth size sort number).Granted := by
  refine ⟨granted.known, granted.short, fun zero => sized (Option.some.inj zero), ?_⟩
  have rows := c.store.length_sorted_le filter sort
  have marked := Table.length_le_mark fun row member => (reached.sound.store.books row member).1
  have inRange := reached.inRange.books
  rw [PageRequest.offset_nth size sort below]
  rcases inside with rfl | inside
  · simp [IntRange.int64]
  · omega

theorem Like.toGlob_replicate (n : Nat) :
    Like.toGlob (String.ofList (List.replicate n '_')) = List.replicate n '?' := by
  rw [toGlob, String.toList_ofList]
  induction n with
  | zero => rfl
  | succ n ih =>
    rw [List.replicate_succ, List.replicate_succ, ← ih]
    rfl

theorem utf8ByteSize_replicate (n : Nat) : (String.ofList (List.replicate n '?')).utf8ByteSize = n := by
  induction n with
  | zero => rfl
  | succ n ih =>
    rw [List.replicate_succ, String.ofList_cons, String.utf8ByteSize_append, ih, String.utf8ByteSize_singleton]
    exact Nat.add_comm 1 n

theorem TitleSearch.examines_of_wildcard {search : TitleSearch} (first : search.glob.head? = some '?') (title : Cell) :
    search.examines title = true := by
  have start : search.start = [] := by
    obtain ⟨rest, glob⟩ := List.head?_eq_some_iff.mp first
    rw [start, effective, glob]
    split <;> rfl
  simp [examines, looksAt, decidedByStart, start]

namespace Books

/-- Asked for page after page, a listing answers each time and gives every book that it is about once, in the order
asked for, in as few full pages as there can be; and so do the pages of the longer books. -/
theorem paging_visits_each_once {c : Connection} (reached : Reached c) {sort : Sorting}
    (known : ∀ term ∈ sort.orders, term.property ∈ ["id", "title", "pages"])
    (short : sort.terms.length ≤ sortTermLimit) {size : UInt32} (sized : size ≠ 0) :
    (∀ listing : Listing, listing.filter.Granted →
      ∃ whole, listing.ask c.store (PageRequest.unpaged.withSort sort) = .ok whole ∧
        whole.content.Perm ((c.store.books.rows.filter (listing.filter.picks c.store)).map c.store.bookOf) ∧
        (whole.content.length ≤ size.toNat * 2 ^ 32 →
          ∃ slices, Follows (listing.ask c.store) ((PageRequest.ofSize 0 size).withSort sort) slices ∧
            slices.length = max 1 (whole.content.length ⌈/⌉ size.toNat) ∧
            (∀ slice ∈ slices.dropLast, slice.content.length = size.toNat) ∧
            (slices.map (·.content)).flatten = whole.content)) ∧
    ∀ pages : Int32, ∃ whole, longerThan c.store pages (PageRequest.unpaged.withSort sort) = .ok whole ∧
      whole.Perm ((c.store.books.rows.filter ((Filter.longerThan pages).picks c.store)).map c.store.bookOf) ∧
      (whole.length ≤ size.toNat * 2 ^ 32 →
        ∃ pieces, ((List.range (whole.length ⌈/⌉ size.toNat)).mapM fun number =>
            longerThan c.store pages (.nth size sort number)) = .ok pieces ∧
          pieces.flatten = whole) := by
  have sound := reached.sound.store
  have unpaged : (PageRequest.unpaged.withSort sort).Granted :=
    ⟨known, short, by simp [PageRequest.unpaged, PageRequest.withSort], PageRequest.granted_unpaged.offset⟩
  constructor
  · intro listing picked
    refine ⟨_, listing.ask_whole sound picked unpaged, c.store.sorted_perm _ sort, fun bounded => ?_⟩
    refine Follows.windows (toNat_pos sized) bounded fun number below inside => ?_
    exact listing.ask_window sound picked below (reached.granted_nth unpaged sized below inside)
  · intro pages
    have picked : (Filter.longerThan pages).Granted := trivial
    refine ⟨_, sound.findBooks_whole picked unpaged 0, c.store.sorted_perm _ sort, fun bounded => ?_⟩
    have numbers := (ceilDiv_le_iff_le_mul (toNat_pos sized)).mpr bounded
    have past : (c.store.sorted (.longerThan pages) sort).length ≤
        (c.store.sorted (.longerThan pages) sort).length ⌈/⌉ size.toNat * size.toNat := by
      rw [mul_comm]
      exact (ceilDiv_le_iff_le_mul (toNat_pos sized)).mp le_rfl
    have visited := (flatten_windows _ size.toNat _).trans (List.take_of_length_le past)
    refine ⟨_, mapM_eq_ok_map fun number member => ?_, visited⟩
    have listed := List.mem_range.mp member
    have below := listed.trans_le numbers
    have inside := (lt_ceilDiv_iff (toNat_pos sized)).mp listed
    exact sound.findBooks_window picked below (reached.granted_nth unpaged sized below (.inr inside)) 0

theorem paging_visits_sample :
    ∃ whole slices,
      Listing.slices.ask Connection.sample.store (PageRequest.unpaged.withSort (.on ⟨"title", .desc⟩)) = .ok whole ∧
      Follows (Listing.slices.ask Connection.sample.store) ((PageRequest.ofSize 0 1).withSort (.on ⟨"title", .desc⟩))
        slices ∧ slices.length = 2 ∧ (slices.map (·.content)).flatten = whole.content := by
  have known : ∀ term ∈ (Sorting.on ⟨"title", .desc⟩).orders, term.property ∈ ["id", "title", "pages"] := by decide
  obtain ⟨whole, asked, perm, visits⟩ :=
    (paging_visits_each_once reached_sample known (by decide) (by decide : (1 : UInt32) ≠ 0)).1 .slices trivial
  have two : whole.content.length = 2 := by
    rw [perm.length_eq]
    decide +kernel
  obtain ⟨slices, follows, length, -, same⟩ := visits (by rw [two]; decide)
  rw [two] at length
  exact ⟨whole, slices, asked, follows, length, same⟩

-- With too many terms to sort by, or too long a pattern, the first page is refused.
theorem listings_refused :
    let sort : Sorting := ⟨List.replicate 2001 ⟨"id", .asc⟩⟩
    let pattern := String.ofList (List.replicate 50001 '_')
    Reached .sample ∧ Connection.sample.store.books.rows.length = 2 ∧
      (∀ term ∈ sort.orders, term.property ∈ ["id", "title", "pages"]) ∧
      Listing.slices.ask Connection.sample.store ((PageRequest.ofSize 0 1).withSort sort) =
        .error (.engine .tooManySortTerms) ∧
      (Listing.titled pattern).ask Connection.sample.store (PageRequest.ofSize 0 1) =
        .error (.engine .patternTooComplex) := by
  intro sort pattern
  have known : ∀ term ∈ sort.orders, term.property ∈ ["id", "title", "pages"] := by
    intro term member
    rw [List.eq_of_mem_replicate member]
    decide
  have terms : sortTermLimit < sort.terms.length := by decide +kernel
  have sized : ((PageRequest.ofSize 0 1).withSort sort).size ≠ some 0 := by decide
  have offset : ((PageRequest.ofSize 0 1).withSort sort).offset ≤ IntRange.int64.high := by decide
  have granted : (PageRequest.ofSize 0 1).Granted :=
    ⟨by simp [PageRequest.ofSize, Sorting.unsorted], by decide, by decide, by decide⟩
  have size : (String.ofList (Like.toGlob pattern)).utf8ByteSize = 50001 := by
    rw [Like.toGlob_replicate, utf8ByteSize_replicate]
  have long : ¬ (Filter.titleLike pattern).Granted := by
    rw [Filter.Granted, size]
    decide
  refine ⟨reached_sample, by decide +kernel, known, ?_, ?_⟩
  · rw [Listing.ask, slice, Store.findBooks_tooManyTerms known sized offset terms]
    rfl
  · have stored : ⟨2, .text "Emma", .int 474⟩ ∈ Connection.sample.store.books.rows := by decide +kernel
    have first : (TitleSearch.ofLike Connection.sample.store pattern).glob.head? = some '?' := by
      rw [TitleSearch.ofLike, Like.toGlob_replicate, List.head?_replicate]
      rfl
    have examined := TitleSearch.examines_of_wildcard first (.text "Emma")
    rw [Listing.ask, titleLike, pageOf, Store.findBooks_tooComplex granted long stored examined]
    rfl

end Books

end Catalogue
