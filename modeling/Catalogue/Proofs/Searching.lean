import Mathlib.Data.List.TakeWhile
import Catalogue.Proofs.Answering
import Catalogue.Proofs.Opening
import Catalogue.Proofs.Patterns

/-! The search of titles by a like pattern. Whichever way the titles are searched, by their beginning alone, by the
glob pattern, or by both, a title is found if the pattern admits it, as far as matching can tell its characters
apart; those before the first wildcard are compared as they are. -/

set_option autoImplicit false

namespace Catalogue

namespace Like

variable {ts : List Token} {c : Char} {text : List Char}

theorem isWildcard_iff : TitleSearch.isWildcard c = true ↔ c ∈ ['*', '?', '['] := by
  simp [TitleSearch.isWildcard, or_assoc]

-- A literal starts its glob pattern with itself, or with the bracket of its set.
theorem globLiteral_eq (c : Char) : globLiteral c = if c ∈ ['*', '?', '['] then ['[', c, ']'] else [c] := by
  simp [globLiteral]

theorem takeWhile_toGlob (ts : List Token) :
    (ts.flatMap Token.toGlob).takeWhile (!TitleSearch.isWildcard ·) = opening ts := by
  induction ts with
  | nil => rfl
  | cons t ts ih =>
    cases t with
    | run => rfl
    | any => rfl
    | literal c =>
      rw [List.flatMap_cons, Token.toGlob, globLiteral_eq, opening]
      split
      · rfl
      · rename_i plain
        rw [← isWildcard_iff, Bool.not_eq_true] at plain
        rw [List.singleton_append, List.takeWhile_cons_of_pos (by rw [plain]; rfl), ih]

theorem eq_nil_of_toGlob (none : ts.flatMap Token.toGlob = []) : ts = [] := by
  cases ts with
  | nil => rfl
  | cons t ts =>
    rw [List.flatMap_cons, List.append_eq_nil_iff] at none
    cases t with
    | run | any => cases none.1
    | literal c =>
      rw [Token.toGlob, globLiteral_eq] at none
      split at none <;> cases none.1

theorem toGlob_eq_opening_iff :
    ts.flatMap Token.toGlob = opening ts ++ ['*'] ↔ ts = (opening ts).map .literal ++ [.run] := by
  induction ts with
  | nil => exact iff_of_false (by simp) (by simp [opening])
  | cons t ts ih =>
    rw [List.flatMap_cons]
    cases t with
    | run =>
      refine ⟨fun whole => ?_, fun whole => ?_⟩
      · rw [eq_nil_of_toGlob (List.cons.inj whole).2]
        rfl
      · rw [(List.cons.inj whole).2]
        rfl
    | any => exact iff_of_false (by simp [Token.toGlob, opening]) (by simp [opening])
    | literal c =>
      rw [Token.toGlob, globLiteral_eq, opening]
      split
      · exact iff_of_false (by simp) (by simp)
      · simp only [List.map_cons, List.cons_append, List.nil_append, List.cons.injEq, true_and]
        exact ih

theorem matches_literals (cs more : List Char) : Matches (cs.map .literal ++ [.run]) (cs ++ more) := by
  induction cs with
  | nil =>
    induction more with
    | nil => exact .skip .nil
    | cons c more ih => exact .extend ih
  | cons c cs ih => exact .literal ih

theorem begins_of_matches (found : Matches ts text) : opening ts <+: text := by
  induction found with
  | nil | skip _ _ | extend _ _ | any _ _ => exact List.nil_prefix
  | literal _ ih =>
    rw [opening]
    split
    · exact List.nil_prefix
    · exact (List.prefix_cons_inj _).mpr ih

theorem mem_of_mem_opening (member : c ∈ opening ts) : .literal c ∈ ts := by
  induction ts with
  | nil => cases member
  | cons t ts ih =>
    cases t with
    | run | any => cases member
    | literal d =>
      rw [opening] at member
      split at member
      · cases member
      · rcases List.mem_cons.mp member with rfl | later
        · exact List.mem_cons_self
        · exact List.mem_cons_of_mem _ (ih later)

/-! ## The end of a pattern -/

theorem takeWhile_eq_of_notMem {cs : List Char} {stop : Char} (free : stop ∉ cs) : cs.takeWhile (· ≠ stop) = cs := by
  refine List.takeWhile_eq_self_iff.mpr fun c member => ?_
  rw [decide_eq_true_iff]
  rintro rfl
  exact free member

theorem tokens_cut (pattern : List Char) : tokens (cut pattern) = (tokens pattern).takeWhile (· ≠ .literal '\x00') := by
  fun_induction tokens pattern with
  | case1 => rfl
  | case2 rest ih => simp [cut, tokens, ih]
  | case3 rest ih => simp [cut, tokens, ih]
  | case4 => simp [cut, tokens]
  | case5 c rest ih =>
    by_cases stop : c = '\x00'
    · simp [cut, tokens, stop]
    · simp [cut, tokens, stop, ih]
  | case6 c rest percent underscore last escape ih =>
    have plain := plain_of_case percent underscore last escape
    by_cases stop : c = '\x00'
    · simp [cut, tokens, stop]
    · simp [cut, stop, tokens_plain plain, ih]

theorem cut_eq {pattern : List Char} (plain : '\x00' ∉ pattern) : cut pattern = pattern := by
  fun_induction cut pattern <;> simp_all

theorem ended_eq {pattern : String} (plain : '\x00' ∉ pattern.toList) : ended pattern = pattern := by
  rw [ended, cut_eq plain, String.ofList_toList]

theorem takeWhile_flatMap_toGlob (ts : List Token) :
    (ts.flatMap Token.toGlob).takeWhile (· ≠ '\x00') =
      (ts.takeWhile (· ≠ .literal '\x00')).flatMap Token.toGlob := by
  induction ts with
  | nil => rfl
  | cons t ts ih =>
    cases t with
    | run | any => simpa [Token.toGlob] using ih
    | literal c =>
      by_cases stop : c = '\x00'
      · simp [Token.toGlob, globLiteral, stop]
      · by_cases special : c ∈ ['*', '?', '[']
        · simpa [Token.toGlob, globLiteral_eq, special, stop] using ih
        · simpa [Token.toGlob, globLiteral_eq, special, stop] using ih

theorem utf8ByteSize_toGlob (pattern : String) : (String.ofList (toGlob pattern)).utf8ByteSize = size pattern := by
  rw [toGlob, size]
  induction tokens pattern.toList with
  | nil => rfl
  | cons t ts ih =>
    have first : (String.ofList t.toGlob).utf8ByteSize = t.size := by
      cases t with
      | run | any => rfl
      | literal c =>
        rw [Token.toGlob, globLiteral_eq, Token.size]
        split
        · rename_i special
          simp only [List.mem_cons, List.not_mem_nil, or_false] at special
          rcases special with rfl | rfl | rfl <;> rfl
        · exact String.utf8ByteSize_singleton
    rw [List.flatMap_cons, String.ofList_append, String.utf8ByteSize_append, first, ih, List.foldr_cons]

variable {pattern title : String}

theorem finds_of_admits (admits : Admits pattern.toList title.toList) : Finds pattern title :=
  ⟨begins_of_matches (admits_iff.mp admits), admits_map_seen admits⟩

theorem finds_iff_admits (distinct : ∀ c ∈ pattern.toList, Cell.Distinct c) :
    Finds pattern title ↔ Admits pattern.toList title.toList :=
  ⟨fun finds => admits_of_map_seen distinct finds.2, finds_of_admits⟩

end Like

theorem Text.ended_eq {text : String} (plain : '\x00' ∉ text.toList) : Text.ended text = text := by
  rw [Text.ended, Like.takeWhile_eq_of_notMem plain, String.ofList_toList]

namespace TitleSearch

variable (indexed : Bool) (pattern title : String)

/-- The search for titles by a like pattern, with an index or without. -/
def byLike : TitleSearch := ⟨Like.toGlob pattern, indexed⟩

theorem effective_byLike :
    (byLike indexed pattern).effective = (Like.tokens (Like.cut pattern.toList)).flatMap Like.Token.toGlob := by
  rw [Like.tokens_cut, ← Like.takeWhile_flatMap_toGlob]
  rfl

theorem tokens?_byLike :
    (byLike indexed pattern).tokens? = some ((Like.tokens (Like.cut pattern.toList)).map Like.Token.glob) := by
  rw [tokens?, effective_byLike, Like.glob_tokens?_eq]

theorem start_byLike :
    (byLike indexed pattern).start = if indexed then Like.opening (Like.tokens (Like.cut pattern.toList)) else [] := by
  rw [start, effective_byLike, Like.takeWhile_toGlob]
  rfl

theorem looksAt_byLike :
    (byLike indexed pattern).looksAt (.text title) = true ↔
      (indexed = true → Like.opening (Like.tokens (Like.cut pattern.toList)) <+: title.toList) := by
  rw [looksAt, start_byLike, Cell.startsWith, Bool.or_eq_true, List.isPrefixOf_iff_prefix, List.isEmpty_iff]
  cases indexed with
  | false => simp
  | true =>
    simp only [if_true, true_imp_iff]
    exact or_iff_right_of_imp fun empty => empty ▸ List.nil_prefix

theorem decidedByStart_byLike :
    (byLike indexed pattern).decidedByStart = true ↔ indexed = true ∧
      Like.opening (Like.tokens (Like.cut pattern.toList)) ≠ [] ∧
      Like.tokens (Like.cut pattern.toList) =
        (Like.opening (Like.tokens (Like.cut pattern.toList))).map .literal ++ [.run] := by
  rw [decidedByStart, start_byLike, effective_byLike]
  cases indexed with
  | false => simp
  | true => simp [Like.toGlob_eq_opening_iff]

-- No NUL is left in a pattern to begin with, so a title begins so before its own first NUL or nowhere.
theorem begins_ended_iff :
    Like.opening (Like.tokens (Like.cut pattern.toList)) <+: (Text.ended title).toList ↔
      Like.opening (Like.tokens (Like.cut pattern.toList)) <+: title.toList := by
  have free : ∀ c ∈ Like.opening (Like.tokens (Like.cut pattern.toList)), decide (c ≠ '\x00') = true := by
    intro c member
    have listed := Like.mem_of_mem_opening member
    rw [Like.tokens_cut] at listed
    have other := List.all_eq_true.mp List.all_takeWhile _ listed
    simpa using other
  rw [Text.ended, String.toList_ofList]
  refine ⟨fun begins => begins.trans (List.takeWhile_prefix _), ?_⟩
  rintro ⟨more, same⟩
  rw [← same, List.takeWhile_append_of_pos free]
  exact List.prefix_append _ _

/-- What a search by a like pattern holds of a title: with an index, that it begins as the pattern does, and that the
pattern admits it as far as characters can be told apart, each up to its first NUL. -/
theorem holds_byLike :
    (byLike indexed pattern).holds (byLike indexed pattern).tokens? (.text title) = true ↔
      (indexed = true → Like.opening (Like.tokens (Like.ended pattern).toList) <+: (Text.ended title).toList) ∧
        Like.Admits ((Like.ended pattern).toList.map Cell.seen) ((Text.ended title).toList.map Cell.seen) := by
  have whole : (Cell.text title).glyphs? = some ((Text.ended title).toList.map Cell.glyph) := by
    rw [Text.ended, String.toList_ofList]
    rfl
  simp only [Like.ended, String.toList_ofList, begins_ended_iff, tokens?_byLike, holds, whole, Bool.and_eq_true,
    looksAt_byLike, Bool.or_eq_true, Like.accepts_glob_iff]
  refine and_congr_right fun begins => or_iff_right_of_imp fun decided => ?_
  -- Only the beginning was looked at, which is enough.
  obtain ⟨looked, -, rest⟩ := (decidedByStart_byLike indexed pattern).mp decided
  obtain ⟨more, same⟩ := (begins_ended_iff pattern title).mpr (begins looked)
  have found := Like.matches_literals (Like.opening (Like.tokens (Like.cut pattern.toList))) more
  rw [← rest, same] at found
  exact Like.admits_map_seen (Like.admits_iff.mpr found)

theorem holds_indexed :
    (byLike true pattern).holds (byLike true pattern).tokens? (.text title) = true ↔
      Like.Finds (Like.ended pattern) (Text.ended title) := by
  simp only [holds_byLike, Like.Finds, true_imp_iff]

theorem examines_indexed : (byLike true pattern).examines (.text title) = true ↔ Like.Compares pattern title := by
  rw [examines, Bool.and_eq_true, Bool.not_eq_true', ← Bool.not_eq_true, looksAt_byLike, decidedByStart_byLike]
  simp only [Like.Compares, true_imp_iff, true_and]

theorem ofLike_eq {store : Store} (sound : store.Sound) : ofLike store pattern = byLike true pattern := by
  have latest : (Schema.latest.index? "idx_books_title").isSome = true := by decide +kernel
  rw [ofLike, sound.schema, latest]
  rfl

end TitleSearch

namespace Store

variable {store : Store}

theorem Sound.title_eq (sound : store.Sound) {row : Row BookCells} (member : row ∈ store.books.rows) :
    row.cells.title = .text (store.bookOf row).title := by
  obtain ⟨-, book, cells, -⟩ := sound.books row member
  simp only [bookOf, Row.book, cells]
  rfl

end Store

namespace Books

/-- A search by a like pattern finds the books whose titles the pattern admits, and counts them, as far as matching
can tell the characters of titles apart; a pattern of characters that are taken for themselves alone finds exactly
the titles that it admits. -/
theorem titleLike_finds {c : Connection} (reached : Reached c) {pattern : String} (plain : '\x00' ∉ pattern.toList)
    (short : (Filter.titleLike pattern).Granted) {request : PageRequest} (granted : request.Granted)
    (whole : request.size = none) :
    ∃ all page, Books.all c.store = .ok all ∧ titleLike c.store pattern request = .ok page ∧
      countTitleLike c.store pattern = .ok page.content.length ∧
      (page.content.map (·.id)).Nodup ∧ page.content ⊆ all ∧
      ∀ book ∈ all, '\x00' ∉ book.title.toList →
        (book ∈ page.content ↔ Like.Finds pattern book.title) ∧
        ((∀ c ∈ pattern.toList, Cell.Distinct c) →
          (book ∈ page.content ↔ Like.Admits pattern.toList book.title.toList)) := by
  have sound := reached.sound.store
  have everything : Filter.everything.Granted := trivial
  have all := sound.findBooks_eq everything PageRequest.granted_unpaged 0
  refine ⟨_, _, all, sound.pageOf_eq short granted, ?_, ?_, ?_, ?_⟩
  · rw [List.length_map, Store.length_rowsOf whole]
    exact c.store.countBooks_eq short
  · have distinct := (c.store.nodup_rowsOf (.titleLike pattern) request 0).map (Option.some_injective _)
    rw [List.map_map] at distinct ⊢
    exact distinct
  · intro book member
    obtain ⟨row, found, rfl⟩ := List.mem_map.mp member
    exact List.mem_map_of_mem ((Store.mem_rowsOf_iff rfl).mpr ⟨((Store.mem_rowsOf_iff whole).mp found).1, rfl⟩)
  · intro book member text
    obtain ⟨row, stored, rfl⟩ := List.mem_map.mp member
    replace stored := ((Store.mem_rowsOf_iff rfl).mp stored).1
    have found : c.store.bookOf row ∈ (c.store.rowsOf (.titleLike pattern) request 0).map c.store.bookOf ↔
        Like.Finds pattern (c.store.bookOf row).title := by
      have holds := TitleSearch.holds_indexed pattern (c.store.bookOf row).title
      rw [Like.ended_eq plain, Text.ended_eq text, ← TitleSearch.ofLike_eq pattern sound] at holds
      rw [← holds]
      constructor
      · intro listed
        obtain ⟨other, picked, same⟩ := List.mem_map.mp listed
        obtain ⟨there, picked⟩ := (Store.mem_rowsOf_iff whole).mp picked
        rwa [← same, ← sound.title_eq there]
      · intro holds
        rw [← sound.title_eq stored] at holds
        exact List.mem_map_of_mem ((Store.mem_rowsOf_iff whole).mpr ⟨stored, holds⟩)
    exact ⟨found, fun distinct => found.trans (Like.finds_iff_admits distinct)⟩

theorem titleLike_finds_sample :
    ∃ all page, Books.all Connection.sample.store = .ok all ∧
      titleLike Connection.sample.store "\\D_n%" .unpaged = .ok page ∧
      ∀ book ∈ all, '\x00' ∉ book.title.toList →
        (book ∈ page.content ↔ Like.Admits "\\D_n%".toList book.title.toList) := by
  have plain : '\x00' ∉ "\\D_n%".toList := by decide +kernel
  have short : (Filter.titleLike "\\D_n%").Granted := by decide +kernel
  have distinct : ∀ c ∈ ['\\', 'D', '_', 'n', '%'], Cell.Distinct c := by
    simp only [List.forall_mem_cons]
    exact ⟨by decide, by decide, by decide, by decide, by decide, List.forall_mem_nil _⟩
  obtain ⟨all, page, every, found, -, -, -, each⟩ :=
    titleLike_finds reached_sample plain short PageRequest.granted_unpaged rfl
  exact ⟨all, page, every, found, fun book member text => (each book member text).2 distinct⟩

-- Matching takes two characters for the same that are not.
theorem countTitleLike_confuses_characters :
    let c := (Write.create "a\uFFFF" 1).perform (.on .fresh)
    Reached c ∧ c.store.books.rows.map (·.cells.title) = [.text "a\uFFFF"] ∧
      '\x00' ∉ "_\uFFFE".toList ∧ (Filter.titleLike "_\uFFFE").Granted ∧
      countTitleLike c.store "_\uFFFE" = .ok 1 ∧ ¬ Like.Admits "_\uFFFE".toList "a\uFFFF".toList := by
  intro c
  have reached : Reached c := .written _ (.opened (openDatabase_empty .memory 0))
  refine ⟨reached, by decide +kernel, by decide +kernel, by decide +kernel, by decide +kernel, fun admits => ?_⟩
  cases Like.admits_iff.mp admits with
  | any rest => exact absurd (Like.matches_literal_cons_iff.mp rest).1 (by decide)

end Books

end Catalogue
