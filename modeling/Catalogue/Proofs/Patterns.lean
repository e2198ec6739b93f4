import Mathlib.Data.List.Basic
import Catalogue.Pattern.Admits
import Catalogue.Pattern.Glob
import Catalogue.Store.Cell

/-! The two pattern languages. The matching of a glob pattern finds what its tokens describe, the tokens of a like
pattern say what its characters say, and the glob pattern that a like pattern is turned into describes the same
texts, as far as matching can tell their characters apart. -/

set_option autoImplicit false

namespace Catalogue

namespace Glob

variable {t : Token} {ts : List Token} {c : Nat} {text : List Nat}

-- The row for a pattern without its first token is the row without its first entry.
theorem rows_cons (t : Token) (ts : List Token) (text : List Nat) :
    rows (t :: ts) text = accepts (t :: ts) text :: rows ts text := by
  induction text with
  | nil => cases t <;> rfl
  | cons c text ih =>
    have tail : (rows (t :: ts) text).tail = rows ts text := by rw [ih, List.tail_cons]
    simp only [accepts, rows, nextRow, tail, List.headD_cons]

theorem accepts_run_cons :
    accepts (.run :: ts) (c :: text) = (accepts ts (c :: text) || accepts (.run :: ts) text) := by
  rw [accepts, rows, nextRow, rows_cons]
  rfl

theorem accepts_one_cons (single : t ≠ .run) : accepts (t :: ts) (c :: text) = (t.takes c && accepts ts text) := by
  rw [accepts, rows, nextRow, rows_cons, if_neg single]
  rfl

theorem accepts_one_nil (single : t ≠ .run) : accepts (t :: ts) [] = false := by
  cases t with
  | run => exact absurd rfl single
  | _ => rfl

theorem matches_run_nil_iff : Matches (.run :: ts) [] ↔ Matches ts [] := by
  constructor
  · rintro ⟨⟩
    assumption
  · exact .skip

theorem matches_run_cons_iff :
    Matches (.run :: ts) (c :: text) ↔ Matches ts (c :: text) ∨ Matches (.run :: ts) text := by
  constructor
  · intro found
    cases found with
    | skip rest => exact .inl rest
    | extend rest => exact .inr rest
    | one takes _ => cases takes
  · exact fun found => found.elim .skip .extend

theorem not_matches_one_nil (single : t ≠ .run) : ¬ Matches (t :: ts) [] := by
  intro found
  cases found with
  | skip _ => exact single rfl

theorem matches_one_cons_iff (single : t ≠ .run) :
    Matches (t :: ts) (c :: text) ↔ t.takes c = true ∧ Matches ts text := by
  constructor
  · intro found
    cases found with
    | skip _ | extend _ => exact absurd rfl single
    | one takes rest => exact ⟨takes, rest⟩
  · rintro ⟨takes, rest⟩
    exact .one takes rest

theorem accepts_iff (ts : List Token) (text : List Nat) : accepts ts text = true ↔ Matches ts text := by
  induction ts generalizing text with
  | nil =>
    cases text with
    | nil => exact iff_of_true rfl .nil
    | cons c text => exact iff_of_false Bool.false_ne_true (by rintro ⟨⟩)
  | cons t ts ih =>
    by_cases run : t = .run
    · subst run
      induction text with
      | nil => rw [matches_run_nil_iff, ← ih]; rfl
      | cons c text again => rw [accepts_run_cons, matches_run_cons_iff, Bool.or_eq_true, ih, again]
    · cases text with
      | nil => exact iff_of_false (by rw [accepts_one_nil run]; decide) (not_matches_one_nil run)
      | cons c text => rw [accepts_one_cons run, matches_one_cons_iff run, Bool.and_eq_true, ih]

end Glob

namespace Cell

variable {c d : Char}

theorem glyph_eq (c : Char) : glyph c = (seen c).toNat := by
  have first : c.toNat = 0xFFFE ↔ c = '\uFFFE' := Char.toNat_inj (d := '\uFFFE')
  have second : c.toNat = 0xFFFF ↔ c = '\uFFFF' := Char.toNat_inj (d := '\uFFFF')
  unfold glyph seen
  simp only [first, second]
  split <;> rfl

theorem glyph_eq_iff : glyph c = glyph d ↔ seen c = seen d := by
  rw [glyph_eq, glyph_eq, Char.toNat_inj]

def Distinct (c : Char) : Prop := c ∉ ['\uFFFD', '\uFFFE', '\uFFFF']

instance : DecidablePred Distinct := fun c => inferInstanceAs (Decidable (c ∉ _))

theorem Distinct.seen_eq (h : Distinct c) : seen c = c := by
  simp only [Distinct, List.mem_cons, List.not_mem_nil, or_false, not_or] at h
  exact if_neg (not_or.mpr h.2)

theorem Distinct.seen_eq_iff (h : Distinct c) : seen d = c ↔ d = c := by
  constructor
  · intro same
    unfold seen at same
    split at same
    · simp [Distinct, ← same] at h
    · exact same
  · rintro rfl
    exact h.seen_eq

theorem Distinct.glyph_eq_iff (h : Distinct c) : glyph d = c.toNat ↔ d = c := by
  rw [glyph_eq, Char.toNat_inj, h.seen_eq_iff]

end Cell

namespace Like

variable {ts : List Token} {c d : Char} {pattern text : List Char}

/-- The token in glob patterns for a token in like patterns, as far as characters can be told apart. -/
def Token.glob : Token → Glob.Token
  | .run => .run
  | .any => .any
  | .literal c => if c = '*' ∨ c = '?' ∨ c = '[' then .set false [(c.toNat, c.toNat)] else .literal (Cell.glyph c)

def Token.seen : Token → Token
  | .literal c => .literal (Cell.seen c)
  | t => t

theorem read_globLiteral (c : Char) (rest : List Nat) :
    Glob.read none ((globLiteral c).map Cell.glyph ++ rest) =
      (Glob.read none rest).map ((Token.literal c).glob :: ·) := by
  simp only [globLiteral, Token.glob]
  split
  · rename_i special
    rcases special with rfl | rfl | rfl <;> rfl
  · rename_i plain
    have star : Cell.glyph c ≠ Glob.star := fun same =>
      plain (.inl ((Cell.Distinct.glyph_eq_iff (by decide)).mp same))
    have question : Cell.glyph c ≠ Glob.question := fun same =>
      plain (.inr (.inl ((Cell.Distinct.glyph_eq_iff (by decide)).mp same)))
    have opening : Cell.glyph c ≠ Glob.opening := fun same =>
      plain (.inr (.inr ((Cell.Distinct.glyph_eq_iff (by decide)).mp same)))
    rw [List.map_singleton, List.singleton_append, Glob.read, if_neg star, if_neg question, if_neg opening]

theorem glob_tokens?_eq (ts : List Token) :
    Glob.tokens? ((ts.flatMap Token.toGlob).map Cell.glyph) = some (ts.map Token.glob) := by
  unfold Glob.tokens?
  induction ts with
  | nil => rfl
  | cons t ts ih =>
    have first : Glob.read none ((t.toGlob ++ ts.flatMap Token.toGlob).map Cell.glyph) =
        (Glob.read none ((ts.flatMap Token.toGlob).map Cell.glyph)).map (t.glob :: ·) := by
      cases t with
      | run => rfl
      | any => rfl
      | literal c => rw [List.map_append, Token.toGlob, read_globLiteral]
    rw [List.flatMap_cons, first, ih]
    rfl

theorem Token.glob_ne_run {t : Token} (single : t ≠ .run) : t.glob ≠ .run := by
  cases t with
  | run => exact absurd rfl single
  | any => decide
  | literal c =>
    simp only [Token.glob]
    split <;> simp

theorem takes_glob_literal (c d : Char) :
    (Token.literal c).glob.takes (Cell.glyph d) = true ↔ Cell.seen c = Cell.seen d := by
  simp only [Token.glob]
  split
  · rename_i special
    have distinct : Cell.Distinct c := by rcases special with rfl | rfl | rfl <;> decide
    simp only [Glob.Token.takes, List.any_cons, List.any_nil, Bool.or_false, bne_iff_ne, ne_eq, Bool.not_eq_false,
      Bool.and_eq_true, decide_eq_true_eq]
    rw [distinct.seen_eq, eq_comm, distinct.seen_eq_iff, ← distinct.glyph_eq_iff]
    omega
  · rw [Glob.Token.takes, beq_iff_eq, Cell.glyph_eq_iff]

theorem glob_matches_iff (ts : List Token) (text : List Char) :
    Glob.Matches (ts.map Token.glob) (text.map Cell.glyph) ↔ Matches (ts.map Token.seen) (text.map Cell.seen) := by
  induction ts generalizing text with
  | nil =>
    cases text with
    | nil => exact iff_of_true .nil .nil
    | cons c text => exact iff_of_false (by rintro ⟨⟩) (by rintro ⟨⟩)
  | cons t ts ih =>
    cases t with
    | run =>
      induction text with
      | nil => exact Glob.matches_run_nil_iff.trans ((ih []).trans matches_run_nil_iff.symm)
      | cons c text again =>
        exact Glob.matches_run_cons_iff.trans ((or_congr (ih (c :: text)) again).trans matches_run_cons_iff.symm)
    | any =>
      cases text with
      | nil => exact iff_of_false (Glob.not_matches_one_nil (by decide)) (by rintro ⟨⟩)
      | cons c text =>
        rw [List.map_cons, List.map_cons, Glob.matches_one_cons_iff (Token.glob_ne_run (by decide)), ih]
        exact (and_iff_right rfl).trans matches_any_cons_iff.symm
    | literal c =>
      have single : (Token.literal c).glob ≠ .run := Token.glob_ne_run (by simp)
      cases text with
      | nil => exact iff_of_false (Glob.not_matches_one_nil single) (by rintro ⟨⟩)
      | cons d text =>
        rw [List.map_cons, List.map_cons, Glob.matches_one_cons_iff single, takes_glob_literal, ih]
        exact matches_literal_cons_iff.symm

theorem tokens_map_seen (pattern : List Char) : tokens (pattern.map Cell.seen) = (tokens pattern).map Token.seen := by
  fun_induction tokens pattern with
  | case1 => rfl
  | case2 rest ih => exact congrArg (Token.run :: ·) ih
  | case3 rest ih => exact congrArg (Token.any :: ·) ih
  | case4 => rfl
  | case5 c rest ih => exact congrArg (Token.literal (Cell.seen c) :: ·) ih
  | case6 c rest percent underscore last escape ih =>
    have plain := plain_of_case percent underscore last escape
    have seen : Cell.seen c ∉ ['%', '_', '\\'] := by
      simp only [List.mem_cons, List.not_mem_nil, or_false] at plain ⊢
      rwa [Cell.Distinct.seen_eq_iff (by decide), Cell.Distinct.seen_eq_iff (by decide),
        Cell.Distinct.seen_eq_iff (by decide)]
    rw [List.map_cons, tokens_plain seen, ih]
    rfl

theorem mem_of_literal (member : .literal c ∈ tokens pattern) : c ∈ pattern := by
  fun_induction tokens pattern with
  | case1 => cases member
  | case2 rest ih | case3 rest ih => exact List.mem_cons_of_mem _ (ih (by simpa using member))
  | case4 => simpa using member
  | case5 d rest ih =>
    rcases List.mem_cons.mp member with same | member
    · cases same
      simp
    · exact List.mem_cons_of_mem _ (List.mem_cons_of_mem _ (ih member))
  | case6 d rest _ _ _ _ ih =>
    rcases List.mem_cons.mp member with same | member
    · cases same
      simp
    · exact List.mem_cons_of_mem _ (ih member)

theorem Matches.map_seen (found : Matches ts text) : Matches (ts.map Token.seen) (text.map Cell.seen) := by
  induction found with
  | nil => exact .nil
  | skip _ ih => exact .skip ih
  | extend _ ih => exact .extend ih
  | any _ ih => exact .any ih
  | literal _ ih => exact .literal ih

theorem matches_of_map_seen (distinct : ∀ c, .literal c ∈ ts → Cell.Distinct c)
    (found : Matches (ts.map Token.seen) (text.map Cell.seen)) : Matches ts text := by
  induction ts generalizing text with
  | nil =>
    cases text with
    | nil => exact .nil
    | cons c text => cases found
  | cons t ts ih =>
    have later : ∀ text : List Char, Matches (ts.map Token.seen) (text.map Cell.seen) → Matches ts text :=
      fun text => ih fun c member => distinct c (List.mem_cons_of_mem _ member)
    cases t with
    | run =>
      induction text with
      | nil => exact .skip (later [] (matches_run_nil_iff.mp found))
      | cons c text again =>
        rcases matches_run_cons_iff.mp found with skipped | taken
        · exact .skip (later (c :: text) skipped)
        · exact .extend (again taken)
    | any =>
      cases text with
      | nil => cases found
      | cons c text => exact .any (later text (matches_any_cons_iff.mp found))
    | literal c =>
      cases text with
      | nil => cases found
      | cons d text =>
        obtain ⟨same, rest⟩ := matches_literal_cons_iff.mp found
        have own := distinct c List.mem_cons_self
        rw [own.seen_eq, eq_comm, own.seen_eq_iff] at same
        rw [same]
        exact .literal (later text rest)

theorem admits_map_seen (admits : Admits pattern text) : Admits (pattern.map Cell.seen) (text.map Cell.seen) := by
  rw [admits_iff] at admits ⊢
  rw [tokens_map_seen]
  exact admits.map_seen

theorem admits_of_map_seen (distinct : ∀ c ∈ pattern, Cell.Distinct c)
    (admits : Admits (pattern.map Cell.seen) (text.map Cell.seen)) : Admits pattern text := by
  rw [admits_iff, tokens_map_seen] at admits
  rw [admits_iff]
  exact matches_of_map_seen (fun c member => distinct c (mem_of_literal member)) admits

/-- The glob pattern accepts what the like pattern admits, as far as characters can be told apart. -/
theorem accepts_glob_iff (pattern text : List Char) :
    Glob.accepts ((tokens pattern).map Token.glob) (text.map Cell.glyph) = true ↔
      Admits (pattern.map Cell.seen) (text.map Cell.seen) := by
  rw [Glob.accepts_iff, glob_matches_iff, admits_iff, tokens_map_seen]

end Like

end Catalogue
