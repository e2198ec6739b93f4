import Catalogue.Pattern.Like

/-! What a like pattern says, read off its characters, and what a search for titles by it finds. -/

set_option autoImplicit false

namespace Catalogue

namespace Like

inductive Admits : List Char → List Char → Prop where
  | nil : Admits [] []
  | skip {pattern text : List Char} : Admits pattern text → Admits ('%' :: pattern) text
  | extend {pattern text : List Char} {c : Char} : Admits ('%' :: pattern) text → Admits ('%' :: pattern) (c :: text)
  | any {pattern text : List Char} {c : Char} : Admits pattern text → Admits ('_' :: pattern) (c :: text)
  | escaped {pattern text : List Char} {c : Char} : Admits pattern text → Admits ('\\' :: c :: pattern) (c :: text)
  /-- A backslash at the very end stands for itself. -/
  | backslash : Admits ['\\'] ['\\']
  | plain {pattern text : List Char} {c : Char} : c ∉ ['%', '_', '\\'] → Admits pattern text →
      Admits (c :: pattern) (c :: text)

/-! ## Deciding what a pattern admits -/

def someRest {α : Type} (passes : List α → Bool) : List α → Bool
  | [] => passes []
  | x :: xs => passes (x :: xs) || someRest passes xs

def accepts : List Token → List Char → Bool
  | [], text => text.isEmpty
  | .run :: ts, text => someRest (accepts ts) text
  | .any :: ts, text => match text with
    | [] => false
    | _ :: text => accepts ts text
  | .literal c :: ts, text => match text with
    | [] => false
    | d :: text => c == d && accepts ts text

variable {ts : List Token} {c d : Char} {pattern text : List Char}

theorem plain_of_case {rest : List Char} (percent : c = '%' → False) (underscore : c = '_' → False)
    (last : c = '\\' → rest = [] → False) (escape : ∀ d more, c = '\\' → rest = d :: more → False) :
    c ∉ ['%', '_', '\\'] := by
  simp only [List.mem_cons, List.not_mem_nil, or_false, not_or]
  refine ⟨percent, underscore, fun same => ?_⟩
  cases rest with
  | nil => exact last same rfl
  | cons d more => exact escape d more same rfl

theorem tokens_plain (plain : c ∉ ['%', '_', '\\']) (pattern : List Char) :
    tokens (c :: pattern) = .literal c :: tokens pattern := by
  simp only [List.mem_cons, List.not_mem_nil, or_false, not_or] at plain
  rw [tokens.eq_def]
  split <;> simp_all

theorem matches_run_nil_iff : Matches (.run :: ts) [] ↔ Matches ts [] := by
  constructor
  · rintro ⟨⟩
    assumption
  · exact .skip

theorem matches_run_cons_iff :
    Matches (.run :: ts) (c :: text) ↔ Matches ts (c :: text) ∨ Matches (.run :: ts) text := by
  constructor
  · intro found
    cases found with
    | skip rest => exact .inl rest
    | extend rest => exact .inr rest
  · exact fun found => found.elim .skip .extend

theorem matches_any_cons_iff : Matches (.any :: ts) (c :: text) ↔ Matches ts text := by
  constructor
  · rintro ⟨⟩
    assumption
  · exact .any

theorem matches_literal_cons_iff : Matches (.literal c :: ts) (d :: text) ↔ c = d ∧ Matches ts text := by
  constructor
  · rintro ⟨⟩
    exact ⟨rfl, by assumption⟩
  · rintro ⟨rfl, rest⟩
    exact .literal rest

theorem accepts_iff : accepts ts text = true ↔ Matches ts text := by
  induction ts generalizing text with
  | nil =>
    cases text with
    | nil => exact iff_of_true rfl .nil
    | cons c text => exact iff_of_false Bool.false_ne_true (by rintro ⟨⟩)
  | cons t ts ih =>
    cases t with
    | run =>
      induction text with
      | nil => exact ih.trans matches_run_nil_iff.symm
      | cons c text again =>
        rw [matches_run_cons_iff, ← ih, ← again]
        exact Bool.or_eq_true _ _ ▸ Iff.rfl
    | any =>
      cases text with
      | nil => exact iff_of_false Bool.false_ne_true (by rintro ⟨⟩)
      | cons c text => exact ih.trans matches_any_cons_iff.symm
    | literal c =>
      cases text with
      | nil => exact iff_of_false Bool.false_ne_true (by rintro ⟨⟩)
      | cons d text => rw [accepts, Bool.and_eq_true, beq_iff_eq, ih, matches_literal_cons_iff]

theorem matches_of_admits (admits : Admits pattern text) : Matches (tokens pattern) text := by
  induction admits with
  | nil => exact .nil
  | skip _ ih => exact .skip ih
  | extend _ ih => exact .extend ih
  | any _ ih => exact .any ih
  | escaped _ ih => exact .literal ih
  | backslash => exact .literal .nil
  | plain plain _ ih =>
    rw [tokens_plain plain]
    exact .literal ih

theorem admits_of_matches (found : Matches (tokens pattern) text) : Admits pattern text := by
  fun_induction tokens pattern generalizing text with
  | case1 => cases found; exact .nil
  | case2 rest ih =>
    induction text with
    | nil => exact .skip (ih (matches_run_nil_iff.mp found))
    | cons c text again =>
      rcases matches_run_cons_iff.mp found with skipped | taken
      · exact .skip (ih skipped)
      · exact .extend (again taken)
  | case3 rest ih => cases found with | any found => exact .any (ih found)
  | case4 => cases found with | literal found => cases found; exact .backslash
  | case5 c rest ih => cases found with | literal found => exact .escaped (ih found)
  | case6 c rest percent underscore last escape ih =>
    cases found with
    | literal found => exact .plain (plain_of_case percent underscore last escape) (ih found)

theorem admits_iff : Admits pattern text ↔ Matches (tokens pattern) text := ⟨matches_of_admits, admits_of_matches⟩

instance (pattern text : List Char) : Decidable (Admits pattern text) :=
  decidable_of_iff (accepts (tokens pattern) text = true) (accepts_iff.trans admits_iff.symm)

end Like

def Cell.seen (c : Char) : Char := if c = '\uFFFE' ∨ c = '\uFFFF' then '\uFFFD' else c

namespace Like

/-! ## What a search finds -/

/-- The characters at the beginning of a pattern that say what each title begins with: as far as nothing stands
there but literals that mean nothing to glob. -/
def opening : List Token → List Char
  | .literal c :: rest => if c ∈ ['*', '?', '['] then [] else c :: opening rest
  | _ => []

/-- What a search by a like pattern finds: the titles that begin as the pattern does, and that it admits as far as
matching can tell characters apart. -/
def Finds (pattern title : String) : Prop :=
  opening (tokens pattern.toList) <+: title.toList ∧
    Admits (pattern.toList.map Cell.seen) (title.toList.map Cell.seen)

instance (pattern title : String) : Decidable (Finds pattern title) := inferInstanceAs (Decidable (_ ∧ _))

/-- The characters of a pattern up to its first NUL, where it ends; a backslash in front of the NUL goes with it. -/
def cut : List Char → List Char
  | [] => []
  | ['\\'] => ['\\']
  | '\\' :: c :: rest => if c = '\x00' then [] else '\\' :: c :: cut rest
  | c :: rest => if c = '\x00' then [] else c :: cut rest

def ended (pattern : String) : String := String.ofList (cut pattern.toList)

/-- The bytes of a pattern once it is a glob pattern, where a literal that means something stands in brackets. -/
def Token.size : Token → Nat
  | .run | .any => 1
  | .literal c => if c ∈ ['*', '?', '['] then 3 else c.utf8Size

def size (pattern : String) : Nat := (tokens pattern.toList).foldr (fun t total => t.size + total) 0

/-- A title that is matched past its beginning, since more follows that of the pattern than a run alone. -/
def Compares (pattern title : String) : Prop :=
  let ts := tokens (cut pattern.toList)
  opening ts <+: title.toList ∧ ¬ (opening ts ≠ [] ∧ ts = (opening ts).map .literal ++ [.run])

instance (pattern title : String) : Decidable (Compares pattern title) := inferInstanceAs (Decidable (_ ∧ _))

end Like

def Text.ended (text : String) : String := String.ofList (text.toList.takeWhile (· ≠ '\x00'))

end Catalogue
