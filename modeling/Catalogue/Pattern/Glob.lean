import Catalogue.Text.Octets

/-! Glob patterns over code points: a star for any run, a question mark for one character, a bracketed
set for one character of the set, and every other character for itself.

`accepts` answers for a whole text at once: it keeps, for every rest of the pattern, whether that
rest matches what remains of the text, so its work is the product of the two lengths. -/

set_option autoImplicit false

namespace Catalogue.Glob

inductive Token where
  | run
  | any
  | literal (point : Nat)
  /-- One character that lies in a range, or in none of them when the set is negated. -/
  | set (negated : Bool) (ranges : List (Nat × Nat))
  deriving DecidableEq, Repr

def star : Nat := '*'.toNat
def question : Nat := '?'.toNat
def opening : Nat := '['.toNat
def closing : Nat := ']'.toNat
def caret : Nat := '^'.toNat
def dash : Nat := '-'.toNat

inductive Stage where
  | first
  | afterCaret
  /-- `last` is the single member just read, which a dash can turn into the start of a range. -/
  | body (last : Option Nat)
  | afterDash (low : Nat)
  deriving DecidableEq, Repr

structure OpenSet where
  stage : Stage
  negated : Bool
  ranges : List (Nat × Nat)
  deriving DecidableEq, Repr

namespace OpenSet

def start : OpenSet := ⟨.first, false, []⟩

def close (set : OpenSet) : Token := .set set.negated set.ranges

def add (set : OpenSet) (point : Nat) (last : Option Nat) : OpenSet :=
  { set with stage := .body last, ranges := set.ranges ++ [(point, point)] }

/-- Past the places where a caret or a closing bracket has a meaning of its own. -/
def stepBody (set : OpenSet) (last : Option Nat) (c : Nat) : OpenSet ⊕ Token :=
  if c = closing then .inr set.close
  else match last with
    | some low => if c = dash then .inl { set with stage := .afterDash low } else .inl (set.add c (some c))
    | none => .inl (set.add c (some c))

def step (set : OpenSet) (c : Nat) : OpenSet ⊕ Token :=
  match set.stage with
  | .first =>
    if c = caret then .inl { set with stage := .afterCaret, negated := true }
    else if c = closing then .inl (set.add c none)
    else set.stepBody none c
  | .afterCaret => if c = closing then .inl (set.add c none) else set.stepBody none c
  | .body last => set.stepBody last c
  | .afterDash low =>
    if c = closing then .inr (set.add dash none).close
    else .inl { set with stage := .body none, ranges := set.ranges ++ [(low, c)] }

end OpenSet

/-- The tokens of a pattern; a set that is never closed makes a pattern that has none. -/
def read : Option OpenSet → List Nat → Option (List Token)
  | none, [] => some []
  | some _, [] => none
  | none, c :: rest =>
    if c = star then (read none rest).map (.run :: ·)
    else if c = question then (read none rest).map (.any :: ·)
    else if c = opening then read (some .start) rest
    else (read none rest).map (.literal c :: ·)
  | some set, c :: rest =>
    match set.step c with
    | .inl set => read (some set) rest
    | .inr token => (read none rest).map (token :: ·)

def tokens? (pattern : List Nat) : Option (List Token) := read none pattern

/-- Whether one token takes one character; a run takes any number of them and is not asked. -/
def Token.takes : Token → Nat → Bool
  | .run, _ => false
  | .any, _ => true
  | .literal point, c => point == c
  | .set negated ranges, c => ranges.any (fun range => range.1 ≤ c && c ≤ range.2) != negated

inductive Matches : List Token → List Nat → Prop where
  | nil : Matches [] []
  | skip {ts : List Token} {text : List Nat} : Matches ts text → Matches (.run :: ts) text
  | extend {ts : List Token} {c : Nat} {text : List Nat} :
      Matches (.run :: ts) text → Matches (.run :: ts) (c :: text)
  | one {t : Token} {ts : List Token} {c : Nat} {text : List Nat} :
      t.takes c = true → Matches ts text → Matches (t :: ts) (c :: text)

/-- Which rests of the tokens, longest first, match the empty text. -/
def emptyRow : List Token → List Bool
  | [] => [true]
  | .run :: ts => let below := emptyRow ts; below.headD false :: below
  | _ :: ts => false :: emptyRow ts

/-- Which rests match a text, from its first character and the row for the text after it. -/
def nextRow (c : Nat) : List Token → List Bool → List Bool
  | [], _ => [false]
  | t :: ts, row =>
    let below := nextRow c ts row.tail
    (if t = .run then below.headD false || row.headD false else t.takes c && row.tail.headD false) :: below

def rows (ts : List Token) : List Nat → List Bool
  | [] => emptyRow ts
  | c :: text => nextRow c ts (rows ts text)

def accepts (ts : List Token) (text : List Nat) : Bool := (rows ts text).headD false

def isMatch (pattern text : List Nat) : Bool :=
  match tokens? pattern with
  | none => false
  | some ts => accepts ts text

end Catalogue.Glob
