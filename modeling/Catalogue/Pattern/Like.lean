/-! Like patterns: a percent sign for any run, an underscore for one character, a backslash that takes
the next character literally, and every other character for itself. Each has a glob pattern that
says the same. -/

set_option autoImplicit false

namespace Catalogue.Like

inductive Token where
  | run
  | any
  | literal (c : Char)
  deriving DecidableEq, Repr

/-- A backslash at the very end stands for itself. -/
def tokens : List Char → List Token
  | [] => []
  | '%' :: rest => .run :: tokens rest
  | '_' :: rest => .any :: tokens rest
  | ['\\'] => [.literal '\\']
  | '\\' :: c :: rest => .literal c :: tokens rest
  | c :: rest => .literal c :: tokens rest

inductive Matches : List Token → List Char → Prop where
  | nil : Matches [] []
  | skip {ts : List Token} {text : List Char} : Matches ts text → Matches (.run :: ts) text
  | extend {ts : List Token} {c : Char} {text : List Char} :
      Matches (.run :: ts) text → Matches (.run :: ts) (c :: text)
  | any {ts : List Token} {c : Char} {text : List Char} : Matches ts text → Matches (.any :: ts) (c :: text)
  | literal {ts : List Token} {c : Char} {text : List Char} :
      Matches ts text → Matches (.literal c :: ts) (c :: text)

def globLiteral (c : Char) : List Char :=
  if c = '*' ∨ c = '?' ∨ c = '[' then ['[', c, ']'] else [c]

def Token.toGlob : Token → List Char
  | .run => ['*']
  | .any => ['?']
  | .literal c => globLiteral c

def toGlob (pattern : String) : List Char := (tokens pattern.toList).flatMap Token.toGlob

end Catalogue.Like
