/-! The lexemes of JSON text: marks, strings, and words. A word is a run of all other characters, blanks
aside; whether it is a number or a name is left to its reader. -/

set_option autoImplicit false

namespace Catalogue.Json

inductive Lexeme where
  | mark (c : Char)
  | str (value : String)
  | word (text : List Char)
  deriving DecidableEq, Repr

namespace Lexeme

/-- What has been read of a string, in reverse. `high` is the first half of a character that two
escapes write. -/
structure OpenString where
  read : List Char
  high : Option Nat
  deriving DecidableEq, Repr

namespace OpenString

/-- Append a character that stands for itself; the first half of another may not come before it. -/
def push (s : OpenString) (c : Char) : Option OpenString :=
  if s.high.isSome then none else some { s with read := c :: s.read }

def isHigh (n : Nat) : Bool := 0xD800 ≤ n && n < 0xDC00

def isLow (n : Nat) : Bool := 0xDC00 ≤ n && n < 0xE000

def pushUnit (s : OpenString) (n : Nat) : Option OpenString :=
  match s.high with
  | none =>
    if isHigh n then some { s with high := some n }
    else if isLow n then none
    else some { s with read := Char.ofNat n :: s.read }
  | some high =>
    if isLow n then some ⟨Char.ofNat (0x10000 + (high - 0xD800) * 0x400 + (n - 0xDC00)) :: s.read, none⟩
    else none

def close? (s : OpenString) : Option Lexeme :=
  if s.high.isSome then none else some (.str (String.ofList s.read.reverse))

end OpenString

inductive Place where
  | between
  /-- In a word, whose characters stand in reverse. -/
  | word (read : List Char)
  | string (s : OpenString)
  | escape (s : OpenString)
  /-- In the four digits of an escape, of which `digits` have been read and make up `value`. -/
  | unit (s : OpenString) (digits value : Nat)
  deriving DecidableEq, Repr

def isBlank (c : Char) : Bool := c == ' ' || c == '\t' || c == '\n' || c == '\r'

def isMark (c : Char) : Bool := ['[', ']', '\x7b', '\x7d', ',', ':'].contains c

def unescaped? (c : Char) : Option Char :=
  if c == '"' || c == '\\' || c == '/' then some c
  else if c == 'n' then some '\n'
  else if c == 'r' then some '\r'
  else if c == 't' then some '\t'
  else if c == 'b' then some '\x08'
  else if c == 'f' then some '\x0c'
  else none

def hexValue? (c : Char) : Option Nat :=
  if c.isDigit then some (c.toNat - '0'.toNat)
  else if 'a' ≤ c ∧ c ≤ 'f' then some (c.toNat - 'a'.toNat + 10)
  else if 'A' ≤ c ∧ c ≤ 'F' then some (c.toNat - 'A'.toNat + 10)
  else none

def start (c : Char) : Place × List Lexeme :=
  if c == '"' then (.string ⟨[], none⟩, [])
  else if isMark c then (.between, [.mark c])
  else if isBlank c then (.between, [])
  else (.word [c], [])

/-- Read one character; the answer holds the lexemes that it completes. -/
def step : Place → Char → Option (Place × List Lexeme)
  | .between, c => some (start c)
  | .word read, c =>
    if c == '"' || isMark c || isBlank c then
      let (place, lexemes) := start c
      some (place, .word read.reverse :: lexemes)
    else some (.word (c :: read), [])
  | .string s, c =>
    if c == '"' then s.close?.map fun lexeme => (.between, [lexeme])
    else if c == '\\' then some (.escape s, [])
    else if c.toNat < 32 then none
    else (s.push c).map fun s => (.string s, [])
  | .escape s, c =>
    if c == 'u' then some (.unit s 0 0, [])
    else ((unescaped? c).bind s.push).map fun s => (.string s, [])
  | .unit s digits value, c =>
    (hexValue? c).bind fun digit =>
      let value := 16 * value + digit
      if digits < 3 then some (.unit s (digits + 1) value, [])
      else (s.pushUnit value).map fun s => (.string s, [])

/-- Read characters after a place; `done` are the lexemes before it, in reverse. -/
def readFrom (done : List Lexeme) : Place → List Char → Option (List Lexeme)
  | .between, [] => some done.reverse
  | .word read, [] => some (.word read.reverse :: done).reverse
  | .string _, [] | .escape _, [] | .unit _ _ _, [] => none
  | place, c :: rest =>
    match step place c with
    | none => none
    | some (place, lexemes) => readFrom (lexemes.reverse ++ done) place rest

def read? (text : List Char) : Option (List Lexeme) := readFrom [] .between text

end Lexeme

end Catalogue.Json
