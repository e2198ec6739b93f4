import Catalogue.Binary64
import Catalogue.Decimal.Numeral
import Catalogue.IntRange
import Catalogue.Json
import Catalogue.Json.Lexeme

/-! JSON text read as a value. The lexemes drive a machine that keeps the collections which are not
closed yet; an object keeps the last of several fields of one name. -/

set_option autoImplicit false

namespace Catalogue.Json

/-! Words. -/

def isExponent : List Char → Bool
  | [] => true
  | c :: rest => (c == 'e' || c == 'E') && (Text.readDigits? (Text.splitSign rest).2).isSome

def isTail : List Char → Bool
  | '.' :: rest => !(rest.takeWhile Char.isDigit).isEmpty && isExponent (rest.dropWhile Char.isDigit)
  | cs => isExponent cs

/-- The digits of a number that count: the first ones, as long as they fit a 64-bit word. -/
def significant (_ next : Nat) : Bool := IntRange.uint64.contains next

/-- Whether a number is too large for a 64-bit float. It is taken as its digits that count times a power of
ten, each of the two and their product rounded. -/
def overflows (numeral : Numeral) : Bool :=
  let d := numeral.leading significant
  d.coefficient ≠ 0 && 0 < d.exponent &&
    ((Binary64.ofInt d.coefficient).mul (.ofDecimal ⟨1, d.exponent⟩)).isInfinite

/-- A number; no zero leads its whole part. Zero behind a minus is kept as a fraction, since no integer
is that, and a number too large for a 64-bit float is refused. -/
def number? (text : List Char) : Option Json :=
  let (negative, cs) := match text with
    | '-' :: rest => (true, rest)
    | cs => (false, cs)
  let whole := cs.takeWhile Char.isDigit
  let tail := cs.dropWhile Char.isDigit
  if whole.isEmpty || (whole.head? == some '0' && whole.length ≠ 1) || !isTail tail then none
  else if (Numeral.read? text).any overflows then none
  else if tail.isEmpty then
    let n := Text.valueOfDigits whole
    some <| if negative then if n = 0 then .fraction (String.ofList text) else .int (-n) else .int n
  else some (.fraction (String.ofList text))

def scalar? (text : List Char) : Option Json :=
  if text == "null".toList then some .null
  else if text == "true".toList then some (.bool true)
  else if text == "false".toList then some (.bool false)
  else number? text

/-! Collections. -/

/-- A collection that is not closed, with what it holds in reverse; an object waits for the value of
a field. -/
inductive Frame where
  | arr (items : List Json)
  | obj (fields : List (String × Json)) (name : String)

/-- Where the reader stands between two lexemes, and the collections around that place, the innermost
first. -/
inductive Reading where
  /-- A value comes next, and at the start of an array its end may come instead. -/
  | value (atStart : Bool) (frames : List Frame)
  /-- A field of an object comes next, and at its start its end may come instead. -/
  | field (atStart : Bool) (fields : List (String × Json)) (frames : List Frame)
  | colon (fields : List (String × Json)) (name : String) (frames : List Frame)
  | after (value : Json) (frames : List Frame)

namespace Reading

def depthLimit : Nat := 127

/-- Add a field to fields in reverse, in place of an earlier one of its name. -/
def putField (fields : List (String × Json)) (name : String) (value : Json) : List (String × Json) :=
  (name, value) :: fields.filter (·.1 != name)

def openMark (c : Char) (frames : List Frame) : Option Reading :=
  if depthLimit ≤ frames.length then none
  else if c == '[' then some (.value true (.arr [] :: frames))
  else if c == '\x7b' then some (.field true [] frames)
  else none

def step : Reading → Lexeme → Option Reading
  | .value _ frames, .str s => some (.after (.str s) frames)
  | .value _ frames, .word text => (scalar? text).map (.after · frames)
  | .value atStart frames, .mark c =>
    match atStart, c, frames with
    | true, ']', .arr _ :: frames => some (.after (.arr []) frames)
    | _, _, _ => openMark c frames
  | .field _ fields frames, .str name => some (.colon fields name frames)
  | .field true _ frames, .mark '\x7d' => some (.after (.obj []) frames)
  | .colon fields name frames, .mark ':' => some (.value false (.obj fields name :: frames))
  | .after json (.arr items :: frames), .mark ',' => some (.value false (.arr (json :: items) :: frames))
  | .after json (.arr items :: frames), .mark ']' => some (.after (.arr (json :: items).reverse) frames)
  | .after json (.obj fields name :: frames), .mark ',' =>
    some (.field false (putField fields name json) frames)
  | .after json (.obj fields name :: frames), .mark '\x7d' =>
    some (.after (.obj (putField fields name json).reverse) frames)
  | _, _ => none

def run : Reading → List Lexeme → Option Reading
  | reading, [] => some reading
  | reading, lexeme :: rest =>
    match reading.step lexeme with
    | none => none
    | some reading => run reading rest

end Reading

def read? (text : String) : Option Json :=
  match (Lexeme.read? text.toList).bind (Reading.run (.value false [])) with
  | some (.after json []) => some json
  | _ => none

end Catalogue.Json
