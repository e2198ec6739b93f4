/-! Integers written in decimal, and the sign in front of a numeral. -/

set_option autoImplicit false

namespace Catalogue.Text

def digitValue (c : Char) : Nat := c.toNat - '0'.toNat

/-- The number that decimal digits write; the list holds digits only. -/
def valueOfDigits (digits : List Char) : Nat :=
  digits.foldl (fun n c => 10 * n + digitValue c) 0

def readDigits? (cs : List Char) : Option Nat :=
  if cs.isEmpty || !cs.all Char.isDigit then none else some (valueOfDigits cs)

/-- Take a sign off the front; `true` stands for a minus. -/
def splitSign : List Char → Bool × List Char
  | '-' :: rest => (true, rest)
  | '+' :: rest => (false, rest)
  | cs => (false, cs)

/-- Digits only, at least one, behind an optional sign. -/
def readInt? (s : String) : Option Int :=
  let (negative, cs) := splitSign s.toList
  (readDigits? cs).map fun n => if negative then -(n : Int) else n

end Catalogue.Text
