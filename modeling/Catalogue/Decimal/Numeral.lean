import Catalogue.Decimal
import Catalogue.Text.Numeral

/-! Numbers as they are written: a sign, digits around an optional point, and an optional exponent. -/

set_option autoImplicit false

namespace Catalogue

structure Numeral where
  negative : Bool
  whole : List Char
  fraction : List Char
  exponent : Int
  deriving DecidableEq, Repr

namespace Numeral

def readExponent? : List Char → Option Int
  | [] => some 0
  | c :: rest =>
    if c == 'e' || c == 'E' then
      let (negative, cs) := Text.splitSign rest
      (Text.readDigits? cs).map fun n => if negative then -(n : Int) else n
    else none

def read? (cs : List Char) : Option Numeral :=
  let (negative, cs) := Text.splitSign cs
  let whole := cs.takeWhile Char.isDigit
  let rest := cs.dropWhile Char.isDigit
  let (fraction, rest) := match rest with
    | '.' :: rest => (rest.takeWhile Char.isDigit, rest.dropWhile Char.isDigit)
    | _ => ([], rest)
  if whole.isEmpty && fraction.isEmpty then none
  else (readExponent? rest).map fun exponent => ⟨negative, whole, fraction, exponent⟩

/-- Read digits onto a number for as long as `admits` allows, which is told the number before and after
the next digit: the number, and how many digits were read. -/
def leadingDigits (admits : Nat → Nat → Bool) : (value taken : Nat) → List Char → Nat × Nat
  | value, taken, [] => (value, taken)
  | value, taken, c :: rest =>
    let next := 10 * value + Text.digitValue c
    if admits value next then leadingDigits admits next (taken + 1) rest else (value, taken)

/-- The number that the first digits write; those which are left out count as zeros. -/
def leading (admits : Nat → Nat → Bool) (numeral : Numeral) : Decimal :=
  let (value, taken) := leadingDigits admits 0 0 (numeral.whole ++ numeral.fraction)
  ⟨if numeral.negative then -value else value, numeral.exponent + numeral.whole.length - taken⟩

def toDecimal (numeral : Numeral) : Decimal := numeral.leading fun _ _ => true

end Numeral

end Catalogue
