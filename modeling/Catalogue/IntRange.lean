/-! The ranges of fixed-width integers. -/

set_option autoImplicit false

namespace Catalogue

structure IntRange where
  low : Int
  high : Int
  deriving DecidableEq, Repr

namespace IntRange

def contains (range : IntRange) (n : Int) : Bool := range.low ≤ n && n ≤ range.high

def restrict? (range : IntRange) (n : Int) : Option Int := if range.contains n then some n else none

def int32 : IntRange := ⟨-0x80000000, 0x7FFFFFFF⟩

def uint32 : IntRange := ⟨0, 0xFFFFFFFF⟩

def int64 : IntRange := ⟨-0x8000000000000000, 0x7FFFFFFFFFFFFFFF⟩

def uint64 : IntRange := ⟨0, 0xFFFFFFFFFFFFFFFF⟩

theorem contains_iff (range : IntRange) (n : Int) :
    range.contains n = true ↔ range.low ≤ n ∧ n ≤ range.high := by
  simp [contains]

end IntRange

end Catalogue
