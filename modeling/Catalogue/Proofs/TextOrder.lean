import Mathlib.Data.String.Basic
import Mathlib.Tactic.SplitIfs
import Catalogue.Store.Cell

/-! Texts in the order of their bytes. UTF-8 keeps the order of characters, so texts that are compared byte by byte
come in the order of their code points. -/

set_option autoImplicit false

namespace Catalogue

theorem toList_loop (bytes : ByteArray) (i : Nat) (r : List UInt8) :
    ByteArray.toList.loop bytes i r = r.reverse ++ bytes.data.toList.drop i := by
  fun_induction ByteArray.toList.loop bytes i r with
  | case1 i r more ih =>
    have bound : i < bytes.data.toList.length := by simpa using more
    have next : bytes.get! i = bytes.data.toList[i] := by
      have bound : i < bytes.data.size := more
      exact getElem!_pos bytes.data i bound
    rw [ih, List.drop_eq_getElem_cons bound, next]
    simp
  | case2 i r past =>
    have all : bytes.data.toList.length ≤ i := by simpa using past
    simp [List.drop_eq_nil_of_le all]

theorem toList_toUTF8 (s : String) : s.toUTF8.toList = s.toList.flatMap String.utf8EncodeChar := by
  rw [ByteArray.toList, toList_loop]
  simp [String.toUTF8, ← String.utf8Encode_toList, List.utf8Encode]

theorem compare_byte {m n : Nat} (first : m < 256) (second : n < 256) :
    compare (UInt8.ofNat m) (UInt8.ofNat n) = compare m n := by
  have less : UInt8.ofNat m < UInt8.ofNat n ↔ m < n := by
    simp [UInt8.lt_iff_toNat_lt, Nat.mod_eq_of_lt first, Nat.mod_eq_of_lt second]
  have same : UInt8.ofNat m = UInt8.ofNat n ↔ m = n := by
    simp [← UInt8.toNat_inj, Nat.mod_eq_of_lt first, Nat.mod_eq_of_lt second]
  rw [Nat.compare_eq_ite_lt]
  simp only [compare, compareOfLessAndEq, less, same]
  split_ifs <;> first | rfl | omega

-- Of two numbers that are written with four digits to the base 64, the lesser is less where they first differ.
theorem less_by_digits {m n : Nat} (less : m < n) (high : n < 0x200000) :
    m / 262144 % 8 < n / 262144 % 8 ∨ m / 262144 % 8 = n / 262144 % 8 ∧ (m / 4096 % 64 < n / 4096 % 64 ∨
      m / 4096 % 64 = n / 4096 % 64 ∧ (m / 64 % 64 < n / 64 % 64 ∨ m / 64 % 64 = n / 64 % 64 ∧ m % 64 < n % 64)) := by
  have digit {a b : Nat} (less : a < b) : a / 64 < b / 64 ∨ a / 64 = b / 64 ∧ a % 64 < b % 64 := by omega
  have first : m / 262144 % 8 = m / 262144 := Nat.mod_eq_of_lt (by omega)
  have first' : n / 262144 % 8 = n / 262144 := Nat.mod_eq_of_lt (by omega)
  rw [first, first']
  rcases digit less with less | ⟨same, last⟩
  · rcases digit less with less | ⟨same, last⟩
    · rcases digit less with less | ⟨same, last⟩ <;> omega
    · omega
  · omega

-- The bytes of two characters first differ where the greater one has the greater byte.
theorem compare_utf8EncodeChar_append {x y : Char} (less : x.toNat < y.toNat) (xs ys : List UInt8) :
    compare (String.utf8EncodeChar x ++ xs) (String.utf8EncodeChar y ++ ys) = .lt := by
  have low : x.val.toNat < y.val.toNat := less
  have high : y.val.toNat < 0x110000 := by
    rcases y.valid with plain | ⟨-, high⟩
    · exact Nat.lt_trans plain (by decide)
    · exact high
  have digits := less_by_digits low (by omega)
  simp only [String.utf8EncodeChar]
  -- The lesser character has no more bytes than the greater one, and with fewer bytes its first byte is less.
  split_ifs <;> first
    | omega
    | (simp (disch := omega) only [List.cons_append, List.nil_append, List.compare_cons_cons, compare_byte,
        Ordering.then_eq_lt, Nat.compare_eq_lt, Nat.compare_eq_eq]
       omega)

theorem compare_append_left (start xs ys : List UInt8) : compare (start ++ xs) (start ++ ys) = compare xs ys := by
  induction start with
  | nil => rfl
  | cons byte rest ih =>
    rw [List.cons_append, List.cons_append, List.compare_cons_cons, Std.ReflOrd.compare_self, Ordering.eq_then, ih]

theorem compare_flatMap_utf8EncodeChar {xs ys : List Char} (less : xs < ys) :
    compare (xs.flatMap String.utf8EncodeChar) (ys.flatMap String.utf8EncodeChar) = .lt := by
  induction xs generalizing ys with
  | nil =>
    cases ys with
    | nil => exact absurd less (List.not_lt_nil _)
    | cons y ys =>
      obtain ⟨byte, more, bytes⟩ := List.exists_cons_of_ne_nil (String.utf8EncodeChar_ne_nil (c := y))
      rw [List.flatMap_cons, bytes]
      rfl
  | cons x xs ih =>
    cases ys with
    | nil => exact absurd less (List.not_lt_nil _)
    | cons y ys =>
      rw [List.flatMap_cons, List.flatMap_cons]
      rcases List.cons_lt_cons_iff.mp less with first | ⟨rfl, later⟩
      · exact compare_utf8EncodeChar_append first _ _
      · rw [compare_append_left, ih later]

/-- The order of texts by their bytes is their order by their characters. -/
theorem compare_toUTF8 (s t : String) : compare s.toUTF8.toList t.toUTF8.toList = Ord.compare s t := by
  have bytes_of_lt {a b : String} (less : a < b) : compare a.toUTF8.toList b.toUTF8.toList = .lt := by
    rw [toList_toUTF8, toList_toUTF8]
    exact compare_flatMap_utf8EncodeChar (String.lt_iff_toList_lt.mp less)
  rcases lt_trichotomy s t with less | rfl | greater
  · rw [bytes_of_lt less, compare_lt_iff_lt.mpr less]
  · rw [Std.ReflOrd.compare_self, Std.ReflOrd.compare_self]
  · rw [Std.OrientedOrd.eq_swap, bytes_of_lt greater, compare_gt_iff_gt.mpr greater]
    rfl

theorem Cell.compare_text (s t : String) : Cell.compare (.text s) (.text t) = Ord.compare s t := by
  rw [← compare_toUTF8]
  rfl

end Catalogue
