/-! UTF-8: bytes read strictly, with the place where they stop being text, and read leniently, as a
reader does that never refuses. -/

set_option autoImplicit false

namespace Catalogue.Text

/-- Where bytes stop being UTF-8: how many bytes before that are sound, and how many make up the
unsound sequence. A sequence that the end of the bytes cuts short has no length. -/
structure Fault where
  start : Nat
  length : Option Nat
  deriving DecidableEq, Repr

def Fault.message : Fault → String
  | ⟨start, some length⟩ => s!"invalid utf-8 sequence of {length} bytes from index {start}"
  | ⟨start, none⟩ => s!"incomplete utf-8 byte sequence from index {start}"

def isContinuation (b : UInt8) : Bool := 0x80 ≤ b && b < 0xC0

def payload (b : UInt8) : Nat := b.toNat % 64

/-- The second byte that a lead byte allows; it rules out overlong forms, surrogates and numbers
past the last code point. -/
def allowsSecond (lead second : UInt8) : Bool :=
  isContinuation second &&
    !(lead == 0xE0 && second < 0xA0) && !(lead == 0xED && 0xA0 ≤ second) &&
    !(lead == 0xF0 && second < 0x90) && !(lead == 0xF4 && 0x90 ≤ second)

def decodeFrom (position : Nat) : List UInt8 → Except Fault (List Char)
  | [] => .ok []
  | a :: rest =>
    if a < 0x80 then (Char.ofNat a.toNat :: ·) <$> decodeFrom (position + 1) rest
    else if 0xC2 ≤ a && a ≤ 0xDF then
      match rest with
      | [] => .error ⟨position, none⟩
      | b :: rest =>
        if !allowsSecond a b then .error ⟨position, some 1⟩
        else (Char.ofNat (a.toNat % 32 * 64 + payload b) :: ·) <$> decodeFrom (position + 2) rest
    else if 0xE0 ≤ a && a ≤ 0xEF then
      match rest with
      | [] => .error ⟨position, none⟩
      | [b] => .error ⟨position, if allowsSecond a b then none else some 1⟩
      | b :: c :: rest =>
        if !allowsSecond a b then .error ⟨position, some 1⟩
        else if !isContinuation c then .error ⟨position, some 2⟩
        else (Char.ofNat ((a.toNat % 16 * 64 + payload b) * 64 + payload c) :: ·) <$>
          decodeFrom (position + 3) rest
    else if 0xF0 ≤ a && a ≤ 0xF4 then
      match rest with
      | [] => .error ⟨position, none⟩
      | [b] => .error ⟨position, if allowsSecond a b then none else some 1⟩
      | [b, c] =>
        .error ⟨position, if !allowsSecond a b then some 1 else if isContinuation c then none else some 2⟩
      | b :: c :: d :: rest =>
        if !allowsSecond a b then .error ⟨position, some 1⟩
        else if !isContinuation c then .error ⟨position, some 2⟩
        else if !isContinuation d then .error ⟨position, some 3⟩
        else (Char.ofNat (((a.toNat % 8 * 64 + payload b) * 64 + payload c) * 64 + payload d) :: ·) <$>
          decodeFrom (position + 4) rest
    else .error ⟨position, some 1⟩

def decode (bytes : List UInt8) : Except Fault String :=
  String.ofList <$> decodeFrom 0 bytes

/-- Read bytes with something in place of each unsound sequence, `fuel` of them at most. -/
def decodeWith (replace : List UInt8 → List Char) : (fuel : Nat) → List UInt8 → List Char
  | 0, _ => []
  | fuel + 1, bytes =>
    match decodeFrom 0 bytes with
    | .ok cs => cs
    | .error fault =>
      let rest := bytes.drop fault.start
      let length := fault.length.getD rest.length
      (decodeFrom 0 (bytes.take fault.start)).toOption.getD [] ++ replace (rest.take length) ++
        decodeWith replace fuel (rest.drop length)

def display (bytes : List UInt8) : String :=
  String.ofList (decodeWith (fun _ => ['\uFFFD']) (bytes.length + 1) bytes)

def standInStart : Nat := 0x10F700

/-- Bytes as text that tells them all apart: a stand-in takes the place of each unsound byte. -/
def ofBytes (bytes : List UInt8) : String :=
  let standIn (b : UInt8) : Char := Char.ofNat (standInStart + b.toNat)
  String.ofList (decodeWith (List.map standIn) (bytes.length + 1) bytes)

def size (text : String) : Nat :=
  text.toList.foldl (fun n c =>
    n + if standInStart + 0x80 ≤ c.toNat ∧ c.toNat < standInStart + 0x100 then 1 else c.utf8Size) 0

def leadValue (a : UInt8) : Nat :=
  if a < 0xE0 then a.toNat % 32 else if a < 0xF0 then a.toNat % 16 else if a < 0xF8 then a.toNat % 8
  else if a < 0xFC then a.toNat % 4 else if a < 0xFE then a.toNat % 2 else 0

/-- A lenient reader's substitute for numbers that are no character: overlong forms, surrogates and
the last two code points of the basic plane. -/
def settle (n : Nat) : Nat :=
  if n < 0x80 || (0xD800 ≤ n && n ≤ 0xDFFF) || n == 0xFFFE || n == 0xFFFF then 0xFFFD else n

/-- Read bytes without refusing any: a lead byte takes all continuation bytes after it, and a
continuation byte on its own stands for itself. `pending` is the number being put together. -/
def lenient : (pending : Option Nat) → List UInt8 → List Nat
  | none, [] => []
  | some n, [] => [settle n]
  | none, a :: rest =>
    if 0xC0 ≤ a then lenient (some (leadValue a)) rest else a.toNat :: lenient none rest
  | some n, a :: rest =>
    if isContinuation a then lenient (some ((n * 64 + payload a) % 0x100000000)) rest
    else if 0xC0 ≤ a then settle n :: lenient (some (leadValue a)) rest
    else settle n :: a.toNat :: lenient none rest

end Catalogue.Text
