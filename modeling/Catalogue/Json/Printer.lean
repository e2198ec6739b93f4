import Catalogue.Json

/-! JSON text: one item or field a line, two blanks a level, fields in the order of their names. -/

set_option autoImplicit false

namespace Catalogue.Json

def hexDigit (n : Nat) : Char := if n < 10 then Char.ofNat (48 + n) else Char.ofNat (87 + n)

def escaped (c : Char) : List Char :=
  if c == '"' then ['\\', '"']
  else if c == '\\' then ['\\', '\\']
  else if c == '\n' then ['\\', 'n']
  else if c == '\r' then ['\\', 'r']
  else if c == '\t' then ['\\', 't']
  else if c.toNat == 8 then ['\\', 'b']
  else if c.toNat == 12 then ['\\', 'f']
  else if c.toNat < 32 then ['\\', 'u', '0', '0', hexDigit (c.toNat / 16), hexDigit (c.toNat % 16)]
  else [c]

def quoted (s : String) : String :=
  String.ofList ('"' :: s.toList.flatMap escaped ++ ['"'])

def indent (depth : Nat) : String := String.ofList (List.replicate (2 * depth) ' ')

/-- The parts of a collection between its brackets; an empty collection takes no line of its own. -/
def enclosed (opening closing : String) (depth : Nat) : List String → String
  | [] => opening ++ closing
  | parts =>
    let line := fun part => "\n" ++ indent (depth + 1) ++ part
    opening ++ ",".intercalate (parts.map line) ++ "\n" ++ indent depth ++ closing

mutual

def printAt (depth : Nat) : Json → String
  | .null => "null"
  | .bool b => if b then "true" else "false"
  | .int n => toString n
  | .fraction text => text
  | .str s => quoted s
  | .arr items => enclosed "[" "]" depth (printItems (depth + 1) items)
  | .obj fields =>
    let parts := (printFields (depth + 1) fields).mergeSort fun a b => a.1 ≤ b.1
    enclosed "\x7b" "\x7d" depth (parts.map fun part => quoted part.1 ++ ": " ++ part.2)

def printItems (depth : Nat) : List Json → List String
  | [] => []
  | item :: rest => printAt depth item :: printItems depth rest

def printFields (depth : Nat) : List (String × Json) → List (String × String)
  | [] => []
  | (name, value) :: rest => (name, printAt depth value) :: printFields depth rest

end

def print (json : Json) : String := printAt 0 json

end Catalogue.Json
