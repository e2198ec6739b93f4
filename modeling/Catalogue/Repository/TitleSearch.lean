import Catalogue.Pattern.Glob
import Catalogue.Pattern.Like
import Catalogue.Store.Basic

/-! Searching titles by a like pattern: its glob pattern decides, and an index on the titles narrows
down which titles are looked at. -/

set_option autoImplicit false

namespace Catalogue

/-- A search for titles that a glob pattern matches.

The pattern ends at its first NUL. If titles are indexed, only those that begin with the characters
before the first wildcard are looked at, and when nothing but one star follows those characters, the
title is not matched any further. A pattern of too many bytes is refused once a title is matched. -/
structure TitleSearch where
  glob : List Char
  indexed : Bool

namespace TitleSearch

def ofLike (store : Store) (pattern : String) : TitleSearch :=
  ⟨Like.toGlob pattern, (store.schema.index? "idx_books_title").isSome⟩

def patternLimit : Nat := 50000

def isWildcard (c : Char) : Bool := c == '*' || c == '?' || c == '['

def effective (search : TitleSearch) : List Char := search.glob.takeWhile (· ≠ '\x00')

def tokens? (search : TitleSearch) : Option (List Glob.Token) :=
  Glob.tokens? (search.effective.map Cell.glyph)

def start (search : TitleSearch) : List Char :=
  if search.indexed then search.effective.takeWhile (!isWildcard ·) else []

def decidedByStart (search : TitleSearch) : Bool :=
  !search.start.isEmpty && search.effective == search.start ++ ['*']

def tooLong (search : TitleSearch) : Bool := patternLimit < (String.ofList search.glob).utf8ByteSize

def looksAt (search : TitleSearch) (title : Cell) : Bool :=
  search.start.isEmpty || title.startsWith search.start

def examines (search : TitleSearch) (title : Cell) : Bool := search.looksAt title && !search.decidedByStart

def holds (search : TitleSearch) (tokens? : Option (List Glob.Token)) (title : Cell) : Bool :=
  search.looksAt title &&
    (search.decidedByStart ||
      match tokens?, title.glyphs? with
      | some tokens, some glyphs => Glob.accepts tokens glyphs
      | _, _ => false)

def find {α : Type} (search : TitleSearch) (title : α → Cell) (xs : List α) : Except EngineError (List α) :=
  if search.tooLong && xs.any (fun x => search.examines (title x)) then .error .patternTooComplex
  else
    let tokens? := search.tokens?
    .ok <| xs.filter fun x => search.holds tokens? (title x)

end TitleSearch

end Catalogue
