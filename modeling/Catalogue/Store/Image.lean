import Catalogue.Binary64.Digits
import Catalogue.Json
import Catalogue.Store.Basic

/-! The JSON form of a store, in which a file keeps it. A form whose ids do not ascend, or pass the mark
of their table, is no store. -/

set_option autoImplicit false

namespace Catalogue

namespace Cell

def byteItems (bytes : List UInt8) : Json := .arr (bytes.map fun b => .int b.toNat)

def byte? (json : Json) : Option UInt8 := (json.intWithin? ⟨0, 255⟩).map fun n => UInt8.ofNat n.toNat

/-- Numbers are written with the fewest digits that read back, and without an exponent from `10 ^ -4` up to
sixteen places before the point. -/
def imageLayout : Decimal.Layout := ⟨15, false, 1, false⟩

def imageOfReal : Binary64 → String
  | .finite significand exponent => (Binary64.shortest significand exponent).render imageLayout
  | .infinite negative => if negative then "-inf" else "inf"

/-- Words for what is no finite number, in any case: what is not a number at all is a null. -/
def ofRealWord? (word : String) (negative : Bool) : Option Cell :=
  match word.toLower with
  | "inf" | "infinity" => some (real (.infinite negative))
  | "nan" => some null
  | _ => none

def ofRealText? (text : String) : Option Cell :=
  match Numeral.read? text.toList with
  | some numeral => some (real (.ofDecimal numeral.toDecimal))
  | none =>
    let (negative, word) := Text.splitSign text.toList
    ofRealWord? (String.ofList word) negative

/-- Null, integers and strings stand for themselves, other values in an object that names their kind. -/
def toJson : Cell → Json
  | null => .null
  | int n => .int n
  | real x => .obj [("real", .str (imageOfReal x))]
  | text s => .str s
  | garbled bytes => .obj [("text_bytes", byteItems bytes)]
  | blob bytes => .obj [("blob", byteItems bytes)]

def ofJson? : Json → Option Cell
  | .null => some null
  | .int n => (Json.int64? (.int n)).map int
  | .str s => some (text s)
  | .obj [("real", .str s)] => ofRealText? s
  | .obj [("blob", bytes)] => (bytes.list? byte?).map blob
  | .obj [("text_bytes", bytes)] => (bytes.list? byte?).map ofTextBytes
  | _ => none

end Cell

namespace Table

variable {α : Type}

def isAscending : List (Row α) → Bool
  | [] => true
  | [_] => true
  | a :: b :: rest => a.id < b.id && isAscending (b :: rest)

theorem ascending_of_isAscending {rows : List (Row α)} (h : isAscending rows = true) :
    rows.Pairwise fun a b => a.id < b.id := by
  fun_induction isAscending rows with
  | case1 => exact .nil
  | case2 => simp
  | case3 a b rest ih =>
    simp only [Bool.and_eq_true, decide_eq_true_eq] at h
    refine List.pairwise_cons.mpr ⟨fun row member => ?_, ih h.2⟩
    rcases List.mem_cons.mp member with rfl | member
    · exact h.1
    · exact Int.lt_trans h.1 ((List.pairwise_cons.mp (ih h.2)).1 row member)

def ofRows? (rows : List (Row α)) (mark : Int) : Option (Table α) :=
  if h : isAscending rows = true ∧ (∀ row ∈ rows, row.id ≤ mark) ∧ 0 ≤ mark then
    some ⟨rows, mark, ascending_of_isAscending h.1, h.2.1, h.2.2⟩
  else none

def toJson (writeRow : Row α → Json) (table : Table α) : Json :=
  .obj [("mark", .int table.mark), ("rows", .arr (table.rows.map writeRow))]

def ofJson? (readRow : Json → Option (Row α)) (json : Json) : Option (Table α) := do
  let fields ← json.record? ["mark", "rows"] 0
  let mark ← Json.required Json.int64? fields "mark"
  ofRows? (← Json.required (Json.list? readRow) fields "rows") mark

end Table

namespace Row

def ofBookJson? : Json → Option (Row BookCells)
  | .arr [id, title, pages] => do
    return ⟨← id.int64?, ⟨← Cell.ofJson? title, ← Cell.ofJson? pages⟩⟩
  | _ => none

def ofReviewJson? : Json → Option (Row ReviewCells)
  | .arr [id, reviewer, content, bookId] => do
    return ⟨← id.int64?, ⟨← Cell.ofJson? reviewer, ← Cell.ofJson? content, ← Cell.ofJson? bookId⟩⟩
  | _ => none

def bookJson (row : Row BookCells) : Json :=
  .arr [.int row.id, row.cells.title.toJson, row.cells.pages.toJson]

def reviewJson (row : Row ReviewCells) : Json :=
  .arr [.int row.id, row.cells.reviewer.toJson, row.cells.content.toJson, row.cells.bookId.toJson]

end Row

/-- A column is its name, in a list of its own if it is generated. -/
def Column.toJson (column : Column) : Json :=
  if column.generated then .arr [.str column.name] else .str column.name

def Column.ofJson? : Json → Option Column
  | .str name => some (.plain name)
  | .arr [.str name] => some ⟨name, true⟩
  | _ => none

def TableEntry.toJson (table : TableEntry) : Json :=
  .obj [("name", .str table.name), ("columns", .arr (table.columns.map Column.toJson))]

def TableEntry.ofJson? (json : Json) : Option TableEntry := do
  let fields ← json.record? ["name", "columns"] 0
  let name ← Json.required Json.str? fields "name"
  return ⟨name, ← Json.required (Json.list? Column.ofJson?) fields "columns"⟩

def IndexEntry.toJson (index : IndexEntry) : Json :=
  .obj [("name", .str index.name), ("table", .str index.table)]

def IndexEntry.ofJson? (json : Json) : Option IndexEntry := do
  let fields ← json.record? ["name", "table"] 0
  let name ← Json.required Json.str? fields "name"
  return ⟨name, ← Json.required Json.str? fields "table"⟩

def Schema.toJson (schema : Schema) : Json :=
  .obj [
    ("tables", .arr (schema.tables.map TableEntry.toJson)),
    ("views", .arr (schema.views.map .str)),
    ("indexes", .arr (schema.indexes.map IndexEntry.toJson)),
    ("numbered", .bool schema.numbered)]

def Schema.ofJson? (json : Json) : Option Schema := do
  let fields ← json.record? ["tables", "views", "indexes", "numbered"] 0
  let tables ← Json.required (Json.list? TableEntry.ofJson?) fields "tables"
  let views ← Json.required (Json.list? Json.str?) fields "views"
  let indexes ← Json.required (Json.list? IndexEntry.ofJson?) fields "indexes"
  return ⟨tables, views, indexes, ← Json.required Json.bool? fields "numbered"⟩

def Store.toJson (store : Store) : Json :=
  .obj [
    ("version", .int store.userVersion),
    ("schema", store.schema.toJson),
    ("books", store.books.toJson Row.bookJson),
    ("reviews", store.reviews.toJson Row.reviewJson)]

def Store.ofJson? (json : Json) : Option Store := do
  let fields ← json.record? ["version", "schema", "books", "reviews"] 0
  let version ← Json.required (Json.intWithin? .int32) fields "version"
  let schema ← Json.required Schema.ofJson? fields "schema"
  let books ← Json.required (Table.ofJson? Row.ofBookJson?) fields "books"
  return ⟨version, schema, books, ← Json.required (Table.ofJson? Row.ofReviewJson?) fields "reviews"⟩

end Catalogue
