import Catalogue.Json
import Catalogue.Page

/-! The JSON form of page requests and of the windows that answer them. -/

set_option autoImplicit false

namespace Catalogue

def Direction.toJson : Direction → Json
  | .asc => .str "asc"
  | .desc => .str "desc"

def Direction.ofName? : String → Option Direction
  | "asc" => some .asc
  | "desc" => some .desc
  | _ => none

/-- A direction is its name, or an object with that name as its only key and null as its value. -/
def Direction.ofJson? : Json → Option Direction
  | .str name | .obj [(name, .null)] => ofName? name
  | _ => none

def SortTerm.toJson (term : SortTerm) : Json :=
  .obj [("property", .str term.property), ("direction", term.direction.toJson)]

def SortTerm.ofJson? (json : Json) : Option SortTerm := do
  let fields ← json.record? ["property", "direction"] 0
  return {
    property := ← Json.required Json.str? fields "property"
    direction := ← Json.required Direction.ofJson? fields "direction" }

def Sorting.toJson (sorting : Sorting) : Json :=
  .obj [("orders", .arr (sorting.orders.map SortTerm.toJson))]

def Sorting.ofJson? (json : Json) : Option Sorting := do
  let fields ← json.record? ["orders"] 0
  return { orders := ← Json.required (Json.list? SortTerm.ofJson?) fields "orders" }

def PageRequest.toJson (request : PageRequest) : Json :=
  .obj [
    ("number", .int request.number.toNat),
    ("size", .ofOption (fun size => .int size.toNat) request.size),
    ("sort", request.sort.toJson)]

def PageRequest.ofJson? (json : Json) : Option PageRequest := do
  let fields ← json.record? ["number", "size", "sort"] 1
  return {
    number := ← Json.required Json.uint32? fields "number"
    size := ← Json.nullable Json.uint32? fields "size"
    sort := ← Json.defaulted Sorting.ofJson? .unsorted fields "sort" }

def Slice.toJson {α : Type} (write : α → Json) (slice : Slice α) : Json :=
  .obj [
    ("content", .arr (slice.content.map write)),
    ("pageable", slice.request.toJson),
    ("has_next", .bool slice.hasNext)]

def Page.toJson {α : Type} (write : α → Json) (page : Page α) : Json :=
  .obj [
    ("content", .arr (page.content.map write)),
    ("pageable", page.request.toJson),
    ("total_size", .int page.totalSize)]

end Catalogue
