import Catalogue.Book.Json
import Catalogue.Page.Json
import Mathlib.Data.List.Forall2

/-! The forms in which a value may be given in JSON. Each type has one form that is written; what is read may be an
object with its fields in any order and others beside them, or an array of the fields in declaration order, and
so again at every level. What is read is exactly what has such a form, and it is written so that it reads the same. -/

set_option autoImplicit false

namespace Catalogue

namespace Json

variable {α : Type} {read : Json → Option α} {write : α → Json} {Form : α → Json → Prop}

def Reads (read : Json → Option α) (Form : α → Json → Prop) : Prop := ∀ json a, read json = some a ↔ Form a json

/-- The values that fit are read back as they are written; what is read is what has a form of the value, and
writing it as it is always written does not change the value. -/
structure RoundTrips (write : α → Json) (read : Json → Option α) (Form : α → Json → Prop) (Fits : α → Prop) : Prop where
  read_write : ∀ a, Fits a → read (write a) = some a
  read_eq_some_iff : ∀ json a, read json = some a ↔ Form a json
  read_write_of_read : ∀ json a, read json = some a → read (write a) = some a

theorem Reads.roundTrips {Fits : α → Prop} (reads : Reads read Form) (form_write : ∀ a, Fits a → Form a (write a))
    (fits : ∀ a json, Form a json → Fits a) : RoundTrips write read Form Fits := by
  have read_write : ∀ a, Fits a → read (write a) = some a := fun a h => (reads _ a).mpr (form_write a h)
  exact ⟨read_write, reads, fun json a done => read_write a (fits a json ((reads json a).mp done))⟩

/-! ## Single values and lists -/

def TextForm (s : String) (json : Json) : Prop := json = .str s

def NumberForm (range : IntRange) (n : Int) (json : Json) : Prop := range.contains n = true ∧ json = .int n

inductive NullableForm (Form : α → Json → Prop) : Option α → Json → Prop where
  | null : NullableForm Form none .null
  | value {a : α} {json : Json} (form : Form a json) : NullableForm Form (some a) json

def ListForm (Form : α → Json → Prop) (l : List α) (json : Json) : Prop :=
  ∃ items, json = .arr items ∧ List.Forall₂ Form l items

theorem nullableForm_ofOption {value : Option α} (form : ∀ a ∈ value, Form a (write a)) :
    NullableForm Form value (ofOption write value) := by
  cases value with
  | none => exact .null
  | some a => exact .value (form a rfl)

theorem NullableForm.forall_mem {P : α → Prop} {value : Option α} {json : Json} (form : NullableForm Form value json)
    (each : ∀ a json, Form a json → P a) : ∀ a ∈ value, P a := by
  cases form with
  | null => simp
  | value form => simpa using each _ _ form

theorem listForm_map {l : List α} (form : ∀ a ∈ l, Form a (write a)) : ListForm Form l (.arr (l.map write)) := by
  refine ⟨_, rfl, ?_⟩
  rw [List.forall₂_map_right_iff, List.forall₂_same]
  exact form

theorem ListForm.forall_mem {P : α → Prop} {l : List α} {json : Json} (form : ListForm Form l json)
    (each : ∀ a json, Form a json → P a) : ∀ a ∈ l, P a := by
  obtain ⟨items, rfl, forms⟩ := form
  induction forms with
  | nil => simp
  | cons first _ ih => exact List.forall_mem_cons.mpr ⟨each _ _ first, ih⟩

theorem reads_str : Reads str? TextForm := by
  intro json s
  cases json <;> simp [str?, TextForm]

theorem reads_intWithin (range : IntRange) : Reads (intWithin? range) (NumberForm range) := by
  intro json n
  cases json with
  | int m =>
    simp only [intWithin?, IntRange.restrict?, NumberForm, int.injEq]
    split
    · rename_i contained
      rw [Option.some.injEq]
      exact ⟨fun same => same ▸ ⟨contained, rfl⟩, fun form => form.2⟩
    · rename_i outside
      exact iff_of_false (by simp) fun form => outside (form.2 ▸ form.1)
  | _ => simp [intWithin?, NumberForm]

theorem reads_int64 : Reads int64? (NumberForm .int64) := reads_intWithin .int64

theorem Reads.map {β : Type} {f : α → β} {g : β → α} (reads : Reads read Form) (right : ∀ b, f (g b) = b)
    (left : ∀ a json, Form a json → g (f a) = a) : Reads (fun json => (read json).map f) fun b => Form (g b) := by
  intro json b
  simp only [Option.map_eq_some_iff, reads json]
  constructor
  · rintro ⟨a, form, rfl⟩
    exact (left a json form).symm ▸ form
  · exact fun form => ⟨g b, form, right b⟩

theorem contains_int32 (n : Int32) : IntRange.int32.contains n.toInt = true :=
  (IntRange.contains_iff _ _).mpr ⟨n.le_toInt, Int.le_of_lt_add_one n.toInt_lt⟩

theorem contains_uint32 (n : UInt32) : IntRange.uint32.contains n.toNat = true :=
  (IntRange.contains_iff _ _).mpr ⟨Int.natCast_nonneg _, Int.ofNat_le.mpr (Nat.le_of_lt_succ n.toNat_lt)⟩

theorem reads_int32 : Reads int32? fun n : Int32 => NumberForm .int32 n.toInt := by
  refine (reads_intWithin .int32).map Int32.ofInt_toInt fun n _ form => ?_
  have bounds := (IntRange.contains_iff .int32 n).mp form.1
  exact Int32.toInt_ofInt_of_le bounds.1 (Int.lt_add_one_of_le bounds.2)

theorem reads_uint32 : Reads uint32? fun n : UInt32 => NumberForm .uint32 n.toNat := by
  refine (reads_intWithin .uint32).map (g := fun n : UInt32 => (n.toNat : Int)) (fun n => by simp) fun n _ form => ?_
  have bounds := (IntRange.contains_iff .uint32 n).mp form.1
  have below : n.toNat < UInt32.size := by
    simp [IntRange.uint32, UInt32.size] at *
    omega
  rw [UInt32.toNat_ofNat_of_lt' below, Int.toNat_of_nonneg bounds.1]

theorem mapM_eq_some_iff {items : List Json} {l : List α} :
    items.mapM read = some l ↔ List.Forall₂ (fun a json => read json = some a) l items := by
  induction items generalizing l with
  | nil => simp [eq_comm]
  | cons json items ih =>
    cases l with
    | nil => simp [Option.bind_eq_some_iff]
    | cons a l => simp [Option.bind_eq_some_iff, ← ih]

theorem reads_list (reads : Reads read Form) : Reads (list? read) (ListForm Form) := by
  intro json l
  cases json with
  | arr items =>
    have each : (fun a json => read json = some a) = Form := funext fun a => funext fun json => propext (reads json a)
    simp [list?, ListForm, mapM_eq_some_iff, each]
  | _ => simp [list?, ListForm]

/-! ## Fields of a record -/

/-- What stands under the name of a field, or does not, is a form of a value. Only of `absent` it may be left out. -/
def FieldForm (absent : Option α) (Form : α → Json → Prop) (a : α) : Option Json → Prop
  | none => absent = some a
  | some json => Form a json

theorem FieldForm.forall_mem {P : α → Prop} {value : Option α} {found : Option Json}
    (form : FieldForm (some none) (NullableForm Form) value found) (each : ∀ a json, Form a json → P a) :
    ∀ a ∈ value, P a := by
  cases found with
  | none => simp [← Option.some.inj form]
  | some json => exact NullableForm.forall_mem form each

theorem FieldForm.forall_mem_list {P : α → Prop} {l : List α} {found : Option Json}
    (form : FieldForm (some []) (ListForm Form) l found) (each : ∀ a json, Form a json → P a) : ∀ a ∈ l, P a := by
  cases found with
  | none => simp [← Option.some.inj form]
  | some json => exact ListForm.forall_mem form each

/-- A record with the fields of a value. They stand in an object, or in an array in the order of `names`, where the
last ones, as many as are `defaulted`, may be missing. -/
def RecordForm (names : List String) (defaulted : Nat) (Fields : (String → Option Json) → Prop) : Json → Prop
  | .obj fields => Fields fun name => fields.lookup name
  | .arr items => names.length ≤ items.length + defaulted ∧ items.length ≤ names.length ∧
      Fields fun name => items[names.idxOf name]?
  | _ => False

theorem lookup_zip {names : List String} {items : List Json} (name : String) (length : items.length ≤ names.length) :
    (names.zip items).lookup name = items[names.idxOf name]? := by
  induction names generalizing items with
  | nil => simp_all
  | cons first names ih =>
    cases items with
    | nil => simp
    | cons json items =>
      by_cases same : first = name
      · simp [same]
      · have other : (name == first) = false := by simp [Ne.symm same]
        simp [List.lookup_cons, List.idxOf_cons_ne _ same, other, ih (by simpa using length)]

theorem reads_record {names : List String} {defaulted : Nat} {read : List (String × Json) → Option α}
    {Fields : α → (String → Option Json) → Prop}
    (each : ∀ fields a, read fields = some a ↔ Fields a fun name => fields.lookup name) :
    Reads (fun json => (json.record? names defaulted).bind read) fun a => RecordForm names defaulted (Fields a) := by
  intro json a
  cases json with
  | obj fields => exact each fields a
  | arr items =>
    simp only [record?, RecordForm]
    split
    · rename_i length
      simp [each, length, lookup_zip _ length.2]
    · rename_i length
      exact iff_of_false (by simp) fun form => length ⟨form.1, form.2.1⟩
  | _ => simp [record?, RecordForm]

theorem RecordForm.imp {names : List String} {defaulted : Nat} {Fields : (String → Option Json) → Prop} {json : Json}
    {P : Prop} (form : RecordForm names defaulted Fields json) (fields : ∀ field, Fields field → P) : P := by
  cases json with
  | obj _ => exact fields _ form
  | arr _ => exact fields _ form.2.2
  | _ => exact form.elim

variable {fields : List (String × Json)} {name : String}

theorem required_eq_some_iff (reads : Reads read Form) {a : α} :
    required read fields name = some a ↔ FieldForm none Form a (fields.lookup name) := by
  cases found : fields.lookup name <;> simp [required, found, FieldForm, reads _ _]

theorem defaulted_eq_some_iff (reads : Reads read Form) {absent a : α} :
    defaulted read absent fields name = some a ↔ FieldForm (some absent) Form a (fields.lookup name) := by
  cases found : fields.lookup name <;> simp [defaulted, found, FieldForm, reads _ _]

theorem nullable_eq_some_iff (reads : Reads read Form) (null : read .null = none) {a : Option α} :
    nullable read fields name = some a ↔ FieldForm (some none) (NullableForm Form) a (fields.lookup name) := by
  have formless : ∀ b, ¬ Form b .null := fun b form => by simp [(reads .null b).mpr form] at null
  have written : ∀ json b, NullableForm Form (some b) json ↔ Form b json :=
    fun json b => ⟨fun (.value form) => form, .value⟩
  have unwritten : ∀ json, NullableForm Form none json ↔ json = .null := fun json => ⟨fun .null => rfl, (· ▸ .null)⟩
  cases found : fields.lookup name with
  | none => simp [nullable, found, FieldForm]
  | some json => cases json <;> cases a <;> simp [nullable, found, FieldForm, written, unwritten, formless, reads _ _]

end Json

/-! ## Reviews and books -/

structure Review.Fields (review : Review) (field : String → Option Json) : Prop where
  id : Json.FieldForm (some none) (Json.NullableForm (Json.NumberForm .int64)) review.id (field "id")
  reviewer : Json.FieldForm none Json.TextForm review.reviewer (field "reviewer")
  content : Json.FieldForm none Json.TextForm review.content (field "content")
  bookId : Json.FieldForm (some none) (Json.NullableForm (Json.NumberForm .int64)) review.bookId (field "book_id")

def Review.Form (review : Review) : Json → Prop :=
  Json.RecordForm ["id", "reviewer", "content", "book_id"] 0 review.Fields

structure Review.Fits (review : Review) : Prop where
  id : ∀ id ∈ review.id, IntRange.int64.contains id = true
  bookId : ∀ id ∈ review.bookId, IntRange.int64.contains id = true

theorem Review.reads : Json.Reads Review.ofJson? Review.Form := by
  refine Json.reads_record fun fields review => ?_
  simp only [Option.bind_eq_bind, Option.bind_eq_some_iff, pure, Option.some.injEq,
    Json.required_eq_some_iff Json.reads_str, Json.nullable_eq_some_iff Json.reads_int64 rfl]
  constructor
  · rintro ⟨id, idForm, reviewer, reviewerForm, content, contentForm, bookId, bookIdForm, rfl⟩
    exact ⟨idForm, reviewerForm, contentForm, bookIdForm⟩
  · exact fun form => ⟨_, form.id, _, form.reviewer, _, form.content, _, form.bookId, rfl⟩

theorem Review.form_toJson (review : Review) (fits : review.Fits) : review.Form review.toJson where
  id := Json.nullableForm_ofOption fun id same => ⟨fits.id id same, rfl⟩
  reviewer := rfl
  content := rfl
  bookId := Json.nullableForm_ofOption fun id same => ⟨fits.bookId id same, rfl⟩

theorem Review.Fields.fits {review : Review} {field : String → Option Json} (form : review.Fields field) :
    review.Fits where
  id := form.id.forall_mem fun _ _ form => form.1
  bookId := form.bookId.forall_mem fun _ _ form => form.1

structure Book.Fields (book : Book) (field : String → Option Json) : Prop where
  id : Json.FieldForm (some none) (Json.NullableForm (Json.NumberForm .int64)) book.id (field "id")
  title : Json.FieldForm none Json.TextForm book.title (field "title")
  pages : Json.FieldForm none (fun n : Int32 => Json.NumberForm .int32 n.toInt) book.pages (field "pages")
  reviews : Json.FieldForm (some []) (Json.ListForm Review.Form) book.reviews (field "reviews")

def Book.Form (book : Book) : Json → Prop := Json.RecordForm ["id", "title", "pages", "reviews"] 1 book.Fields

structure Book.Fits (book : Book) : Prop where
  id : ∀ id ∈ book.id, IntRange.int64.contains id = true
  reviews : ∀ review ∈ book.reviews, review.Fits

theorem Book.reads : Json.Reads Book.ofJson? Book.Form := by
  refine Json.reads_record fun fields book => ?_
  simp only [Option.bind_eq_bind, Option.bind_eq_some_iff, pure, Option.some.injEq,
    Json.required_eq_some_iff Json.reads_str, Json.required_eq_some_iff Json.reads_int32,
    Json.nullable_eq_some_iff Json.reads_int64 rfl, Json.defaulted_eq_some_iff (Json.reads_list Review.reads)]
  constructor
  · rintro ⟨id, idForm, title, titleForm, pages, pagesForm, reviews, reviewsForm, rfl⟩
    exact ⟨idForm, titleForm, pagesForm, reviewsForm⟩
  · exact fun form => ⟨_, form.id, _, form.title, _, form.pages, _, form.reviews, rfl⟩

theorem Book.form_toJson (book : Book) (fits : book.Fits) : book.Form book.toJson where
  id := Json.nullableForm_ofOption fun id same => ⟨fits.id id same, rfl⟩
  title := rfl
  pages := ⟨Json.contains_int32 _, rfl⟩
  reviews := Json.listForm_map fun review mem => review.form_toJson (fits.reviews review mem)

theorem Book.Fields.fits {book : Book} {field : String → Option Json} (form : book.Fields field) : book.Fits where
  id := form.id.forall_mem fun _ _ form => form.1
  reviews := form.reviews.forall_mem_list fun _ _ form => form.imp fun _ form => form.fits

/-! ## Page requests -/

def Direction.Form (direction : Direction) (json : Json) : Prop :=
  direction.toJson = json ∨ ∃ name, direction.toJson = .str name ∧ json = .obj [(name, .null)]

theorem Direction.ofName?_eq_some_iff {name : String} {direction : Direction} :
    ofName? name = some direction ↔ direction.toJson = .str name := by
  unfold ofName?
  split
  all_goals cases direction <;> simp_all [toJson, eq_comm]

theorem Direction.reads : Json.Reads Direction.ofJson? Direction.Form := by
  intro json direction
  unfold ofJson? Form
  split
  · simp [ofName?_eq_some_iff]
  · rename_i name
    have bare : direction.toJson ≠ .obj [(name, .null)] := by cases direction <;> simp [toJson]
    simp [ofName?_eq_some_iff, bare]
  · rename_i text object
    refine iff_of_false (by simp) ?_
    rintro (rfl | ⟨name, _, rfl⟩)
    · cases direction <;> exact text _ rfl
    · exact object _ rfl

structure SortTerm.Fields (term : SortTerm) (field : String → Option Json) : Prop where
  property : Json.FieldForm none Json.TextForm term.property (field "property")
  direction : Json.FieldForm none Direction.Form term.direction (field "direction")

def SortTerm.Form (term : SortTerm) : Json → Prop := Json.RecordForm ["property", "direction"] 0 term.Fields

theorem SortTerm.reads : Json.Reads SortTerm.ofJson? SortTerm.Form := by
  refine Json.reads_record fun fields term => ?_
  simp only [Option.bind_eq_bind, Option.bind_eq_some_iff, pure, Option.some.injEq,
    Json.required_eq_some_iff Json.reads_str, Json.required_eq_some_iff Direction.reads]
  constructor
  · rintro ⟨property, propertyForm, direction, directionForm, rfl⟩
    exact ⟨propertyForm, directionForm⟩
  · exact fun form => ⟨_, form.property, _, form.direction, rfl⟩

theorem SortTerm.form_toJson (term : SortTerm) : term.Form term.toJson := ⟨rfl, .inl rfl⟩

structure Sorting.Fields (sorting : Sorting) (field : String → Option Json) : Prop where
  orders : Json.FieldForm none (Json.ListForm SortTerm.Form) sorting.orders (field "orders")

def Sorting.Form (sorting : Sorting) : Json → Prop := Json.RecordForm ["orders"] 0 sorting.Fields

theorem Sorting.reads : Json.Reads Sorting.ofJson? Sorting.Form := by
  refine Json.reads_record fun fields sorting => ?_
  simp only [Option.bind_eq_bind, Option.bind_eq_some_iff, pure, Option.some.injEq,
    Json.required_eq_some_iff (Json.reads_list SortTerm.reads)]
  constructor
  · rintro ⟨orders, form, rfl⟩
    exact ⟨form⟩
  · exact fun form => ⟨_, form.orders, rfl⟩

theorem Sorting.form_toJson (sorting : Sorting) : sorting.Form sorting.toJson :=
  ⟨Json.listForm_map fun term _ => term.form_toJson⟩

structure PageRequest.Fields (request : PageRequest) (field : String → Option Json) : Prop where
  number : Json.FieldForm none (fun n : UInt32 => Json.NumberForm .uint32 n.toNat) request.number (field "number")
  size : Json.FieldForm (some none) (Json.NullableForm fun n : UInt32 => Json.NumberForm .uint32 n.toNat) request.size
    (field "size")
  sort : Json.FieldForm (some .unsorted) Sorting.Form request.sort (field "sort")

def PageRequest.Form (request : PageRequest) : Json → Prop :=
  Json.RecordForm ["number", "size", "sort"] 1 request.Fields

theorem PageRequest.reads : Json.Reads PageRequest.ofJson? PageRequest.Form := by
  refine Json.reads_record fun fields request => ?_
  simp only [Option.bind_eq_bind, Option.bind_eq_some_iff, pure, Option.some.injEq,
    Json.required_eq_some_iff Json.reads_uint32, Json.nullable_eq_some_iff Json.reads_uint32 rfl,
    Json.defaulted_eq_some_iff Sorting.reads]
  constructor
  · rintro ⟨number, numberForm, size, sizeForm, sort, sortForm, rfl⟩
    exact ⟨numberForm, sizeForm, sortForm⟩
  · exact fun form => ⟨_, form.number, _, form.size, _, form.sort, rfl⟩

theorem PageRequest.form_toJson (request : PageRequest) : request.Form request.toJson where
  number := ⟨Json.contains_uint32 _, rfl⟩
  size := Json.nullableForm_ofOption fun _ _ => ⟨Json.contains_uint32 _, rfl⟩
  sort := request.sort.form_toJson

/-- Reviews and books whose ids are 64-bit numbers, and all terms of an order, orders and page requests, are read back
as they are written. In each of its forms a value is read as itself, whichever of its records are given as arrays and
whichever of its fields are left out; nothing else is read, and what is read is written so that it reads the same. -/
theorem json_round_trip :
    Json.RoundTrips Review.toJson Review.ofJson? Review.Form Review.Fits ∧
    Json.RoundTrips Book.toJson Book.ofJson? Book.Form Book.Fits ∧
    Json.RoundTrips SortTerm.toJson SortTerm.ofJson? SortTerm.Form (fun _ => True) ∧
    Json.RoundTrips Sorting.toJson Sorting.ofJson? Sorting.Form (fun _ => True) ∧
    Json.RoundTrips PageRequest.toJson PageRequest.ofJson? PageRequest.Form (fun _ => True) :=
  ⟨Review.reads.roundTrips Review.form_toJson fun _ _ form => form.imp fun _ form => form.fits,
    Book.reads.roundTrips Book.form_toJson fun _ _ form => form.imp fun _ form => form.fits,
    SortTerm.reads.roundTrips (fun term _ => term.form_toJson) fun _ _ _ => trivial,
    Sorting.reads.roundTrips (fun sorting _ => sorting.form_toJson) fun _ _ _ => trivial,
    PageRequest.reads.roundTrips (fun request _ => request.form_toJson) fun _ _ _ => trivial⟩

theorem json_round_trip_mixed :
    let book : Book := ⟨none, "Emma", 474, [⟨some 7, "Ann", "Witty", some 1⟩, .new "Bo" "Long"]⟩
    Book.ofJson? (.obj [("shelf", .str "A3"), ("reviews", .arr [.arr [.int 7, .str "Ann", .str "Witty", .int 1],
      .obj [("content", .str "Long"), ("reviewer", .str "Bo")]]), ("pages", .int 474), ("title", .str "Emma")]) =
        some book ∧
    Book.ofJson? book.toJson = some book ∧ Book.ofJson? (.arr [.null, .str "Emma", .int 474]) =
      some (.new "Emma" 474) := by
  intro book
  have mixed := (json_round_trip.2.1.read_eq_some_iff (.obj [("shelf", .str "A3"),
    ("reviews", .arr [.arr [.int 7, .str "Ann", .str "Witty", .int 1],
      .obj [("content", .str "Long"), ("reviewer", .str "Bo")]]), ("pages", .int 474), ("title", .str "Emma")]) book).mpr
    { id := rfl
      title := rfl
      pages := ⟨by decide, rfl⟩
      reviews := ⟨_, rfl, .cons ⟨by decide, by decide, ⟨.value ⟨by decide, rfl⟩, rfl, rfl, .value ⟨by decide, rfl⟩⟩⟩
        (.cons ⟨rfl, rfl, rfl, rfl⟩ .nil)⟩ }
  refine ⟨mixed, json_round_trip.2.1.read_write_of_read _ _ mixed, ?_⟩
  exact (json_round_trip.2.1.read_eq_some_iff _ _).mpr ⟨by decide, by decide, ⟨.null, rfl, ⟨by decide, rfl⟩, rfl⟩⟩

end Catalogue
