import Catalogue.Store.Cell

/-! Rows under unique ids, and the mark from which new ids are taken.

The mark is the largest id that the table ever held, or zero; deleting rows does not lower it. -/

set_option autoImplicit false

namespace Catalogue

structure Row (α : Type) where
  id : Int
  cells : α
  deriving DecidableEq, Repr

/-- Rows in the order of their ids. -/
structure Table (α : Type) where
  rows : List (Row α)
  mark : Int
  ascending : rows.Pairwise fun a b => a.id < b.id
  le_mark : ∀ row ∈ rows, row.id ≤ mark
  mark_nonneg : 0 ≤ mark

namespace Table

variable {α : Type}

def empty : Table α := ⟨[], 0, .nil, by simp, Int.le_refl 0⟩

instance : Inhabited (Table α) := ⟨empty⟩

theorem ext_iff {a b : Table α} : a = b ↔ a.rows = b.rows ∧ a.mark = b.mark := by
  cases a
  cases b
  simp

instance [DecidableEq α] : DecidableEq (Table α) := fun _ _ => decidable_of_iff _ ext_iff.symm

def find? (table : Table α) (id : Int) : Option (Row α) := table.rows.find? (·.id == id)

def contains (table : Table α) (id : Int) : Bool := table.rows.any (·.id == id)

theorem ascending_snoc {rows : List (Row α)} {mark : Int} {row : Row α}
    (ascending : rows.Pairwise fun a b => a.id < b.id) (le_mark : ∀ r ∈ rows, r.id ≤ mark)
    (above : mark < row.id) : (rows ++ [row]).Pairwise fun a b => a.id < b.id := by
  refine List.pairwise_append.mpr ⟨ascending, by simp, fun a ha b hb => ?_⟩
  have := le_mark a ha
  simp only [List.mem_singleton] at hb
  subst hb
  omega

/-- Store a row under the next id; the last 64-bit id is followed by none. -/
def add (table : Table α) (cells : α) : Except EngineError (Int × Table α) :=
  if table.mark < IntRange.int64.high then
    .ok (table.mark + 1, {
      rows := table.rows ++ [⟨table.mark + 1, cells⟩]
      mark := table.mark + 1
      ascending := ascending_snoc table.ascending table.le_mark (by simp only; omega)
      le_mark := by
        intro row h
        rcases List.mem_append.mp h with h | h
        · have := table.le_mark row h; omega
        · simp only [List.mem_singleton] at h; subst h; exact Int.le_refl _
      mark_nonneg := by have := table.mark_nonneg; omega })
  else .error .full

def insertRow (rows : List (Row α)) (row : Row α) : List (Row α) :=
  rows.filter (·.id < row.id) ++ row :: rows.filter (row.id < ·.id)

theorem ascending_insertRow {rows : List (Row α)} (row : Row α)
    (ascending : rows.Pairwise fun a b => a.id < b.id) :
    (insertRow rows row).Pairwise fun a b => a.id < b.id := by
  refine List.pairwise_append.mpr ⟨ascending.filter _, List.pairwise_cons.mpr ⟨?_, ascending.filter _⟩, ?_⟩
  · intro a ha
    simpa using (List.mem_filter.mp ha).2
  · intro a ha b hb
    have ha := (List.mem_filter.mp ha).2
    rcases List.mem_cons.mp hb with rfl | hb
    · simpa using ha
    · have hb := (List.mem_filter.mp hb).2
      simp only [decide_eq_true_eq] at ha hb
      omega

theorem mem_insertRow {rows : List (Row α)} {row r : Row α} (h : r ∈ insertRow rows row) :
    r = row ∨ r ∈ rows := by
  simp only [insertRow, List.mem_append, List.mem_cons, List.mem_filter] at h
  rcases h with h | h | h
  · exact .inr h.1
  · exact .inl h
  · exact .inr h.1

def insert (table : Table α) (id : Int) (cells : α) : Option (Table α) :=
  if table.contains id then none
  else some {
    rows := insertRow table.rows ⟨id, cells⟩
    mark := max table.mark id
    ascending := ascending_insertRow _ table.ascending
    le_mark := by
      intro row h
      rcases mem_insertRow h with rfl | h
      · exact Int.le_max_right _ _
      · exact Int.le_trans (table.le_mark row h) (Int.le_max_left _ _)
    mark_nonneg := Int.le_trans table.mark_nonneg (Int.le_max_left _ _) }

def map (table : Table α) (f : Row α → α) : Table α where
  rows := table.rows.map fun row => ⟨row.id, f row⟩
  mark := table.mark
  ascending := List.pairwise_map.mpr table.ascending
  le_mark := by
    intro row h
    obtain ⟨r, hr, rfl⟩ := List.mem_map.mp h
    exact table.le_mark r hr
  mark_nonneg := table.mark_nonneg

@[simp] theorem rows_map (table : Table α) (f : Row α → α) :
    (table.map f).rows = table.rows.map fun row => ⟨row.id, f row⟩ := rfl

@[simp] theorem mark_map (table : Table α) (f : Row α → α) : (table.map f).mark = table.mark := rfl

def set (table : Table α) (id : Int) (cells : α) : Table α :=
  table.map fun row => if row.id = id then cells else row.cells

/-- Remove the rows that a test picks; the mark stays. -/
def remove (table : Table α) (picked : Row α → Bool) : Table α where
  rows := table.rows.filter (!picked ·)
  mark := table.mark
  ascending := table.ascending.filter _
  le_mark row h := table.le_mark row (List.mem_filter.mp h).1
  mark_nonneg := table.mark_nonneg

@[simp] theorem rows_remove (table : Table α) (picked : Row α → Bool) :
    (table.remove picked).rows = table.rows.filter (!picked ·) := rfl

@[simp] theorem mark_remove (table : Table α) (picked : Row α → Bool) :
    (table.remove picked).mark = table.mark := rfl

theorem remove_remove (table : Table α) (picked : Row α → Bool) :
    (table.remove picked).remove picked = table.remove picked := by
  rw [ext_iff]
  simp

def count (table : Table α) (picked : Row α → Bool) : Nat := table.rows.countP picked

end Table

end Catalogue
