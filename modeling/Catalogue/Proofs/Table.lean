import Mathlib.Data.List.Dedup
import Mathlib.Data.List.Sort
import Catalogue.Store.Table

/-! Tables by look-up. What a table holds is the row under each id, and each statement is one equation
about look-ups; two tables with the same rows under all ids and the same mark are equal. -/

set_option autoImplicit false

namespace Catalogue.Table

variable {α : Type} {table : Table α} {id : Int} {row : Row α} {cells : α}

theorem nodup_ids (table : Table α) : (table.rows.map (·.id)).Nodup :=
  List.pairwise_map.mpr (table.ascending.imp fun h => ne_of_lt h)

theorem find?_key_eq_some_iff {β : Type} {key : β → Int} {xs : List β} (distinct : (xs.map key).Nodup) {k : Int}
    {x : β} : xs.find? (key · == k) = some x ↔ x ∈ xs ∧ key x = k := by
  constructor
  · intro found
    exact ⟨List.mem_of_find?_eq_some found, by simpa using List.find?_some found⟩
  · rintro ⟨member, rfl⟩
    cases found : xs.find? (key · == key x) with
    | none => simpa using List.find?_eq_none.mp found x member
    | some other =>
      have same : key other = key x := by simpa using List.find?_some found
      rw [List.inj_on_of_nodup_map distinct (List.mem_of_find?_eq_some found) member same]

theorem find?_eq_some_iff : table.find? id = some row ↔ row ∈ table.rows ∧ row.id = id :=
  find?_key_eq_some_iff table.nodup_ids

theorem mem_rows_iff : row ∈ table.rows ↔ table.find? row.id = some row := by
  simp [find?_eq_some_iff]

theorem id_of_find? (found : table.find? id = some row) : row.id = id := (find?_eq_some_iff.mp found).2

theorem contains_iff_find? : table.contains id = true ↔ ∃ row, table.find? id = some row := by
  simp [contains, find?_eq_some_iff]

theorem contains_of_mem (member : row ∈ table.rows) : table.contains row.id = true :=
  contains_iff_find?.mpr ⟨row, mem_rows_iff.mp member⟩

theorem find?_eq_none_iff : table.find? id = none ↔ table.contains id = false := by
  rw [← Bool.not_eq_true, contains_iff_find?, ← Option.isSome_iff_exists]
  simp

theorem le_mark_of_find? (found : table.find? id = some row) : id ≤ table.mark := by
  obtain ⟨member, rfl⟩ := find?_eq_some_iff.mp found
  exact table.le_mark row member

theorem le_mark_of_contains (stored : table.contains id = true) : id ≤ table.mark := by
  obtain ⟨row, found⟩ := contains_iff_find?.mp stored
  exact le_mark_of_find? found

theorem find?_above_mark (above : table.mark < id) : table.find? id = none := by
  cases found : table.find? id with
  | none => rfl
  | some row => exact absurd (le_mark_of_find? found) (not_le.mpr above)

theorem rows_ext {rows rows' : List (Row α)} (first : rows.Pairwise fun x y => x.id < y.id)
    (second : rows'.Pairwise fun x y => x.id < y.id) (same : ∀ row, row ∈ rows ↔ row ∈ rows') : rows = rows' := by
  have : Std.Irrefl fun x y : Row α => x.id < y.id := ⟨fun x => lt_irrefl x.id⟩
  have : Std.Antisymm fun x y : Row α => x.id < y.id := ⟨fun x y h h' => absurd h (lt_asymm h')⟩
  exact first.eq_of_mem_iff second same

theorem eq_of_find? {other : Table α} (mark : table.mark = other.mark)
    (same : ∀ id, table.find? id = other.find? id) : table = other := by
  refine ext_iff.mpr ⟨rows_ext table.ascending other.ascending fun row => ?_, mark⟩
  rw [mem_rows_iff, mem_rows_iff, same]

theorem count_id_eq_zero_iff : table.count (·.id == id) = 0 ↔ table.contains id = false := by
  simp [count, contains]

theorem find?_remove (table : Table α) (picked : Row α → Bool) (id : Int) :
    (table.remove picked).find? id = (table.find? id).filter (!picked ·) := by
  ext row
  simp only [find?_eq_some_iff, rows_remove, List.mem_filter, Option.filter_eq_some_iff]
  tauto

theorem remove_congr {picked picked' : Row α → Bool} (same : ∀ row ∈ table.rows, picked row = picked' row) :
    table.remove picked = table.remove picked' := by
  refine ext_iff.mpr ⟨List.filter_congr fun row member => ?_, rfl⟩
  rw [same row member]

theorem remove_false (table : Table α) : table.remove (fun _ => false) = table := by
  rw [ext_iff]
  simp

theorem remove_of_count_eq_zero {picked : Row α → Bool} (unmatched : table.count picked = 0) : table.remove picked = table := by
  have unpicked := List.countP_eq_zero.mp unmatched
  exact (remove_congr fun row member => Bool.eq_false_of_not_eq_true (unpicked row member)).trans (remove_false table)

theorem remove_or (table : Table α) (picked picked' : Row α → Bool) :
    (table.remove picked).remove picked' = table.remove fun row => picked row || picked' row := by
  rw [ext_iff]
  simp [Bool.and_comm]

theorem count_congr {picked picked' : Row α → Bool} (same : ∀ row ∈ table.rows, picked row = picked' row) :
    table.count picked = table.count picked' :=
  List.countP_congr fun row member => by rw [same row member]

theorem count_bne_zero (table : Table α) (picked : Row α → Bool) : (table.count picked != 0) = table.rows.any picked := by
  rw [Bool.eq_iff_iff, bne_iff_ne, ← Nat.pos_iff_ne_zero, count, List.countP_pos_iff, List.any_eq_true]

theorem length_remove (table : Table α) (picked : Row α → Bool) :
    (table.remove picked).rows.length + table.count picked = table.rows.length := by
  have split := table.rows.length_eq_countP_add_countP (p := picked)
  simp only [Table.count, rows_remove, ← List.countP_eq_length_filter]
  simp only [Bool.decide_eq_true, decide_not] at split
  omega

-- What is left to be picked after a removal has not been counted yet.
theorem count_remove (table : Table α) (picked picked' : Row α → Bool) :
    table.count picked + (table.remove picked).count picked' = table.count fun row => picked row || picked' row := by
  have first := table.length_remove picked
  have second := (table.remove picked).length_remove picked'
  have both := table.length_remove fun row => picked row || picked' row
  rw [remove_or] at second
  omega

/-- Rows are counted by their ids: those under some stored ids are as many as there are different ones. -/
theorem count_contains {ids : List Int} (stored : ∀ id ∈ ids, table.contains id = true) :
    table.count (ids.contains ·.id) = ids.dedup.length := by
  have same : ((table.rows.filter (ids.contains ·.id)).map (·.id)).Perm ids.dedup := by
    apply (List.perm_ext_iff_of_nodup (table.nodup_ids.sublist (List.filter_sublist.map _)) ids.nodup_dedup).mpr
    intro id
    rw [List.mem_dedup, List.mem_map]
    constructor
    · rintro ⟨row, picked, rfl⟩
      simpa using (List.mem_filter.mp picked).2
    · intro listed
      obtain ⟨row, found⟩ := contains_iff_find?.mp (stored id listed)
      obtain ⟨member, rfl⟩ := find?_eq_some_iff.mp found
      exact ⟨row, List.mem_filter.mpr ⟨member, by simpa using listed⟩, rfl⟩
  rw [Table.count, List.countP_eq_length_filter, ← same.length_eq, List.length_map]

theorem find?_set (table : Table α) (id : Int) (cells : α) (other : Int) :
    (table.set id cells).find? other =
      if other = id then (table.find? id).map fun _ => ⟨id, cells⟩ else table.find? other := by
  simp only [find?, set, rows_map, List.find?_map, Function.comp_def]
  split
  · subst other
    cases found : table.rows.find? (·.id == id) with
    | none => rfl
    | some row =>
      have same : row.id = id := by simpa using List.find?_some found
      simp [same]
  · cases found : table.rows.find? (·.id == other) with
    | none => rfl
    | some row =>
      obtain ⟨stored, kept⟩ := row
      have same : stored = other := by simpa using List.find?_some found
      subst stored
      simp_all

@[simp] theorem mark_set (table : Table α) (id : Int) (cells : α) : (table.set id cells).mark = table.mark := rfl

theorem set_of_count_eq_zero (unmatched : table.count (·.id == id) = 0) : table.set id cells = table := by
  have absent : table.find? id = none := find?_eq_none_iff.mpr (count_id_eq_zero_iff.mp unmatched)
  refine eq_of_find? rfl fun other => ?_
  rw [find?_set, absent]
  split
  · subst other
    exact absent.symm
  · rfl

theorem find?_set_of_contains (stored : table.contains id = true) (other : Int) :
    (table.set id cells).find? other = if other = id then some ⟨id, cells⟩ else table.find? other := by
  obtain ⟨row, found⟩ := contains_iff_find?.mp stored
  rw [find?_set, found, Option.map_some]

theorem add_eq_ok {added : Table α} (h : table.add cells = .ok (id, added)) :
    id = table.mark + 1 ∧ added.mark = id ∧
      ∀ other, added.find? other = if other = id then some ⟨id, cells⟩ else table.find? other := by
  unfold add at h
  split at h
  · simp only [Except.ok.injEq, Prod.mk.injEq] at h
    obtain ⟨rfl, rfl⟩ := h
    refine ⟨rfl, rfl, fun other => ?_⟩
    simp only [find?, List.find?_append, List.find?_singleton]
    by_cases same : other = table.mark + 1
    · have free : table.find? other = none := find?_above_mark (by omega)
      rw [find?] at free
      rw [free]
      simp [same]
    · simp [same, Ne.symm same]
  · cases h

theorem mark_lt_of_add_eq_ok {added : Table α} (h : table.add cells = .ok (id, added)) :
    table.mark < IntRange.int64.high := by
  unfold add at h
  split at h
  · assumption
  · cases h

end Catalogue.Table
