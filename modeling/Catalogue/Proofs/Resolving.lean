import Mathlib.Data.List.Induction
import Catalogue.Proofs.Marks

/-! Which review ids a save comes upon. Reviews are stored in order and each new one is given the next id, so a review
may name one that was new before it in the same list; the first to name none is where a save ends. -/

set_option autoImplicit false

namespace Catalogue

namespace Table

variable {table before between : Table ReviewCells} {earlier reviews : List Review} {review : Review}
  {cells : ReviewCells} {id key : Int}

/-- An id is known behind some reviews if it is in the table, or if one of them is new and is given it. -/
def Knows (table : Table ReviewCells) (earlier : List Review) (key : Int) : Prop :=
  table.contains key = true ∨ table.mark < key ∧ key ≤ table.mark + Review.newCount earlier

def Resolves (table : Table ReviewCells) (reviews : List Review) : Prop :=
  ∀ earlier review, earlier ++ [review] <+: reviews → ∀ key, review.id = some key → table.Knows earlier key

def FirstUnknown (table : Table ReviewCells) (reviews : List Review) (key : ReviewId) : Prop :=
  ∃ earlier review, earlier ++ [review] <+: reviews ∧ review.id = some key ∧ ¬ table.Knows earlier key ∧
    table.Resolves earlier

theorem knows_nil : table.Knows [] key ↔ table.contains key = true :=
  or_iff_left fun ⟨above, below⟩ => absurd above (not_lt.mpr (by simpa [Review.newCount] using below))

theorem resolves_nil : table.Resolves [] := fun _ _ split => by simp at split

theorem resolves_snoc (known : table.Resolves earlier) (last : ∀ key, review.id = some key → table.Knows earlier key) :
    table.Resolves (earlier ++ [review]) := by
  intro others other split
  rcases List.prefix_concat_iff.mp split with whole | within
  · obtain ⟨rfl, rfl⟩ := List.append_singleton_inj.mp whole
    exact last
  · exact known others other within

namespace FirstUnknown

theorem not_resolves (unknown : table.FirstUnknown reviews key) : ¬ table.Resolves reviews := by
  obtain ⟨earlier, review, split, named, stranger, -⟩ := unknown
  exact fun known => stranger (known earlier review split key named)

theorem listed (unknown : table.FirstUnknown reviews key) : key ∈ reviews.filterMap (·.id) := by
  obtain ⟨earlier, review, split, named, -⟩ := unknown
  exact List.mem_filterMap.mpr ⟨review, split.subset (by simp), named⟩

theorem absent (unknown : table.FirstUnknown reviews key) : table.contains key = false := by
  obtain ⟨earlier, review, -, -, stranger, -⟩ := unknown
  exact Bool.eq_false_of_not_eq_true fun present => stranger (.inl present)

theorem of_prefix {others : List Review} (unknown : table.FirstUnknown others key) (starts : others <+: reviews) :
    table.FirstUnknown reviews key := by
  obtain ⟨earlier, review, split, rest⟩ := unknown
  exact ⟨earlier, review, split.trans starts, rest⟩

-- Of two places in a list, the reviews before the one hold the other, unless they are the same.
theorem unique {key' : ReviewId} (unknown : table.FirstUnknown reviews key)
    (unknown' : table.FirstUnknown reviews key') : key = key' := by
  obtain ⟨earlier, review, split, named, stranger, known⟩ := unknown
  obtain ⟨earlier', review', split', named', stranger', known'⟩ := unknown'
  rcases List.prefix_or_prefix_of_prefix split split' with shorter | shorter <;>
    rcases List.prefix_concat_iff.mp shorter with same | within
  · obtain ⟨-, rfl⟩ := List.append_singleton_inj.mp same
    exact Option.some.inj (named.symm.trans named')
  · exact absurd (known' earlier review within key named) stranger
  · obtain ⟨-, rfl⟩ := List.append_singleton_inj.mp same
    exact Option.some.inj (named.symm.trans named')
  · exact absurd (known earlier' review' within key' named') stranger'

end FirstUnknown

theorem resolves_or_firstUnknown (table : Table ReviewCells) (reviews : List Review) :
    table.Resolves reviews ∨ ∃ key, table.FirstUnknown reviews key := by
  induction reviews using List.reverseRecOn with
  | nil => exact .inl resolves_nil
  | append_singleton earlier review ih =>
    rcases ih with known | ⟨key, unknown⟩
    · by_cases last : ∀ key, review.id = some key → table.Knows earlier key
      · exact .inl (resolves_snoc known last)
      · push Not at last
        obtain ⟨key, named, stranger⟩ := last
        exact .inr ⟨key, earlier, review, List.prefix_rfl, named, stranger, known⟩
    · exact .inr ⟨key, unknown.of_prefix (List.prefix_append _ _)⟩

theorem resolves_iff : table.Resolves reviews ↔ ∀ key, ¬ table.FirstUnknown reviews key :=
  ⟨fun known _ unknown => unknown.not_resolves known, fun none =>
    (table.resolves_or_firstUnknown reviews).resolve_right fun ⟨key, unknown⟩ => none key unknown⟩

namespace Stored

theorem knows_iff (stored : before.Stored review.id cells id between) :
    between.Knows earlier key ↔ before.Knows (review :: earlier) key := by
  have count := Review.newCount_cons review earlier
  unfold Knows
  rw [stored.mark_newCount, stored.contains_iff, or_assoc]
  cases named : review.id with
  | none =>
    rw [named] at stored
    have next : id = before.mark + 1 := stored.id_eq
    rw [named, Option.isNone_none, if_pos rfl] at count
    rw [or_left_comm, stored.mark_of_new]
    refine or_congr_right ?_
    omega
  | some key' =>
    rw [named] at stored
    have present := stored.present key' rfl
    rw [stored.mark_of_key, stored.eq_of_key]
    constructor
    · rintro (rfl | known)
      · exact .inl present
      · exact known
    · exact .inr

theorem resolves_cons (stored : before.Stored review.id cells id between) (known : between.Resolves reviews) :
    before.Resolves (review :: reviews) := by
  intro others other split key named
  cases others with
  | nil =>
    obtain ⟨rfl, -⟩ := List.cons_prefix_cons.mp split
    exact knows_nil.mpr (stored.present key named)
  | cons first others =>
    obtain ⟨rfl, within⟩ := List.cons_prefix_cons.mp split
    exact stored.knows_iff.mp (known others other within key named)

theorem firstUnknown_cons (stored : before.Stored review.id cells id between)
    (unknown : between.FirstUnknown reviews key) : before.FirstUnknown (review :: reviews) key := by
  obtain ⟨earlier, other, split, named, stranger, known⟩ := unknown
  exact ⟨review :: earlier, other, List.cons_prefix_cons.mpr ⟨rfl, split⟩, named, mt stored.knows_iff.mpr stranger,
    stored.resolves_cons known⟩

end Stored

theorem firstUnknown_head (named : review.id = some key) (absent : table.contains key = false) :
    table.FirstUnknown (review :: reviews) key := by
  refine ⟨[], review, List.prefix_append [review] reviews, named, ?_, resolves_nil⟩
  rw [knows_nil, absent]
  exact Bool.false_ne_true

end Table

namespace ReviewsStored

variable {book : BookId} {before after : Table ReviewCells} {reviews : List Review} {ids : List ReviewId}

theorem resolves (h : ReviewsStored book before reviews ids after) : before.Resolves reviews := by
  induction h with
  | nil => exact Table.resolves_nil
  | cons stored _ ih => exact stored.resolves_cons ih

/-- A new review is given the id that comes after those of the new ones before it. -/
theorem getElem?_new (h : ReviewsStored book before reviews ids after) {earlier : List Review} {review : Review}
    (split : earlier ++ [review] <+: reviews) (new : review.id = none) :
    ids[earlier.length]? = some (before.mark + Review.newCount earlier + 1) := by
  induction h generalizing earlier with
  | nil => simp at split
  | @cons before between after first rest id ids stored later ih =>
    cases earlier with
    | nil =>
      obtain ⟨rfl, -⟩ := List.cons_prefix_cons.mp split
      rw [new] at stored
      simp [stored.id_eq, Review.newCount]
    | cons first' earlier =>
      obtain ⟨rfl, within⟩ := List.cons_prefix_cons.mp split
      rw [List.length_cons, List.getElem?_cons_succ, ih within, stored.mark_newCount]

end ReviewsStored

end Catalogue
