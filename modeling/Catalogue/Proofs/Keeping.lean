import Catalogue.Proofs.Cascade
import Catalogue.Proofs.Deletion
import Catalogue.Proofs.Rollback

/-! What every write keeps, once the four writes of the repository keep it: use cases are made of
them, and histories of use cases and of them. -/

set_option autoImplicit false

namespace Catalogue

variable {P : Connection → Prop}

namespace Action

variable {ε ζ α β : Type}

def Keeps (P : Connection → Prop) (x : Action ε α) : Prop := ∀ c, P c → P (x c).connection

-- A failure that leaves no trace keeps everything, so only what success gives is left to look at.
theorem Traceless.keeps {x : Action ε α} (traceless : x.Traceless) (given : ∀ c a d, P c → x.Gives c a d → P d) :
    x.Keeps P := by
  intro c held
  cases result : (x c).result with
  | ok a => exact given c a _ held (gives_of_ok result)
  | error e => rwa [traceless c e result]

theorem keeps_of_stays {x : Action ε α} (stays : ∀ c, (x c).connection = c) : x.Keeps P := by
  intro c held
  rwa [stays]

theorem Keeps.bind {x : Action ε α} {f : α → Action ε β} (first : x.Keeps P) (rest : ∀ a, (f a).Keeps P) :
    (x >>= f).Keeps P := by
  intro c held
  have between := first c held
  rcases reply : x c with ⟨_ | a, d, events⟩
  · rw [reply] at between
    rwa [bind_apply_error reply]
  · rw [reply] at between
    rw [bind_apply_ok reply]
    exact rest a d between

theorem Keeps.mapError {x : Action ε α} (f : ε → ζ) (h : x.Keeps P) : (x.mapError f).Keeps P := h

end Action

/-- The writes of the repository keep a property. -/
structure Books.Keep (P : Connection → Prop) : Prop where
  save : ∀ book, (save book).Keeps P
  saveAll : ∀ books, (saveAll books).Keeps P
  deleteById : ∀ id, (deleteById id).Keeps P
  deleteAll : deleteAll.Keeps P

theorem CascadedAll.keeps {Q : Store → Prop} {before after : Store} {books : List Book} {ids : List Books.SavedIds}
    (h : CascadedAll before books ids after)
    (saved : ∀ {before after : Store} {book : Book} {ids : Books.SavedIds}, Cascaded before book ids after →
      ¬ book.pages < 0 → Q before → Q after)
    (valid : ∀ book ∈ books, ¬ book.pages < 0) (held : Q before) : Q after := by
  induction h with
  | nil => exact held
  | cons cascaded _ ih =>
    obtain ⟨first, rest⟩ := List.forall_mem_cons.mp valid
    exact ih rest (saved cascaded first held)

namespace Books.Keep

theorem run {α : Type} (keep : Keep P) (useCase : UseCase α) : useCase.run.Keeps P := by
  induction useCase with
  | done result => exact Action.keeps_of_stays fun _ => rfl
  | find id next ih => exact (Action.keeps_of_stays fun _ => rfl : Action.Keeps P _).bind ih
  | contains id next ih => exact (Action.keeps_of_stays fun _ => rfl : Action.Keeps P _).bind ih
  | save book next ih => exact ((keep.save book).mapError _).bind fun saved => ih saved.1
  | delete id next ih => exact ((keep.deleteById id).mapError _).bind fun _ => ih

theorem perform (keep : Keep P) (write : Write) {c : Connection} (held : P c) : P (write.perform c) := by
  cases write with
  | save book => exact keep.save book c held
  | saveAll books => exact keep.saveAll books c held
  | deleteById id => exact keep.deleteById id c held
  | delete book =>
    simp only [Write.perform, delete]
    cases book.id with
    | none => exact held
    | some id => exact keep.deleteById id c held
  | deleteAll => exact keep.deleteAll c held
  | create title pages => exact keep.run _ c held
  | rename id title => exact keep.run _ c held
  | addReview id reviewer content => exact keep.run _ c held
  | remove id => exact keep.run _ c held

theorem writeAll (keep : Keep P) (writes : List Write) {c : Connection} (held : P c) : P (Write.performAll c writes) := by
  induction writes generalizing c with
  | nil => exact held
  | cons write rest ih => exact ih (keep.perform write held)

theorem performAll (keep : Keep P) (operations : List Operation) {c : Connection} (held : P c) :
    P (Operation.performAll c operations) := by
  induction operations generalizing c with
  | nil => exact held
  | cons operation rest ih =>
    refine ih ?_
    cases operation with
    | write change => exact keep.perform change held
    | read query => exact held

/-- A property of stores is kept if saving one book, deleting one and deleting all keep it. -/
theorem of_store {Q : Store → Prop}
    (saved : ∀ {before after : Store} {book : Book} {ids : SavedIds}, Cascaded before book ids after →
      ¬ book.pages < 0 → Q before → Q after)
    (without : ∀ {store : Store} (id : BookId), Q store → Q (store.without id))
    (cleared : ∀ {store : Store}, Q store → Q store.cleared) : Keep fun c => Q c.store where
  save book := (save_traceless book).keeps fun c answer d held gives => by
    obtain ⟨-, valid, ids, after, -, cascaded, rfl⟩ := save_gives gives
    exact saved cascaded valid held
  saveAll books := (saveAll_traceless books).keeps fun c answer d held gives => by
    obtain ⟨-, valid, -, ids, after, -, cascaded, rfl⟩ := saveAll_gives gives
    exact cascaded.keeps saved valid held
  deleteById id := (deleteById_traceless id).keeps fun c u d held gives => by
    obtain ⟨-, rfl⟩ := deleteById_gives gives
    exact without id held
  deleteAll := deleteAll_traceless.keeps fun c deleted d held gives => by
    obtain ⟨-, -, rfl⟩ := deleteAll_gives gives
    exact cleared held

theorem of_connection (kept : ∀ (c : Connection) (store : Store), P c → P { c with store }) : Keep P where
  save book := (save_traceless book).keeps fun c answer d held gives => by
    obtain ⟨-, -, ids, after, -, -, rfl⟩ := save_gives gives
    exact kept c after held
  saveAll books := (saveAll_traceless books).keeps fun c answer d held gives => by
    obtain ⟨-, -, -, ids, after, -, -, rfl⟩ := saveAll_gives gives
    exact kept c after held
  deleteById id := (deleteById_traceless id).keeps fun c u d held gives => by
    obtain ⟨-, rfl⟩ := deleteById_gives gives
    exact kept c _ held
  deleteAll := deleteAll_traceless.keeps fun c deleted d held gives => by
    obtain ⟨-, -, rfl⟩ := deleteAll_gives gives
    exact kept c _ held

theorem free : Keep fun c => c.backup = none := of_connection fun _ _ held => held

theorem allowed : Keep fun c => c.refusal? = none := of_connection fun _ _ held => held

end Books.Keep

end Catalogue
