import Mathlib.Data.List.Induction
import Mathlib.Logic.Function.Basic
import Catalogue.Interleaving
import Catalogue.Proofs.Success

/-! Two clients that revise one book at the same time. Each loads the book, saves it changed and reads it
back, and a save is made from the copy that was loaded, however old it is by then. -/

set_option autoImplicit false

namespace Catalogue

structure Revision where
  change : Book → Book
  detail : String

namespace Revision

def rename (title : String) : Revision := ⟨fun book => { book with title }, "renamed book not found in read-back"⟩

def addReview (reviewer content : String) : Revision :=
  ⟨fun book => book.addReview (.new reviewer content), "reviewed book not found in read-back"⟩

end Revision

def UseCase.revise (id : BookId) (revision : Revision) : UseCase Book :=
  .load id fun book => .save (revision.change book) fun _ => .readBack id revision.detail

theorem Service.rename_eq (id : BookId) (title : String) : rename id title = .revise id (.rename title) := rfl

theorem Service.addReview_eq (id : BookId) (reviewer content : String) :
    addReview id reviewer content = .revise id (.addReview reviewer content) := rfl

def Turn.other : Turn → Turn
  | first => second
  | second => first

def Turn.pick {α : Type} (first second : α) : Turn → α
  | .first => first
  | .second => second

@[simp] theorem Turn.other_other (turn : Turn) : turn.other.other = turn := by cases turn <;> rfl

@[simp] theorem Turn.other_ne (turn : Turn) : turn.other ≠ turn := by cases turn <;> decide

theorem Turn.eq_or_eq_other (turn other : Turn) : other = turn ∨ other = turn.other := by
  cases turn <;> cases other <;> decide

/-- The save of the other, its second request, is carried out when this one has loaded and not saved. -/
def Overtaken (turn : Turn) (turns : List Turn) : Prop :=
  ∃ before after, turns = before ++ turn.other :: after ∧ before.count turn.other = 1 ∧ before.count turn = 1

theorem overtaken_snoc {turn next : Turn} {turns : List Turn} :
    Overtaken turn (turns ++ [next]) ↔
      Overtaken turn turns ∨ next = turn.other ∧ turns.count next = 1 ∧ turns.count turn = 1 := by
  constructor
  · rintro ⟨before, after, same, saves, loads⟩
    rcases List.eq_nil_or_concat after with rfl | ⟨after, last, rfl⟩
    · obtain ⟨rfl, last⟩ := List.append_inj' same rfl
      obtain rfl := List.singleton_inj.mp last
      exact .inr ⟨rfl, saves, loads⟩
    · rw [List.concat_eq_append, ← List.cons_append, ← List.append_assoc] at same
      obtain ⟨rfl, -⟩ := List.append_inj' same rfl
      exact .inl ⟨before, after, rfl, saves, loads⟩
  · rintro (⟨before, after, rfl, saves, loads⟩ | ⟨rfl, saves, loads⟩)
    · exact ⟨before, after ++ [next], by simp, saves, loads⟩
    · exact ⟨turns, [], rfl, saves, loads⟩

theorem not_overtaken_nil (turn : Turn) : ¬ Overtaken turn [] := by
  rintro ⟨before, after, same, -⟩
  simp at same

namespace Interleaving

def useCase (both : Interleaving Book Book) : Turn → UseCase Book
  | .first => both.first
  | .second => both.second

variable (both : Interleaving Book Book) (turn : Turn)

theorem useCase_step : (both.step turn).useCase turn = ((both.useCase turn).step both.connection).1 := by
  cases turn <;> rfl

theorem useCase_step_other : (both.step turn).useCase turn.other = both.useCase turn.other := by
  cases turn <;> rfl

theorem connection_step : (both.step turn).connection = ((both.useCase turn).step both.connection).2.1 := by
  cases turn <;> rfl

end Interleaving

/-- How far a revision has come. -/
inductive Phase where
  | start
  | loaded (book : Book)
  | saved

def Phase.Fits : Phase → Nat → Prop
  | start, n => n = 0
  | loaded _, n => n = 1
  | saved, n => 2 ≤ n

inductive Remains (id : BookId) (revision : Revision) : Phase → UseCase Book → Prop
  | start : Remains id revision .start (.revise id revision)
  | loaded (book : Book) : Remains id revision (.loaded book)
      (.save (revision.change book) fun _ => .readBack id revision.detail)
  | reading : Remains id revision .saved (.readBack id revision.detail)
  | ended (book : Book) : Remains id revision .saved (.answer book)

/-- From which phase to which a request leads, and what it makes of the connection. -/
inductive Advances (id : BookId) (revision : Revision) (c : Connection) : Phase → Phase → Connection → Prop
  | load {book : Book} : Books.find? c.store id = .ok (some book) → Advances id revision c .start (.loaded book) c
  | save {book : Book} {saved : BookId × Book} {d : Connection} :
      (Books.save (revision.change book)).Gives c saved d → Advances id revision c (.loaded book) .saved d
  | rest : Advances id revision c .saved .saved c

theorem Remains.step {id : BookId} {revision : Revision} {phase : Phase} {useCase : UseCase Book}
    (remains : Remains id revision phase useCase) (c : Connection) :
    (∃ e, (useCase.step c).1 = .fail e) ∨
      ∃ next, Remains id revision next (useCase.step c).1 ∧ Advances id revision c phase next (useCase.step c).2.1 := by
  cases remains with
  | start =>
    simp only [UseCase.revise, UseCase.load, UseCase.step]
    cases found : Books.find? c.store id with
    | error e => exact .inl ⟨_, rfl⟩
    | ok found? =>
      cases found? with
      | none => exact .inl ⟨_, rfl⟩
      | some book => exact .inr ⟨_, .loaded book, .load found⟩
  | loaded book =>
    simp only [UseCase.step]
    cases result : (Books.save (revision.change book) c).result with
    | error e => exact .inl ⟨_, rfl⟩
    | ok saved => exact .inr ⟨_, .reading, .save (Action.gives_of_ok result)⟩
  | reading =>
    simp only [UseCase.readBack, UseCase.step]
    cases found : Books.find? c.store id with
    | error e => exact .inl ⟨_, rfl⟩
    | ok found? =>
      cases found? with
      | none => exact .inl ⟨_, rfl⟩
      | some book => exact .inr ⟨_, .ended book, .rest⟩
  | ended book => exact .inr ⟨_, .ended book, .rest⟩

theorem Advances.fits {id : BookId} {revision : Revision} {c d : Connection} {phase next : Phase} {n : Nat}
    (advances : Advances id revision c phase next d) (fits : phase.Fits n) : next.Fits (n + 1) := by
  cases advances <;> simp only [Phase.Fits] at * <;> omega

/-- The copy of the one that saves second: loaded before the first save, which then overtakes it, or after it. -/
def Copied (id : BookId) (c d : Connection) (turn : Turn) (turns : List Turn) (copy : Book) : Prop :=
  Overtaken turn turns ∧ Books.find? c.store id = .ok (some copy) ∨
    ¬ Overtaken turn turns ∧ Books.find? d.store id = .ok (some copy)

inductive Standing (id : BookId) (work : Turn → Revision) (c : Connection) (turns : List Turn) (phase : Turn → Phase) :
    Connection → Prop
  -- Nothing is saved yet, and what was loaded is as it was at first.
  | unsaved : (∀ turn, phase turn ≠ .saved) →
      (∀ turn copy, phase turn = .loaded copy → Books.find? c.store id = .ok (some copy)) →
      (∀ turn, ¬ Overtaken turn turns) → Standing id work c turns phase c
  -- One has saved.
  | led {turn : Turn} {book : Book} {saved : BookId × Book} {d : Connection} : phase turn = .saved →
      Books.find? c.store id = .ok (some book) → (Books.save ((work turn).change book)).Gives c saved d →
      ¬ Overtaken turn turns → (phase turn.other = .start → ¬ Overtaken turn.other turns) →
      (∀ copy, phase turn.other = .loaded copy → Copied id c d turn.other turns copy) → phase turn.other ≠ .saved →
      Standing id work c turns phase d
  -- Both have saved.
  | followed {turn : Turn} {book copy : Book} {saved saved' : BookId × Book} {d e : Connection} :
      (∀ turn, phase turn = .saved) → Books.find? c.store id = .ok (some book) →
      (Books.save ((work turn).change book)).Gives c saved d → ¬ Overtaken turn turns →
      Copied id c d turn.other turns copy → (Books.save ((work turn.other).change copy)).Gives d saved' e →
      Standing id work c turns phase e

section

variable {id : BookId} {work : Turn → Revision} {c d e : Connection} {turns : List Turn} {phase : Turn → Phase}

-- Only a save overtakes.
theorem overtaken_snoc_of_not_loaded {turn next : Turn} (fits : (phase next).Fits (turns.count next))
    (apart : ∀ copy, phase next ≠ .loaded copy) : Overtaken turn (turns ++ [next]) ↔ Overtaken turn turns := by
  refine overtaken_snoc.trans (or_iff_left ?_)
  rintro ⟨-, once, -⟩
  cases here : phase next with
  | start => simp [here, Phase.Fits, once] at fits
  | loaded copy => exact apart copy here
  | saved => simp [here, Phase.Fits, once] at fits

theorem overtaken_snoc_self {turn : Turn} : Overtaken turn (turns ++ [turn]) ↔ Overtaken turn turns :=
  overtaken_snoc.trans (or_iff_left fun overtakes => Turn.other_ne turn overtakes.1.symm)

theorem Copied.congr {turns' : List Turn} {turn : Turn} {copy : Book} (copied : Copied id c d turn turns copy)
    (same : Overtaken turn turns' ↔ Overtaken turn turns) : Copied id c d turn turns' copy := by
  rwa [Copied, same]

namespace Standing

theorem congr {turns' : List Turn} (standing : Standing id work c turns phase d)
    (same : ∀ turn, Overtaken turn turns' ↔ Overtaken turn turns) : Standing id work c turns' phase d := by
  cases standing with
  | unsaved clear loads none => exact .unsaved clear loads fun turn => (same turn).not.mpr (none turn)
  | led here loads gives ahead fresh copied clear =>
    exact .led here loads gives ((same _).not.mpr ahead) (fun start => (same _).not.mpr (fresh start))
      (fun copy loaded => (copied copy loaded).congr (same _)) clear
  | followed here loads gives ahead copied gives' =>
    exact .followed here loads gives ((same _).not.mpr ahead) (copied.congr (same _)) gives'

-- Who loads finds what was there at first, or what the other has saved.
theorem load (standing : Standing id work c turns phase d) (fits : ∀ turn, (phase turn).Fits (turns.count turn))
    {turn : Turn} (start : phase turn = .start) {book : Book} (found : Books.find? d.store id = .ok (some book)) :
    Standing id work c (turns ++ [turn]) (Function.update phase turn (.loaded book)) d := by
  have same (other : Turn) : Overtaken other (turns ++ [turn]) ↔ Overtaken other turns :=
    overtaken_snoc_of_not_loaded (fits turn) (by simp [start])
  cases standing with
  | unsaved clear loads none =>
    refine .unsaved (fun other => ?_) (fun other copy loaded => ?_) fun other => (same other).not.mpr (none other)
    · by_cases acting : other = turn
      · simp [acting]
      · simpa [acting] using clear other
    · by_cases acting : other = turn
      · obtain rfl : book = copy := by simpa [acting] using loaded
        exact found
      · exact loads other copy (by simpa [acting] using loaded)
  | @led leader book' saved d here loads gives ahead fresh copied clear =>
    rcases Turn.eq_or_eq_other leader turn with rfl | rfl
    · simp [here] at start
    · refine .led ?_ loads gives ((same leader).not.mpr ahead) ?_ ?_ ?_
      · simpa [(Turn.other_ne leader).symm] using here
      · simp
      · intro copy loaded
        obtain rfl : book = copy := by simpa using loaded
        exact .inr ⟨(same _).not.mpr (fresh start), found⟩
      · simp
  | followed here => simp [here] at start

-- Who saves first leaves the other's copy behind; who saves second saves upon what the first has saved.
theorem save (standing : Standing id work c turns phase d) (fits : ∀ turn, (phase turn).Fits (turns.count turn))
    {turn : Turn} {copy : Book} (loaded : phase turn = .loaded copy) {saved : BookId × Book}
    (gives : (Books.save ((work turn).change copy)).Gives d saved e) :
    Standing id work c (turns ++ [turn]) (Function.update phase turn .saved) e := by
  have once : turns.count turn = 1 := by simpa [loaded, Phase.Fits] using fits turn
  cases standing with
  | unsaved clear loads none =>
    -- The first save: what the other has loaded by now is stale.
    refine .led (by simp) (loads turn copy loaded) gives (overtaken_snoc_self.not.mpr (none turn)) ?_ ?_ ?_
    · rw [Function.update_of_ne (Turn.other_ne turn)]
      intro start
      have never : turns.count turn.other = 0 := by simpa [start, Phase.Fits] using fits turn.other
      rw [overtaken_snoc]
      simp [none, never]
    · rw [Function.update_of_ne (Turn.other_ne turn)]
      intro copy' loaded'
      have once' : turns.count turn.other = 1 := by simpa [loaded', Phase.Fits] using fits turn.other
      exact .inl ⟨overtaken_snoc.mpr (.inr ⟨(Turn.other_other turn).symm, once, once'⟩), loads _ copy' loaded'⟩
    · rw [Function.update_of_ne (Turn.other_ne turn)]
      exact clear turn.other
  | @led leader book saved' d here loads gives' ahead fresh copied clear =>
    rcases Turn.eq_or_eq_other leader turn with rfl | rfl
    · simp [here] at loaded
    · refine .followed (fun other => ?_) loads gives' ?_
        ((copied copy loaded).congr overtaken_snoc_self) gives
      · rcases Turn.eq_or_eq_other leader other with rfl | rfl
        · simpa [(Turn.other_ne other).symm] using here
        · simp
      · have twice : 2 ≤ turns.count leader := by simpa [here, Phase.Fits] using fits leader
        rw [overtaken_snoc]
        rintro (before | ⟨-, -, once'⟩)
        · exact ahead before
        · omega
  | followed here => simp [here] at loaded

theorem step (standing : Standing id work c turns phase d) (fits : ∀ turn, (phase turn).Fits (turns.count turn))
    {turn : Turn} {next : Phase} (advances : Advances id (work turn) d (phase turn) next e) :
    Standing id work c (turns ++ [turn]) (Function.update phase turn next) e := by
  generalize here : phase turn = now at advances
  cases advances with
  | load found => exact standing.load fits here found
  | save gives => exact standing.save fits here gives
  | rest =>
    rw [← here, Function.update_eq_self]
    exact standing.congr fun _ => overtaken_snoc_of_not_loaded (fits turn) (by simp [here])

end Standing

namespace Interleaving

theorem failed_step {both : Interleaving Book Book} {failed : Turn} {error : ServiceError}
    (same : both.useCase failed = .fail error) (turn : Turn) : (both.step turn).useCase failed = .fail error := by
  rcases Turn.eq_or_eq_other turn failed with rfl | rfl
  · rw [useCase_step, same]
    rfl
  · rw [useCase_step_other, same]

theorem run_snoc (both : Interleaving Book Book) (turns : List Turn) (turn : Turn) :
    both.run (turns ++ [turn]) = (both.run turns).step turn := by
  simp [run]

theorem run_standing (id : BookId) (work : Turn → Revision) (c : Connection) (turns : List Turn) :
    let both := run ⟨.revise id (work .first), .revise id (work .second), c⟩ turns
    (∃ turn error, both.useCase turn = .fail error) ∨
      ∃ phase : Turn → Phase, (∀ turn, (phase turn).Fits (turns.count turn)) ∧
        (∀ turn, Remains id (work turn) (phase turn) (both.useCase turn)) ∧
          Standing id work c turns phase both.connection := by
  -- By induction on the last request: the one that makes it fails or advances, and the other waits.
  induction turns using List.reverseRecOn with
  | nil =>
    refine .inr ⟨fun _ => .start, fun _ => rfl, fun turn => ?_, .unsaved ?_ ?_ not_overtaken_nil⟩
    · cases turn <;> exact .start
    · simp
    · simp
  | append_singleton turns turn ih =>
    rw [run_snoc]
    rcases ih with ⟨failed, error, same⟩ | ⟨phase, fits, remains, standing⟩
    · exact .inl ⟨failed, error, failed_step same turn⟩
    rcases (remains turn).step (run _ turns).connection with ⟨error, failed⟩ | ⟨next, remains', advances⟩
    · exact .inl ⟨turn, error, by rw [useCase_step, failed]⟩
    rw [← connection_step] at advances
    refine .inr ⟨Function.update phase turn next, fun other => ?_, fun other => ?_, standing.step fits advances⟩
    · rcases Turn.eq_or_eq_other turn other with rfl | rfl
      · simpa using advances.fits (fits other)
      · simpa [List.count_singleton, (Turn.other_ne turn).symm] using fits turn.other
    · rcases Turn.eq_or_eq_other turn other with rfl | rfl
      · simpa [useCase_step] using remains'
      · simpa [useCase_step_other] using remains turn.other

theorem useCase_of_results? {both : Interleaving Book Book} {first second : Book}
    (ok : both.results? = some (.ok first, .ok second)) (turn : Turn) : ∃ book, both.useCase turn = .answer book := by
  unfold results? at ok
  split at ok
  · rename_i a b ended ended'
    obtain ⟨rfl, rfl⟩ := Prod.mk.inj (Option.some.inj ok)
    cases turn
    · exact ⟨first, ended⟩
    · exact ⟨second, ended'⟩
  · cases ok

theorem standing_of_results? {id : BookId} {work : Turn → Revision} {c : Connection} {turns : List Turn}
    {first second : Book}
    (ok : (run ⟨.revise id (work .first), .revise id (work .second), c⟩ turns).results? = some (.ok first, .ok second)) :
    ∃ phase : Turn → Phase, (∀ turn, phase turn = .saved) ∧
      Standing id work c turns phase (run ⟨.revise id (work .first), .revise id (work .second), c⟩ turns).connection := by
  rcases run_standing id work c turns with ⟨turn, error, failed⟩ | ⟨phase, -, remains, standing⟩
  · obtain ⟨book, ended⟩ := useCase_of_results? ok turn
    rw [ended] at failed
    cases failed
  · refine ⟨phase, fun turn => ?_, standing⟩
    obtain ⟨book, ended⟩ := useCase_of_results? ok turn
    have remains := remains turn
    rw [ended] at remains
    generalize phase turn = now at remains
    cases remains with
    | ended => rfl

end Interleaving

end

namespace UseCase

theorem run_readBack_connection (id : BookId) (detail : String) (c : Connection) :
    ((readBack id detail).run c).connection = c := by
  have asked : ((Action.query fun store => Books.find? store id).mapError ServiceError.ofRepository) c =
      ⟨(Books.find? c.store id).mapError .ofRepository, c, []⟩ := rfl
  simp only [readBack, run]
  cases found : Books.find? c.store id with
  | error e =>
    rw [found] at asked
    rw [Action.bind_apply_error asked]
  | ok book? =>
    rw [found] at asked
    rw [Action.bind_apply_ok asked]
    cases book? <;> rfl

theorem run_revise_connection {id : BookId} {revision : Revision} {c d : Connection} {book : Book}
    {saved : BookId × Book} (found : Books.find? c.store id = .ok (some book))
    (gives : (Books.save (revision.change book)).Gives c saved d) :
    ((revise id revision).run c).connection = d := by
  have loaded : ((Action.query fun store => Books.find? store id).mapError ServiceError.ofRepository) c =
      ⟨.ok (some book), c, []⟩ := by
    simp only [Action.mapError, Action.query, found, mapError_ok]
  obtain ⟨result, rfl⟩ := gives
  have stored : ((Books.save (revision.change book)).mapError ServiceError.ofRepository) c =
      ⟨.ok saved, (Books.save (revision.change book) c).connection, (Books.save (revision.change book) c).events⟩ := by
    simp only [Action.mapError, result, mapError_ok]
  simp only [revise, load, run]
  rw [Action.bind_apply_ok loaded]
  simp only [run]
  rw [Action.bind_apply_ok stored]
  exact run_readBack_connection id revision.detail _

theorem run_revise_twice {id : BookId} {revision revision' : Revision} {c d e : Connection} {book book' : Book}
    {saved saved' : BookId × Book} (found : Books.find? c.store id = .ok (some book))
    (gives : (Books.save (revision.change book)).Gives c saved d) (found' : Books.find? d.store id = .ok (some book'))
    (gives' : (Books.save (revision'.change book')).Gives d saved' e) :
    ((revise id revision').run ((revise id revision).run c).connection).connection = e := by
  rw [run_revise_connection found gives]
  exact run_revise_connection found' gives'

end UseCase

end Catalogue
