import Catalogue.Repository.Save

/-! Saving the books that a caller holds. The ids are written into the caller's own books, and only
after the transaction that stored them is over. -/

set_option autoImplicit false

namespace Catalogue

/-- What a call leaves behind, however it ended: its reply, and what the caller holds from then on. -/
structure HeldReply (σ ε α : Type) where
  reply : Reply ε α
  held : σ

/-- Work against one connection that may change what its caller holds at any point. -/
def HeldAction (σ ε α : Type) := σ → Connection → HeldReply σ ε α

namespace HeldAction

variable {σ ε α β : Type}

protected def pure (a : α) : HeldAction σ ε α := fun held c => ⟨⟨.ok a, c, []⟩, held⟩

protected def bind (x : HeldAction σ ε α) (f : α → HeldAction σ ε β) : HeldAction σ ε β := fun held c =>
  match x held c with
  | ⟨⟨.ok a, c, events⟩, held⟩ =>
    let next := f a held c
    { next with reply := { next.reply with events := events ++ next.reply.events } }
  | ⟨⟨.error e, c, events⟩, held⟩ => ⟨⟨.error e, c, events⟩, held⟩

instance : Monad (HeldAction σ ε) where
  pure := HeldAction.pure
  bind := HeldAction.bind

def aside (x : Action ε α) : HeldAction σ ε α := fun held c => ⟨x c, held⟩

def look : HeldAction σ ε σ := fun held c => ⟨⟨.ok held, c, []⟩, held⟩

def change (f : σ → σ) : HeldAction σ ε Unit := fun held c => ⟨⟨.ok (), c, []⟩, f held⟩

end HeldAction

namespace Books

open HeldAction

def saveInPlace : HeldAction Book RepositoryError BookId := do
  let book ← look
  aside <| Action.ofExcept (book.validate.mapError .validation)
  let mode := if book.isPersisted then SaveMode.update else SaveMode.insert
  let ids ← aside <| Action.transaction .engine ((cascade book).reportingError (.saveFailed mode))
  change ids.stamp
  let book ← look
  aside <| Action.report (.saved mode ids.book book.reviews.length)
  return ids.book

def saveAllInPlace : HeldAction (List Book) RepositoryError (List BookId) := do
  let books ← look
  aside <| Action.ofExcept (checkBatch [] books)
  let ids ← aside <| Action.transaction .engine ((cascadeAll books).reportingError (.batchFailed books.length))
  change (ids.zipWith SavedIds.stamp ·)
  aside <| Action.report (.batchSaved ids.length)
  return ids.map (·.book)

/-- In place or not, a save does the same; the caller holds the book with its ids, or the one passed. -/
theorem saveInPlace_eq (book : Book) (c : Connection) :
    saveInPlace book c = ⟨⟨(save book c).result.map (·.1), (save book c).connection, (save book c).events⟩,
      match (save book c).result with | .ok saved => saved.2 | .error _ => book⟩ := by
  simp only [saveInPlace, save, Bind.bind, HeldAction.bind, Action.bind, look, aside, change, Action.ofExcept, Pure.pure,
    HeldAction.pure, Action.pure, Action.report]
  cases book.validate with
  | error fault => rfl
  | ok _ =>
    simp only [mapError_ok]
    generalize Action.transaction .engine ((cascade book).reportingError _) c = reply
    rcases reply with ⟨_ | ids, d, events⟩
    · rfl
    · simp [Except.map]

theorem saveAllInPlace_eq (books : List Book) (c : Connection) :
    saveAllInPlace books c =
      ⟨⟨(saveAll books c).result.map (·.1), (saveAll books c).connection, (saveAll books c).events⟩,
        match (saveAll books c).result with | .ok saved => saved.2 | .error _ => books⟩ := by
  simp only [saveAllInPlace, saveAll, Bind.bind, HeldAction.bind, Action.bind, look, aside, change, Action.ofExcept,
    Pure.pure, HeldAction.pure, Action.pure, Action.report]
  cases checkBatch [] books with
  | error e => rfl
  | ok _ =>
    dsimp only
    generalize Action.transaction .engine ((cascadeAll books).reportingError (.batchFailed books.length)) c = reply
    rcases reply with ⟨_ | ids, d, events⟩ <;> simp [Except.map]

end Books

end Catalogue
