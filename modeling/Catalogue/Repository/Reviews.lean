import Catalogue.Repository.Row

/-! Reviews looked up by themselves. They are written only through the book that owns them. -/

set_option autoImplicit false

namespace Catalogue.Reviews

def find? (store : Store) (id : ReviewId) : Except RepositoryError (Option Review) :=
  match store.reviews.find? id with
  | none => .ok none
  | some row => (some <$> row.toReview).mapError .engine

def ofBook (store : Store) (book : BookId) : Except RepositoryError (List Review) :=
  ((store.reviews.rows.filter (·.isOf book)).mapM Row.toReview).mapError .engine

def count (store : Store) : Nat := store.reviews.rows.length

def countOfBook (store : Store) (book : BookId) : Nat := store.reviews.count (·.isOf book)

end Catalogue.Reviews
