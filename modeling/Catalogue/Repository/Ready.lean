import Catalogue.Migration

/-! The check that comes before every use of a repository: the store is at the latest version and has
the tables and columns that the repositories read, under exactly their names. -/

set_option autoImplicit false

namespace Catalogue

namespace Store

def checkRelation (store : Store) (relation : Relation) : Except RepositoryError Unit :=
  if !store.schema.hasTable relation.name then .error (.missingTable relation.name)
  else match relation.columns.find? fun column => !store.schema.hasColumn relation.name column with
    | none => .ok ()
    | some column => .error (.missingColumn relation.name column)

def checkReady (store : Store) : Except RepositoryError Unit := do
  let version ← store.version?.mapError .engine
  if version ≠ Migration.latest then throw (.uninitialized Migration.latest version)
  store.checkRelation .books
  store.checkRelation .reviews

end Store

end Catalogue
