import KeyCatalog.Index
/-!
A repository of resolved catalogs, at most one of each collection.
-/
namespace KeyCatalog

structure Repository where
  annotations : Option Index := none
  labels : Option Index := none
deriving DecidableEq, Repr

namespace Repository

def register (repository : Repository) (index : Index) : Repository :=
  match index.collection with
  | .annotations => { repository with annotations := some index }
  | .labels => { repository with labels := some index }

def get? (repository : Repository) : Collection → Option Index
  | .annotations => repository.annotations
  | .labels => repository.labels

/-- Registering a catalog replaces the one of its collection and no other. -/
theorem get?_register (repository : Repository) (index : Index) (collection : Collection) :
    (repository.register index).get? collection =
      if index.collection = collection then some index else repository.get? collection := by
  cases hindex : index.collection with
  | annotations =>
    cases collection <;> simp only [register, hindex, get?, reduceCtorEq, if_true, if_false]
  | labels =>
    cases collection <;> simp only [register, hindex, get?, reduceCtorEq, if_true, if_false]

def find? (repository : Repository) (collection : Collection) (key : String) :
    Option Entry :=
  (repository.get? collection).bind (·.find? key)

def toList (repository : Repository) : List Index :=
  Collection.all.filterMap repository.get?

end Repository
end KeyCatalog
