/-!
The registry of resource types of a catalog: its distinct tags in ascending order, numbered from
one. Ordinal zero and every ordinal without a tag stand for an unknown type.
-/
namespace KeyCatalog

structure Registry where
  names : List String
deriving DecidableEq, Repr

namespace Registry

/-- The name of every ordinal that has no tag. -/
def unknown : String := "Unknown"

def insertName (name : String) : List String → List String
  | [] => [name]
  | other :: rest =>
    if name = other then other :: rest
    else if name < other then name :: other :: rest
    else other :: insertName name rest

def ofTags (tags : List String) : Registry :=
  ⟨tags.foldr insertName []⟩

/-- Halves a range of `size` positions from `first` on until one is left. If the tags ascend, it is
the last one whose tag is not past the name, or the first one if all of them are past it. -/
def search (names : List String) (name : String) (first size : Nat) : Nat :=
  if size ≤ 1 then first
  else if names[first + size / 2]?.any (name < ·) then
    search names name first (size - size / 2)
  else
    search names name (first + size / 2) (size - size / 2)
termination_by size

def ordinal? (registry : Registry) (name : String) : Option Nat :=
  let position := search registry.names name 0 registry.names.length
  if registry.names[position]? = some name then some (position + 1) else none

def name (registry : Registry) : (ordinal : Nat) → String
  | 0 => unknown
  | index + 1 => registry.names[index]?.getD unknown

def pairs (registry : Registry) : List (Nat × String) :=
  (registry.names.zipIdx 1).map fun (name, ordinal) => (ordinal, name)

def size (registry : Registry) : Nat :=
  registry.names.length

end Registry
end KeyCatalog
