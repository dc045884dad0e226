import KeyCatalog.Proofs.Listing.Part
/-!
What a listing says of a catalog: the enumeration of its resource types, the names that a switch
gives to their numbers, the entries, and the names of both that are listed at the end.
-/
namespace KeyCatalog

def Entry.normal (entry : Entry) : Entry :=
  { entry with
    description := String.ofList (LiteralStyle.normalText entry.description.toList) }

def Index.normal (index : Index) : Index :=
  { index with entries := index.entries.map Entry.normal }

/-- Every name that a listing writes without quotes is an identifier. -/
structure Index.HasIdentifiers (index : Index) : Prop where
  entry : ∀ entry ∈ index.entries, Package.isIdentifier entry.identifier = true
  tag : ∀ entry ∈ index.entries, ∀ tag ∈ entry.resources, Package.isIdentifier tag = true

namespace Listing

/-- The enumeration of resource types and the switch that names them. -/
structure TypeTable where
  members : List String
  cases : List (Nat × String)
  fallback : String
deriving DecidableEq, Repr

def TypeTable.nameOf (table : TypeTable) (ordinal : Nat) : String :=
  (table.cases.lookup ordinal).getD table.fallback

structure Accessors where
  entryNames : List String
  typeNames : List String
deriving DecidableEq, Repr

structure Contents where
  types : TypeTable
  entries : List Entry
  accessors : Accessors
deriving DecidableEq, Repr

/-- The resource types of a registry: the unknown one, and then every tag. -/
def TypeTable.ofRegistry (registry : Registry) : TypeTable where
  members := Registry.unknown :: registry.names
  cases := registry.pairs
  fallback := Registry.unknown

/-- What a listing is to say of a catalog. -/
def Contents.ofIndex (index : Index) : Contents where
  types := .ofRegistry index.registry
  entries := index.entries.map Entry.normal
  accessors := ⟨index.entries.map (·.identifier), index.registry.names⟩

end Listing
end KeyCatalog
