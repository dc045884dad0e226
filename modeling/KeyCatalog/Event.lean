import KeyCatalog.Collection
import KeyCatalog.Maturity
/-!
What the library reports while it works, as values; a run returns its events in order.
-/
namespace KeyCatalog

/-- A step worth reporting. -/
inductive Event where
  | resolvedEntry (key identifier : String) (maturity : Maturity)
  | noResources (key : String)
  | resolvedCatalog (collection : Collection) (entries resourceTypes : Nat)
  | loading (path : String) (collection : Collection)
  | usingBundled (collection : Collection)
  | resolvingBundled (collection : Collection) (suffix : String)
  | rendered (language : String) (bytes : Nat)
  | staged (path : String) (bytes : Nat)
  | wrote (path : String)
  | finished (collection : Collection) (entries resourceTypes : Nat) (package : String)
deriving DecidableEq, Repr

namespace Event

/-- An event as one line: its level, its message and its fields. -/
def line : Event → String
  | .resolvedEntry key identifier maturity =>
    "DEBUG resolved catalog entry key=" ++ key ++ " identifier=" ++ identifier ++
      " maturity=" ++ maturity.name
  | .noResources key =>
    "WARN catalog entry does not reference any resource type key=" ++ key
  | .resolvedCatalog collection entries resourceTypes =>
    "INFO catalog resolved collection=\"" ++ collection.nounPlural ++ "\" entries=" ++
      toString entries ++ " resource_types=" ++ toString resourceTypes
  | .loading path collection =>
    "INFO loading catalog path=" ++ path ++ " collection=" ++ collection.nounPlural
  | .usingBundled collection =>
    "INFO using bundled catalog collection=" ++ collection.nounPlural
  | .resolvingBundled collection suffix =>
    "INFO resolving bundled catalog collection=" ++ collection.nounPlural ++ " suffix=" ++ suffix
  | .rendered language bytes =>
    "DEBUG rendered listing grammar=\"" ++ language ++ "\" bytes=" ++ toString bytes
  | .staged path bytes =>
    "DEBUG staged output path=" ++ path ++ " bytes=" ++ toString bytes
  | .wrote path => "INFO wrote generated listing path=" ++ path
  | .finished collection entries resourceTypes package =>
    "INFO generation complete collection=" ++ collection.nounPlural ++ " entries=" ++
      toString entries ++ " resource_types=" ++ toString resourceTypes ++ " package=" ++ package

end Event
end KeyCatalog
