/-!
A catalog entry as its author wrote it; nothing is derived yet.
-/
namespace KeyCatalog

/-- An authored entry. Fields that were left out have their defaults. -/
structure Record where
  name : String := ""
  variableName : Option String := none
  featureStatus : Option String := none
  description : String := ""
  hidden : Bool := false
  deprecated : Bool := false
  resources : List String := []
deriving DecidableEq, Repr

end KeyCatalog
