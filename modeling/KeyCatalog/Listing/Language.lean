import KeyCatalog.Listing.Go
import KeyCatalog.Listing.TypeScript
/-!
The languages in which a catalog is listed.
-/
namespace KeyCatalog

inductive Language where
  | go
  | typeScript
deriving DecidableEq, Repr

namespace Language

def name : Language → String
  | .go => "Go"
  | .typeScript => "TypeScript"

def style : Language → LiteralStyle
  | .go => Listing.Go.style
  | .typeScript => Listing.TypeScript.style

/-- The listing of a catalog. Only Go has a package clause. -/
def listing (index : Index) (package : String) : Language → String
  | .go => Listing.ofLines (Listing.Go.lines index package)
  | .typeScript => Listing.ofLines (Listing.TypeScript.lines index)

end Language
end KeyCatalog
