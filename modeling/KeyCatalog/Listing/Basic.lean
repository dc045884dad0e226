import KeyCatalog.Collection
/-!
What the listings of all languages have in common. A listing is a list of lines, each one ended by
a line feed; a description may put line feeds of its own into a line.
-/
namespace KeyCatalog.Listing

def header : String := "// GENERATED FILE -- DO NOT EDIT"

/-- The column at which a description goes on after a break. -/
def descriptionIndent : Nat := 24

def truth (value : Bool) : String :=
  if value then "true" else "false"

def separated (blocks : List (List String)) : List String :=
  (blocks.intersperse [""]).flatten

def ofLines (lines : List String) : String :=
  String.join (lines.map (· ++ "\n"))

end KeyCatalog.Listing
