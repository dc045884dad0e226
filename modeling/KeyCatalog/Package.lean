import KeyCatalog.Letter
import KeyCatalog.Path
/-!
The package of a Go listing: a stated name, or else the name of the directory that the listing
goes to. Either one has to be a Go identifier.
-/
namespace KeyCatalog.Package

/-- The words that Go keeps for itself. -/
def keywords : List String :=
  ["break", "case", "chan", "const", "continue", "default", "defer", "else", "fallthrough",
    "for", "func", "go", "goto", "if", "import", "interface", "map", "package", "range",
    "return", "select", "struct", "switch", "type", "var"]

/-- Holds for a name that starts with a letter or an underscore, goes on with those and with
digits, and is no keyword. -/
def isIdentifier (name : String) : Bool :=
  match name.toList with
  | [] => false
  | first :: rest =>
    (first = '_' || Letter.isAlphabetic first) &&
      rest.all (fun c => c = '_' || Letter.isAlphanumeric c) && !keywords.contains name

inductive Error where
  | unresolved (path : String)
  | underivable (path : String)
  | invalid (name : String)
deriving DecidableEq, Repr

def Error.message : Error → String
  | .unresolved path => "resolving " ++ path
  | .underivable path => "cannot derive a Go package from " ++ path ++ "; pass --go_package"
  | .invalid name => "'" ++ name ++ "' is not a valid Go package name"

def ofPath (workingDirectory : Place) (path : String) : Except Error String :=
  match Path.absolute? workingDirectory path with
  | none => .error (.unresolved path)
  | some steps =>
    match Path.directoryName? steps with
    | none => .error (.underivable path)
    | some name => .ok name

def check (name : String) : Except Error String :=
  if isIdentifier name then .ok name else .error (.invalid name)

/-- The package of the listing at a path. A stated name counts even if it is empty. -/
def resolve (workingDirectory : Place) (path : String) (stated : Option String) :
    Except Error String :=
  match stated with
  | some name => check name
  | none =>
    match ofPath workingDirectory path with
    | .error error => .error error
    | .ok name => check name

end KeyCatalog.Package
