import KeyCatalog.Text
/-!
Paths of files as text. A path is read in two ways: as the place that it spells, where `.` and
repeated slashes count for nothing and `..` is kept, and as the text of the directory that holds
what it names.
-/
namespace KeyCatalog

/-- A place in a tree of files: the names on the way to it. The root is the empty place. -/
abbrev Place := List String

namespace Path

/-- The parts of a path between slashes; the first part of an absolute path is empty. -/
def segments (path : String) : List String :=
  (Text.split (· = '/') path.toList).map String.ofList

def isAbsolute (path : String) : Bool :=
  path.toList.head? = some '/'

def isIdle (segment : String) : Bool :=
  segment = "" || segment = "."

def steps (path : String) : List String :=
  (segments path).filter fun segment => !isIdle segment

/-- Holds for a path with a `.` at its end, with or without slashes behind it. -/
def endsInDot (path : String) : Bool :=
  (segments path).reverse.find? (· ≠ "") = some "."

/-- The steps of a path from the root, as far as the text tells. The empty path leads nowhere. -/
def absolute? (workingDirectory : Place) (path : String) : Option (List String) :=
  if path = "" then none
  else if isAbsolute path then some (steps path)
  else some (workingDirectory ++ steps path)

/-- The name of the directory that the last of some steps from the root starts in, unless that
directory is the root or is itself reached by `..`. -/
def directoryName? (steps : List String) : Option String :=
  steps.dropLast.getLast?.filter (· ≠ "..")

/-- What stands at the front of a path whatever is dropped from its end: the slash of an absolute
path, or a leading `.`. -/
def anchor (path : String) : Text :=
  match path.toList with
  | '/' :: _ => ['/']
  | ['.'] => ['.']
  | '.' :: '/' :: _ => ['.']
  | _ => []

def dropIdleEnd (segments : List String) : List String :=
  (segments.reverse.dropWhile isIdle).reverse

def directory (path : String) : String :=
  let front := anchor path
  let body := (Text.split (· = '/') (path.toList.drop front.length)).map String.ofList
  match dropIdleEnd body with
  | [] => "."
  | parts =>
    match String.ofList front ++ String.intercalate "/" (dropIdleEnd parts.dropLast) with
    | "" => "."
    | text => text

end Path
end KeyCatalog
