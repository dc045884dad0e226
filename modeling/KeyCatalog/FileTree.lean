import KeyCatalog.Path
/-!
A tree of files and directories, and how a path is followed in it. A path is followed one part at
a time: whatever part comes next, the place so far has to be a directory that exists, and `..`
leads to the place above it. The last part may name a place that does not exist yet.

A tree has no symbolic links, and nothing in it is refused for want of permission: a place is
reached by its own names only, and a path fails only because of its text or of what the tree holds.
-/
namespace KeyCatalog

abbrev Bytes := List UInt8

namespace Bytes

def ofText (text : String) : Bytes :=
  text.toUTF8.data.toList

def text? (bytes : Bytes) : Option String :=
  String.fromUTF8? ⟨bytes.toArray⟩

/-- A text that is written out and read again is the same text. -/
theorem text?_ofText (text : String) : (ofText text).text? = some text := by
  have hbytes : (⟨(ofText text).toArray⟩ : ByteArray) = text.toUTF8 := by
    simp only [ofText, Array.toArray_toList]
  rw [text?, hbytes, String.fromUTF8?, String.toUTF8_eq_toByteArray, dif_pos text.isValidUTF8]
  rfl

end Bytes

inductive FileNode where
  | directory
  | file (mode : Nat) (bytes : Bytes)
deriving DecidableEq, Repr

/-- A tree of files with a directory where relative paths begin. The root is always a directory. -/
structure FileTree where
  workingDirectory : Place
  nodes : List (Place × FileNode)
deriving DecidableEq, Repr

namespace FileTree

/-- A tree whose working directory is empty, and which holds only the directories on the way. -/
def fresh (workingDirectory : Place) : FileTree :=
  ⟨workingDirectory, (List.range workingDirectory.length).map fun depth =>
    (workingDirectory.take (depth + 1), .directory)⟩

def node? (tree : FileTree) (place : Place) : Option FileNode :=
  if place = [] then some .directory
  else (tree.nodes.find? (·.1 = place)).map (·.2)

def isDirectory (tree : FileTree) (place : Place) : Bool :=
  tree.node? place = some .directory

def set (tree : FileTree) (place : Place) (node : FileNode) : FileTree :=
  { tree with nodes := (place, node) :: tree.nodes.filter (·.1 ≠ place) }

theorem node?_set_self (tree : FileTree) {place : Place} (node : FileNode) (h : place ≠ []) :
    (tree.set place node).node? place = some node := by
  simp [node?, set, h]

/-- Setting a place leaves all other places alone. -/
theorem node?_set_of_ne (tree : FileTree) {place other : Place} (node : FileNode)
    (h : other ≠ place) : (tree.set place node).node? other = tree.node? other := by
  have hsame : (fun entry : Place × FileNode => !decide (entry.1 = place) &&
      decide (entry.1 = other)) = fun entry => decide (entry.1 = other) := by
    funext entry
    by_cases hentry : entry.1 = other
    · simp [hentry, h]
    · simp [hentry]
  simp [node?, set, Ne.symm h, hsame]

def nameLimit : Nat := 255

def pathLimit : Nat := 4095

/-- Holds for a text that may be the path of a file: it has no null character and is not too
long. -/
def admits (path : String) : Bool :=
  !path.toList.contains '\x00' && path.utf8ByteSize ≤ pathLimit

def fullPath (tree : FileTree) (path : String) : String :=
  if Path.isAbsolute path then path
  else "/" ++ String.intercalate "/" (tree.workingDirectory ++ [path])

def follow? (tree : FileTree) (place : Place) (segment : String) : Option Place :=
  if !tree.isDirectory place then none
  else if Path.isIdle segment then some place
  else if segment = ".." then some place.dropLast
  else if nameLimit < segment.utf8ByteSize then none
  else some (place ++ [segment])

def base (tree : FileTree) (path : String) : Place :=
  if Path.isAbsolute path then [] else tree.workingDirectory

def locate? (tree : FileTree) (path : String) : Option Place :=
  if path = "" || !admits path then none
  else (Path.segments path).foldlM tree.follow? (tree.base path)

def leadsToDirectory (tree : FileTree) (path : String) : Bool :=
  ((tree.locate? path).map tree.isDirectory).getD false

def read? (tree : FileTree) (path : String) : Option Bytes :=
  match (tree.locate? path).bind tree.node? with
  | some (.file _ bytes) => some bytes
  | _ => none

def readText? (tree : FileTree) (path : String) : Option String :=
  (tree.read? path).bind Bytes.text?

/-- Makes a file, or replaces one. A directory is never replaced. -/
def write? (tree : FileTree) (path : String) (mode : Nat) (bytes : Bytes) : Option FileTree :=
  match tree.locate? path with
  | some place => if tree.isDirectory place then none else some (tree.set place (.file mode bytes))
  | none => none

/-- Makes the directories that are missing on the way from a place, and tells whether all steps
could be made. What was made before a step that fails stays. -/
def makeSteps (tree : FileTree) (place : Place) : List String → FileTree × Bool
  | [] => (tree, true)
  | step :: rest =>
    match tree.follow? place step with
    | none => (tree, false)
    | some next =>
      match tree.node? next with
      | some .directory => makeSteps tree next rest
      | some (.file ..) => (tree, false)
      | none => makeSteps (tree.set next .directory) next rest

/-- Makes a directory and all those above it that are missing. No directory can be made under a
path that ends in `.`, so there only those above it are made. -/
def makeDirectory (tree : FileTree) (path : String) : FileTree × Bool :=
  if !admits path then (tree, false)
  else if Path.endsInDot path then
    let (tree, made) := tree.makeSteps (tree.base path) (Path.steps path).dropLast
    (tree, made && tree.leadsToDirectory path)
  else tree.makeSteps (tree.base path) (Path.steps path)

/-- The order of places in which names are compared one after the other, a place before those
below it. -/
def precedes : Place → Place → Bool
  | [], _ => true
  | _ :: _, [] => false
  | a :: as, b :: bs => if a = b then precedes as bs else a < b

/-- What lies below the working directory, with the names on the way from there, in order. -/
def below (tree : FileTree) : List (Place × FileNode) :=
  let inside := tree.nodes.filterMap fun (place, node) =>
    if tree.workingDirectory.isPrefixOf place && place ≠ tree.workingDirectory then
      some (place.drop tree.workingDirectory.length, node)
    else none
  inside.mergeSort fun a b => precedes a.1 b.1

end FileTree
end KeyCatalog
