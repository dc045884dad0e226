import KeyCatalog.Event
import KeyCatalog.FileTree
/-!
Writing the outputs of a run. All destinations are compared first, then every output is staged in
its directory, and only then are the destinations replaced one after the other. So nothing has
changed if two destinations are equal or if an output cannot be staged. A staged copy is gone
after the run, whatever its outcome, and so it is not kept in the tree.
-/
namespace KeyCatalog

structure Output where
  path : String
  contents : String
deriving DecidableEq, Repr

/-- What a run on a tree of files gives: its result, the tree after it, and what it reported. -/
structure Outcome (ε α : Type) where
  result : Except ε α
  tree : FileTree
  events : List Event

namespace Output

/-- Why outputs were not all written. -/
inductive WriteError where
  | unresolved (path : String)
  | shared (previous path : String)
  | unstaged (directory : String)
  | unreplaced (path : String)
deriving DecidableEq, Repr

def WriteError.message : WriteError → String
  | .unresolved path => "resolving output path " ++ path
  | .shared previous path =>
    "output paths " ++ previous ++ " and " ++ path ++ " refer to the same file"
  | .unstaged directory => "creating temporary file in " ++ directory
  | .unreplaced path => "replacing " ++ path

def mode : Nat := 0o644

/-- Checks that no two outputs have equal destinations, nor one equal to a destination seen
before. Only the text of the paths counts. -/
def checkDestinations (workingDirectory : Place) :
    (seen : List (List String × String)) → List Output → Except WriteError Unit
  | _, [] => .ok ()
  | seen, output :: rest =>
    match Path.absolute? workingDirectory output.path with
    | none => .error (.unresolved output.path)
    | some destination =>
      match seen.find? (·.1 = destination) with
      | some (_, previous) => .error (.shared previous output.path)
      | none => checkDestinations workingDirectory ((destination, output.path) :: seen) rest

/-- The size of the name of a staged copy, in bytes. -/
def stagedNameSize : Nat := 10

/-- Holds for an output that can be staged: its directory is there, and a name in it makes no path
that is too long. -/
def canStage (tree : FileTree) (output : Output) : Bool :=
  let directory := Path.directory output.path
  tree.leadsToDirectory directory &&
    (tree.fullPath directory).utf8ByteSize + 1 + stagedNameSize ≤ FileTree.pathLimit

def stagedEvent (output : Output) : Event :=
  .staged output.path output.contents.utf8ByteSize

/-- Replaces destinations one after the other. Those before a failure stay replaced. -/
def replaceAll (tree : FileTree) : List Output → Outcome WriteError Unit
  | [] => ⟨.ok (), tree, []⟩
  | output :: rest =>
    match tree.write? output.path mode (Bytes.ofText output.contents) with
    | none => ⟨.error (.unreplaced output.path), tree, []⟩
    | some tree =>
      let outcome := replaceAll tree rest
      { outcome with events := .wrote output.path :: outcome.events }

def writeAll (tree : FileTree) (outputs : List Output) : Outcome WriteError Unit :=
  match checkDestinations tree.workingDirectory [] outputs with
  | .error error => ⟨.error error, tree, []⟩
  | .ok () =>
    match outputs.find? (!canStage tree ·) with
    | some output =>
      ⟨.error (.unstaged (Path.directory output.path)), tree,
        (outputs.takeWhile (canStage tree)).map stagedEvent⟩
    | none =>
      let outcome := replaceAll tree outputs
      { outcome with events := outputs.map stagedEvent ++ outcome.events }

end Output
end KeyCatalog
