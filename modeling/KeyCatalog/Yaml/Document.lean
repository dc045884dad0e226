import KeyCatalog.Yaml.Lexer
import KeyCatalog.Yaml.Node
import KeyCatalog.Yaml.Value
/-!
From a YAML text to its JSON value. Anchors are numbered in the order of the document before any
alias is followed. Following aliases is bounded twice: by the depth of nested collections, and by
the number of aliases followed in all.
-/
namespace KeyCatalog.Yaml

/-- An anchored node: the slot of its anchor, and how many anchored nodes start before it. -/
structure Anchored where
  slot : Nat
  order : Nat
  node : Node Nat

/-- The anchors met so far: the slot that each name refers to, each name once, the number of
anchored nodes that have started, and the nodes that have ended. -/
structure Anchors where
  slots : List (String × Nat) := []
  started : Nat := 0
  nodes : List Anchored := []

namespace Anchors

/-- Starts an anchored node. Its slot is the number of names known before; a name that is set
again refers to its new slot. -/
def bind (anchors : Anchors) (name : String) : Anchors :=
  { anchors with
    slots := (name, anchors.slots.length) :: anchors.slots.filter (·.1 ≠ name)
    started := anchors.started + 1 }

/-- The node that aliases of a slot refer to: of the nodes with that slot, the last to start. -/
def target? (anchors : Anchors) (slot : Nat) : Option (Node Nat) :=
  let candidates := anchors.nodes.filter (·.slot = slot)
  let last := candidates.foldl (fun last candidate => max last candidate.order) 0
  (candidates.find? (·.order = last)).map Anchored.node

/-- Runs a step of numbering for a node with an optional anchor. -/
def within? (anchors : Anchors) (anchor : Option String)
    (number : Anchors → Option (Node Nat × Anchors)) : Option (Node Nat × Anchors) :=
  match anchor with
  | none => number anchors
  | some name => do
    let (node, after) ← number (anchors.bind name)
    let anchored := ⟨anchors.slots.length, anchors.started, node⟩
    some (node, { after with nodes := anchored :: after.nodes })

end Anchors

namespace Node

mutual

/-- Replaces the name of every alias by the slot that the name refers to there. -/
def number? : Node String → Anchors → Option (Node Nat × Anchors)
  | .alias name, anchors => do some (.alias (← anchors.slots.lookup name), anchors)
  | .scalar properties text plain, anchors =>
    anchors.within? properties.anchor fun anchors =>
      some (.scalar properties text plain, anchors)
  | .sequence properties items, anchors =>
    anchors.within? properties.anchor fun anchors => do
      let (items, anchors) ← numberItems? items anchors
      some (.sequence properties items, anchors)
  | .mapping properties members, anchors =>
    anchors.within? properties.anchor fun anchors => do
      let (members, anchors) ← numberMembers? members anchors
      some (.mapping properties members, anchors)

def numberItems? : List (Node String) → Anchors → Option (List (Node Nat) × Anchors)
  | [], anchors => some ([], anchors)
  | item :: rest, anchors => do
    let (item, anchors) ← number? item anchors
    let (rest, anchors) ← numberItems? rest anchors
    some (item :: rest, anchors)

def numberMembers? : List (Node String × Node String) → Anchors →
    Option (List (Node Nat × Node Nat) × Anchors)
  | [], anchors => some ([], anchors)
  | (key, value) :: rest, anchors => do
    let (key, anchors) ← number? key anchors
    let (value, anchors) ← number? value anchors
    let (rest, anchors) ← numberMembers? rest anchors
    some ((key, value) :: rest, anchors)

end

mutual

/-- The number of events of a node: a collection has a start and an end. -/
def eventCount : Node Nat → Nat
  | .alias _ => 1
  | .scalar _ _ _ => 1
  | .sequence _ items => 2 + itemEvents items
  | .mapping _ members => 2 + memberEvents members

def itemEvents : List (Node Nat) → Nat
  | [] => 0
  | item :: rest => eventCount item + itemEvents rest

def memberEvents : List (Node Nat × Node Nat) → Nat
  | [] => 0
  | (key, value) :: rest => eventCount key + eventCount value + memberEvents rest

end

end Node

def depthLimit : Nat := 128

/-- A numbered document, and how many aliases may be followed in it. -/
structure Document where
  root : Node Nat
  anchors : Anchors
  limit : Nat

namespace Document

/-- A computation that counts the aliases it follows. -/
abbrev Reading := StateT Nat Option

def follow (document : Document) : Node Nat → Reading (Node Nat)
  | .alias slot => do
    let followed ← get
    set (followed + 1)
    if followed < document.limit then document.anchors.target? slot else none
  | node => pure node

/-- The name of a member: the text of a scalar, whatever its tag or value. -/
def name (document : Document) (key : Node Nat) : Reading String := do
  match ← document.follow key with
  | .scalar _ text _ => pure text
  | _ => none

/-- The value of a node, given the values of the nodes inside it if it may be a collection. -/
def valueWith (document : Document) (inner : Option (Node Nat → Reading Json))
    (node : Node Nat) : Reading Json := do
  match ← document.follow node, inner with
  | .scalar properties text plain, _ => scalarValue? properties.tag text plain
  | .sequence properties items, some inner =>
    if properties.tag.any Tag.isLocal then none
    else
      let items ← items.mapM inner
      pure (.array items)
  | .mapping properties members, some inner =>
    if properties.tag.any Tag.isLocal then none
    else
      let members ← members.mapM fun (key, value) => do
        let name ← document.name key
        let value ← inner value
        pure (name, value)
      pure (Json.ofMembers members)
  | _, _ => none

/-- The value of a node with at most `depth` nested collections. -/
def value (document : Document) : (depth : Nat) → Node Nat → Reading Json
  | 0 => document.valueWith none
  | depth + 1 => document.valueWith (some (document.value depth))

end Document

/-- The JSON value of a YAML text with at most one document. A text without one is null. -/
def ofText? (text : List Char) : Option Json := do
  match ← Stream.ofTokens? (← tokenize? text) with
  | none => some .null
  | some root =>
    let (root, anchors) ← root.number? {}
    let document : Document := ⟨root, anchors, 100 * root.eventCount⟩
    let (value, _) ← (document.value depthLimit root).run 0
    some value

def read? (text : String) : Option Json :=
  ofText? text.toList

example : (read? "a: &x [1, !!str 2]\nb: *x\n").map Json.compact =
    some "\x7b\"a\":[1,\"2\"],\"b\":[1,\"2\"]\x7d" := by
  decide +kernel

end KeyCatalog.Yaml
