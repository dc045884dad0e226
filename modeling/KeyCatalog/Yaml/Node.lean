import KeyCatalog.Yaml.Token
/-!
The nodes of a YAML document, read from its tokens. A document is one node; directives in front of
it say which tags its handles stand for. A text without any document is empty.
-/
namespace KeyCatalog.Yaml

structure Properties where
  anchor : Option String := none
  tag : Option Tag := none
deriving DecidableEq, Repr

namespace Properties

/-- A node may be left out if it has at least one property. -/
def isPresent (properties : Properties) : Bool :=
  properties.anchor.isSome || properties.tag.isSome

end Properties

/-- A node of a document; `target` is what an alias refers to its node by. -/
inductive Node (target : Type) where
  | alias (of : target)
  | scalar (properties : Properties) (text : String) (plain : Bool)
  | sequence (properties : Properties) (items : List (Node target))
  | mapping (properties : Properties) (members : List (Node target × Node target))

/-- The tags that handles stand for, the first entry for a handle counting. -/
abbrev Handles := List (String × Tag)

namespace Handles

def default : Handles :=
  [("!", Tag.ofText ['!']), ("!!", Tag.ofText "tag:yaml.org,2002:".toList)]

def resolve? (handles : Handles) (handle : String) (rest : Tag) : Option Tag :=
  if handle = "" then some rest else (handles.lookup handle).map (· ++ rest)

end Handles

namespace Node

def empty {target : Type} (properties : Properties := {}) : Node target :=
  .scalar properties "" true

def takeProperties? (handles : Handles) : List Token → Option (Properties × List Token)
  | .anchor name :: .tag handle tag :: rest
  | .tag handle tag :: .anchor name :: rest => do
    some (⟨some name, some (← handles.resolve? handle tag)⟩, rest)
  | .anchor name :: rest => some (⟨some name, none⟩, rest)
  | .tag handle tag :: rest => do some (⟨none, some (← handles.resolve? handle tag)⟩, rest)
  | rest => some ({}, rest)

/-- A node is left out before one of these tokens. -/
def leftOut (before : List Token) (rest : List Token) : Bool :=
  rest.head?.any before.contains

mutual

/-- A node. Block collections start only where `block` allows them, and a sequence at the
indentation of its mapping only where `flush` does. -/
def read? (handles : Handles) : (fuel : Nat) → (block flush : Bool) → List Token →
    Option (Node String × List Token)
  | _, _, _, .alias name :: rest => some (.alias name, rest)
  | 0, _, _, _ => none
  | fuel + 1, block, flush, tokens => do
    let (properties, rest) ← takeProperties? handles tokens
    match rest, block, flush with
    | .blockEntry :: _, _, true =>
      let (items, rest) ← readFlush? handles fuel rest
      some (.sequence properties items, rest)
    | .scalar text plain :: rest, _, _ => some (.scalar properties text plain, rest)
    | .flowSequenceStart :: rest, _, _ =>
      let (items, rest) ← readFlowSequence? handles fuel true rest
      some (.sequence properties items, rest)
    | .flowMappingStart :: rest, _, _ =>
      let (members, rest) ← readFlowMapping? handles fuel true rest
      some (.mapping properties members, rest)
    | .blockSequenceStart :: rest, true, _ =>
      let (items, rest) ← readSequence? handles fuel rest
      some (.sequence properties items, rest)
    | .blockMappingStart :: rest, true, _ =>
      let (members, rest) ← readMapping? handles fuel rest
      some (.mapping properties members, rest)
    | rest, _, _ => if properties.isPresent then some (empty properties, rest) else none

def readItem? (handles : Handles) : (fuel : Nat) → (block flush : Bool) →
    (before : List Token) → List Token → Option (Node String × List Token)
  | 0, _, _, _, _ => none
  | fuel + 1, block, flush, before, tokens =>
    if leftOut before tokens then some (empty, tokens)
    else read? handles fuel block flush tokens

def readSequence? (handles : Handles) : (fuel : Nat) → List Token →
    Option (List (Node String) × List Token)
  | fuel + 1, .blockEntry :: rest => do
    let (item, rest) ← readItem? handles fuel true false [.blockEntry, .blockEnd] rest
    let (items, rest) ← readSequence? handles fuel rest
    some (item :: items, rest)
  | _, .blockEnd :: rest => some ([], rest)
  | _, _ => none

def readFlush? (handles : Handles) : (fuel : Nat) → List Token →
    Option (List (Node String) × List Token)
  | fuel + 1, .blockEntry :: rest => do
    let (item, rest) ←
      readItem? handles fuel true false [.blockEntry, .key, .value, .blockEnd] rest
    let (items, rest) ← readFlush? handles fuel rest
    some (item :: items, rest)
  | 0, .blockEntry :: _ => none
  | _, rest => some ([], rest)

def readMapping? (handles : Handles) : (fuel : Nat) → List Token →
    Option (List (Node String × Node String) × List Token)
  | fuel + 1, .key :: rest => do
    let before := [.key, .value, .blockEnd]
    let (key, rest) ← readItem? handles fuel true true before rest
    let (value, rest) ←
      match rest with
      | .value :: rest => readItem? handles fuel true true before rest
      | rest => some (empty, rest)
    let (members, rest) ← readMapping? handles fuel rest
    some ((key, value) :: members, rest)
  | _, .blockEnd :: rest => some ([], rest)
  | _, _ => none

/-- The entries of a flow sequence, up to its end; `first` says that none has been read. A key
makes an entry a mapping of one member. Such a key may be left out only by a token that stands in
its place. -/
def readFlowSequence? (handles : Handles) : (fuel : Nat) → (first : Bool) → List Token →
    Option (List (Node String) × List Token)
  | _, _, .flowSequenceEnd :: rest => some ([], rest)
  | 0, _, _ => none
  | fuel + 1, first, tokens => do
    let tokens ←
      match first, tokens with
      | true, tokens => some tokens
      | false, .flowEntry :: rest => some rest
      | false, _ => none
    match tokens with
    | .flowSequenceEnd :: rest => some ([], rest)
    | .key :: rest =>
      let before := [.flowEntry, .flowSequenceEnd]
      let (key, rest) ←
        if leftOut (.value :: before) rest then some (empty, rest.drop 1)
        else read? handles fuel false false rest
      let (value, rest) ←
        match rest with
        | .value :: rest => readItem? handles fuel false false before rest
        | rest => some (empty, rest)
      let (items, rest) ← readFlowSequence? handles fuel false rest
      some (.mapping {} [(key, value)] :: items, rest)
    | tokens =>
      let (item, rest) ← read? handles fuel false false tokens
      let (items, rest) ← readFlowSequence? handles fuel false rest
      some (item :: items, rest)

/-- The members of a flow mapping, up to its end; `first` says that none has been read. A node
without a key indicator has no value. -/
def readFlowMapping? (handles : Handles) : (fuel : Nat) → (first : Bool) → List Token →
    Option (List (Node String × Node String) × List Token)
  | _, _, .flowMappingEnd :: rest => some ([], rest)
  | 0, _, _ => none
  | fuel + 1, first, tokens => do
    let tokens ←
      match first, tokens with
      | true, tokens => some tokens
      | false, .flowEntry :: rest => some rest
      | false, _ => none
    match tokens with
    | .flowMappingEnd :: rest => some ([], rest)
    | .key :: rest =>
      let before := [.flowEntry, .flowMappingEnd]
      let (key, rest) ← readItem? handles fuel false false (.value :: before) rest
      let (value, rest) ←
        match rest with
        | .value :: rest => readItem? handles fuel false false before rest
        | rest => some (empty, rest)
      let (members, rest) ← readFlowMapping? handles fuel false rest
      some ((key, value) :: members, rest)
    | tokens =>
      let (key, rest) ← read? handles fuel false false tokens
      let (members, rest) ← readFlowMapping? handles fuel false rest
      some ((key, empty) :: members, rest)

end

end Node

/-- The directives in front of a document, each handle and the version at most once. The defaults
come behind the handles that were set. -/
def takeDirectives? : (versioned : Bool) → Handles → List Token → Option (Handles × List Token)
  | versioned, handles, .versionDirective major minor :: rest =>
    if versioned || major ≠ 1 || (minor ≠ 1 && minor ≠ 2) then none
    else takeDirectives? true handles rest
  | versioned, handles, .tagDirective handle start :: rest =>
    if (handles.lookup handle).isSome then none
    else takeDirectives? versioned (handles ++ [(handle, start)]) rest
  | _, handles, rest => some (handles ++ Handles.default, rest)

/-- What a text holds: nothing but comments, or the root node of a document. -/
abbrev Stream := Option (Node String)

namespace Stream

/-- Nothing but document ends may follow a document. -/
def endsIn (rest : List Token) : Bool :=
  rest.all (· = .documentEnd)

/-- The document of a token list. Only an explicit start allows directives and an empty root. -/
def ofTokens? (tokens : List Token) : Option Stream := do
  let fuel := 4 * tokens.length + 4
  let (root, rest) ←
    match tokens with
    | [] => return none
    | .versionDirective _ _ :: _ | .tagDirective _ _ :: _ | .documentStart :: _ =>
      match ← takeDirectives? false [] tokens with
      | (handles, .documentStart :: rest) =>
        match rest with
        | [] => some (Node.empty, rest)
        | .versionDirective _ _ :: _ | .tagDirective _ _ :: _ | .documentStart :: _
        | .documentEnd :: _ => some (Node.empty, rest)
        | rest => Node.read? handles fuel true false rest
      | _ => none
    | tokens => Node.read? Handles.default fuel true false tokens
  if endsIn rest then return some root else none

end Stream
end KeyCatalog.Yaml
