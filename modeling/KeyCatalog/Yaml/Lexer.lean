import KeyCatalog.Yaml.Scalar
/-!
From a text to its tokens. Indentation opens and closes block collections. A node at the start of
an entry may turn out to be a mapping key only when the colon behind it is met, so the place of
the last such node is remembered for every open flow collection and for the block around them; the
tokens of the key are then put in at that place.
-/
namespace KeyCatalog.Yaml

/-- A node that is a mapping key if a colon follows: how many tokens precede it, where it starts,
and whether nothing but a key can stand there. -/
structure Candidate where
  before : Nat
  place : Place
  required : Bool
deriving Repr

namespace Candidate

/-- The colon of a key stands on its line, at most 1024 bytes behind its start. -/
def isPast (candidate : Candidate) (place : Place) : Bool :=
  candidate.place.line < place.line || candidate.place.bytes + 1024 < place.bytes

/-- Drops a candidate that can no longer be a key, unless a key is required. -/
def expire? (place : Place) : Option Candidate → Option (Option Candidate)
  | none => some none
  | some candidate =>
    if !candidate.isPast place then some (some candidate)
    else if candidate.required then none
    else some none

end Candidate

/-- The state between two tokens: the tokens so far, newest first, and their number; the columns
of the open block collections, innermost first; whether a key may start here; and the key
candidates of the innermost collection and of those around it. -/
structure Lexer where
  cursor : Cursor
  tokens : List Token
  count : Nat
  columns : List Nat
  keyAllowed : Bool
  candidate : Option Candidate
  outer : List (Option Candidate)

namespace Lexer

def start (text : List Char) : Lexer :=
  ⟨⟨⟨0, 0, 0⟩, text⟩, [], 0, [], true, none, []⟩

def inFlow (lexer : Lexer) : Bool :=
  !lexer.outer.isEmpty

def emit (lexer : Lexer) (token : Token) : Lexer :=
  { lexer with tokens := token :: lexer.tokens, count := lexer.count + 1 }

def insert (lexer : Lexer) (before : Nat) (token : Token) : Lexer :=
  { lexer with
    tokens := lexer.tokens.insertIdx (lexer.count - before) token, count := lexer.count + 1 }

/-- Opens a block collection at a column that is not yet open, with its token behind the first
`before` ones. -/
def openBlock (lexer : Lexer) (column before : Nat) (token : Token) : Lexer :=
  if lexer.inFlow || lexer.columns.head?.any (column ≤ ·) then lexer
  else { lexer.insert before token with columns := column :: lexer.columns }

def closeColumns (closes : Nat → Bool) : List Nat → Lexer → Lexer
  | [], lexer => { lexer with columns := [] }
  | column :: rest, lexer =>
    if closes column then closeColumns closes rest (lexer.emit .blockEnd)
    else { lexer with columns := column :: rest }

/-- Closes the block collections that are indented more than a column. -/
def closeTo (lexer : Lexer) (column : Nat) : Lexer :=
  if lexer.inFlow then lexer else closeColumns (column < ·) lexer.columns lexer

def closeAll (lexer : Lexer) : Lexer :=
  if lexer.inFlow then lexer else closeColumns (fun _ => true) lexer.columns lexer

/-- Gives up the current candidate, which fails if a key is required there. -/
def dropCandidate? (lexer : Lexer) : Option Lexer :=
  if lexer.candidate.any Candidate.required then none
  else some { lexer with candidate := none }

/-- Remembers the node that starts here as a candidate, if a key may start here. -/
def saveCandidate? (lexer : Lexer) : Option Lexer :=
  if lexer.keyAllowed then do
    let required := !lexer.inFlow && lexer.columns.head? = some lexer.cursor.place.column
    let lexer ← lexer.dropCandidate?
    some { lexer with candidate := some ⟨lexer.count, lexer.cursor.place, required⟩ }
  else some lexer

/-- White space, comments and line breaks in front of a token. Outside flow collections a break
allows a key, and a tab is white space only where none is allowed. -/
def skipSpace (inFlow : Bool) : (inComment keyAllowed : Bool) → Place → List Char → Bool × Cursor
  | _, keyAllowed, place, [] => (keyAllowed, ⟨place, []⟩)
  | inComment, keyAllowed, place, c :: rest =>
    if isBreak c then skipSpace inFlow false (keyAllowed || !inFlow) (place.after c) rest
    else if inComment || c = ' ' || (c = '\t' && (inFlow || !keyAllowed)) ||
        (c = '\ufeff' && place.column = 0) then
      skipSpace inFlow inComment keyAllowed (place.after c) rest
    else if c = '#' then skipSpace inFlow true keyAllowed (place.after c) rest
    else (keyAllowed, ⟨place, c :: rest⟩)

/-- Moves to the next token, drops candidates that are past, and closes the block collections
that end before it. -/
def advance? (lexer : Lexer) : Option Lexer := do
  let (keyAllowed, cursor) :=
    skipSpace lexer.inFlow false lexer.keyAllowed lexer.cursor.place lexer.cursor.rest
  let candidate ← Candidate.expire? cursor.place lexer.candidate
  let outer ← lexer.outer.mapM (Candidate.expire? cursor.place)
  let lexer := { lexer with
    cursor := cursor, keyAllowed := keyAllowed, candidate := candidate, outer := outer }
  some (lexer.closeTo cursor.place.column)

def take (lexer : Lexer) (count : Nat) (token : Token) : Lexer :=
  { lexer with cursor := lexer.cursor.skip count }.emit token

/-- A directive or document marker ends all block collections. -/
def endBlocks? (lexer : Lexer) : Option Lexer := do
  let lexer ← lexer.closeAll.dropCandidate?
  some { lexer with keyAllowed := false }

def openFlow? (lexer : Lexer) (token : Token) : Option Lexer := do
  let lexer ← lexer.saveCandidate?
  let lexer := { lexer with
    outer := lexer.candidate :: lexer.outer, candidate := none, keyAllowed := true }
  some (lexer.take 1 token)

def closeFlow? (lexer : Lexer) (token : Token) : Option Lexer := do
  let lexer ← lexer.dropCandidate?
  let lexer :=
    match lexer.outer with
    | candidate :: outer => { lexer with candidate := candidate, outer := outer }
    | [] => lexer
  some ({ lexer with keyAllowed := false }.take 1 token)

def flowItem? (lexer : Lexer) : Option Lexer := do
  let lexer ← lexer.dropCandidate?
  some ({ lexer with keyAllowed := true }.take 1 .flowEntry)

def blockItem? (lexer : Lexer) : Option Lexer := do
  if !lexer.inFlow && !lexer.keyAllowed then none
  else
    let lexer := lexer.openBlock lexer.cursor.place.column lexer.count .blockSequenceStart
    let lexer ← lexer.dropCandidate?
    some ({ lexer with keyAllowed := true }.take 1 .blockEntry)

def explicitKey? (lexer : Lexer) : Option Lexer := do
  if !lexer.inFlow && !lexer.keyAllowed then none
  else
    let lexer := lexer.openBlock lexer.cursor.place.column lexer.count .blockMappingStart
    let lexer ← lexer.dropCandidate?
    some ({ lexer with keyAllowed := !lexer.inFlow }.take 1 .key)

/-- A colon. It makes the current candidate a key; without one it belongs to an explicit key. -/
def value? (lexer : Lexer) : Option Lexer :=
  match lexer.candidate with
  | some candidate =>
    let lexer := lexer.insert candidate.before .key
    let lexer := lexer.openBlock candidate.place.column candidate.before .blockMappingStart
    some ({ lexer with candidate := none, keyAllowed := false }.take 1 .value)
  | none =>
    if !lexer.inFlow && !lexer.keyAllowed then none
    else
      let lexer := lexer.openBlock lexer.cursor.place.column lexer.count .blockMappingStart
      some ({ lexer with keyAllowed := !lexer.inFlow }.take 1 .value)

def node? (lexer : Lexer) (scan : Cursor → Option (Token × Cursor)) : Option Lexer := do
  let lexer ← lexer.saveCandidate?
  let (token, cursor) ← scan lexer.cursor
  some ({ lexer with keyAllowed := false, cursor := cursor }.emit token)

def plain? (lexer : Lexer) : Option Lexer := do
  let lexer ← lexer.saveCandidate?
  let indent := lexer.columns.head?.elim 0 (· + 1)
  let (text, broken, cursor) ←
    scanPlain? lexer.inFlow indent [] Gap.none lexer.cursor.place lexer.cursor.rest
  some ({ lexer with keyAllowed := broken, cursor := cursor }.emit (.scalar text true))

def block? (lexer : Lexer) (folded : Bool) : Option Lexer := do
  let lexer ← lexer.dropCandidate?
  let (text, cursor) ← scanBlock? folded lexer.columns.head? (lexer.cursor.skip 1)
  some ({ lexer with keyAllowed := true, cursor := cursor }.emit (.scalar text false))

def startsPlain (inFlow : Bool) (c : Char) (rest : List Char) : Bool :=
  (!isSpace c && !"-?:,[]\x7b\x7d#&*!|>'\"%@\x60".toList.contains c) ||
    (c = '-' && !follows [' ', '\t'] rest) ||
    (!inFlow && (c = '?' || c = ':') && !spaceFollows rest)

/-- The token that starts with a character, the first one of the rest of the text. -/
def fetch? (lexer : Lexer) (c : Char) (rest : List Char) : Option Lexer :=
  if lexer.cursor.place.column = 0 && c = '%' then do
    let lexer ← lexer.endBlocks?
    let (token, cursor) ← scanDirective? (lexer.cursor.skip 1)
    some ({ lexer with cursor := cursor }.emit token)
  else if lexer.cursor.startsMarker '-' then do
    some ((← lexer.endBlocks?).take 3 .documentStart)
  else if lexer.cursor.startsMarker '.' then do
    some ((← lexer.endBlocks?).take 3 .documentEnd)
  else if c = '[' then lexer.openFlow? .flowSequenceStart
  else if c = '\x7b' then lexer.openFlow? .flowMappingStart
  else if c = ']' then lexer.closeFlow? .flowSequenceEnd
  else if c = '\x7d' then lexer.closeFlow? .flowMappingEnd
  else if c = ',' then lexer.flowItem?
  else if c = '-' && spaceFollows rest then lexer.blockItem?
  else if c = '?' && (lexer.inFlow || spaceFollows rest) then lexer.explicitKey?
  else if c = ':' && (lexer.inFlow || spaceFollows rest) then lexer.value?
  else if c = '*' then
    lexer.node? fun cursor => (scanName? (cursor.skip 1)).map (Prod.map Token.alias id)
  else if c = '&' then
    lexer.node? fun cursor => (scanName? (cursor.skip 1)).map (Prod.map Token.anchor id)
  else if c = '!' then lexer.node? (scanTag? lexer.inFlow)
  else if c = '|' && !lexer.inFlow then lexer.block? false
  else if c = '>' && !lexer.inFlow then lexer.block? true
  else if c = '\'' then
    lexer.node? fun cursor =>
      (scanSingle? false [] Gap.none (cursor.place.after c) rest).map
        (Prod.map (Token.scalar · false) id)
  else if c = '"' then
    lexer.node? fun cursor =>
      (scanDouble? .outside [] Gap.none (cursor.place.after c) rest).map
        (Prod.map (Token.scalar · false) id)
  else if startsPlain lexer.inFlow c rest then lexer.plain?
  else none

/-- The tokens up to the end of the text; every step but the last takes at least one character. -/
def run? : (fuel : Nat) → Lexer → Option (List Token)
  | 0, _ => none
  | fuel + 1, lexer => do
    let lexer ← lexer.advance?
    match lexer.cursor.rest with
    | [] => some (← lexer.closeAll.dropCandidate?).tokens.reverse
    | c :: rest => run? fuel (← lexer.fetch? c rest)

end Lexer

/-- The tokens of a text, if all of its characters are allowed and each starts or continues a
token. -/
def tokenize? (text : List Char) : Option (List Token) :=
  if text.all isAllowed then
    let text := joinLineEnds text
    Lexer.run? (text.length + 1) (Lexer.start text)
  else none

end KeyCatalog.Yaml
