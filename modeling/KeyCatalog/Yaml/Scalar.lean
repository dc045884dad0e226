import KeyCatalog.Yaml.Property
/-!
Scanning of scalars in their five styles. Line folding is the same in plain and quoted scalars: a
run of white space with a break in it stands for one space, or for the breaks after the first.
-/
namespace KeyCatalog.Yaml

/-- White space met since the last character of a scalar: blanks within a line, or breaks. The
first break is missing if it was escaped. -/
inductive Gap where
  | blanks (text : List Char)
  | breaks (first : Option Char) (others : List Char)

namespace Gap

def none : Gap := .blanks []

def isNone : Gap → Bool
  | .blanks text => text.isEmpty
  | .breaks _ _ => false

def hasBreak : Gap → Bool
  | .blanks _ => false
  | .breaks _ _ => true

/-- The gap with one more character of white space. Blanks around breaks are dropped. -/
def add (gap : Gap) (c : Char) : Gap :=
  match gap, isBreak c with
  | .blanks text, false => .blanks (text ++ [c])
  | .blanks _, true => .breaks (some c) []
  | .breaks first others, false => .breaks first others
  | .breaks first others, true => .breaks first (others ++ [c])

/-- The text that a gap stands for. -/
def fold : Gap → List Char
  | .blanks text => text
  | .breaks (some '\n') [] => [' ']
  | .breaks (some '\n') others => others
  | .breaks (some first) others => first :: others
  | .breaks .none others => others

end Gap

/-- A plain scalar ends before a character: before a colon with white space behind it and, in a
flow collection, before flow punctuation. -/
def endsPlain (inFlow : Bool) (c : Char) (rest : List Char) : Bool :=
  (c = ':' && spaceFollows rest) || (inFlow && [',', '[', ']', '{', '}'].contains c)

/-- A plain scalar. It stops before a comment, a document marker and a line that is indented less
than `indent`. The text is collected backwards; the flag says whether breaks followed it. -/
def scanPlain? (inFlow : Bool) (indent : Nat) :
    (text : List Char) → Gap → Place → List Char → Option (String × Bool × Cursor)
  | text, gap, place, [] => some (String.ofList text.reverse, gap.hasBreak, ⟨place, []⟩)
  | text, gap, place, c :: rest =>
    if isSpace c then
      if gap.hasBreak && c = '\t' && place.column < indent then none
      else scanPlain? inFlow indent text (gap.add c) (place.after c) rest
    else if !gap.isNone && (c = '#' || Cursor.atMarker ⟨place, c :: rest⟩ ||
        (!inFlow && place.column < indent)) then
      some (String.ofList text.reverse, gap.hasBreak, ⟨place, c :: rest⟩)
    else if inFlow && c = ':' && follows [',', '?', '[', ']', '{', '}'] rest then none
    else if endsPlain inFlow c rest then
      some (String.ofList text.reverse, gap.hasBreak, ⟨place, c :: rest⟩)
    else scanPlain? inFlow indent (c :: gap.fold.reverse ++ text) Gap.none (place.after c) rest

/-- A single-quoted scalar behind its opening quote; a quote within it is written twice. -/
def scanSingle? :
    (doubled : Bool) → (text : List Char) → Gap → Place → List Char → Option (String × Cursor)
  | _, _, _, _, [] => none
  | true, text, gap, place, c :: rest => scanSingle? false (c :: text) gap (place.after c) rest
  | false, text, gap, place, c :: rest =>
    if Cursor.atMarker ⟨place, c :: rest⟩ then none
    else if isSpace c then scanSingle? false text (gap.add c) (place.after c) rest
    else
      let text := gap.fold.reverse ++ text
      if c ≠ '\'' then scanSingle? false (c :: text) Gap.none (place.after c) rest
      else if follows ['\''] rest then scanSingle? true text Gap.none (place.after c) rest
      else some (String.ofList text.reverse, ⟨place.after c, rest⟩)

def escapedChar? (c : Char) : Option Char :=
  [('0', '\x00'), ('a', '\x07'), ('b', '\x08'), ('t', '\t'), ('\t', '\t'), ('n', '\n'),
    ('v', '\x0b'), ('f', '\x0c'), ('r', '\r'), ('e', '\x1b'), (' ', ' '), ('"', '"'), ('/', '/'),
    ('\\', '\\'), ('N', '\u0085'), ('_', '\u00a0'), ('L', '\u2028'), ('P', '\u2029')].lookup c

def escapeWidth? (c : Char) : Option Nat :=
  [('x', 2), ('u', 4), ('U', 8)].lookup c

def charOfCode? (code : Nat) : Option Char :=
  if h : code.isValidChar then some (Char.ofNatAux code h) else none

/-- Where a double-quoted scalar stands: in its text, behind a backslash, or within a numeric
escape that has `left + 1` digits to come. -/
inductive Escape where
  | outside
  | letter
  | digits (left : Nat) (code : Nat)

/-- A double-quoted scalar behind its opening quote. An escaped break joins two lines. -/
def scanDouble? : Escape → (text : List Char) → Gap → Place → List Char → Option (String × Cursor)
  | _, _, _, _, [] => none
  | .outside, text, gap, place, c :: rest =>
    if Cursor.atMarker ⟨place, c :: rest⟩ then none
    else if isSpace c then scanDouble? .outside text (gap.add c) (place.after c) rest
    else
      let text := gap.fold.reverse ++ text
      if c = '"' then some (String.ofList text.reverse, ⟨place.after c, rest⟩)
      else if c = '\\' then scanDouble? .letter text Gap.none (place.after c) rest
      else scanDouble? .outside (c :: text) Gap.none (place.after c) rest
  | .letter, text, gap, place, c :: rest =>
    if isBreak c then scanDouble? .outside text (.breaks .none []) (place.after c) rest
    else
      match escapedChar? c, escapeWidth? c with
      | some escaped, _ => scanDouble? .outside (escaped :: text) gap (place.after c) rest
      | .none, some width => scanDouble? (.digits (width - 1) 0) text gap (place.after c) rest
      | .none, .none => none
  | .digits left code, text, gap, place, c :: rest =>
    match hexDigit? c with
    | .none => none
    | some digit =>
      let code := code * 16 + digit
      match left with
      | left + 1 => scanDouble? (.digits left code) text gap (place.after c) rest
      | 0 =>
        match charOfCode? code with
        | .none => none
        | some escaped => scanDouble? .outside (escaped :: text) gap (place.after c) rest

/-- What a block scalar keeps of the breaks at its end. -/
inductive Chomping where
  | strip
  | clip
  | keep
deriving DecidableEq, Repr

def takeChomping : List Char → Option Chomping × List Char
  | '+' :: rest => (some .keep, rest)
  | '-' :: rest => (some .strip, rest)
  | rest => (none, rest)

def takeIncrement? : List Char → Option (Option Nat × List Char)
  | c :: rest =>
    if c = '0' then none
    else if c.isDigit then some (some (c.toNat - '0'.toNat), rest)
    else some (none, c :: rest)
  | [] => some (none, [])

/-- The chomping and the indentation increment of a block scalar, in either order. -/
def blockHeader? (text : List Char) : Option (Chomping × Option Nat × List Char) := do
  match takeChomping text with
  | (some chomping, rest) =>
    let (increment, rest) ← takeIncrement? rest
    some (chomping, increment, rest)
  | (none, rest) =>
    let (increment, rest) ← takeIncrement? rest
    let (chomping, rest) := if increment.isSome then takeChomping rest else (none, rest)
    some (chomping.getD .clip, increment, rest)

/-- The state of a block scalar: its indentation once known, the widest indentation before that,
the text backwards, the break that ended the last line of text, the breaks since, and whether the
last line of text started with a blank. -/
structure Block where
  indent : Option Nat
  widest : Nat
  text : List Char
  lineEnd : Option Char
  breaks : List Char
  ledByBlank : Bool

namespace Block

def isShort (block : Block) (column : Nat) : Bool :=
  block.indent.all fun indent => column < indent

/-- Starts a line of text with a character. Folding turns one break between two lines that do not
start with a blank into a space, and drops it if more breaks follow. -/
def startLine (folded : Bool) (block : Block) (c : Char) : Block :=
  let joined :=
    if folded && block.lineEnd = some '\n' && !block.ledByBlank && !isBlank c then
      if block.breaks.isEmpty then [' '] else block.breaks
    else block.lineEnd.toList ++ block.breaks
  { block with
    text := c :: joined.reverse ++ block.text, lineEnd := none, breaks := [],
    ledByBlank := isBlank c }

def finish (block : Block) (chomping : Chomping) : String :=
  let ending :=
    match chomping with
    | .strip => []
    | .clip => block.lineEnd.toList
    | .keep => block.lineEnd.toList ++ block.breaks
  String.ofList (block.text.reverse ++ ending)

/-- The lines of a block scalar; `inLine` says whether a line of text has started. Without an
indicator the indentation is the widest one up to the first text, and at least `floor`. -/
def scan? (folded : Bool) (chomping : Chomping) (floor : Nat) :
    (inLine : Bool) → Block → Place → List Char → Option (String × Cursor)
  | _, block, place, [] => some (block.finish chomping, ⟨place, []⟩)
  | true, block, place, c :: rest =>
    if isBreak c then
      scan? folded chomping floor false { block with lineEnd := some c } (place.after c) rest
    else
      scan? folded chomping floor true { block with text := c :: block.text } (place.after c) rest
  | false, block, place, c :: rest =>
    if c = ' ' && block.isShort place.column then
      scan? folded chomping floor false block (place.after c) rest
    else if c = '\t' && block.isShort place.column then none
    else
      let widest := max block.widest place.column
      if isBreak c then
        scan? folded chomping floor false
          { block with widest := widest, breaks := block.breaks ++ [c] } (place.after c) rest
      else
        let indent := block.indent.getD (max widest floor)
        if place.column = indent then
          let block := { block with indent := some indent }
          scan? folded chomping floor true (block.startLine folded c) (place.after c) rest
        else some (block.finish chomping, ⟨place, c :: rest⟩)

end Block

/-- A block scalar behind its indicator, in a collection at a column if there is one. -/
def scanBlock? (folded : Bool) (parent : Option Nat) (cursor : Cursor) :
    Option (String × Cursor) := do
  let (chomping, increment, rest) ← blockHeader? cursor.rest
  let start ← (cursor.moveTo rest).endLine?
  let indent := increment.map fun increment => parent.getD 0 + increment
  let floor := max 1 (parent.elim 0 (· + 1))
  Block.scan? folded chomping floor false ⟨indent, 0, [], none, [], false⟩ start.place start.rest

end KeyCatalog.Yaml
