import KeyCatalog.Yaml.Cursor
import KeyCatalog.Yaml.Token
/-!
Scanning of node properties and directives: anchors and aliases, tags, and the `%` lines in front
of a document. All of them lie within one line.
-/
namespace KeyCatalog.Yaml

def hexDigit? (c : Char) : Option Nat :=
  if '0' ≤ c && c ≤ '9' then some (c.toNat - '0'.toNat)
  else if 'a' ≤ c && c ≤ 'f' then some (c.toNat - 'a'.toNat + 10)
  else if 'A' ≤ c && c ≤ 'F' then some (c.toNat - 'A'.toNat + 10)
  else none

/-- An anchor or alias name behind its indicator: at least one character, with white space or
certain punctuation behind it. -/
def scanName? (cursor : Cursor) : Option (String × Cursor) :=
  let name := cursor.rest.takeWhile isWordChar
  let rest := cursor.rest.dropWhile isWordChar
  if name.isEmpty then none
  else if spaceFollows rest || follows ['?', ':', ',', ']', '}', '%', '@', '\x60'] rest then
    some (String.ofList name, cursor.moveTo rest)
  else none

/-- A tag handle: `!`, or word characters between two of them. -/
def scanHandle? : List Char → Option (List Char × List Char)
  | '!' :: rest =>
    let word := rest.takeWhile isWordChar
    match rest.dropWhile isWordChar with
    | '!' :: rest => some ('!' :: word ++ ['!'], rest)
    | rest => some ('!' :: word, rest)
  | _ => none

/-- The characters of a tag; flow punctuation is allowed only where nothing else could end it. -/
def isTagChar (flow : Bool) (c : Char) : Bool :=
  isWordChar c || ";/?:@&=+$.%!~*'()".toList.contains c || (flow && ",[]".toList.contains c)

def leadingWidth? (byte : Nat) : Option Nat :=
  if byte < 0x80 then some 1
  else if byte / 0x20 = 6 then some 2
  else if byte / 0x10 = 14 then some 3
  else if byte / 0x08 = 30 then some 4
  else none

/-- The text of a tag, with escaped bytes decoded; `pending` counts the bytes that must still
follow within an escaped character. -/
def scanTagText? (flow : Bool) : (pending : Nat) → List Char → Option (Tag × List Char)
  | pending, '%' :: high :: low :: rest => do
    let byte := (← hexDigit? high) * 16 + (← hexDigit? low)
    let pending ← match pending with
      | 0 => (leadingWidth? byte).map (· - 1)
      | pending + 1 => if byte / 0x40 = 2 then some pending else none
    let (tag, rest) ← scanTagText? flow pending rest
    some (UInt8.ofNat byte :: tag, rest)
  | 0, c :: rest =>
    if c = '%' then none
    else if isTagChar flow c then do
      let (tag, rest) ← scanTagText? flow 0 rest
      some (String.utf8EncodeChar c ++ tag, rest)
    else some ([], c :: rest)
  | 0, [] => some ([], [])
  | _ + 1, _ => none

/-- The handle and the remainder of a tag. The handle is empty for a verbatim tag and for a bare
exclamation mark. -/
def splitTag? : List Char → Option (List Char × Tag × List Char)
  | '!' :: '<' :: rest => do
    let (tag, rest) ← scanTagText? true 0 rest
    match tag, rest with
    | _ :: _, '>' :: rest => some ([], tag.cut, rest)
    | _, _ => none
  | text => do
    let (handle, rest) ← scanHandle? text
    let (tag, rest) ← scanTagText? false 0 rest
    if 1 < handle.length && handle.getLast? = some '!' then
      if tag.isEmpty then none else some (handle, tag.cut, rest)
    else
      match (Tag.ofText (handle.drop 1) ++ tag).cut with
      | [] => some ([], Tag.ofText ['!'], rest)
      | tag => some (['!'], tag, rest)

/-- A tag, which ends before white space or, in a flow collection, before a comma. -/
def scanTag? (inFlow : Bool) (cursor : Cursor) : Option (Token × Cursor) := do
  let (handle, tag, rest) ← splitTag? cursor.rest
  if spaceFollows rest || (inFlow && follows [','] rest) then
    some (.tag (String.ofList handle) tag, cursor.moveTo rest)
  else none

def scanVersionNumber? (text : List Char) : Option (Nat × List Char) :=
  let digits := text.takeWhile Char.isDigit
  if digits.isEmpty || 9 < digits.length then none
  else some (Nat.ofDigitChars 10 digits 0, text.dropWhile Char.isDigit)

def scanVersion? (text : List Char) : Option (Token × List Char) := do
  let (major, rest) ← scanVersionNumber? (text.dropWhile isBlank)
  match rest with
  | '.' :: rest =>
    let (minor, rest) ← scanVersionNumber? rest
    some (.versionDirective major minor, rest)
  | _ => none

def scanTagDirective? (text : List Char) : Option (Token × List Char) := do
  let (handle, rest) ← scanHandle? (text.dropWhile isBlank)
  if handle.getLast? ≠ some '!' || !follows [' ', '\t'] rest then none
  else
    let (start, rest) ← scanTagText? true 0 (rest.dropWhile isBlank)
    if start.isEmpty || !spaceFollows rest then none
    else some (.tagDirective (String.ofList handle) start.cut, rest)

def scanDirective? (cursor : Cursor) : Option (Token × Cursor) := do
  let name := cursor.rest.takeWhile isWordChar
  let rest := cursor.rest.dropWhile isWordChar
  if !spaceFollows rest then none
  else
    let (token, rest) ←
      if name = ['Y', 'A', 'M', 'L'] then scanVersion? rest
      else if name = ['T', 'A', 'G'] then scanTagDirective? rest
      else none
    some (token, ← (cursor.moveTo rest).endLine?)

end KeyCatalog.Yaml
