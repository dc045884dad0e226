/-!
Characters and places of a YAML text. Every spelling of a line end but the two Unicode separators
is one line feed before scanning starts, so a scanner moves on by single characters and a line
break is always one character.
-/
namespace KeyCatalog.Yaml

/-- The characters that a YAML text may hold. -/
def isAllowed (c : Char) : Bool :=
  c = '\t' || c = '\n' || c = '\r' || (' ' ≤ c && c ≤ '~') || c = '\u0085' ||
    ('\u00a0' ≤ c && c ≤ '\ufffd') || 0x10000 ≤ c.toNat

/-- Writes carriage returns, with or without a line feed after them, and next-line characters as
line feeds. -/
def joinLineEnds : List Char → List Char
  | [] => []
  | '\r' :: '\n' :: rest => '\n' :: joinLineEnds rest
  | c :: rest => (if c = '\r' || c = '\u0085' then '\n' else c) :: joinLineEnds rest

def isBreak (c : Char) : Bool :=
  c = '\n' || c = '\u2028' || c = '\u2029'

def isBlank (c : Char) : Bool :=
  c = ' ' || c = '\t'

def isSpace (c : Char) : Bool :=
  isBlank c || isBreak c

/-- The characters of anchors, tag handles and directive names. -/
def isWordChar (c : Char) : Bool :=
  c.isAlphanum || c = '_' || c = '-'

def spaceFollows (rest : List Char) : Bool :=
  rest.head?.all isSpace

def follows (chars : List Char) (rest : List Char) : Bool :=
  rest.head?.any chars.contains

/-- A line, a column, and the number of bytes in front of it on its line, all counted from zero.
Indentation is measured in columns and the length of a key in bytes. -/
structure Place where
  line : Nat
  column : Nat
  bytes : Nat
deriving DecidableEq, Repr

def Place.after (place : Place) (c : Char) : Place :=
  if isBreak c then ⟨place.line + 1, 0, 0⟩
  else ⟨place.line, place.column + 1, place.bytes + c.utf8Size⟩

structure Cursor where
  place : Place
  rest : List Char
deriving Repr

namespace Cursor

def moveTo (cursor : Cursor) (rest : List Char) : Cursor :=
  ⟨(cursor.rest.take (cursor.rest.length - rest.length)).foldl Place.after cursor.place, rest⟩

def skip (cursor : Cursor) (count : Nat) : Cursor :=
  cursor.moveTo (cursor.rest.drop count)

def skipBlanks (cursor : Cursor) : Cursor :=
  cursor.moveTo (cursor.rest.dropWhile isBlank)

/-- Moves past blanks, a comment and the line break; nothing else may stand on the line. -/
def endLine? (cursor : Cursor) : Option Cursor :=
  let blanks := cursor.skipBlanks
  let comment :=
    if follows ['#'] blanks.rest then
      blanks.moveTo (blanks.rest.dropWhile fun c => !isBreak c)
    else blanks
  match comment.rest with
  | [] => some comment
  | c :: rest => if isBreak c then some ⟨comment.place.after c, rest⟩ else none

/-- A line starts here with three copies of a character, followed by white space. -/
def startsMarker (mark : Char) (cursor : Cursor) : Bool :=
  cursor.place.column = 0 && [mark, mark, mark].isPrefixOf cursor.rest &&
    spaceFollows (cursor.rest.drop 3)

def atMarker (cursor : Cursor) : Bool :=
  cursor.startsMarker '-' || cursor.startsMarker '.'

end Cursor
end KeyCatalog.Yaml
