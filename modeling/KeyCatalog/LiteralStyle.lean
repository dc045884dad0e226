import KeyCatalog.Text
/-!
String literals of generated code. A language has quoted literals, which stay on one line, and raw
literals, which may span lines. A text on one line is packed into quoted literals joined by an
operator; a text with line feeds is one raw literal. Each delimiter inside a text of its own kind
is exchanged for the other one, so no literal ends early.
-/
namespace KeyCatalog

/-- How a language writes string literals. Escapes are replacements, made one after the other. -/
structure LiteralStyle where
  quote : Char
  rawDelimiter : Char
  concat : Text
  quotedEscapes : List (Text × Text)
  rawEscapes : List (Text × Text)
deriving DecidableEq, Repr

namespace LiteralStyle

/-- The widest a line may get, counting its indentation and the words on it. -/
def lineLimit : Nat := 80

/-- Makes replacements one after the other, each one on the outcome of those before it. -/
def escape (escapes : List (Text × Text)) (text : Text) : Text :=
  escapes.foldl (fun text (pattern, replacement) => text.replace pattern replacement) text

def quoted (style : LiteralStyle) (body : Text) : Text :=
  style.quote :: escape style.quotedEscapes body ++ [style.quote]

def raw (style : LiteralStyle) (body : Text) : Text :=
  style.rawDelimiter :: escape style.rawEscapes body ++ [style.rawDelimiter]

/-- Puts words on lines, behind the line that is being filled. A word that would make the line too
wide starts the next one; a word alone on its line may be of any width. -/
def fill (indent : Nat) : (line : Text) → (words : List Text) → List Text
  | line, [] => [line]
  | line, word :: rest =>
    if lineLimit < indent + line.length + word.length then line :: fill indent word rest
    else fill indent (line ++ ' ' :: word) rest

/-- The lines of a text, which breaks only at spaces. The space at a break is on neither line. -/
def pack (indent : Nat) (text : Text) : List Text :=
  match Text.split (· = ' ') text with
  | [] => []
  | word :: rest => fill indent word rest

/-- Quoted literals of lines, joined by the operator. Every line but the last gets back the space
at its end, so the literals together denote the text. -/
def joinLines (style : LiteralStyle) (indent : Nat) : List Text → Text
  | [] => []
  | [line] => style.quoted line
  | line :: rest =>
    style.quoted (line ++ [' ']) ++ style.concat ++ '\n' :: List.replicate indent ' ' ++
      style.joinLines indent rest

/-- A text as quoted literals, with raw delimiters for its quotes. -/
def singleLine (style : LiteralStyle) (indent : Nat) (text : Text) : Text :=
  style.joinLines indent (pack indent (text.substitute style.quote style.rawDelimiter))

def normalizeLineEndings (text : Text) : Text :=
  (text.replace ['\r', '\n'] ['\n']).substitute '\r' '\n'

/-- A text as a raw literal, with quotes for its raw delimiters. -/
def multiLine (style : LiteralStyle) (text : Text) : Text :=
  style.raw ((normalizeLineEndings text).substitute style.rawDelimiter style.quote)

/-- A description as a literal: a line feed asks for a raw one. -/
def description (style : LiteralStyle) (indent : Nat) (text : Text) : Text :=
  if '\n' ∈ text then style.multiLine text else style.singleLine indent text

end LiteralStyle
end KeyCatalog
