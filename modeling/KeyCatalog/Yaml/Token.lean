/-!
The tokens of a YAML text. Block collections have explicit start and end tokens, found from the
indentation; the end of the token list is the end of the text.
-/
namespace KeyCatalog.Yaml

/-- A tag or a part of one, as the bytes that its escapes stand for. -/
abbrev Tag := List UInt8

def Tag.ofText (text : List Char) : Tag :=
  text.flatMap String.utf8EncodeChar

/-- A tag, or a part of one, up to its first zero byte, which ends it. -/
def Tag.cut (tag : Tag) : Tag :=
  tag.takeWhile (· ≠ 0)

/-- A token; a scalar knows whether it was written plain. -/
inductive Token where
  | versionDirective (major minor : Nat)
  | tagDirective (handle : String) (start : Tag)
  | documentStart
  | documentEnd
  | blockSequenceStart
  | blockMappingStart
  | blockEnd
  | flowSequenceStart
  | flowSequenceEnd
  | flowMappingStart
  | flowMappingEnd
  | blockEntry
  | flowEntry
  | key
  | value
  | alias (name : String)
  | anchor (name : String)
  | tag (handle : String) (rest : Tag)
  | scalar (text : String) (plain : Bool)
deriving DecidableEq, Repr

end KeyCatalog.Yaml
