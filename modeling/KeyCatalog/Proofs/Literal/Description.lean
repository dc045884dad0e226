import KeyCatalog.Proofs.Literal.MultiLine
import KeyCatalog.Proofs.Literal.SingleLine
/-!
Descriptions of either form. A literal denotes the normal form of its description, and only the
normal form decides what the literal looks like, so a literal and a normal form determine each
other in both languages.
-/
namespace KeyCatalog.LiteralStyle
open Source

/-- The text that the literal of a description denotes. -/
def normalText (text : Text) : Text :=
  if '\n' ∈ text then ['\n'].intercalate (rawLines text) else text.substitute '"' '\x60'

def rawLiteral? (language : Language) (text : Text) : Option (Text × Text) :=
  match language with
  | .go => raw? text
  | .typeScript =>
    match template? text with
    | none => none
    | some (body, after) => (unescape? templateMeanings body).map fun value => (value, after)

/-- Reads the literal of a description: an expression of quoted literals, or else a raw literal. -/
def description? (language : Language) (indent : Nat) (text : Text) : Option (Text × Text) :=
  match expression? indent text with
  | none => rawLiteral? language text
  | some (bodies, after) =>
    (bodies.mapM (unescape? quotedMeanings)).map fun parts => (parts.flatten, after)

/-- A raw literal is read to its own end, whatever follows. -/
theorem rawLiteral?_multiLine (language : Language) (text rest : Text) :
    rawLiteral? language (language.style.multiLine text ++ rest) = some (rawValue text, rest) := by
  cases language with
  | go => exact raw?_multiLine text rest
  | typeScript =>
    have hread := template?_multiLine text rest
    have hvalue := (writes_template (delimiter_not_mem_rawValue text)).unescape?_eq
    simp only [rawLiteral?, Language.style, hread, hvalue, Option.map_some]

/-- A raw literal is no expression of quoted ones, so the two kinds are not taken for each other. -/
theorem expression?_multiLine (language : Language) (indent : Nat) (text rest : Text) :
    expression? indent (language.style.multiLine text ++ rest) = none := by
  -- a raw literal does not start with a quote
  have hnone : quoted? (language.style.multiLine text ++ rest) = none := by
    cases language <;> rfl
  rw [expression?]
  split
  · rfl
  · next hsome => cases hnone.symm.trans hsome

/-- The literal of a description is read as its normal form, up to a text that is no joint. -/
theorem description?_description (language : Language) (indent : Nat) (text : Text) {rest : Text}
    (hrest : rest.dropPrefix? (joint indent) = none) :
    description? language indent (language.style.description indent text ++ rest) =
      some (normalText text, rest) := by
  by_cases hfeed : '\n' ∈ text
  · rw [description, if_pos hfeed, normalText, if_pos hfeed, intercalate_rawLines, description?,
      expression?_multiLine, rawLiteral?_multiLine]
  · obtain ⟨parts, hread, hparts⟩ := expression?_singleLine language indent text hrest
    rw [description, if_neg hfeed, normalText, if_neg hfeed, description?, hread]
    simp only [mapM_unescape?_escape, Option.map_some, hparts]

/-- Only the normal form of a description decides its literal. -/
theorem description_normalText (language : Language) (indent : Nat) (text : Text) :
    language.style.description indent (normalText text) =
      language.style.description indent text := by
  by_cases hfeed : '\n' ∈ text
  -- the form of the literal stays the same, since the normal form has a feed where the text has one
  · have hraw : '\n' ∈ rawValue text :=
      Text.mem_substitute (feed_mem_normalizeLineEndings hfeed) (by decide) '"'
    rw [normalText, if_pos hfeed, intercalate_rawLines, description, if_pos hraw, description,
      if_pos hfeed, multiLine_eq_raw, multiLine_eq_raw, rawValue_rawValue]
  · have hline : '\n' ∉ text.substitute '"' '\x60' :=
      fun hmem => hfeed (Text.mem_of_mem_substitute hmem (by decide))
    have hquote : '"' ∉ text.substitute '"' '\x60' := Text.not_mem_substitute text (by decide)
    have hsame := Text.substitute_of_not_mem hquote '\x60'
    rw [normalText, if_neg hfeed, description, if_neg hline, description, if_neg hfeed, singleLine,
      singleLine, language.style_quote, language.style_rawDelimiter, hsame]

end KeyCatalog.LiteralStyle
