import KeyCatalog.Proofs.Literal.Escape
/-!
Texts on one line. Packing breaks a text at some of its spaces, and each break takes one space off
the text; joining puts that space back at the end of the literal before the break. So the literals
together denote the text, wherever the breaks are.
-/
namespace KeyCatalog.LiteralStyle
open Source

theorem fill_ne_nil (indent : Nat) (line : Text) (words : List Text) :
    fill indent line words ≠ [] := by
  induction words generalizing line with
  | nil => exact List.cons_ne_nil line []
  | cons word rest ih =>
    rw [fill]
    split
    · exact List.cons_ne_nil line _
    · exact ih _

/-- Filling lines moves the words and keeps their text. -/
theorem intercalate_fill (indent : Nat) (line : Text) (words : List Text) :
    [' '].intercalate (fill indent line words) = [' '].intercalate (line :: words) := by
  induction words generalizing line with
  | nil => rfl
  | cons word rest ih =>
    rw [fill]
    split
    -- a break takes the place of one space
    · rw [List.intercalate_cons_of_ne_nil (fill_ne_nil indent word rest), ih,
        List.intercalate_cons_cons]
    -- without a break the word goes behind a space on the same line
    · rw [ih]
      cases rest with
      | nil =>
        simp only [List.intercalate_cons_cons, List.intercalate_singleton, List.append_assoc,
          List.singleton_append]
      | cons next rest =>
        simp only [List.intercalate_cons_cons, List.append_assoc, List.cons_append,
          List.nil_append]

theorem pack_ne_nil (indent : Nat) (text : Text) : pack indent text ≠ [] := by
  rw [pack]
  split
  · next hsplit => exact absurd hsplit (Text.split_ne_nil _ text)
  · exact fill_ne_nil indent _ _

/-- The packed lines with a space between any two of them are the text. -/
theorem intercalate_pack (indent : Nat) (text : Text) :
    [' '].intercalate (pack indent text) = text := by
  have hjoin : [' '].intercalate (text.splitOn ' ') = text := List.intercalate_splitOn ' '
  rw [pack]
  split
  · next hsplit => exact absurd hsplit (Text.split_ne_nil _ text)
  · next word rest hsplit =>
    rw [intercalate_fill, ← hsplit, Text.split_eq_splitOn, hjoin]

/-- The texts of the literals for some lines: all lines but the last get a space at the end. -/
def literalTexts : List Text → List Text
  | [] => []
  | [line] => [line]
  | line :: rest => (line ++ [' ']) :: literalTexts rest

/-- The literals together have the spaces that the line breaks took. -/
theorem flatten_literalTexts (lines : List Text) :
    (literalTexts lines).flatten = [' '].intercalate lines := by
  fun_induction literalTexts lines with
  | case1 => rfl
  | case2 line => rw [List.flatten_singleton, List.intercalate_singleton]
  | case3 line rest hrest ih =>
    rw [List.flatten_cons, ih, List.intercalate_cons_of_ne_nil hrest]

theorem quoted_eq (language : Language) (text : Text) :
    language.style.quoted text = '"' :: (escape language.style.quotedEscapes text ++ ['"']) := by
  rw [quoted, language.style_quote, List.cons_append]

/-- A quoted literal is read to its own closing quote, whatever follows. -/
theorem quoted?_quoted (language : Language) (text rest : Text) :
    quoted? (language.style.quoted text ++ rest) =
      some (escape language.style.quotedEscapes text, rest) := by
  have hread := (writes_quoted language text).close?_eq (by decide) rest
  rw [quoted_eq, List.cons_append, quoted?, if_pos rfl, List.append_assoc]
  exact hread

/-- Joined literals are read as one expression if no further joint follows. -/
theorem expression?_joinLines (language : Language) (indent : Nat) {lines : List Text}
    (hlines : lines ≠ []) {rest : Text} (hrest : rest.dropPrefix? (joint indent) = none) :
    expression? indent (language.style.joinLines indent lines ++ rest) =
      some ((literalTexts lines).map (escape language.style.quotedEscapes), rest) := by
  fun_induction literalTexts lines with
  | case1 => exact absurd rfl hlines
  | case2 line => exact expression?_last (quoted?_quoted language line rest) hrest
  | case3 line others hothers ih =>
    -- the joint behind the first literal makes the reader go on with the others
    have hsplit : language.style.joinLines indent (line :: others) ++ rest =
        language.style.quoted (line ++ [' ']) ++
          (joint indent ++ (language.style.joinLines indent others ++ rest)) := by
      rw [joinLines, language.style_concat, joint]
      · simp only [List.append_assoc, List.cons_append, List.nil_append]
      · exact hothers
    have hbody := quoted?_quoted language (line ++ [' '])
      (joint indent ++ (language.style.joinLines indent others ++ rest))
    rw [hsplit, expression?_joint hbody, ih hothers]
    rfl

/-- A text on one line is read as literals that together denote the text with its quotes
exchanged, up to whatever follows. -/
theorem expression?_singleLine (language : Language) (indent : Nat) (text : Text) {rest : Text}
    (hrest : rest.dropPrefix? (joint indent) = none) :
    ∃ parts : List Text,
      expression? indent (language.style.singleLine indent text ++ rest) =
        some (parts.map (escape language.style.quotedEscapes), rest) ∧
      parts.flatten = text.substitute '"' '\x60' := by
  refine ⟨literalTexts (pack indent (text.substitute '"' '\x60')), ?_, ?_⟩
  · rw [singleLine, language.style_quote, language.style_rawDelimiter]
    exact expression?_joinLines language indent (pack_ne_nil indent _) hrest
  · rw [flatten_literalTexts, intercalate_pack]

/-- Literals are unescaped to the texts that they are written for. -/
theorem mapM_unescape?_escape (language : Language) (parts : List Text) :
    (parts.map (escape language.style.quotedEscapes)).mapM (unescape? quotedMeanings) =
      some parts := by
  induction parts with
  | nil => rfl
  | cons part parts ih =>
    rw [List.map_cons, List.mapM_cons, (writes_quoted language part).unescape?_eq, ih]
    rfl

/-- A text without a line feed is denoted with backquotes for its quotes. -/
theorem denotes_singleLine (language : Language) (indent : Nat) {text : Text}
    (htext : '\n' ∉ text) :
    Denotes indent (language.style.singleLine indent text) (text.substitute '"' '\x60') := by
  have hend : List.dropPrefix? [] (joint indent) = none := rfl
  obtain ⟨parts, hread, hparts⟩ := expression?_singleLine language indent text hend
  rw [List.append_nil] at hread
  -- a line feed in a part would be one of the text
  have hfeed : ∀ part ∈ parts, '\n' ∉ part := by
    intro part hpart hmem
    have hflat : '\n' ∈ parts.flatten := List.mem_flatten.mpr ⟨part, hpart, hmem⟩
    rw [hparts] at hflat
    exact htext (Text.mem_of_mem_substitute hflat (by decide))
  refine ⟨_, hread, ?_, ?_⟩
  · intro body hbody
    obtain ⟨part, hpart, rfl⟩ := List.mem_map.mp hbody
    refine ⟨fun h => ?_, fun h => ?_, (writes_quoted language part).not_unescaped (by decide)⟩
    · exact absurd (lineBreak_of_mem_quoted language h (Or.inl rfl)).1 (by decide)
    · exact hfeed part hpart (lineBreak_of_mem_quoted language h (Or.inr rfl)).2
  · rw [mapM_unescape?_escape, Option.map_some, hparts]

/-- A description on one line is written, in both languages, as an expression that denotes the
description with every quote exchanged for a raw delimiter. -/
theorem description_denotes_line (indent : Nat) {text : Text} (htext : '\n' ∉ text) :
    (∀ language : Language,
      language.style.description indent text = language.style.singleLine indent text ∧
      Denotes indent (language.style.description indent text) (text.substitute '"' '\x60')) ∧
    value? indent (Language.go.style.description indent text) =
      value? indent (Language.typeScript.style.description indent text) := by
  have hline (language : Language) :
      language.style.description indent text = language.style.singleLine indent text :=
    if_neg htext
  have hdenotes (language : Language) :
      Denotes indent (language.style.description indent text) (text.substitute '"' '\x60') := by
    rw [hline language]
    exact denotes_singleLine language indent htext
  refine ⟨fun language => ⟨hline language, hdenotes language⟩, ?_⟩
  rw [(hdenotes .go).value?_eq, (hdenotes .typeScript).value?_eq]

/-- Two breaks, one of them behind a backslash and one between two spaces. -/
theorem description_denotes_broken_line :
    '\n' ∉ ['"', 'a', '"', '\\', ' ', 'b', '\r', ' ', ' ', 'é'] ∧
    (∀ language : Language,
      language.style.description 79 ['"', 'a', '"', '\\', ' ', 'b', '\r', ' ', ' ', 'é'] =
        language.style.singleLine 79 ['"', 'a', '"', '\\', ' ', 'b', '\r', ' ', ' ', 'é'] ∧
      Denotes 79
        (language.style.description 79 ['"', 'a', '"', '\\', ' ', 'b', '\r', ' ', ' ', 'é'])
        ['\x60', 'a', '\x60', '\\', ' ', 'b', '\r', ' ', ' ', 'é']) ∧
    value? 79
        (Language.go.style.description 79
          ['"', 'a', '"', '\\', ' ', 'b', '\r', ' ', ' ', 'é']) =
      value? 79
        (Language.typeScript.style.description 79
          ['"', 'a', '"', '\\', ' ', 'b', '\r', ' ', ' ', 'é']) :=
  ⟨by decide, description_denotes_line 79 (by decide)⟩

end KeyCatalog.LiteralStyle
