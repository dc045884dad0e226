import KeyCatalog.Proofs.Literal.Escape
/-!
Texts with line feeds. A raw literal keeps the lines of its text: every line ending becomes one
line feed, whichever way it was written, and every raw delimiter becomes a quote. What Go takes
literally and what a template gives once its escapes are read are the same text.
-/
namespace KeyCatalog

/-- The lines of a text. A carriage return with a line feed behind it is one line ending, and so
is either of them alone. -/
def Text.lines : Text → List Text
  | [] => [[]]
  | '\r' :: '\n' :: rest => [] :: lines rest
  | c :: rest =>
    if c = '\r' ∨ c = '\n' then [] :: lines rest else (lines rest).modifyHead (c :: ·)

namespace LiteralStyle
open Source

/-- The lines that a raw literal keeps, with quotes for the raw delimiters. -/
def rawLines (text : Text) : List Text :=
  text.lines.map (·.substitute '\x60' '"')

theorem normalizeLineEndings_pair (rest : Text) :
    normalizeLineEndings ('\r' :: '\n' :: rest) = '\n' :: normalizeLineEndings rest := by
  have hpair : Text.replace (['\r', '\n'] ++ rest) ['\r', '\n'] ['\n'] =
      ['\n'] ++ Text.replace rest ['\r', '\n'] ['\n'] :=
    Text.replace_append (List.cons_ne_nil _ _) ['\n'] rest
  rw [List.cons_append, List.singleton_append] at hpair
  rw [normalizeLineEndings, hpair]
  rfl

theorem normalizeLineEndings_cons {c : Char} {rest : Text}
    (hpair : ∀ others, c = '\r' → rest = '\n' :: others → False) :
    normalizeLineEndings (c :: rest) =
      (if c = '\r' then '\n' else c) :: normalizeLineEndings rest := by
  have hno : ¬['\r', '\n'] <+: c :: rest := by
    rw [List.cons_prefix_cons]
    rintro ⟨hc, others, hrest⟩
    exact hpair others hc.symm hrest.symm
  rw [normalizeLineEndings, Text.replace_cons (List.cons_ne_nil _ _) ['\n'] hno]
  rfl

/-- Line ends are made alike without changing the lines. -/
theorem splitOn_normalizeLineEndings (text : Text) :
    (normalizeLineEndings text).splitOn '\n' = text.lines := by
  fun_induction Text.lines text with
  | case1 => rfl
  | case2 rest ih =>
    rw [normalizeLineEndings_pair, List.splitOn_cons_eq_if_modifyHead, if_pos (beq_self_eq_true _),
      ih]
  | case3 c rest hpair hbreak ih =>
    -- a line ending of one character, which the substitution makes a line feed
    have hfeed : (if c = '\r' then '\n' else c) = '\n' := by
      rcases hbreak with rfl | rfl <;> rfl
    rw [normalizeLineEndings_cons hpair, hfeed, List.splitOn_cons_eq_if_modifyHead,
      if_pos (beq_self_eq_true _), ih]
  | case4 c rest hpair hbreak ih =>
    have hne := not_or.mp hbreak
    rw [normalizeLineEndings_cons hpair, if_neg hne.1, List.splitOn_cons_eq_if_modifyHead,
      if_neg (mt beq_iff_eq.mp hne.2), ih]

theorem feed_mem_normalizeLineEndings {text : Text} (hfeed : '\n' ∈ text) :
    '\n' ∈ normalizeLineEndings text := by
  fun_induction Text.lines text with
  | case1 => cases hfeed
  -- a carriage return with a line feed, then either of them alone
  | case2 rest ih =>
    rw [normalizeLineEndings_pair]
    exact List.mem_cons_self
  | case3 c rest hpair hbreak ih =>
    rw [normalizeLineEndings_cons hpair]
    rcases hbreak with rfl | rfl <;> exact List.mem_cons_self
  | case4 c rest hpair hbreak ih =>
    have hne := not_or.mp hbreak
    rw [normalizeLineEndings_cons hpair]
    exact List.mem_cons_of_mem _ (ih ((List.mem_cons.mp hfeed).resolve_left (Ne.symm hne.2)))

theorem normalizeLineEndings_of_not_mem {text : Text} (hreturn : '\r' ∉ text) :
    normalizeLineEndings text = text := by
  induction text with
  | nil => rfl
  | cons c rest ih =>
    have hc : c ≠ '\r' := fun h => hreturn (h ▸ List.mem_cons_self)
    have hrest := ih fun hmem => hreturn (List.mem_cons_of_mem c hmem)
    rw [normalizeLineEndings_cons fun _ h _ => hc h, if_neg hc, hrest]

/-- What a raw literal holds, before its escapes are made. -/
def rawValue (text : Text) : Text :=
  (normalizeLineEndings text).substitute '\x60' '"'

/-- A raw literal has the lines of the text, one by one. -/
theorem splitOn_rawValue (text : Text) : (rawValue text).splitOn '\n' = rawLines text := by
  rw [rawValue, Text.splitOn_substitute (by decide) (by decide), splitOn_normalizeLineEndings,
    rawLines]

theorem intercalate_rawLines (text : Text) : ['\n'].intercalate (rawLines text) = rawValue text := by
  rw [← splitOn_rawValue, List.intercalate_splitOn]

/-- No delimiter is left in a raw literal, so it ends where it should. -/
theorem delimiter_not_mem_rawValue (text : Text) : '\x60' ∉ rawValue text :=
  Text.not_mem_substitute _ (by decide)

theorem return_not_mem_rawValue (text : Text) : '\r' ∉ rawValue text := by
  intro hmem
  have hnormal := Text.mem_of_mem_substitute hmem (by decide)
  exact Text.not_mem_substitute _ (by decide) hnormal

/-- A text that is kept by a raw literal is kept once more. -/
theorem rawValue_rawValue (text : Text) : rawValue (rawValue text) = rawValue text := by
  have hnormal := normalizeLineEndings_of_not_mem (return_not_mem_rawValue text)
  rw [rawValue, hnormal, Text.substitute_of_not_mem (delimiter_not_mem_rawValue text)]

theorem multiLine_eq_raw (language : Language) (text : Text) :
    language.style.multiLine text = language.style.raw (rawValue text) := by
  cases language <;> rfl

/-- In Go a raw literal is closed by its own delimiter. -/
theorem raw?_multiLine (text rest : Text) :
    raw? (Listing.Go.style.multiLine text ++ rest) = some (rawValue text, rest) := by
  have hread := closeRaw?_append (delimiter_not_mem_rawValue text) rest
  have hwritten : Listing.Go.style.multiLine text ++ rest =
      '\x60' :: (rawValue text ++ '\x60' :: rest) := by
    rw [multiLine, raw, List.append_assoc, List.cons_append]
    rfl
  rw [hwritten, raw?, if_pos rfl, hread]

/-- In TypeScript the same holds of the escaped template. -/
theorem template?_multiLine (text rest : Text) :
    template? (Listing.TypeScript.style.multiLine text ++ rest) =
      some (templateBody (rawValue text), rest) := by
  have hread := (writes_template (delimiter_not_mem_rawValue text)).close?_eq (by decide) rest
  have hwritten : Listing.TypeScript.style.multiLine text ++ rest =
      '\x60' :: (templateBody (rawValue text) ++ '\x60' :: rest) := by
    rw [multiLine, raw, escape_rawEscapes_typeScript, List.append_assoc, List.cons_append]
    rfl
  rw [hwritten, template?, if_pos rfl, hread]

/-- A text written as a raw literal is one literal in either language, and both literals denote the
same lines: those of the text, with quotes for raw delimiters. -/
theorem multiLine_denotes_lines (text : Text) :
    ∃ goBody templateBody : Text,
      raw? (Language.go.style.multiLine text) = some (goBody, []) ∧
      '\x60' ∉ goBody ∧ '\r' ∉ goBody ∧
      template? (Language.typeScript.style.multiLine text) = some (templateBody, []) ∧
      ¬Unescaped ['\x60'] templateBody ∧ ¬Unescaped ['$', '\x7b'] templateBody ∧
      '\r' ∉ templateBody ∧
      unescape? templateMeanings templateBody = some goBody ∧
      goBody = ['\n'].intercalate (rawLines text) ∧ goBody.splitOn '\n' = rawLines text ∧
      ∀ (language : Language) (indent : Nat), '\n' ∈ text →
        language.style.description indent text = language.style.multiLine text := by
  have hgo := raw?_multiLine text []
  have htemplate := template?_multiLine text []
  rw [List.append_nil] at hgo htemplate
  have hwrites := writes_template (delimiter_not_mem_rawValue text)
  refine ⟨rawValue text, templateBody (rawValue text), hgo, delimiter_not_mem_rawValue text,
    return_not_mem_rawValue text, htemplate, hwrites.not_unescaped (by decide),
    not_unescaped_open _, ?_, hwrites.unescape?_eq, (intercalate_rawLines text).symm,
    splitOn_rawValue text, fun language indent hfeed => if_pos hfeed⟩
  -- escapes bring in backslashes only
  intro hmem
  exact return_not_mem_rawValue text ((mem_templateBody hmem).resolve_left (by decide))

end LiteralStyle
end KeyCatalog
