import KeyCatalog.Proofs.Literal.Packing
/-!
How wide the packed lines of a text are. The rule that fills a line leaves out the space in front
of the word that it adds, so a line of several words may be one column wider than the limit. The
lines of a text are all within the limit if and only if an indentation of one column more would not
move a break.
-/
namespace KeyCatalog.LiteralStyle

/-- The lines that a text is written on; the space at a break is on neither line. -/
def linesOf (style : LiteralStyle) (indent : Nat) (text : Text) : List Text :=
  pack indent (text.substitute style.quote style.rawDelimiter)

/-- A line of several words is within the limit, with every space between them counted. -/
def KeepsLimit (indent : Nat) (line : Text) : Prop :=
  1 < (line.splitOn ' ').length → indent + line.length ≤ lineLimit

instance (indent : Nat) (line : Text) : Decidable (KeepsLimit indent line) :=
  inferInstanceAs (Decidable (_ → _))

variable {indent : Nat} {text line : Text}

/-- A packed line of several words is at most one column too wide, since only the space in front of
its last word is not counted. -/
theorem length_le_of_mem_pack (hline : line ∈ pack indent text) (hspace : ' ' ∈ line) :
    indent + line.length ≤ lineLimit + 1 := by
  obtain ⟨lines, hlines, hpack⟩ := exists_isPacking_pack indent text
  rw [hpack] at hline
  obtain ⟨words, hwords, rfl⟩ := List.mem_map.mp hline
  obtain ⟨before, last, rfl⟩ :=
    (List.eq_nil_or_concat' words).resolve_left (hlines.ne_nil words hwords)
  by_cases hbefore : before = []
  -- a word alone on its line is a part of the text, so it holds no space
  · subst hbefore
    rw [List.nil_append, lineOf_singleton] at hspace
    have hlast : last ∈ Text.split (· = ' ') text := by
      rw [Text.split_eq_splitOn, ← hlines.flatten_eq]
      exact List.mem_flatten.mpr ⟨_, hwords, List.mem_append_right [] List.mem_cons_self⟩
    have hnot := Text.not_separator_of_mem_split hlast ' ' hspace
    exact absurd rfl (of_decide_eq_false hnot)
  · have hwidth := (fits_append_singleton_iff hbefore).mp (hlines.fits _ hwords)
    rw [lineOf_append_singleton hbefore, List.length_append, List.length_cons]
    omega

/-- Some line starts with what the first line held before it was filled. -/
theorem exists_prefix_mem_fill (indent : Nat) (line : Text) (words : List Text) :
    ∃ filled ∈ fill indent line words, line <+: filled := by
  induction words generalizing line with
  | nil => exact ⟨line, List.mem_singleton_self line, List.prefix_refl line⟩
  | cons word rest ih =>
    rw [fill]
    split
    · exact ⟨line, List.mem_cons_self, List.prefix_refl line⟩
    · obtain ⟨filled, hfilled, hprefix⟩ := ih (line ++ ' ' :: word)
      exact ⟨filled, hfilled, (List.prefix_append line _).trans hprefix⟩

/-- Lines that are within the limit come out the same when one more column is taken up. -/
theorem fill_succ_of_forall_le {words : List Text}
    (h : ∀ filled ∈ fill indent line words, ' ' ∈ filled → indent + filled.length ≤ lineLimit) :
    fill (indent + 1) line words = fill indent line words := by
  induction words generalizing line with
  | nil => rfl
  | cons word rest ih =>
    rw [fill] at h ⊢
    rw [fill]
    by_cases hbreak : lineLimit < indent + line.length + word.length
    · have hsucc : lineLimit < indent + 1 + line.length + word.length := by omega
      rw [if_pos hbreak] at h ⊢
      rw [if_pos hsucc, ih fun filled hfilled => h filled (List.mem_cons_of_mem line hfilled)]
    -- the line that the word goes to holds a space, so it is within the limit as a whole
    · rw [if_neg hbreak] at h ⊢
      obtain ⟨filled, hfilled, hprefix⟩ := exists_prefix_mem_fill indent (line ++ ' ' :: word) rest
      have hspace : ' ' ∈ filled :=
        hprefix.subset (List.mem_append_right line List.mem_cons_self)
      have hwidth := h filled hfilled hspace
      have hlength := hprefix.length_le
      rw [List.length_append, List.length_cons] at hlength
      have hsucc : ¬lineLimit < indent + 1 + line.length + word.length := by omega
      rw [if_neg hsucc, ih h]

/-- If the lines of several words have room left, one column more of indentation breaks no line. -/
theorem pack_succ_of_forall_le
    (h : ∀ line ∈ pack indent text, ' ' ∈ line → indent + line.length ≤ lineLimit) :
    pack (indent + 1) text = pack indent text := by
  rw [pack] at h ⊢
  rw [pack]
  cases hsplit : Text.split (· = ' ') text with
  | nil => rfl
  | cons word rest =>
    rw [hsplit] at h
    exact fill_succ_of_forall_le h

/-- In a style without escapes a text is written as its lines, each between two quotes and all but
the last with a space at the end. A line of several words is at most one column wider than the
limit. All of them are within the limit exactly if the text has the same lines one column further
in. -/
theorem lines_keep_limit_iff {style : LiteralStyle} (hplain : style.quotedEscapes = [])
    (indent : Nat) (text : Text) :
    style.singleLine indent text =
      (style.lineJoint indent).intercalate
        ((literalTexts (style.linesOf indent text)).map
          fun body => style.quote :: body ++ [style.quote]) ∧
    (∀ line ∈ style.linesOf indent text, 1 < (line.splitOn ' ').length →
      indent + line.length ≤ lineLimit + 1) ∧
    ((∀ line ∈ style.linesOf indent text, KeepsLimit indent line) ↔
      style.linesOf (indent + 1) text = style.linesOf indent text) := by
  refine ⟨?_, ?_, ?_, ?_⟩
  · have hquoted : style.quoted = fun body => style.quote :: body ++ [style.quote] := by
      funext body
      rw [quoted, hplain, escape, List.foldl_nil]
    rw [singleLine, joinLines_eq_intercalate, hquoted, linesOf]
  · intro line hline hwords
    exact length_le_of_mem_pack hline (Text.one_lt_length_splitOn_iff.mp hwords)
  · intro hkeeps
    exact pack_succ_of_forall_le fun line hline hspace =>
      hkeeps line hline (Text.one_lt_length_splitOn_iff.mpr hspace)
  -- the lines are those of the wider indentation too, where the column to spare is taken up
  · intro hsame line hline hwords
    rw [← hsame] at hline
    have hwidth : indent + 1 + line.length ≤ lineLimit + 1 :=
      length_le_of_mem_pack hline (Text.one_lt_length_splitOn_iff.mp hwords)
    omega

def plain : LiteralStyle where
  quote := '"'
  rawDelimiter := '\x60'
  concat := ['+']
  quotedEscapes := []
  rawEscapes := []

/-- The first line is as wide as the limit, and the second one starts further left. -/
theorem lines_keep_limit_full :
    plain.quotedEscapes = [] ∧
    plain.linesOf 74 ['a', 'b', 'c', ' ', 'd', 'e', ' ', 'f', 'g'] =
      [['a', 'b', 'c', ' ', 'd', 'e'], ['f', 'g']] ∧
    ∀ line ∈ plain.linesOf 74 ['a', 'b', 'c', ' ', 'd', 'e', ' ', 'f', 'g'], KeepsLimit 74 line :=
  ⟨rfl, by decide +kernel, (lines_keep_limit_iff rfl 74 _).2.2.mpr (by decide +kernel)⟩

/-- Two words that fill the limit without the space between them stay on one line, which is one
column too wide. -/
theorem full_words_exceed_limit :
    plain.quotedEscapes = [] ∧
    plain.singleLine 24 (List.replicate 28 'x' ++ ' ' :: List.replicate 28 'y') =
      '"' :: List.replicate 28 'x' ++ ' ' :: List.replicate 28 'y' ++ ['"'] ∧
    List.replicate 28 'x' ++ ' ' :: List.replicate 28 'y' ∈
      plain.linesOf 24 (List.replicate 28 'x' ++ ' ' :: List.replicate 28 'y') ∧
    ¬KeepsLimit 24 (List.replicate 28 'x' ++ ' ' :: List.replicate 28 'y') := by
  decide +kernel

end KeyCatalog.LiteralStyle
