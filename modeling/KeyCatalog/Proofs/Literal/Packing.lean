import KeyCatalog.Proofs.Literal.SingleLine
import Mathlib.Data.List.Induction
/-!
How few lines a text is packed into. A line takes words as long as they fit, where the space in
front of the last word is not counted. Any other cut of the words into lines of words that fit has
at least as many lines: what it puts on its first line, the line being filled takes at once, and
where it starts its next line, going on with the line being filled is never worse by more than the
one line that the cut starts.
-/
namespace KeyCatalog.LiteralStyle

def lineOf (words : List Text) : Text :=
  [' '].intercalate words

/-- The words before the last one and the last one fit behind the indentation. The space between
them does not count, and a word alone on its line may be of any width. -/
def Fits (indent : Nat) (words : List Text) : Prop :=
  ∀ before last, words = before ++ [last] → before ≠ [] →
    indent + (lineOf before).length + last.length ≤ lineLimit

/-- A cut of words into consecutive lines of words that fit. -/
structure IsPacking (indent : Nat) (words : List Text) (lines : List (List Text)) : Prop where
  flatten_eq : lines.flatten = words
  ne_nil : ∀ line ∈ lines, line ≠ []
  fits : ∀ line ∈ lines, Fits indent line

/-- What stands between two literals: the operator, and the indentation of the next line. -/
def lineJoint (style : LiteralStyle) (indent : Nat) : Text :=
  style.concat ++ '\n' :: List.replicate indent ' '

/-- The words of a text between single spaces, with raw delimiters for its quotes. -/
def wordsOf (style : LiteralStyle) (text : Text) : List Text :=
  (text.substitute style.quote style.rawDelimiter).splitOn ' '

variable {indent : Nat} {words line more rest : List Text} {lines : List (List Text)} {word : Text}

theorem literalTexts_ne_nil {lines : List Text} (hlines : lines ≠ []) :
    literalTexts lines ≠ [] := by
  fun_cases literalTexts lines with
  | case1 => exact absurd rfl hlines
  | case2 => exact List.cons_ne_nil _ _
  | case3 => exact List.cons_ne_nil _ _

/-- Lines are written as literals with one joint between any two of them. -/
theorem joinLines_eq_intercalate (style : LiteralStyle) (indent : Nat) (lines : List Text) :
    style.joinLines indent lines =
      (style.lineJoint indent).intercalate ((literalTexts lines).map style.quoted) := by
  fun_induction literalTexts lines with
  | case1 => rfl
  | case2 line => rw [joinLines, List.map_singleton, List.intercalate_singleton]
  | case3 line others hothers ih =>
    have hne : (literalTexts others).map style.quoted ≠ [] :=
      mt List.map_eq_nil_iff.mp (literalTexts_ne_nil hothers)
    rw [joinLines, ih, List.map_cons, List.intercalate_cons_of_ne_nil hne, lineJoint]
    · simp only [List.append_assoc, List.cons_append]
    · exact hothers

section Lines

theorem lineOf_singleton (word : Text) : lineOf [word] = word :=
  List.intercalate_singleton

theorem lineOf_append_singleton (hline : line ≠ []) (word : Text) :
    lineOf (line ++ [word]) = lineOf line ++ ' ' :: word := by
  cases line with
  | nil => exact absurd rfl hline
  | cons first others =>
    show [' '].intercalate (first :: (others ++ [word])) =
      [' '].intercalate (first :: others) ++ ' ' :: word
    rw [Text.intercalate_cons, Text.intercalate_cons, List.flatMap_append, List.flatMap_singleton,
      List.singleton_append, List.append_assoc]

/-- The words of a text make up its line again. -/
theorem lineOf_splitOn (text : Text) : lineOf (text.splitOn ' ') = text :=
  List.intercalate_splitOn ' '

theorem fits_singleton (indent : Nat) (word : Text) : Fits indent [word] := by
  intro before last hwords hbefore
  -- one word has none before it
  have hlength := congrArg List.length hwords
  rw [List.length_append, List.length_singleton, List.length_singleton] at hlength
  exact absurd (List.length_eq_zero_iff.mp (by omega)) hbefore

/-- A word fits behind others exactly if the loop leaves it on their line. -/
theorem fits_append_singleton_iff (hline : line ≠ []) :
    Fits indent (line ++ [word]) ↔ indent + (lineOf line).length + word.length ≤ lineLimit := by
  constructor
  · exact fun h => h line word rfl hline
  · intro h before last hwords _
    obtain ⟨rfl, hlast⟩ := List.append_inj' hwords rfl
    rw [← (List.cons.inj hlast).1]
    exact h

/-- Words that fit still fit without the last one. -/
theorem Fits.init (h : Fits indent (line ++ [word])) : Fits indent line := by
  intro before last hwords hbefore
  have hline : line ≠ [] := by
    rw [hwords]
    exact List.append_ne_nil_of_right_ne_nil before (List.cons_ne_nil last [])
  have hwidth := (fits_append_singleton_iff hline).mp h
  rw [hwords, lineOf_append_singleton hbefore, List.length_append, List.length_cons] at hwidth
  omega

end Lines

section Greedy

/-- The line that is being filled takes all words that fit on it. -/
theorem Fits.fill_append (hline : line ≠ []) (h : Fits indent (line ++ more)) :
    fill indent (lineOf line) (more ++ rest) = fill indent (lineOf (line ++ more)) rest := by
  -- from the last of these words to the first, since each of them fits behind those before it
  induction more using List.reverseRecOn generalizing rest with
  | nil => rw [List.append_nil, List.nil_append]
  | append_singleton more word ih =>
    rw [← List.append_assoc] at h
    have hne : line ++ more ≠ [] := List.append_ne_nil_of_left_ne_nil hline more
    have hwidth := (fits_append_singleton_iff hne).mp h
    calc fill indent (lineOf line) (more ++ [word] ++ rest)
      _ = fill indent (lineOf line) (more ++ word :: rest) := by
        rw [List.append_assoc, List.singleton_append]
      _ = fill indent (lineOf (line ++ more)) (word :: rest) := ih h.init
      _ = fill indent (lineOf (line ++ more) ++ ' ' :: word) rest := by
        rw [fill, if_neg (Nat.not_lt.mpr hwidth)]
      _ = fill indent (lineOf (line ++ (more ++ [word]))) rest := by
        rw [← lineOf_append_singleton hne, List.append_assoc]

/-- Filling cuts the words into lines of words that fit. -/
theorem exists_isPacking_fill (hline : line ≠ []) (hfits : Fits indent line) (rest : List Text) :
    ∃ lines, IsPacking indent (line ++ rest) lines ∧
      fill indent (lineOf line) rest = lines.map lineOf := by
  induction rest generalizing line with
  | nil =>
    refine ⟨[line], ⟨?_, ?_, ?_⟩, rfl⟩
    · rw [List.flatten_singleton, List.append_nil]
    · exact List.forall_mem_singleton.mpr hline
    · exact List.forall_mem_singleton.mpr hfits
  | cons word rest ih =>
    rw [fill]
    split
    -- the line is full, and the word starts the next one
    · obtain ⟨lines, hlines, hfill⟩ := ih (List.cons_ne_nil word []) (fits_singleton indent word)
      rw [lineOf_singleton] at hfill
      refine ⟨line :: lines, ⟨?_, ?_, ?_⟩, ?_⟩
      · rw [List.flatten_cons, hlines.flatten_eq, List.singleton_append]
      · exact List.forall_mem_cons.mpr ⟨hline, hlines.ne_nil⟩
      · exact List.forall_mem_cons.mpr ⟨hfits, hlines.fits⟩
      · rw [hfill, List.map_cons]
    -- the word fits, and the line goes on behind it
    · next hwidth =>
      have hmore : Fits indent (line ++ [word]) :=
        (fits_append_singleton_iff hline).mpr (Nat.not_lt.mp hwidth)
      have hne : line ++ [word] ≠ [] := List.append_ne_nil_of_left_ne_nil hline [word]
      obtain ⟨lines, hlines, hfill⟩ := ih hne hmore
      rw [List.append_assoc, List.singleton_append] at hlines
      rw [lineOf_append_singleton hline] at hfill
      exact ⟨lines, hlines, hfill⟩

/-- What the loop makes is a packing. -/
theorem exists_isPacking_pack (indent : Nat) (text : Text) :
    ∃ lines, IsPacking indent (text.splitOn ' ') lines ∧ pack indent text = lines.map lineOf := by
  rw [pack, Text.split_eq_splitOn]
  split
  · next hsplit => exact absurd hsplit (List.splitOn_ne_nil ' ' text)
  · next word rest hsplit =>
    have hfill := exists_isPacking_fill (List.cons_ne_nil word []) (fits_singleton indent word) rest
    rw [lineOf_singleton] at hfill
    rw [hsplit]
    exact hfill

/-- Going on with a shorter line gives no more lines than going on with a longer one, and going on
with any line gives at most one line more than with any other. The two are proved together: a break
on one side only leads from either of them to the other. -/
theorem length_fill_compare (indent : Nat) (words : List Text) :
    (∀ line other : Text, line.length ≤ other.length →
      (fill indent line words).length ≤ (fill indent other words).length) ∧
    ∀ line other : Text,
      (fill indent line words).length ≤ (fill indent other words).length + 1 := by
  induction words with
  | nil => exact ⟨fun _ _ _ => Nat.le_refl _, fun _ _ => Nat.le_succ _⟩
  | cons word rest ih =>
    obtain ⟨hmono, hsucc⟩ := ih
    have hwidth (line : Text) : (line ++ ' ' :: word).length = line.length + word.length + 1 := by
      rw [List.length_append, List.length_cons]
      omega
    constructor
    · intro line other hle
      rw [fill, fill]
      split_ifs with hline hother hother
      · exact Nat.le_refl _
      -- the longer line breaks where the shorter one does
      · omega
      -- the shorter line goes on, and the word starts a line of the other side
      · exact hsucc (line ++ ' ' :: word) word
      · apply hmono
        rw [hwidth, hwidth]
        omega
    · intro line other
      rw [fill, fill]
      split_ifs with hline hother hother
      · exact Nat.le_succ _
      -- the word alone is not longer than the word behind other words
      · have hword : (fill indent word rest).length ≤
            (fill indent (other ++ ' ' :: word) rest).length := by
          apply hmono
          rw [hwidth]
          omega
        exact Nat.succ_le_succ hword
      · have hword := hsucc (line ++ ' ' :: word) word
        rw [List.length_cons]
        omega
      · exact hsucc _ _

/-- A break in front of a word costs at most the one line that it starts. -/
theorem length_fill_cons_le (indent : Nat) (line word : Text) (rest : List Text) :
    (fill indent line (word :: rest)).length ≤ (fill indent word rest).length + 1 := by
  rw [fill]
  split
  · exact Nat.le_refl _
  · exact (length_fill_compare indent rest).2 _ _

/-- No packing of the words has fewer lines than filling gives. -/
theorem IsPacking.length_fill_le (h : IsPacking indent (word :: rest) lines) :
    (fill indent word rest).length ≤ lines.length := by
  -- line by line: what the first line holds is taken by the first line that is filled
  induction lines generalizing word rest with
  | nil => cases h.flatten_eq
  | cons line lines ih =>
    obtain ⟨hline, hne⟩ := List.forall_mem_cons.mp h.ne_nil
    obtain ⟨hfits, hrestFits⟩ := List.forall_mem_cons.mp h.fits
    obtain ⟨first, more, rfl⟩ := List.exists_cons_of_ne_nil hline
    have hwords := h.flatten_eq
    rw [List.flatten_cons, List.cons_append, List.cons.injEq] at hwords
    obtain ⟨rfl, rfl⟩ := hwords
    have hfill : fill indent (lineOf [first]) (more ++ lines.flatten) =
        fill indent (lineOf (first :: more)) lines.flatten :=
      Fits.fill_append (List.cons_ne_nil first []) hfits
    rw [lineOf_singleton] at hfill
    rw [hfill]
    cases hflatten : lines.flatten with
    | nil =>
      rw [fill]
      exact Nat.succ_le_succ (Nat.zero_le _)
    | cons next others =>
      have hrest : (fill indent next others).length ≤ lines.length :=
        ih ⟨hflatten, hne, hrestFits⟩
      have hbreak := length_fill_cons_le indent (lineOf (first :: more)) next others
      rw [List.length_cons]
      omega

/-- No packing of the words of a text has fewer lines. -/
theorem IsPacking.length_pack_le {text : Text} (h : IsPacking indent (text.splitOn ' ') lines) :
    (pack indent text).length ≤ lines.length := by
  rw [pack, Text.split_eq_splitOn]
  split
  · exact Nat.zero_le _
  · next word rest hsplit =>
    rw [hsplit] at h
    exact h.length_fill_le

end Greedy

/-- The words of a text are its only line if the text is within the limit. -/
theorem isPacking_singleton {text : Text} (hwidth : indent + text.length ≤ lineLimit) :
    IsPacking indent (text.splitOn ' ') [text.splitOn ' '] := by
  have hfits : Fits indent (text.splitOn ' ') := by
    intro before last hwords hbefore
    have htext : text = lineOf before ++ ' ' :: last := by
      rw [← lineOf_append_singleton hbefore, ← hwords, lineOf_splitOn]
    rw [htext, List.length_append, List.length_cons] at hwidth
    omega
  exact ⟨List.flatten_singleton, List.forall_mem_singleton.mpr (List.splitOn_ne_nil ' ' text),
    List.forall_mem_singleton.mpr hfits⟩

/-- A packing into one line holds all words on it. -/
theorem IsPacking.eq_singleton (h : IsPacking indent words lines) (hwords : words ≠ [])
    (hone : lines.length ≤ 1) : lines = [words] := by
  have hne : lines ≠ [] := by
    rintro rfl
    exact hwords h.flatten_eq.symm
  obtain ⟨line, rfl⟩ := List.length_eq_one_iff.mp
    (Nat.le_antisymm hone (List.length_pos_of_ne_nil hne))
  rw [← h.flatten_eq, List.flatten_singleton]

/-- A text is written as quoted lines, joined by the operator. The lines are consecutive words that
fit, and no cut of the words into lines that fit has fewer of them. A text within the limit is one
literal. -/
theorem singleLine_packs_optimally (style : LiteralStyle) (indent : Nat) (text : Text) :
    ∃ lines, IsPacking indent (style.wordsOf text) lines ∧
      style.singleLine indent text =
        (style.lineJoint indent).intercalate
          ((literalTexts (lines.map lineOf)).map style.quoted) ∧
      (∀ others, IsPacking indent (style.wordsOf text) others → lines.length ≤ others.length) ∧
      (indent + text.length ≤ lineLimit → lines.length = 1 ∧
        style.singleLine indent text =
          style.quoted (text.substitute style.quote style.rawDelimiter)) := by
  obtain ⟨lines, hlines, hpack⟩ :=
    exists_isPacking_pack indent (text.substitute style.quote style.rawDelimiter)
  have hwritten : style.singleLine indent text =
      (style.lineJoint indent).intercalate
        ((literalTexts (lines.map lineOf)).map style.quoted) := by
    rw [singleLine, joinLines_eq_intercalate, hpack]
  have hleast (others : List (List Text)) (hothers : IsPacking indent (style.wordsOf text) others) :
      lines.length ≤ others.length := by
    have hlength := hothers.length_pack_le
    rwa [hpack, List.length_map] at hlength
  refine ⟨lines, hlines, hwritten, hleast, fun hwidth => ?_⟩
  -- exchanging quotes keeps the width, so all words may stand on one line, and fewer lines are none
  have hone : lines.length ≤ 1 := by
    apply hleast [style.wordsOf text]
    apply isPacking_singleton
    rwa [Text.substitute, List.length_map]
  have hline := hlines.eq_singleton (List.splitOn_ne_nil ' ' _) hone
  refine ⟨by rw [hline, List.length_singleton], ?_⟩
  calc style.singleLine indent text
    _ = (style.lineJoint indent).intercalate [style.quoted (lineOf (style.wordsOf text))] := by
      rw [hwritten, hline]
      rfl
    _ = style.quoted (lineOf (style.wordsOf text)) := List.intercalate_singleton
    _ = style.quoted (text.substitute style.quote style.rawDelimiter) := by
      rw [wordsOf, lineOf_splitOn]

end KeyCatalog.LiteralStyle
