import KeyCatalog.Text
import Mathlib.Data.List.Basic
/-!
Laws of replacing, substituting, splitting and finding. A replacement is settled by what it does at
the start of a text: it exchanges a match, or it keeps a character at which no match starts.
-/
namespace KeyCatalog.Text

theorem replaceFrom_skip (pattern replacement : Text) (skip : Nat) (text : Text) :
    replaceFrom pattern replacement skip text =
      replaceFrom pattern replacement 0 (text.drop skip) := by
  induction skip generalizing text with
  | zero => rw [List.drop_zero]
  | succ skip ih =>
    cases text with
    | nil => rfl
    | cons c rest =>
      rw [List.drop_succ_cons]
      exact ih rest

theorem replace_eq_replaceFrom {pattern : Text} (hpattern : pattern ≠ []) (text replacement : Text) :
    text.replace pattern replacement = replaceFrom pattern replacement 0 text := by
  have hempty : pattern.isEmpty = false := by simpa only [List.isEmpty_eq_false_iff] using hpattern
  simp only [replace, hempty, Bool.false_eq_true, if_false]

theorem replace_nil {pattern : Text} (hpattern : pattern ≠ []) (replacement : Text) :
    replace [] pattern replacement = [] := by
  rw [replace_eq_replaceFrom hpattern]
  rfl

theorem replace_append {pattern : Text} (hpattern : pattern ≠ []) (replacement rest : Text) :
    replace (pattern ++ rest) pattern replacement =
      replacement ++ replace rest pattern replacement := by
  rw [replace_eq_replaceFrom hpattern, replace_eq_replaceFrom hpattern]
  cases pattern with
  | nil => exact absurd rfl hpattern
  | cons p others =>
    have hprefix : (p :: others).isPrefixOf (p :: (others ++ rest)) = true := by
      rw [List.isPrefixOf_iff_prefix]
      exact List.prefix_append (p :: others) rest
    -- the rest of the match is passed over
    have hskip : replaceFrom (p :: others) replacement others.length (others ++ rest) =
        replaceFrom (p :: others) replacement 0 rest := by
      rw [replaceFrom_skip, List.drop_left]
    simp only [List.cons_append, replaceFrom, hprefix, if_true, List.length_cons,
      Nat.add_sub_cancel, hskip]

theorem replace_cons {pattern : Text} (hpattern : pattern ≠ []) (replacement : Text) {c : Char}
    {rest : Text} (hc : ¬pattern <+: c :: rest) :
    replace (c :: rest) pattern replacement = c :: replace rest pattern replacement := by
  have hprefix : pattern.isPrefixOf (c :: rest) = false := by
    simpa only [← List.isPrefixOf_iff_prefix, Bool.not_eq_true] using hc
  rw [replace_eq_replaceFrom hpattern, replace_eq_replaceFrom hpattern]
  simp only [replaceFrom, hprefix, Bool.false_eq_true, if_false]

/-- A pattern of one character is replaced wherever that character is. -/
theorem replace_singleton (text : Text) (old : Char) (replacement : Text) :
    text.replace [old] replacement =
      text.flatMap fun c => if c = old then replacement else [c] := by
  have hpattern : [old] ≠ [] := List.cons_ne_nil old []
  induction text with
  | nil => exact replace_nil hpattern replacement
  | cons c rest ih =>
    rw [List.flatMap_cons, ← ih]
    by_cases hc : c = old
    · subst hc
      rw [if_pos rfl]
      exact replace_append hpattern replacement rest
    · have hno : ¬[old] <+: c :: rest := by
        rw [List.cons_prefix_cons]
        exact fun h => hc h.1.symm
      rw [if_neg hc, replace_cons hpattern replacement hno]
      rfl

theorem not_mem_substitute (text : Text) {old new : Char} (hne : old ≠ new) :
    old ∉ text.substitute old new := by
  intro hmem
  obtain ⟨c, -, hc⟩ := List.mem_map.mp hmem
  by_cases h : c = old
  · exact hne ((if_pos h).symm.trans hc).symm
  · exact h ((if_neg h).symm.trans hc)

theorem mem_substitute {text : Text} {old c : Char} (hc : c ∈ text) (hne : c ≠ old) (new : Char) :
    c ∈ text.substitute old new :=
  List.mem_map.mpr ⟨c, hc, if_neg hne⟩

theorem mem_of_mem_substitute {text : Text} {old new c : Char} (hc : c ∈ text.substitute old new)
    (hne : c ≠ new) : c ∈ text := by
  obtain ⟨d, hd, hdc⟩ := List.mem_map.mp hc
  by_cases h : d = old
  · exact absurd ((if_pos h).symm.trans hdc).symm hne
  · rw [if_neg h] at hdc
    exact hdc ▸ hd

theorem substitute_of_not_mem {text : Text} {old : Char} (hold : old ∉ text) (new : Char) :
    text.substitute old new = text := by
  have hkeep : ∀ c ∈ text, (if c = old then new else c) = id c := by
    intro c hc
    have hne : c ≠ old := fun h => hold (h ▸ hc)
    exact if_neg hne
  rw [substitute, List.map_congr_left hkeep, List.map_id]

theorem split_eq_splitOn (separator : Char) (text : Text) :
    split (· = separator) text = text.splitOn separator := by
  induction text with
  | nil => rfl
  | cons c rest ih =>
    rw [List.splitOn_cons_eq_if_modifyHead, ← ih]
    by_cases hc : c = separator
    · rw [split_cons_of_separator rest (decide_eq_true hc), if_pos (beq_iff_eq.mpr hc)]
    · rw [split_cons_of_not_separator rest (decide_eq_false hc), if_neg (by simpa using hc)]
      cases hsplit : split (fun d => decide (d = separator)) rest with
      | nil => exact absurd hsplit (split_ne_nil _ rest)
      | cons part parts => rfl

/-- A text falls into several parts where it holds a separator. -/
theorem one_lt_length_splitOn_iff {separator : Char} {text : Text} :
    1 < (text.splitOn separator).length ↔ separator ∈ text := by
  induction text with
  | nil => simp only [List.splitOn_nil, List.length_singleton, Nat.lt_irrefl, List.not_mem_nil]
  | cons c rest ih =>
    rw [List.splitOn_cons_eq_if_modifyHead]
    by_cases hc : c = separator
    · have hparts : 0 < (rest.splitOn separator).length :=
        List.length_pos_of_ne_nil (List.splitOn_ne_nil separator rest)
      rw [if_pos (beq_iff_eq.mpr hc), List.length_cons, hc]
      simp only [List.mem_cons, true_or, iff_true]
      omega
    -- any other character goes to the first part
    · rw [if_neg (mt beq_iff_eq.mp hc), List.length_modifyHead, ih, List.mem_cons]
      exact ⟨Or.inr, fun h => h.resolve_left fun heq => hc heq.symm⟩

/-- Exchanging characters other than the separator moves no part. -/
theorem splitOn_substitute {separator old new : Char} (hold : separator ≠ old)
    (hnew : separator ≠ new) (text : Text) :
    (text.substitute old new).splitOn separator =
      (text.splitOn separator).map (substitute · old new) := by
  induction text with
  | nil => rfl
  | cons c rest ih =>
    have hcons : substitute (c :: rest) old new =
        (if c = old then new else c) :: substitute rest old new := rfl
    rw [hcons, List.splitOn_cons_eq_if_modifyHead, List.splitOn_cons_eq_if_modifyHead, ih]
    by_cases hc : c = separator
    -- a separator is none of the characters that change
    · have hkeep : (if c = old then new else c) = c := if_neg (hc ▸ hold)
      rw [hkeep, if_pos (beq_iff_eq.mpr hc), if_pos (beq_iff_eq.mpr hc)]
      rfl
    -- and no other character becomes one
    · have hother : (if c = old then new else c) ≠ separator := by
        by_cases h : c = old
        · rw [if_pos h]
          exact hnew.symm
        · rwa [if_neg h]
      rw [if_neg (mt beq_iff_eq.mp hother), if_neg (mt beq_iff_eq.mp hc)]
      cases rest.splitOn separator with
      | nil => rfl
      | cons part parts => rfl

theorem flatten_split (isSeparator : Char → Bool) (text : Text) :
    (split isSeparator text).flatten = text.filter fun c => !isSeparator c := by
  induction text with
  | nil => rfl
  | cons c rest ih =>
    rw [List.filter_cons, ← ih]
    cases h : isSeparator c with
    | true =>
      rw [split_cons_of_separator rest h, List.flatten_cons, List.nil_append]
      rfl
    | false =>
      rw [split_cons_of_not_separator rest h]
      cases hs : split isSeparator rest with
      | nil => exact absurd hs (split_ne_nil isSeparator rest)
      | cons part parts => rfl

/-- The words of a text hold all of its characters but the separators. -/
theorem flatten_words (isSeparator : Char → Bool) (text : Text) :
    (words isSeparator text).flatten = text.filter fun c => !isSeparator c := by
  rw [words, List.flatten_filter_not_isEmpty, flatten_split]

/-- A separator splits a text into the parts on both sides of it. -/
theorem split_append_cons {isSeparator : Char → Bool} (before : Text) {c : Char} (after : Text)
    (hc : isSeparator c = true) :
    split isSeparator (before ++ c :: after) =
      split isSeparator before ++ split isSeparator after := by
  induction before with
  | nil => exact split_cons_of_separator after hc
  | cons first before ih =>
    rw [List.cons_append]
    cases hfirst : isSeparator first with
    | true =>
      rw [split_cons_of_separator _ hfirst, split_cons_of_separator _ hfirst, ih, List.cons_append]
    | false =>
      rw [split_cons_of_not_separator _ hfirst, split_cons_of_not_separator _ hfirst, ih]
      -- the first part gets one character more on both sides
      cases hs : split isSeparator before with
      | nil => exact absurd hs (split_ne_nil isSeparator before)
      | cons part parts => rfl

/-- The words of two texts with a separator between them are those of both, in order. -/
theorem words_append_cons {isSeparator : Char → Bool} (before : Text) {c : Char} (after : Text)
    (hc : isSeparator c = true) :
    words isSeparator (before ++ c :: after) =
      words isSeparator before ++ words isSeparator after := by
  rw [words, split_append_cons before after hc, List.filter_append, words, words]

theorem split_of_not_separator {isSeparator : Char → Bool} {text : Text}
    (h : ∀ c ∈ text, isSeparator c = false) : split isSeparator text = [text] := by
  induction text with
  | nil => rfl
  | cons c rest ih =>
    obtain ⟨hc, hrest⟩ := List.forall_mem_cons.mp h
    rw [split_cons_of_not_separator rest hc, ih hrest, List.headD_cons, List.tail_cons]

/-- A text without separators is a word. -/
theorem words_cons_of_not_separator {isSeparator : Char → Bool} {c : Char} {rest : Text}
    (h : ∀ d ∈ c :: rest, isSeparator d = false) : words isSeparator (c :: rest) = [c :: rest] := by
  rw [words, split_of_not_separator h]
  rfl

theorem ne_nil_of_mem_words {isSeparator : Char → Bool} {text word : Text}
    (hword : word ∈ words isSeparator text) : word ≠ [] := by
  have hfilter := (List.mem_filter.mp hword).2
  rintro rfl
  cases hfilter

theorem dropSuffix_append (text : Text) (suffix : Text) :
    dropSuffix (text ++ suffix) suffix = text := by
  have hsuffix : suffix.isSuffixOf (text ++ suffix) = true :=
    List.isSuffixOf_iff_suffix.mpr (List.suffix_append text suffix)
  rw [dropSuffix, if_pos hsuffix, List.length_append, Nat.add_sub_cancel, List.take_left]

theorem dropSuffix_empty (text : Text) : dropSuffix text [] = text := by
  have hdropped := dropSuffix_append text []
  rwa [List.append_nil] at hdropped

theorem dropSuffix_of_not_suffix {text suffix : Text} (h : ¬suffix <:+ text) :
    dropSuffix text suffix = text := by
  rw [dropSuffix, if_neg (mt List.isSuffixOf_iff_suffix.mp h)]

/-- A character is found where the bytes of the characters before it end. -/
theorem offset?_append {c : Char} {before : Text} (hbefore : c ∉ before) (after : Text) :
    offset? c (before ++ c :: after) = some (String.ofList before).utf8ByteSize := by
  induction before with
  | nil => exact if_pos rfl
  | cons d before ih =>
    obtain ⟨hd, hrest⟩ := List.ne_and_not_mem_of_not_mem_cons hbefore
    rw [List.cons_append, offset?, if_neg (Ne.symm hd), ih hrest, utf8ByteSize_ofList_cons]
    rfl

theorem intercalate_cons (separator part : Text) (parts : List Text) :
    separator.intercalate (part :: parts) = part ++ parts.flatMap (separator ++ ·) := by
  induction parts generalizing part with
  | nil => rw [List.intercalate_singleton, List.flatMap_nil, List.append_nil]
  | cons next parts ih =>
    rw [List.intercalate_cons_cons, ih, List.flatMap_cons]
    simp only [List.append_assoc]

end KeyCatalog.Text
