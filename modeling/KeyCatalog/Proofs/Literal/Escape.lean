import KeyCatalog.Listing.Language
import KeyCatalog.Proofs.Literal.Source
/-!
The escapes of both languages, made in one pass. Each style makes its replacements one after the
other, over what the earlier ones wrote; no replacement touches the outcome of another one, so a
single pass over the text gives the same body.
-/
namespace KeyCatalog

namespace Language

theorem style_quote (language : Language) : language.style.quote = '"' := by
  cases language <;> rfl

theorem style_rawDelimiter (language : Language) : language.style.rawDelimiter = '\x60' := by
  cases language <;> rfl

theorem style_concat (language : Language) : language.style.concat = ['+'] := by
  cases language <;> rfl

end Language

namespace Source

def quotedChar (c : Char) : Text :=
  if c = '\\' then ['\\', '\\']
  else if c = '"' then ['\\', '"']
  else if c = '\r' then ['\\', 'r']
  else [c]

/-- The body of the template for a text: backslashes are doubled, and a dollar sign that would open
a substitution gets a backslash. -/
def templateBody : Text → Text
  | [] => []
  | '$' :: '\x7b' :: rest => '\\' :: '$' :: '\x7b' :: templateBody rest
  | c :: rest => if c = '\\' then '\\' :: '\\' :: templateBody rest else c :: templateBody rest

/-- What a table of escapes makes of a character on its own. -/
def exchanged (escapes : List (Text × Text)) (c : Char) : Text :=
  (escapes.lookup [c]).getD [c]

theorem exchanged_eq_self {escapes : List (Text × Text)} {c : Char}
    (h : ∀ pair ∈ escapes, pair.1 ≠ [c]) : exchanged escapes c = [c] := by
  have hnone : escapes.lookup [c] = none :=
    List.lookup_eq_none_iff.mpr fun pair hpair => bne_iff_ne.mpr (h pair hpair).symm
  rw [exchanged, hnone, Option.getD_none]

theorem exchanged_cons (escapes : List (Text × Text)) (old : Char) (replacement : Text) (c : Char) :
    exchanged (([old], replacement) :: escapes) c =
      if c = old then replacement else exchanged escapes c := by
  rw [exchanged, List.lookup_cons]
  by_cases hc : c = old
  · rw [if_pos hc, hc, beq_self_eq_true]
    rfl
  · have hne : ([c] == [old]) = false := beq_eq_false_iff_ne.mpr (by simpa using hc)
    rw [if_neg hc, hne, exchanged]

/-- Replacements of single characters, made one after the other, exchange every character once if
none of them is for a character that an earlier one writes. -/
theorem escape_eq_flatMap_exchanged {escapes : List (Text × Text)}
    (hsingle : ∀ pair ∈ escapes, pair.1.length = 1)
    (hlater : escapes.Pairwise fun earlier later => ∀ c ∈ earlier.2, later.1 ≠ [c])
    (text : Text) : LiteralStyle.escape escapes text = text.flatMap (exchanged escapes) := by
  induction escapes generalizing text with
  | nil => exact (List.flatMap_singleton' text).symm
  | cons pair escapes ih =>
    obtain ⟨pattern, replacement⟩ := pair
    obtain ⟨hlength, hothers⟩ := List.forall_mem_cons.mp hsingle
    obtain ⟨hfirst, hrest⟩ := List.pairwise_cons.mp hlater
    obtain ⟨old, rfl⟩ := List.length_eq_one_iff.mp hlength
    -- the replacements behind the first one keep what the first one writes
    have hkeep : replacement.flatMap (exchanged escapes) = replacement := by
      have hself : ∀ c ∈ replacement, exchanged escapes c = [c] :=
        fun c hc => exchanged_eq_self fun later hmem => hfirst later hmem c hc
      rw [List.flatMap_congr hself, List.flatMap_singleton']
    have hchar (c : Char) : (if c = old then replacement else [c]).flatMap (exchanged escapes) =
        exchanged (([old], replacement) :: escapes) c := by
      rw [exchanged_cons]
      split_ifs
      · exact hkeep
      · exact List.flatMap_singleton _ c
    calc LiteralStyle.escape (([old], replacement) :: escapes) text
      _ = LiteralStyle.escape escapes (text.replace [old] replacement) := rfl
      _ = (text.flatMap fun c => if c = old then replacement else [c]).flatMap
          (exchanged escapes) := by
        rw [ih hothers hrest, Text.replace_singleton]
      _ = text.flatMap (exchanged (([old], replacement) :: escapes)) := by
        rw [List.flatMap_assoc, funext hchar]

theorem quotedEscapes_eq (language : Language) :
    language.style.quotedEscapes =
      [(['\\'], ['\\', '\\']), (['"'], ['\\', '"']), (['\r'], ['\\', 'r'])] := by
  cases language <;> rfl

/-- Both languages exchange every character of a quoted literal once. -/
theorem escape_quotedEscapes_eq_exchanged (language : Language) (text : Text) :
    LiteralStyle.escape language.style.quotedEscapes text =
      text.flatMap (exchanged language.style.quotedEscapes) := by
  rw [quotedEscapes_eq]
  apply escape_eq_flatMap_exchanged
  · simp only [List.forall_mem_cons, List.length_singleton, List.not_mem_nil, false_implies,
      implies_true, and_self]
  -- the backslash comes first, so no escape writes a character that is escaped after it
  · simp

/-- On a single character the table does what a quoted literal asks for. -/
theorem exchanged_quotedEscapes (language : Language) (c : Char) :
    exchanged language.style.quotedEscapes c = quotedChar c := by
  rw [quotedEscapes_eq, exchanged_cons, exchanged_cons, exchanged_cons]
  rfl

theorem escape_quotedEscapes (language : Language) (text : Text) :
    LiteralStyle.escape language.style.quotedEscapes text = text.flatMap quotedChar := by
  rw [escape_quotedEscapes_eq_exchanged, funext (exchanged_quotedEscapes language)]

/-- The escaped text is a body that stands for the text. -/
theorem writes_quoted (language : Language) (text : Text) :
    Writes '"' quotedMeanings (LiteralStyle.escape language.style.quotedEscapes text) text := by
  rw [escape_quotedEscapes]
  induction text with
  | nil => exact .nil
  | cons c text ih =>
    rw [List.flatMap_cons]
    -- each of the three escapes is one of the meanings; any other character is plain
    by_cases hbackslash : c = '\\'
    · subst hbackslash
      exact .escape rfl ih
    by_cases hquote : c = '"'
    · subst hquote
      exact .escape rfl ih
    by_cases hreturn : c = '\r'
    · subst hreturn
      exact .escape rfl ih
    rw [quotedChar, if_neg hbackslash, if_neg hquote, if_neg hreturn]
    exact .plain hbackslash hquote ih

theorem lineBreak_of_mem_quotedChar {c d : Char} (hd : d ∈ quotedChar c)
    (hbreak : d = '\r' ∨ d = '\n') : d = '\n' ∧ d = c := by
  -- a carriage return is written out, so only a line feed can stand for itself
  unfold quotedChar at hd
  split_ifs at hd with hbackslash hquote hreturn
  · rcases hbreak with rfl | rfl <;> simp at hd
  · rcases hbreak with rfl | rfl <;> simp at hd
  · rcases hbreak with rfl | rfl <;> simp at hd
  · have hdc := List.mem_singleton.mp hd
    refine ⟨hbreak.resolve_left fun h => hreturn ?_, hdc⟩
    rw [← hdc, h]

/-- Escaping leaves no line break but the line feeds of the text. -/
theorem lineBreak_of_mem_quoted (language : Language) {text : Text} {d : Char}
    (hd : d ∈ LiteralStyle.escape language.style.quotedEscapes text)
    (hbreak : d = '\r' ∨ d = '\n') : d = '\n' ∧ d ∈ text := by
  rw [escape_quotedEscapes, List.mem_flatMap] at hd
  obtain ⟨c, hc, hd⟩ := hd
  obtain ⟨hfeed, hdc⟩ := lineBreak_of_mem_quotedChar hd hbreak
  exact ⟨hfeed, hdc ▸ hc⟩

theorem brace_of_templateBody {text after : Text} (h : templateBody text = '\x7b' :: after) :
    ∃ rest, text = '\x7b' :: rest := by
  fun_cases templateBody text with
  | case1 => cases h
  | case2 => simp [templateBody] at h
  | case3 => simp [templateBody] at h
  | case4 c rest hopen hbackslash =>
    rw [templateBody, if_neg hbackslash] at h
    · exact ⟨rest, by rw [(List.cons.inj h).1]⟩
    · exact hopen

/-- A template adds nothing but backslashes to its text. -/
theorem mem_templateBody {text : Text} {c : Char} (hc : c ∈ templateBody text) :
    c = '\\' ∨ c ∈ text := by
  fun_induction templateBody text with
  | case1 => cases hc
  -- a substitution that would open gets a backslash in front
  | case2 rest ih =>
    simp only [List.mem_cons] at hc ⊢
    rcases hc with hc | hc | hc | hc
    · exact Or.inl hc
    · exact Or.inr (Or.inl hc)
    · exact Or.inr (Or.inr (Or.inl hc))
    · exact (ih hc).imp_right fun h => Or.inr (Or.inr h)
  -- a backslash is doubled
  | case3 rest hopen ih =>
    simp only [List.mem_cons] at hc ⊢
    rcases hc with hc | hc | hc
    · exact Or.inl hc
    · exact Or.inl hc
    · exact (ih hc).imp_right Or.inr
  | case4 d rest hopen hbackslash ih =>
    rcases List.mem_cons.mp hc with rfl | hc
    · exact Or.inr List.mem_cons_self
    · exact (ih hc).imp_right (List.mem_cons_of_mem d)

theorem brace_of_doubled {text after : Text}
    (h : text.flatMap (fun c => if c = '\\' then ['\\', '\\'] else [c]) = '\x7b' :: after) :
    ∃ rest, text = '\x7b' :: rest := by
  cases text with
  | nil => cases h
  | cons c rest =>
    rw [List.flatMap_cons] at h
    by_cases hc : c = '\\'
    · rw [if_pos hc] at h
      have hhead := (List.cons.inj h).1
      exact absurd hhead (by decide)
    · rw [if_neg hc] at h
      exact ⟨rest, by rw [(List.cons.inj h).1]⟩

/-- The two replacements of a template do what one pass does. -/
theorem escape_rawEscapes_typeScript (text : Text) :
    LiteralStyle.escape Listing.TypeScript.style.rawEscapes text = templateBody text := by
  have hpattern : ['$', '\x7b'] ≠ [] := List.cons_ne_nil _ _
  have hbackslash_open (rest : Text) : ¬['$', '\x7b'] <+: '\\' :: rest := by
    rw [List.cons_prefix_cons]
    exact fun h => absurd h.1 (by decide)
  simp only [LiteralStyle.escape, Listing.TypeScript.style, List.foldl_cons, List.foldl_nil,
    Text.replace_singleton]
  fun_induction templateBody text with
  | case1 => exact Text.replace_nil hpattern _
  | case2 rest ih =>
    rw [List.flatMap_cons, List.flatMap_cons, if_neg (by decide), if_neg (by decide), ← ih]
    exact Text.replace_append hpattern _ _
  | case3 rest _ ih =>
    rw [List.flatMap_cons, if_pos rfl, ← ih, List.cons_append, List.cons_append,
      List.nil_append, Text.replace_cons hpattern _ (hbackslash_open _),
      Text.replace_cons hpattern _ (hbackslash_open _)]
  | case4 c rest hopen hbackslash ih =>
    rw [List.flatMap_cons, if_neg hbackslash, List.singleton_append, ← ih]
    apply Text.replace_cons hpattern
    intro hprefix
    -- a brace behind the dollar sign was there before backslashes were doubled
    rw [List.cons_prefix_cons] at hprefix
    obtain ⟨hdollar, after, hafter⟩ := hprefix
    obtain ⟨others, rfl⟩ := brace_of_doubled hafter.symm
    exact hopen others hdollar.symm rfl

/-- The escaped template stands for the text, unless that has a backquote. -/
theorem writes_template {text : Text} (htext : '\x60' ∉ text) :
    Writes '\x60' templateMeanings (templateBody text) text := by
  fun_induction templateBody text with
  | case1 => exact .nil
  | case2 rest ih =>
    refine .escape rfl (.plain (by decide) (by decide) (ih ?_))
    exact fun hmem => htext (List.mem_cons_of_mem _ (List.mem_cons_of_mem _ hmem))
  | case3 rest hopen ih =>
    exact .escape rfl (ih fun hmem => htext (List.mem_cons_of_mem _ hmem))
  | case4 c rest hopen hbackslash ih =>
    have hc : c ≠ '\x60' := fun h => htext (h ▸ List.mem_cons_self)
    exact .plain hbackslash hc (ih fun hmem => htext (List.mem_cons_of_mem _ hmem))

/-- No substitution opens in the body of a template. -/
theorem not_unescaped_open (text : Text) : ¬Unescaped ['$', '\x7b'] (templateBody text) := by
  rintro ⟨before, after, hbody, heven⟩
  rw [List.append_assoc] at hbody
  fun_induction templateBody text generalizing before with
  | case1 => simp at hbody
  -- no match starts within what the first character gives, and any other one is in the rest
  | case2 rest ih =>
    match before with
    | [] => simp at hbody
    | [b] =>
      -- the backslash of the escape makes the count odd
      rw [← (List.cons.inj hbody).1] at heven
      cases heven
    | [b, d] => simp at hbody
    | b :: d :: e :: before =>
      simp only [List.cons_append, List.cons.injEq] at hbody
      obtain ⟨rfl, rfl, rfl, hbody⟩ := hbody
      rw [backslashes_escape, backslashes_cons (by decide)] at heven
      exact ih before hbody heven
  | case3 rest hopen ih =>
    match before with
    | [] => simp at hbody
    | [b] => simp at hbody
    | b :: d :: before =>
      simp only [List.cons_append, List.cons.injEq] at hbody
      obtain ⟨rfl, rfl, hbody⟩ := hbody
      rw [backslashes_escape] at heven
      exact ih before hbody heven
  | case4 c rest hopen hbackslash ih =>
    match before with
    | [] =>
      -- an opening brace would have made this an escape
      obtain ⟨hdollar, hbrace⟩ := List.cons.inj hbody
      obtain ⟨others, rfl⟩ := brace_of_templateBody hbrace
      exact hopen others hdollar rfl
    | b :: before =>
      simp only [List.cons_append, List.cons.injEq] at hbody
      obtain ⟨rfl, hbody⟩ := hbody
      rw [backslashes_cons hbackslash] at heven
      exact ih before hbody heven

end Source
end KeyCatalog
