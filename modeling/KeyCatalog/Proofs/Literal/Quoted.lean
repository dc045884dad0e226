import KeyCatalog.Proofs.Literal.SingleLine
/-!
Quoted literals as a code for texts. Every character has one way to be written, no quote within a
body ends the literal, and a literal is read back as its text whatever follows it. So different
texts have literals of which none is the start of another.
-/
namespace KeyCatalog.LiteralStyle
open Source

/-- Of the quotes behind the opening one, only the last has an even number of backslashes in
front. -/
theorem backslashes_even_iff_last (language : Language) {text before after : Text}
    (h : escape language.style.quotedEscapes text ++ ['"'] = before ++ '"' :: after) :
    backslashes before % 2 = 0 ↔ after = [] := by
  have hwrites := writes_quoted language text
  constructor
  · intro heven
    rcases List.eq_nil_or_concat' after with hafter | ⟨inner, last, hafter⟩
    · exact hafter
    -- a quote with something behind it stands in the body, where it is escaped
    · rw [hafter, ← List.cons_append, ← List.append_assoc] at h
      obtain ⟨hbody, -⟩ := List.append_inj' h rfl
      have hodd := hwrites.backslashes_odd (by decide) hbody
      omega
  · rintro rfl
    obtain ⟨hbody, -⟩ := List.append_inj' h rfl
    rw [← hbody]
    exact hwrites.backslashes_even

/-- A literal that starts another one is that other one, and their texts are the same. -/
theorem eq_of_prefix_quoted (language : Language) {text other : Text}
    (h : language.style.quoted text <+: language.style.quoted other) : text = other := by
  obtain ⟨rest, hrest⟩ := h
  have hread := quoted?_quoted language text rest
  have hother := quoted?_quoted language other []
  rw [List.append_nil, ← hrest, hread] at hother
  have hbody : escape language.style.quotedEscapes text =
      escape language.style.quotedEscapes other :=
    congrArg Prod.fst (Option.some.inj hother)
  have hvalue := (writes_quoted language text).unescape?_eq
  rw [hbody, (writes_quoted language other).unescape?_eq] at hvalue
  exact (Option.some.inj hvalue).symm

/-- The body of a quoted literal exchanges every character of its text once. Each quote in it has an
odd number of backslashes in front, so that behind the opening quote only the last one is unescaped,
and reading the body from the left gives the text. Thus literals determine their texts, and none of
them is the start of another. -/
theorem quoted_prefix_free (language : Language) :
    (∀ text, escape language.style.quotedEscapes text =
      text.flatMap (exchanged language.style.quotedEscapes)) ∧
    (∀ text before after, escape language.style.quotedEscapes text = before ++ '"' :: after →
      backslashes before % 2 = 1) ∧
    (∀ text before after, language.style.quoted text = '"' :: (before ++ '"' :: after) →
      (backslashes before % 2 = 0 ↔ after = [])) ∧
    (∀ text, unescape? quotedMeanings (escape language.style.quotedEscapes text) = some text) ∧
    Function.Injective language.style.quoted ∧
    ∀ text other, language.style.quoted text <+: language.style.quoted other →
      language.style.quoted text = language.style.quoted other := by
  refine ⟨escape_quotedEscapes_eq_exchanged language, ?_, ?_, ?_, ?_, ?_⟩
  · intro text before after hbody
    exact (writes_quoted language text).backslashes_odd (by decide) hbody
  · intro text before after hliteral
    rw [quoted_eq] at hliteral
    exact backslashes_even_iff_last language (List.cons.inj hliteral).2
  · exact fun text => (writes_quoted language text).unescape?_eq
  · intro text other hsame
    -- equal literals are prefixes of each other
    have hprefix : language.style.quoted text <+: language.style.quoted other :=
      ⟨[], (List.append_nil _).trans hsame⟩
    exact eq_of_prefix_quoted language hprefix
  · exact fun text other hprefix => congrArg _ (eq_of_prefix_quoted language hprefix)

end KeyCatalog.LiteralStyle
