import KeyCatalog.Proofs.Identifier
/-!
How the sides of a key are spelled. Two laws settle it: where a separator stands, the spellings of
both parts are joined, in the name as they come and in the namespace the other way round, and a text
without separators is one word. So only words count, neither which separators are between them nor
how many.
-/
namespace KeyCatalog.Identifier

variable {separators : List Char} {join : Text → Text → Text} {spell other : Text → Text}
  {suffix domain stem : String}

/-- The laws of spelling a side of a key. The first character of a word is made upper case if it is
an ASCII letter. -/
structure Spells (separators : List Char) (join : Text → Text → Text) (spell : Text → Text) :
    Prop where
  separated : ∀ before c after, c ∈ separators →
    spell (before ++ c :: after) = join (spell before) (spell after)
  empty : spell [] = []
  word : ∀ c rest, (∀ d ∈ c :: rest, d ∉ separators) → spell (c :: rest) = c.toUpper :: rest

namespace Spells

/-- On a text without separators there is one spelling, however words are joined. -/
theorem eq_of_not_separator (h : Spells separators join spell)
    (hother : Spells separators join other) {text : Text} (htext : ∀ d ∈ text, d ∉ separators) :
    spell text = other text := by
  cases text with
  | nil => rw [h.empty, hother.empty]
  | cons c rest => rw [h.word c rest htext, hother.word c rest htext]

/-- There is one way of spelling that has the laws. -/
theorem eq (h : Spells separators join spell) (hother : Spells separators join other) :
    spell = other := by
  -- what was read without meeting a separator is kept in front
  have hbehind (text : Text) : ∀ before, (∀ d ∈ before, d ∉ separators) →
      spell (before ++ text) = other (before ++ text) := by
    induction text with
    | nil =>
      intro before hbefore
      rw [List.append_nil]
      exact h.eq_of_not_separator hother hbefore
    | cons c rest ih =>
      intro before hbefore
      by_cases hc : c ∈ separators
      · have hrest : spell rest = other rest := ih [] (fun d hd => absurd hd List.not_mem_nil)
        rw [h.separated before c rest hc, hother.separated before c rest hc, hrest,
          h.eq_of_not_separator hother hbefore]
      · rw [List.append_cons]
        apply ih
        intro d hd
        rcases List.mem_append.mp hd with hd | hd
        · exact hbefore d hd
        · rwa [List.mem_singleton.mp hd]
  funext text
  exact hbehind text [] (fun d hd => absurd hd List.not_mem_nil)

end Spells

theorem endsDomainWord_iff {c : Char} : endsDomainWord c = true ↔ c ∈ ['.', '-'] := by
  simp [endsDomainWord]

theorem endsNameWord_iff {c : Char} : endsNameWord c = true ↔ c ∈ ['.', '_', '-'] := by
  simp [endsNameWord, or_assoc]

/-- The words of a namespace are joined in reverse. -/
theorem spells_ofDomain : Spells ['.', '-'] (fun before after => after ++ before) ofDomain where
  separated before c after hc := by
    rw [ofDomain, Text.words_append_cons before after (endsDomainWord_iff.mpr hc),
      List.reverse_append, List.map_append, List.flatten_append, ofDomain, ofDomain]
  empty := rfl
  word c rest h := by
    have hword : ∀ d ∈ c :: rest, endsDomainWord d = false :=
      fun d hd => Bool.eq_false_iff.mpr (mt endsDomainWord_iff.mp (h d hd))
    rw [ofDomain, Text.words_cons_of_not_separator hword]
    exact List.append_nil _

/-- The words of a name are joined in order. -/
theorem spells_ofName : Spells ['.', '_', '-'] (fun before after => before ++ after) ofName where
  separated before c after hc := by
    rw [ofName, Text.words_append_cons before after (endsNameWord_iff.mpr hc), List.map_append,
      List.flatten_append, ofName, ofName]
  empty := rfl
  word c rest h := by
    have hword : ∀ d ∈ c :: rest, endsNameWord d = false :=
      fun d hd => Bool.eq_false_iff.mpr (mt endsNameWord_iff.mp (h d hd))
    rw [ofName, Text.words_cons_of_not_separator hword]
    exact List.append_nil _

section Respacing

/-- One text can be made from the other by doubling separators, putting them at either end,
exchanging one for another, and undoing this. -/
inductive Respaced (separators : List Char) : Text → Text → Prop
  | refl (text : Text) : Respaced separators text text
  | symm {text other : Text} : Respaced separators text other → Respaced separators other text
  | trans {text next other : Text} :
    Respaced separators text next → Respaced separators next other → Respaced separators text other
  | doubled (before after : Text) {c : Char} (h : c ∈ separators) :
    Respaced separators (before ++ c :: after) (before ++ c :: c :: after)
  | leading (text : Text) {c : Char} (h : c ∈ separators) : Respaced separators text (c :: text)
  | trailing (text : Text) {c : Char} (h : c ∈ separators) :
    Respaced separators text (text ++ [c])
  | exchanged (before after : Text) {c d : Char} (hc : c ∈ separators) (hd : d ∈ separators) :
    Respaced separators (before ++ c :: after) (before ++ d :: after)

/-- Separators leave no trace but the order in which words are joined. -/
theorem Spells.eq_of_respaced (h : Spells separators join spell) (hleft : ∀ text, join [] text = text)
    (hright : ∀ text, join text [] = text) {text next : Text}
    (hrespaced : Respaced separators text next) : spell text = spell next := by
  -- a separator in front has no word on its left
  have hlead (text : Text) {c : Char} (hc : c ∈ separators) : spell (c :: text) = spell text :=
    calc spell (c :: text)
      _ = join (spell []) (spell text) := h.separated [] c text hc
      _ = spell text := by rw [h.empty, hleft]
  induction hrespaced with
  | refl text => rfl
  | symm _ ih => exact ih.symm
  | trans _ _ ih ih' => exact ih.trans ih'
  | doubled before after hc => rw [h.separated _ _ _ hc, h.separated _ _ _ hc, hlead after hc]
  | leading text hc => exact (hlead text hc).symm
  | trailing text hc => rw [h.separated text _ [] hc, h.empty, hright]
  | exchanged before after hc hd => rw [h.separated _ _ _ hc, h.separated _ _ _ hd]

end Respacing

section Stem

/-- What is left of a namespace: one copy of a suffix that is not empty is dropped from its end. -/
inductive Stem (suffix : String) : (domain stem : String) → Prop
  | dropped (stem : String) (h : suffix ≠ "") : Stem suffix (stem ++ suffix) stem
  | whole (domain : String) (h : suffix = "" ∨ ∀ stem, domain ≠ stem ++ suffix) :
    Stem suffix domain domain

theorem exists_stem (suffix domain : String) : ∃ stem, Stem suffix domain stem := by
  by_cases hempty : suffix = ""
  · exact ⟨domain, .whole domain (Or.inl hempty)⟩
  by_cases hdropped : ∃ stem, domain = stem ++ suffix
  · obtain ⟨stem, rfl⟩ := hdropped
    exact ⟨stem, .dropped stem hempty⟩
  · exact ⟨domain, .whole domain (Or.inr (not_exists.mp hdropped))⟩

theorem Stem.toList_eq (h : Stem suffix domain stem) :
    stem.toList = Text.dropSuffix domain.toList suffix.toList := by
  cases h with
  | dropped stem hne => rw [String.toList_append, Text.dropSuffix_append]
  | whole domain hwhole =>
    rcases hwhole with rfl | hnot
    · exact (Text.dropSuffix_empty domain.toList).symm
    · symm
      apply Text.dropSuffix_of_not_suffix
      rintro ⟨rest, hrest⟩
      apply hnot (String.ofList rest)
      apply String.toList_injective
      rw [String.toList_append, String.toList_ofList, hrest]

/-- An identifier spells the stem of the namespace and then the name. -/
theorem toList_derive_of_stem {key : Key} (h : Stem suffix key.domain stem) :
    (derive key suffix).toList = ofDomain stem.toList ++ ofName key.name.toList := by
  rw [derive, String.toList_ofList, h.toList_eq]

theorem Stem.subset (h : Stem suffix domain stem) {c : Char} (hc : c ∈ stem.toList) :
    c ∈ domain.toList := by
  cases h with
  | dropped stem hne =>
    rw [String.toList_append]
    exact List.mem_append_left _ hc
  | whole domain hwhole => exact hc

end Stem

section Characters

theorem length_flatten_capitalize (words : List Text) :
    (words.map Text.capitalize).flatten.length = words.flatten.length := by
  have hlength (word : Text) : word.capitalize.length = word.length := by cases word <;> rfl
  rw [List.length_flatten, List.length_flatten, List.map_map]
  exact congrArg List.sum (List.map_congr_left fun word _ => hlength word)

theorem length_filter_not {ends : Char → Bool} (h : ∀ c, ends c = true ↔ c ∈ separators)
    (text : Text) : (text.filter (!ends ·)).length = text.countP (· ∉ separators) := by
  rw [← List.countP_eq_length_filter]
  apply List.countP_congr
  intro c _
  rw [Bool.not_eq_true', ← Bool.not_eq_true, h, decide_eq_true_iff]

/-- Of a name only the separators are lost. -/
theorem length_ofName (name : Text) :
    (ofName name).length = name.countP (· ∉ ['.', '_', '-']) := by
  rw [ofName, length_flatten_capitalize, Text.flatten_words]
  exact length_filter_not (fun _ => endsNameWord_iff) name

/-- Reversing the words of a namespace loses nothing but separators either. -/
theorem length_ofDomain (domain : Text) :
    (ofDomain domain).length = domain.countP (· ∉ ['.', '-']) := by
  rw [ofDomain, length_flatten_capitalize, List.length_flatten, List.map_reverse,
    List.sum_reverse, ← List.length_flatten, Text.flatten_words]
  exact length_filter_not (fun _ => endsDomainWord_iff) domain

/-- No letter is one of these, so neither a letter in lower case nor its upper case is. -/
theorem toUpper_mem_iff (c : Char) : c.toUpper ∈ ['/', '.', '-'] ↔ c ∈ ['/', '.', '-'] := by
  have hnone : ['/', '.', '-'].any Letter.isAlphabetic = false := by decide +kernel
  have hletter : ∀ d ∈ ['/', '.', '-'], ¬Letter.isAlphabetic d = true := List.any_eq_false.mp hnone
  by_cases hc : c.isLower = true
  · obtain ⟨hlower, hupper, -⟩ := Letter.toUpper_of_isLower hc
    exact iff_of_false (fun hmem => hletter _ hmem hupper) (fun hmem => hletter _ hmem hlower)
  · rw [Letter.toUpper_of_not_isLower hc]

/-- The dot and the dash are separators on both sides. -/
theorem mem_or_not_mem (h : ['.', '-'] ⊆ separators) {c : Char} (hslash : c ≠ '/') :
    c ∈ separators ∨ c ∉ ['/', '.', '-'] := by
  by_cases hend : c ∈ ['.', '-']
  · exact Or.inl (h hend)
  · exact Or.inr (List.not_mem_cons_of_ne_of_not_mem hslash hend)

/-- What separates the parts of a key is gone from its identifier. -/
theorem not_mem_derive (key : Key) (suffix : String) :
    ∀ c ∈ ['/', '.', '-'], c ∉ (derive key suffix).toList := by
  obtain ⟨stem, hstem⟩ := exists_stem suffix key.domain
  have hall : ∀ c ∈ (derive key suffix).toList, decide (c ∉ ['/', '.', '-']) = true := by
    apply (forall_mem_derive_iff fun c => decide_eq_decide.mpr (not_congr (toUpper_mem_iff c))).mpr
    rw [← hstem.toList_eq]
    -- no side holds a slash, and what separates words is dropped
    constructor
    · intro c hc
      have hslash : c ≠ '/' := fun heq => key.slash_not_mem_domain (heq ▸ hstem.subset hc)
      rw [endsDomainWord_iff, decide_eq_true_iff]
      exact mem_or_not_mem (List.Subset.refl _) hslash
    · intro c hc
      have hslash : c ≠ '/' := fun heq => key.slash_not_mem_name (heq ▸ hc)
      have hends : ['.', '-'] ⊆ ['.', '_', '-'] := by simp
      rw [endsNameWord_iff, decide_eq_true_iff]
      exact mem_or_not_mem hends hslash
  intro c hc hmem
  exact of_decide_eq_true (hall c hmem) hc

end Characters

/-- Laws settle how the sides of a key are spelled, and an identifier spells what is left of the
namespace and then the name. It holds no slash, no dot and no dash, and as many characters as there
are on both sides that are no separators. If no suffix is dropped, it does not depend on which
separators are between words, and on how many. -/
theorem derive_spells_words :
    (∀ spell, Spells ['.', '-'] (fun before after => after ++ before) spell ↔ spell = ofDomain) ∧
    (∀ spell, Spells ['.', '_', '-'] (fun before after => before ++ after) spell ↔
      spell = ofName) ∧
    (∀ key suffix, ∃ stem, Stem suffix key.domain stem ∧
      (derive key suffix).toList = ofDomain stem.toList ++ ofName key.name.toList ∧
      (∀ c ∈ ['/', '.', '-'], c ∉ (derive key suffix).toList) ∧
      (derive key suffix).length =
        stem.toList.countP (· ∉ ['.', '-']) + key.name.toList.countP (· ∉ ['.', '_', '-'])) ∧
    ∀ key other, Respaced ['.', '-'] key.domain.toList other.domain.toList →
      Respaced ['.', '_', '-'] key.name.toList other.name.toList →
      derive key "" = derive other "" := by
  refine ⟨?_, ?_, ?_, ?_⟩
  · intro spell
    exact ⟨fun h => h.eq spells_ofDomain, fun h => h ▸ spells_ofDomain⟩
  · intro spell
    exact ⟨fun h => h.eq spells_ofName, fun h => h ▸ spells_ofName⟩
  · intro key suffix
    obtain ⟨stem, hstem⟩ := exists_stem suffix key.domain
    have hspelled := toList_derive_of_stem hstem
    refine ⟨stem, hstem, hspelled, not_mem_derive key suffix, ?_⟩
    rw [← String.length_toList, hspelled, List.length_append, length_ofDomain, length_ofName]
  · intro key other hdomain hname
    have hwhole (domain : String) : Stem "" domain domain := .whole domain (Or.inl rfl)
    apply String.toList_injective
    rw [toList_derive_of_stem (hwhole key.domain), toList_derive_of_stem (hwhole other.domain),
      spells_ofDomain.eq_of_respaced List.append_nil List.nil_append hdomain,
      spells_ofName.eq_of_respaced List.nil_append List.append_nil hname]

end KeyCatalog.Identifier
