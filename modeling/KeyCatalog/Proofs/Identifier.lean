import KeyCatalog.Proofs.Listing.Part
/-!
Which names can be declared in a Go listing. A name has to be a Go identifier, and it must not take
the place of a predeclared name that the listing uses. The words of a derived identifier are
capitalized, so it is no keyword and no predeclared name, and only characters of its key can make it
unfit.
-/
namespace KeyCatalog
open Listing

namespace Letter

theorem lt_of_isLower {c : Char} (h : c.isLower = true) : c.toNat < 123 := by
  have hlast : c.val ≤ 'z'.val := of_decide_eq_true (Bool.and_eq_true_iff.mp h).2
  exact Nat.lt_succ_of_le (UInt32.le_iff_toNat_le.mp hlast)

/-- An ASCII letter in lower case has an upper case, and both are alphabetic. -/
theorem toUpper_of_isLower {c : Char} (h : c.isLower = true) :
    isAlphabetic c = true ∧ isAlphabetic c.toUpper = true ∧ c.toUpper.isLower = false := by
  have hletters : ∀ n < 123, (Char.ofNat n).isLower = true →
      isAlphabetic (Char.ofNat n) = true ∧ isAlphabetic (Char.ofNat n).toUpper = true ∧
        (Char.ofNat n).toUpper.isLower = false := by
    decide +kernel
  have hc := hletters c.toNat (lt_of_isLower h)
  rw [Char.ofNat_toNat] at hc
  exact hc h

theorem toUpper_of_not_isLower {c : Char} (h : ¬c.isLower = true) : c.toUpper = c := by
  have hrange : ¬('a'.val ≤ c.val ∧ c.val ≤ 'z'.val) := fun hrange =>
    h (Bool.and_eq_true_iff.mpr ⟨decide_eq_true hrange.1, decide_eq_true hrange.2⟩)
  exact dif_neg hrange

theorem isLower_toUpper (c : Char) : c.toUpper.isLower = false := by
  by_cases h : c.isLower = true
  · exact (toUpper_of_isLower h).2.2
  · rw [toUpper_of_not_isLower h]
    exact Bool.not_eq_true _ ▸ h

end Letter

namespace Package

def isFirstChar (c : Char) : Bool :=
  c = '_' || Letter.isAlphabetic c

theorem isNameChar_of_isFirstChar {c : Char} (h : isFirstChar c = true) : isNameChar c = true := by
  rw [isFirstChar, Bool.or_eq_true] at h
  rw [isNameChar, Letter.isAlphanumeric, Bool.or_eq_true, Bool.or_eq_true]
  exact h.imp_right Or.inl

theorem isFirstChar_toUpper (c : Char) : isFirstChar c.toUpper = isFirstChar c := by
  by_cases h : c.isLower = true
  · obtain ⟨hc, hupper, -⟩ := Letter.toUpper_of_isLower h
    rw [isFirstChar, isFirstChar, hc, hupper, Bool.or_true, Bool.or_true]
  · rw [Letter.toUpper_of_not_isLower h]

theorem isNameChar_toUpper (c : Char) : isNameChar c.toUpper = isNameChar c := by
  by_cases h : c.isLower = true
  · obtain ⟨hc, hupper, -⟩ := Letter.toUpper_of_isLower h
    simp only [isNameChar, Letter.isAlphanumeric, hc, hupper, Bool.true_or, Bool.or_true]
  · rw [Letter.toUpper_of_not_isLower h]

/-- An identifier starts well, goes on well and is no keyword. -/
theorem isIdentifier_iff {name : String} :
    isIdentifier name = true ↔
      name.toList.head?.any isFirstChar = true ∧ (∀ c ∈ name.toList, isNameChar c = true) ∧
        name ∉ keywords := by
  rw [isIdentifier]
  cases hname : name.toList with
  | nil => simp
  | cons first rest =>
    have hkeyword : (!keywords.contains name) = true ↔ name ∉ keywords := by
      rw [Bool.not_eq_true', ← Bool.not_eq_true, List.contains_iff_mem]
    rw [Bool.and_eq_true, Bool.and_eq_true, hkeyword, List.all_eq_true, List.head?_cons,
      Option.any_some, List.forall_mem_cons]
    constructor
    · rintro ⟨⟨hfirst, hrest⟩, hfree⟩
      exact ⟨hfirst, ⟨isNameChar_of_isFirstChar hfirst, hrest⟩, hfree⟩
    · rintro ⟨hfirst, ⟨-, hrest⟩, hfree⟩
      exact ⟨⟨hfirst, hrest⟩, hfree⟩

end Package

namespace Identifier

/-- The predeclared names of Go that the listing uses. -/
def predeclared : List String :=
  ["int", "string", "bool", "iota", "true", "false"]

/-- A name that can be declared in the Go listing. -/
structure Usable (name : String) : Prop where
  identifier : Package.isIdentifier name = true
  free : name ∉ predeclared

instance (name : String) : Decidable (Usable name) :=
  decidable_of_iff (Package.isIdentifier name = true ∧ name ∉ predeclared)
    ⟨fun h => ⟨h.1, h.2⟩, fun h => ⟨h.identifier, h.free⟩⟩

/-- The words of the identifier of a key, before they are capitalized. -/
def words (key : Key) (suffix : String) : List Text :=
  (Text.words endsDomainWord (Text.dropSuffix key.domain.toList suffix.toList)).reverse ++
    Text.words endsNameWord key.name.toList

/-- The key of an identifier that can be declared: its words have name characters only, and the
leading word does not start with a number. -/
structure Spellable (key : Key) (suffix : String) : Prop where
  domain : ∀ c ∈ Text.dropSuffix key.domain.toList suffix.toList,
    endsDomainWord c = true ∨ isNameChar c = true
  name : ∀ c ∈ key.name.toList, endsNameWord c = true ∨ isNameChar c = true
  first : ∃ c word others, words key suffix = (c :: word) :: others ∧ Package.isFirstChar c = true

/-- An identifier is its words one after the other, each capitalized. -/
theorem toList_derive (key : Key) (suffix : String) :
    (derive key suffix).toList = ((words key suffix).map Text.capitalize).flatten := by
  rw [derive, String.toList_ofList, ofDomain, ofName, words, List.map_append, List.flatten_append]

theorem ne_nil_of_mem_words {key : Key} {suffix : String} {word : Text}
    (hword : word ∈ words key suffix) : word ≠ [] := by
  rcases List.mem_append.mp hword with hdomain | hname
  · exact Text.ne_nil_of_mem_words (List.mem_reverse.mp hdomain)
  · exact Text.ne_nil_of_mem_words hname

theorem all_capitalize {p : Char → Bool} (hp : ∀ c, p c.toUpper = p c) (word : Text) :
    word.capitalize.all p = word.all p := by
  cases word with
  | nil => rfl
  | cons c rest => rw [Text.capitalize, List.all_cons, List.all_cons, hp]

/-- Capital letters aside, an identifier has the characters of its words. -/
theorem all_derive {p : Char → Bool} (hp : ∀ c, p c.toUpper = p c) (key : Key) (suffix : String) :
    (derive key suffix).toList.all p = (words key suffix).flatten.all p := by
  rw [toList_derive, List.all_flatten, List.all_flatten, List.all_map]
  exact List.all_congr rfl fun word => all_capitalize hp word

/-- An identifier starts with the first character of its first word, in upper case. -/
theorem head?_derive (key : Key) (suffix : String) :
    (derive key suffix).toList.head? =
      ((words key suffix).head?.bind List.head?).map Char.toUpper := by
  rw [toList_derive]
  cases hwords : words key suffix with
  | nil => rfl
  | cons word others =>
    have hword : word ≠ [] := ne_nil_of_mem_words (hwords ▸ List.mem_cons_self)
    cases word with
    | nil => exact absurd rfl hword
    | cons c rest => rfl

/-- The words of a text hold all of its characters but the separators. -/
theorem all_words (p : Char → Bool) (isSeparator : Char → Bool) (text : Text) :
    (Text.words isSeparator text).flatten.all p = true ↔
      ∀ c ∈ text, isSeparator c = true ∨ p c = true := by
  simp only [Text.flatten_words, List.all_filter, Bool.not_not, List.all_eq_true, Bool.or_eq_true]

/-- What holds of a character and of its upper case holds of an identifier as far as it holds of the
characters of the key that are no separators. -/
theorem forall_mem_derive_iff {p : Char → Bool} (hp : ∀ c, p c.toUpper = p c) {key : Key}
    {suffix : String} :
    (∀ c ∈ (derive key suffix).toList, p c = true) ↔
      (∀ c ∈ Text.dropSuffix key.domain.toList suffix.toList,
        endsDomainWord c = true ∨ p c = true) ∧
      ∀ c ∈ key.name.toList, endsNameWord c = true ∨ p c = true := by
  rw [← List.all_eq_true, all_derive hp, words, List.flatten_append, List.all_append,
    Bool.and_eq_true, all_words, List.all_flatten, List.all_reverse, ← List.all_flatten, all_words]

/-- A name that does not start with a lower-case letter is none of the reserved words that do. -/
theorem not_mem_of_isLower {name : String} {reserved : List String}
    (hreserved : ∀ word ∈ reserved, word.toList.head?.any Char.isLower = true)
    (hname : name.toList.head?.any Char.isLower = false) : name ∉ reserved := by
  intro hmem
  rw [hreserved name hmem] at hname
  cases hname

/-- A derived identifier never starts with a lower-case letter, so it is no keyword. -/
theorem isLower_head?_derive (key : Key) (suffix : String) :
    (derive key suffix).toList.head?.any Char.isLower = false := by
  rw [head?_derive]
  cases (words key suffix).head?.bind List.head? with
  | none => rfl
  | some c => exact Letter.isLower_toUpper c

/-- A derived identifier can be declared if its key has the characters for it; keywords and
predeclared names are in lower case, so it is none of these. -/
theorem usable_derive_iff {key : Key} {suffix : String} :
    Usable (derive key suffix) ↔ Spellable key suffix := by
  -- reserved words start with a lower-case letter, and identifiers never do
  have hkeyword : derive key suffix ∉ Package.keywords :=
    not_mem_of_isLower (by decide +kernel) (isLower_head?_derive key suffix)
  have hpredeclared : derive key suffix ∉ predeclared :=
    not_mem_of_isLower (by decide +kernel) (isLower_head?_derive key suffix)
  -- the first character is that of the leading word
  have hfirst : (derive key suffix).toList.head?.any Package.isFirstChar = true ↔
      ∃ c word others, words key suffix = (c :: word) :: others ∧
        Package.isFirstChar c = true := by
    rw [head?_derive]
    cases hwords : words key suffix with
    | nil => simp
    | cons word others =>
      cases word with
      | nil => exact absurd rfl (ne_nil_of_mem_words (hwords ▸ List.mem_cons_self))
      | cons c word => simp [Package.isFirstChar_toUpper]
  constructor
  · rintro ⟨hidentifier, -⟩
    obtain ⟨hhead, hall, -⟩ := Package.isIdentifier_iff.mp hidentifier
    obtain ⟨hdomain, hname⟩ := (forall_mem_derive_iff Package.isNameChar_toUpper).mp hall
    exact ⟨hdomain, hname, hfirst.mp hhead⟩
  · rintro ⟨hdomain, hname, hhead⟩
    have hall := (forall_mem_derive_iff Package.isNameChar_toUpper).mpr ⟨hdomain, hname⟩
    exact ⟨Package.isIdentifier_iff.mpr ⟨hfirst.mpr hhead, hall, hkeyword⟩, hpredeclared⟩

end Identifier
end KeyCatalog
