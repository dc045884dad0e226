import KeyCatalog.Key
import KeyCatalog.Proofs.Text
/-!
Which texts are keys. A text with one slash has one pair of halves, and it is split at the byte of
that slash. A key is read from a text whose halves are not empty, and from its own text alone, so
keys with one text are one key. Every other text is refused for the first reason that applies to it.
-/
namespace KeyCatalog.Key

/-- A text with one slash, and what stands on both sides of the slash. -/
structure Halves (domain name text : String) : Prop where
  text : text = domain ++ "/" ++ name
  domain : '/' ∉ domain.toList
  name : '/' ∉ name.toList

/-- The first reason for which a text is no key. -/
inductive Rejects (text : String) : ParseError → Prop
  | empty (h : text = "") : Rejects text .empty
  | separators (hne : text ≠ "") (h : text.toList.count '/' ≠ 1) :
    Rejects text (.separators text (text.toList.count '/'))
  | emptyDomain {name : String} (h : Halves "" name text) : Rejects text (.emptyDomain text)
  | emptyName {domain : String} (hne : domain ≠ "") (h : Halves domain "" text) :
    Rejects text (.emptyName text)

variable {text domain name : String} {error : ParseError}

namespace Halves

theorem of_key (key : Key) : Halves key.domain key.name key.text :=
  ⟨rfl, key.slash_not_mem_domain, key.slash_not_mem_name⟩

/-- What a text is split to at its only slash are its halves. -/
theorem of_toList {before after : Text} (htext : text.toList = before ++ '/' :: after)
    (hbefore : '/' ∉ before) (hafter : '/' ∉ after) :
    Halves (String.ofList before) (String.ofList after) text := by
  refine ⟨?_, by rwa [String.toList_ofList], by rwa [String.toList_ofList]⟩
  apply String.toList_injective
  simp only [htext, String.toList_append, String.toList_ofList, List.append_assoc]
  rfl

theorem toList_eq (h : Halves domain name text) :
    text.toList = domain.toList ++ '/' :: name.toList := by
  rw [h.text, String.toList_append, String.toList_append, List.append_assoc]
  rfl

/-- The halves and the slash make up all bytes of a text. -/
theorem utf8ByteSize_eq (h : Halves domain name text) :
    text.utf8ByteSize = domain.utf8ByteSize + 1 + name.utf8ByteSize := by
  rw [h.text, String.utf8ByteSize_append, String.utf8ByteSize_append]
  rfl

theorem count_eq_one (h : Halves domain name text) : text.toList.count '/' = 1 := by
  rw [h.toList_eq, List.count_append, List.count_cons_self, List.count_eq_zero.mpr h.domain,
    List.count_eq_zero.mpr h.name]

theorem ne_empty (h : Halves domain name text) : text ≠ "" := by
  rintro rfl
  cases h.count_eq_one

/-- A text is split where the bytes of its first half end. -/
theorem offset?_eq (h : Halves domain name text) :
    Text.offset? '/' text.toList = some domain.utf8ByteSize := by
  rw [h.toList_eq, Text.offset?_append h.domain, String.ofList_toList]

/-- A text has at most one pair of halves. -/
theorem unique (h : Halves domain name text) {otherDomain otherName : String}
    (hother : Halves otherDomain otherName text) : otherDomain = domain ∧ otherName = name := by
  have htext := hother.toList_eq.symm.trans h.toList_eq
  -- the slash in front of the second half is the only one
  obtain ⟨hdomain, -, hname⟩ :=
    (List.append_cons_inj_of_notMem hother.domain hother.name).mp htext
  exact ⟨String.toList_injective hdomain, String.toList_injective hname⟩

end Halves

/-- A text with one slash has halves, which may be empty. -/
theorem exists_halves_of_count (h : text.toList.count '/' = 1) :
    ∃ domain name, Halves domain name text := by
  have hmem : '/' ∈ text.toList := List.count_pos_iff.mp (by omega)
  obtain ⟨before, after, htext⟩ := List.append_of_mem hmem
  rw [htext, List.count_append, List.count_cons_self] at h
  exact ⟨_, _, .of_toList htext (List.count_eq_zero.mp (by omega))
    (List.count_eq_zero.mp (by omega))⟩

/-- A text without halves has none or several slashes, and one with halves is a key unless one of
them is empty. -/
theorem halves_or_rejects (text : String) :
    (∃ domain name, Halves domain name text ∧ domain ≠ "" ∧ name ≠ "") ∨
      ∃ error, Rejects text error := by
  by_cases hne : text = ""
  · exact .inr ⟨_, .empty hne⟩
  by_cases hcount : text.toList.count '/' = 1
  · obtain ⟨domain, name, h⟩ := exists_halves_of_count hcount
    by_cases hdomain : domain = ""
    · exact .inr ⟨_, .emptyDomain (hdomain ▸ h)⟩
    by_cases hname : name = ""
    · exact .inr ⟨_, .emptyName hdomain (hname ▸ h)⟩
    exact .inl ⟨domain, name, h, hdomain, hname⟩
  · exact .inr ⟨_, .separators hne hcount⟩

theorem Split.halves (split : Split text) : Halves split.key.domain split.key.name text :=
  .of_toList split.toList_eq split.slash_not_mem.1 split.slash_not_mem.2

/-- What is read of a text with one slash depends on which of its halves are empty. -/
theorem parse_of_halves (h : Halves domain name text) :
    (domain = "" → parse text = .error (.emptyDomain text)) ∧
    (domain ≠ "" → name = "" → parse text = .error (.emptyName text)) ∧
    (domain ≠ "" → name ≠ "" → ∃ key, parse text = .ok key ∧ key.domain = domain ∧
      key.name = name) := by
  have hfirst : domain.utf8ByteSize = 0 ↔ domain = "" := String.utf8ByteSize_eq_zero_iff
  -- the checks of offsets say which half is empty
  have hlast : domain.utf8ByteSize + 1 = text.utf8ByteSize ↔ name = "" := by
    rw [h.utf8ByteSize_eq, ← String.utf8ByteSize_eq_zero_iff]
    omega
  rw [parse, if_neg h.ne_empty, dif_pos h.count_eq_one]
  split
  · next hnone =>
    rw [h.offset?_eq] at hnone
    cases hnone
  next offset hfound =>
  obtain rfl : domain.utf8ByteSize = offset := Option.some.inj (h.offset?_eq.symm.trans hfound)
  refine ⟨fun hempty => dif_pos (hfirst.mpr hempty), ?_, ?_⟩
  · intro hdomain hempty
    rw [dif_neg (mt hfirst.mp hdomain), dif_pos (hlast.mpr hempty)]
  · intro hdomain hname
    rw [dif_neg (mt hfirst.mp hdomain), dif_neg (mt hlast.mp hname)]
    exact ⟨_, rfl, h.unique (Split.halves _)⟩

/-- Reading gives the first reason that applies. -/
theorem parse_of_rejects (h : Rejects text error) : parse text = .error error := by
  cases h with
  | empty h => rw [parse, if_pos h]
  | separators hne hcount => rw [parse, if_neg hne, dif_neg hcount]
  | emptyDomain h => exact (parse_of_halves h).1 rfl
  | emptyName hne h => exact (parse_of_halves h).2.1 hne rfl

theorem text_ne_empty (key : Key) : key.text ≠ "" :=
  (Halves.of_key key).ne_empty

/-- The text of a key is read as that key. -/
theorem parse_text (key : Key) : parse key.text = .ok key := by
  obtain ⟨other, hparse, hdomain, hname⟩ :=
    (parse_of_halves (.of_key key)).2.2 key.domain_ne_empty key.name_ne_empty
  rw [hparse]
  cases key
  cases other
  simp only at hdomain hname
  subst hdomain hname
  rfl

/-- Keys are told apart by their texts. -/
theorem text_injective : Function.Injective Key.text := by
  intro key other h
  have hparse := parse_text key
  rw [h, parse_text other] at hparse
  exact (Except.ok.inj hparse).symm

/-- A text is read as a key exactly if it is the text of that key. -/
theorem parse_eq_ok_iff {key : Key} : parse text = .ok key ↔ key.text = text := by
  constructor
  · intro h
    rcases halves_or_rejects text with ⟨domain, name, hhalves, hdomain, hname⟩ | ⟨error, herror⟩
    · obtain ⟨other, hparse, rfl, rfl⟩ := (parse_of_halves hhalves).2.2 hdomain hname
      cases h.symm.trans hparse
      exact hhalves.text.symm
    · cases h.symm.trans (parse_of_rejects herror)
  · rintro rfl
    exact parse_text key

/-- A text is refused exactly for the reason that applies to it. -/
theorem parse_eq_error_iff : parse text = .error error ↔ Rejects text error := by
  refine ⟨?_, parse_of_rejects⟩
  intro h
  rcases halves_or_rejects text with ⟨domain, name, hhalves, hdomain, hname⟩ | ⟨other, hother⟩
  · obtain ⟨key, hparse, -, -⟩ := (parse_of_halves hhalves).2.2 hdomain hname
    cases h.symm.trans hparse
  · cases h.symm.trans (parse_of_rejects hother)
    exact hother

/-- The byte at an offset of a text stands between two texts: it is a whole character, the bytes in
front of it are those of the one text and the bytes behind it those of the other. -/
structure Divides (text : String) (offset : Nat) (domain name : String) : Prop where
  start : String.Pos.Raw.IsValid text ⟨offset⟩
  next : String.Pos.Raw.IsValid text ⟨offset + 1⟩
  front : text.toByteArray.extract 0 offset = domain.toByteArray
  behind : text.toByteArray.extract (offset + 1) text.utf8ByteSize = name.toByteArray

/-- The slash is a whole character between the halves. -/
theorem Halves.divides (h : Halves domain name text) :
    Divides text domain.utf8ByteSize domain name := by
  have hbytes : text.toByteArray = (domain ++ "/").toByteArray ++ name.toByteArray := by
    rw [h.text, String.toByteArray_append]
  have hslash : (domain ++ "/").utf8ByteSize = domain.utf8ByteSize + 1 :=
    String.utf8ByteSize_append
  have hname : text = domain ++ ("/" ++ name) := by rw [h.text, String.append_assoc]
  refine ⟨?_, ?_, ?_, ?_⟩
  · exact String.Pos.Raw.isValid_iff_exists_append.mpr ⟨domain, "/" ++ name, hname, rfl⟩
  · refine String.Pos.Raw.isValid_iff_exists_append.mpr ⟨domain ++ "/", name, h.text, ?_⟩
    rw [← hslash]
    rfl
  · rw [hname, String.toByteArray_append]
    exact ByteArray.extract_append_eq_left rfl
  · rw [hbytes, ← hslash]
    apply ByteArray.extract_append_eq_right rfl
    rw [h.utf8ByteSize_eq, ← hslash]
    rfl

/-- The texts that are keys are those of two halves that are not empty. Such a text is split at the
byte of its slash, which no other character has a part in, and the halves are the namespace and the
name. Every other text is refused for the first reason that applies; that it has one slash which is
not found is never the reason. Two texts with the same namespace and the same name are one. -/
theorem parse_splits_text (text : String) :
    ((∃ key, parse text = .ok key) ↔
      ∃ domain name, Halves domain name text ∧ domain ≠ "" ∧ name ≠ "") ∧
    (∀ domain name, Halves domain name text → domain ≠ "" → name ≠ "" → ∃ key offset,
      parse text = .ok key ∧ key.text = text ∧ key.domain = domain ∧ key.name = name ∧
      Text.offset? '/' text.toList = some offset ∧ Divides text offset domain name) ∧
    (∀ error, parse text = .error error ↔ Rejects text error) ∧
    (∀ other, parse text ≠ .error (.unseparated other)) ∧
    ∀ other key otherKey, parse text = .ok key → parse other = .ok otherKey →
      key.domain = otherKey.domain → key.name = otherKey.name → text = other := by
  refine ⟨?_, ?_, fun error => parse_eq_error_iff, ?_, ?_⟩
  · constructor
    · rintro ⟨key, hkey⟩
      obtain rfl := parse_eq_ok_iff.mp hkey
      exact ⟨_, _, .of_key key, key.domain_ne_empty, key.name_ne_empty⟩
    · rintro ⟨domain, name, h, hdomain, hname⟩
      obtain ⟨key, hkey, -, -⟩ := (parse_of_halves h).2.2 hdomain hname
      exact ⟨key, hkey⟩
  · intro domain name h hdomain hname
    obtain ⟨key, hkey, hkeyDomain, hkeyName⟩ := (parse_of_halves h).2.2 hdomain hname
    exact ⟨key, domain.utf8ByteSize, hkey, parse_eq_ok_iff.mp hkey, hkeyDomain, hkeyName,
      h.offset?_eq, h.divides⟩
  · intro other hparse
    cases parse_eq_error_iff.mp hparse
  · intro other key otherKey hkey hother hdomain hname
    rw [← parse_eq_ok_iff.mp hkey, ← parse_eq_ok_iff.mp hother, Key.text, Key.text, hdomain, hname]

/-- A text whose halves have characters of several bytes. The slash is its fourth byte, behind a
character of two bytes and one of a single byte. -/
theorem parse_splits_text_accents :
    (∃ key, parse "éx/日" = .ok key ∧ key.domain = "éx" ∧ key.name = "日") ∧
    Divides "éx/日" 3 "éx" "日" := by
  have hhalves : Halves "éx" "日" "éx/日" := ⟨by decide, by decide, by decide⟩
  obtain ⟨key, offset, hkey, -, hdomain, hname, hoffset, hdivides⟩ :=
    (parse_splits_text "éx/日").2.1 "éx" "日" hhalves (by decide) (by decide)
  have hthree : Text.offset? '/' "éx/日".toList = some 3 := by decide
  obtain rfl : 3 = offset := Option.some.inj (hthree.symm.trans hoffset)
  exact ⟨⟨key, hkey, hdomain, hname⟩, hdivides⟩

end KeyCatalog.Key
