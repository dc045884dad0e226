/-!
Text as a list of characters, and the operations on it that keys, literals and listings share:
replacing every match of a pattern, splitting at separators, finding a character and cutting at an
offset, dropping a suffix and capitalizing.
All of them recurse on the characters, so a law about them is an induction on the text.
-/
namespace KeyCatalog

/-- Text as the list of its characters; strings order and compare as these lists do. -/
abbrev Text := List Char

namespace Text

/-- Replaces every match of a non-empty pattern from the left; `skip` counts the characters of
the last match that are still to be passed over. -/
def replaceFrom (pattern replacement : Text) : (skip : Nat) → Text → Text
  | _, [] => []
  | skip + 1, _ :: rest => replaceFrom pattern replacement skip rest
  | 0, c :: rest =>
    if pattern.isPrefixOf (c :: rest) then
      replacement ++ replaceFrom pattern replacement (pattern.length - 1) rest
    else
      c :: replaceFrom pattern replacement 0 rest

/-- Replaces the non-overlapping matches of a pattern from the left. The empty pattern matches
before every character and at the end. -/
def replace (text pattern replacement : Text) : Text :=
  if pattern.isEmpty then text.flatMap (fun c => replacement ++ [c]) ++ replacement
  else replaceFrom pattern replacement 0 text

def substitute (text : Text) (old new : Char) : Text :=
  text.map fun c => if c = old then new else c

/-- The parts between separators; there is always one part more than there are separators. -/
def split (isSeparator : Char → Bool) : Text → List Text
  | [] => [[]]
  | c :: rest =>
    match isSeparator c, split isSeparator rest with
    | true, parts => [] :: parts
    | false, [] => [[c]]
    | false, part :: parts => (c :: part) :: parts

theorem split_ne_nil (isSeparator : Char → Bool) (text : Text) :
    split isSeparator text ≠ [] := by
  cases text with
  | nil => simp [split]
  | cons c rest =>
    cases h : isSeparator c <;> cases hs : split isSeparator rest <;> simp [split, h, hs]

theorem split_cons_of_separator {isSeparator : Char → Bool} {c : Char} (rest : Text)
    (h : isSeparator c = true) : split isSeparator (c :: rest) = [] :: split isSeparator rest := by
  simp [split, h]

theorem split_cons_of_not_separator {isSeparator : Char → Bool} {c : Char} (rest : Text)
    (h : isSeparator c = false) :
    split isSeparator (c :: rest) =
      (c :: (split isSeparator rest).headD []) :: (split isSeparator rest).tail := by
  cases hs : split isSeparator rest with
  | nil => exact absurd hs (split_ne_nil isSeparator rest)
  | cons part parts => simp [split, h, hs]

theorem not_separator_of_mem_split {isSeparator : Char → Bool} {text part : Text}
    (hpart : part ∈ split isSeparator text) : ∀ c ∈ part, isSeparator c = false := by
  induction text generalizing part with
  | nil => simp [split] at hpart; simp [hpart]
  | cons d rest ih =>
    cases h : isSeparator d with
    | true =>
      rw [split_cons_of_separator rest h, List.mem_cons] at hpart
      rcases hpart with rfl | hpart
      · simp
      · exact ih hpart
    | false =>
      -- the character goes in front of the first part of the rest
      cases hs : split isSeparator rest with
      | nil => exact absurd hs (split_ne_nil isSeparator rest)
      | cons first others =>
        rw [split_cons_of_not_separator rest h, hs, List.headD_cons, List.tail_cons,
          List.mem_cons] at hpart
        rcases hpart with rfl | hpart
        · intro c hc
          rcases List.mem_cons.mp hc with rfl | hc
          · exact h
          · exact ih (by simp [hs]) c hc
        · exact ih (by simp [hs, hpart])

def words (isSeparator : Char → Bool) (text : Text) : List Text :=
  (split isSeparator text).filter fun part => !part.isEmpty

/-- Drops one copy of a non-empty suffix if the text ends with it. -/
def dropSuffix (text suffix : Text) : Text :=
  if suffix.isSuffixOf text then text.take (text.length - suffix.length) else text

/-- The offset in bytes of the first occurrence of a character. -/
def offset? (c : Char) : Text → Option Nat
  | [] => none
  | d :: rest => if d = c then some 0 else (offset? c rest).map (d.utf8Size + ·)

/-- The parts of a text in front of an offset in bytes and behind it. There are none if the offset
falls inside a character or past the end. -/
def cut? : Text → (offset : Nat) → Option (Text × Text)
  | [], offset => if offset = 0 then some ([], []) else none
  | c :: rest, offset =>
    if offset = 0 then some ([], c :: rest)
    else if offset < c.utf8Size then none
    else (cut? rest (offset - c.utf8Size)).map fun parts => (c :: parts.1, parts.2)

theorem utf8ByteSize_ofList_cons (c : Char) (rest : Text) :
    (String.ofList (c :: rest)).utf8ByteSize =
      c.utf8Size + (String.ofList rest).utf8ByteSize := by
  rw [String.ofList_cons, String.utf8ByteSize_append, String.utf8ByteSize_singleton]

/-- An offset splits a text in front of the first occurrence. -/
theorem exists_append_of_offset? {c : Char} {text : Text} {offset : Nat}
    (h : offset? c text = some offset) :
    ∃ before after, text = before ++ c :: after ∧ c ∉ before ∧
      offset = (String.ofList before).utf8ByteSize := by
  induction text generalizing offset with
  | nil => cases h
  | cons d rest ih =>
    rw [offset?] at h
    split at h
    · next hd =>
      subst hd
      cases h
      exact ⟨[], rest, rfl, List.not_mem_nil, rfl⟩
    · next hd =>
      -- a character in front moves the offset by its bytes
      obtain ⟨shorter, hshorter, rfl⟩ := Option.map_eq_some_iff.mp h
      obtain ⟨before, after, rfl, hbefore, rfl⟩ := ih hshorter
      refine ⟨d :: before, after, rfl, ?_, (utf8ByteSize_ofList_cons d before).symm⟩
      exact List.not_mem_cons_of_ne_of_not_mem (Ne.symm hd) hbefore

/-- A text is cut where the bytes of its first characters end. -/
theorem cut?_append (before after : Text) :
    cut? (before ++ after) (String.ofList before).utf8ByteSize = some (before, after) := by
  induction before with
  | nil => cases after <;> rfl
  | cons c before ih =>
    have hpos : 0 < c.utf8Size := c.utf8Size_pos
    rw [utf8ByteSize_ofList_cons, List.cons_append, cut?, if_neg (by omega), if_neg (by omega),
      Nat.add_sub_cancel_left, ih]
    rfl

/-- Makes the first character upper case if it is an ASCII letter. -/
def capitalize : Text → Text
  | [] => []
  | c :: rest => c.toUpper :: rest

def equalUpToCase (a b : Text) : Bool :=
  a.map Char.toLower == b.map Char.toLower

end Text
end KeyCatalog
