import KeyCatalog.Text
import Mathlib.Data.List.Forall2
/-!
Texts that are equal up to the case of ASCII letters. Only the letters from `A` to `Z` have a lower
case, 32 characters behind them; every other character is alike to itself alone, whatever it looks
like.
-/
namespace KeyCatalog.Text

/-- Equal characters, and the two cases of an ASCII letter. -/
inductive SameLetter : Char → Char → Prop
  | same (c : Char) : SameLetter c c
  | lowered {c d : Char} (hc : 'A' ≤ c ∧ c ≤ 'Z') (hd : d.toNat = c.toNat + 32) : SameLetter c d
  | raised {c d : Char} (hd : 'A' ≤ d ∧ d ≤ 'Z') (hc : c.toNat = d.toNat + 32) : SameLetter c d

def Alike (text other : Text) : Prop :=
  List.Forall₂ SameLetter text other

/-- Holds for a text whose first characters are a word, up to the case of ASCII letters. -/
def Begins (text word : Text) : Prop :=
  ∃ front rest, text = front ++ rest ∧ Alike front word

variable {c d : Char} {text other word : Text}

theorem toNat_toLower_of_capital (h : 'A' ≤ c ∧ c ≤ 'Z') : c.toLower.toNat = c.toNat + 32 := by
  have hlower : c.toLower.val = c.val + 32 := congrArg Char.val (dif_pos h)
  have hbound : c.val.toNat ≤ 90 := UInt32.le_iff_toNat_le.mp h.2
  calc c.toLower.toNat
    _ = (c.val + 32).toNat := congrArg UInt32.toNat hlower
    _ = c.toNat + 32 := by
      rw [UInt32.toNat_add]
      exact Nat.mod_eq_of_lt (show c.val.toNat + 32 < 4294967296 by omega)

theorem toLower_of_not_capital (h : ¬('A' ≤ c ∧ c ≤ 'Z')) : c.toLower = c :=
  dif_neg h

/-- A letter in lower case is no capital, so it is its own lower case. -/
theorem toLower_eq_of_lowered (hc : 'A' ≤ c ∧ c ≤ 'Z') (hd : d.toNat = c.toNat + 32) :
    c.toLower = d.toLower := by
  have hfirst : 65 ≤ c.toNat := UInt32.le_iff_toNat_le.mp hc.1
  have hnot : ¬('A' ≤ d ∧ d ≤ 'Z') := by
    rintro ⟨-, hlast⟩
    have hlast : d.toNat ≤ 90 := UInt32.le_iff_toNat_le.mp hlast
    omega
  apply Char.toNat_inj.mp
  rw [toNat_toLower_of_capital hc, toLower_of_not_capital hnot, hd]

/-- Folding makes the two cases of a letter equal and keeps all other characters apart. -/
theorem toLower_eq_toLower_iff : c.toLower = d.toLower ↔ SameLetter c d := by
  constructor
  · intro h
    by_cases hc : 'A' ≤ c ∧ c ≤ 'Z'
    · have hlower := toNat_toLower_of_capital hc
      by_cases hd : 'A' ≤ d ∧ d ≤ 'Z'
      · rw [h, toNat_toLower_of_capital hd] at hlower
        -- both capitals are moved by the same distance
        obtain rfl : c = d := Char.toNat_inj.mp (by omega)
        exact .same c
      · rw [h, toLower_of_not_capital hd] at hlower
        exact .lowered hc hlower
    · rw [toLower_of_not_capital hc] at h
      by_cases hd : 'A' ≤ d ∧ d ≤ 'Z'
      · exact .raised hd (h ▸ toNat_toLower_of_capital hd)
      · rw [toLower_of_not_capital hd] at h
        exact h ▸ .same c
  · intro h
    cases h with
    | same => rfl
    | lowered hc hd => exact toLower_eq_of_lowered hc hd
    | raised hd hc => exact (toLower_eq_of_lowered hd hc).symm

theorem alike_iff : Alike text other ↔ text.map Char.toLower = other.map Char.toLower := by
  rw [Alike, ← List.forall₂_eq_eq_eq, List.forall₂_map_left_iff, List.forall₂_map_right_iff]
  simp only [toLower_eq_toLower_iff]

instance (text other : Text) : Decidable (Alike text other) :=
  decidable_of_iff _ alike_iff.symm

/-- The comparison decides equality up to case. -/
theorem equalUpToCase_iff : equalUpToCase text other = true ↔ Alike text other := by
  rw [equalUpToCase, beq_iff_eq, alike_iff]

theorem Alike.symm (h : Alike text other) : Alike other text :=
  alike_iff.mpr (alike_iff.mp h).symm

theorem Alike.trans {next : Text} (h : Alike text next) (hnext : Alike next other) :
    Alike text other :=
  alike_iff.mpr ((alike_iff.mp h).trans (alike_iff.mp hnext))

/-- Letters come behind the digits and the separators, so what is in front of them has one case. -/
theorem SameLetter.eq_of_lt (h : SameLetter c d) (hd : d.toNat < 65) : c = d := by
  cases h with
  | same => rfl
  | lowered hc hlower =>
    have hfirst : 65 ≤ c.toNat := UInt32.le_iff_toNat_le.mp hc.1
    omega
  | raised hcapital =>
    have hfirst : 65 ≤ d.toNat := UInt32.le_iff_toNat_le.mp hcapital.1
    omega

theorem Alike.mem_of_mem (h : Alike text other) (hc : c.toNat < 65) (hmem : c ∈ text) :
    c ∈ other := by
  have hlower : c.toLower ∈ other.map Char.toLower := alike_iff.mp h ▸ List.mem_map_of_mem hmem
  obtain ⟨d, hd, hsame⟩ := List.mem_map.mp hlower
  rwa [← (toLower_eq_toLower_iff.mp hsame).eq_of_lt hc]

/-- A character that is no letter has only itself at the end of an equal text. -/
theorem Alike.append_singleton_iff (hc : c.toNat < 65) :
    Alike text (word ++ [c]) ↔ ∃ front, text = front ++ [c] ∧ Alike front word := by
  constructor
  · intro h
    have hlast : Alike (text.drop word.length) [c] := List.forall₂_drop_append _ _ _ h
    obtain ⟨d, rest, hd, hrest, hdrop⟩ := List.forall₂_cons_right_iff.mp hlast
    obtain rfl := List.forall₂_nil_right_iff.mp hrest
    refine ⟨text.take word.length, ?_, List.forall₂_take_append _ _ _ h⟩
    rw [← hd.eq_of_lt hc, ← hdrop, List.take_append_drop]
  · rintro ⟨front, rfl, h⟩
    exact List.rel_append h (.cons (.same c) .nil)

theorem begins_congr (h : Alike word other) : Begins text word ↔ Begins text other := by
  constructor
  · rintro ⟨front, rest, htext, hfront⟩
    exact ⟨front, rest, htext, hfront.trans h⟩
  · rintro ⟨front, rest, htext, hfront⟩
    exact ⟨front, rest, htext, hfront.trans h.symm⟩

/-- A text begins with a word and a separator if its characters up to the first such separator are
that word. -/
theorem begins_append_singleton_iff (hc : c.toNat < 65) (hword : c ∉ word) :
    Begins text (word ++ [c]) ↔ c ∈ text ∧ Alike (text.takeWhile (· ≠ c)) word := by
  have htake {front : Text} (hfront : c ∉ front) (rest : Text) :
      (front ++ c :: rest).takeWhile (· ≠ c) = front := by
    rw [List.takeWhile_append_of_pos, List.takeWhile_cons_of_neg (by simp), List.append_nil]
    intro d hd
    exact decide_eq_true fun heq => hfront (heq ▸ hd)
  constructor
  · rintro ⟨front, rest, rfl, h⟩
    -- the character is no letter, so it stands in the text as it is
    obtain ⟨label, rfl, hlabel⟩ := (Alike.append_singleton_iff hc).mp h
    have hfree : c ∉ label := fun hmem => hword (hlabel.mem_of_mem hc hmem)
    rw [List.append_assoc, List.singleton_append, htake hfree]
    exact ⟨by simp, hlabel⟩
  · rintro ⟨hmem, h⟩
    obtain ⟨label, rest, rfl, hfree⟩ := List.eq_append_cons_of_mem hmem
    rw [htake hfree] at h
    exact ⟨label ++ [c], rest, by simp, (Alike.append_singleton_iff hc).mpr ⟨label, rfl, h⟩⟩

/-- What a text begins with is settled in front of a character that is not in the word. -/
theorem begins_append_cons_iff (hc : c.toNat < 65) (hword : c ∉ word) (rest : Text) :
    Begins (text ++ c :: rest) word ↔ Begins text word := by
  constructor
  · rintro ⟨front, behind, hsplit, h⟩
    rcases List.append_eq_append_iff.mp hsplit with ⟨more, rfl, hmore⟩ | ⟨more, rfl, -⟩
    -- the word ends behind the text, so it would hold the character
    · cases more with
      | nil => exact ⟨text, [], by simp, by simpa using h⟩
      | cons d more =>
        obtain ⟨rfl, -⟩ := List.cons.inj hmore
        exact absurd (h.mem_of_mem hc (by simp)) hword
    · exact ⟨front, more, rfl, h⟩
  · rintro ⟨front, behind, rfl, h⟩
    exact ⟨front, behind ++ c :: rest, by simp, h⟩

end KeyCatalog.Text
