import KeyCatalog.Proofs.FileTree
import Mathlib.Data.List.Basic
import Mathlib.Data.String.Basic
/-!
The order of texts is the order of their bytes in UTF-8. The first byte of a character tells how
many bytes it has, more for greater characters; bytes of one number of bytes are the digits of the
character, the most significant one first. So no character's bytes start another's, and the first
character in which two texts differ decides in both orders.
-/
namespace KeyCatalog.Bytes

theorem ofText_eq_flatMap (text : String) :
    ofText text = text.toList.flatMap String.utf8EncodeChar := by
  conv => lhs; rw [← String.ofList_toList (s := text)]
  rw [ofText, String.toUTF8_eq_toByteArray, String.toByteArray_ofList, List.utf8Encode,
    List.data_toByteArray, List.toList_toArray]

theorem code_lt (c : Char) : c.val.toNat < 0x110000 := by
  rcases c.valid with h | ⟨-, h⟩
  · have hcode : c.val.toNat < 0xd800 := h
    omega
  · exact h

/-- The bytes of a character come before those of a greater one, whatever follows them. -/
theorem utf8EncodeChar_append_lt {c d : Char} (h : c < d) (rest more : Bytes) :
    String.utf8EncodeChar c ++ rest < String.utf8EncodeChar d ++ more := by
  have hcode : c.val.toNat < d.val.toNat := h
  have hbound : d.val.toNat < 0x110000 := code_lt d
  unfold String.utf8EncodeChar
  generalize c.val.toNat = low at *
  generalize d.val.toNat = high at *
  dsimp only
  -- the last digits decide only where the leading digits agree
  have hleading : low / 4096 < high / 4096 ∨ low / 4096 = high / 4096 := by omega
  -- one case for each pair of numbers of bytes
  split_ifs
  all_goals
    simp only [List.cons_append, List.nil_append, List.cons_lt_cons_iff, UInt8.lt_iff_toNat_lt,
      ← UInt8.toNat_inj, UInt8.toNat_ofNat']
    rcases hleading with hleading | hleading <;> omega

theorem flatMap_utf8EncodeChar_lt {text other : Text} (h : text < other) :
    text.flatMap String.utf8EncodeChar < other.flatMap String.utf8EncodeChar := by
  induction text generalizing other with
  | nil =>
    cases other with
    | nil => exact absurd h (List.lt_irrefl [])
    | cons d other =>
      obtain ⟨byte, rest, hbytes⟩ :=
        List.exists_cons_of_ne_nil (String.utf8EncodeChar_ne_nil (c := d))
      rw [List.flatMap_nil, List.flatMap_cons, hbytes, List.cons_append]
      exact List.nil_lt_cons byte _
  | cons c text ih =>
    cases other with
    | nil => exact absurd h (List.not_lt_nil _)
    | cons d other =>
      rw [List.flatMap_cons, List.flatMap_cons]
      -- the first characters decide, or they are equal and so are their bytes
      rcases List.cons_lt_cons_iff.mp h with hlt | ⟨rfl, hlt⟩
      · exact utf8EncodeChar_append_lt hlt _ _
      · exact List.append_left_lt (ih hlt)

/-- Texts are in the order of their bytes. -/
theorem ofText_lt_ofText_iff {text other : String} : ofText text < ofText other ↔ text < other := by
  have hmono {first second : String} (h : first < second) : ofText first < ofText second := by
    rw [ofText_eq_flatMap, ofText_eq_flatMap]
    exact flatMap_utf8EncodeChar_lt (String.lt_iff_toList_lt.mp h)
  refine ⟨?_, hmono⟩
  intro h
  rcases lt_trichotomy text other with hlt | rfl | hgt
  · exact hlt
  · exact absurd h (List.lt_irrefl _)
  · exact absurd h (List.lt_asymm (hmono hgt))

end KeyCatalog.Bytes
