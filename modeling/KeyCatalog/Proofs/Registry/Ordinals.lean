import KeyCatalog.Proofs.Registry
import KeyCatalog.Proofs.Utf8
import Mathlib.Data.List.Perm.Subperm
/-!
The numbering of tags. An ordinal is one more than the position of its tag, so the ordinal of a name
and the name of an ordinal undo each other. As the tags ascend, the ordinal of a tag is its rank, the
number of tags that are not greater: it tells which tags are there, and nothing of their history.
-/
namespace KeyCatalog.Registry

variable {registry other : Registry} {tag later : String} {ordinal next : Nat}

/-- Ordinals and names are inverse to each other within the registry. -/
theorem ordinal?_eq_some_iff (h : registry.names.Pairwise (· < ·)) :
    registry.ordinal? tag = some ordinal ↔
      1 ≤ ordinal ∧ ordinal ≤ registry.size ∧ registry.name ordinal = tag := by
  rw [ordinal?_eq_some_iff_getElem? h]
  constructor
  · rintro ⟨position, htag, rfl⟩
    rw [getElem?_names, Option.ite_none_right_eq_some, Option.some_inj] at htag
    exact ⟨Nat.le_add_left 1 position, htag⟩
  · rintro ⟨hfirst, hlast, rfl⟩
    obtain ⟨position, rfl⟩ : ∃ position, ordinal = position + 1 := ⟨ordinal - 1, by omega⟩
    refine ⟨position, ?_, rfl⟩
    rw [getElem?_names, if_pos (Nat.lt_of_succ_le hlast)]

/-- Exactly the tags of the registry have ordinals. -/
theorem ordinal?_eq_none_iff (h : registry.names.Pairwise (· < ·)) :
    registry.ordinal? tag = none ↔ tag ∉ registry.names := by
  rw [List.mem_iff_getElem?, not_exists, Option.eq_none_iff_forall_ne_some]
  constructor
  · intro hnone position htag
    exact hnone (position + 1) ((ordinal?_eq_some_iff_getElem? h).mpr ⟨position, htag, rfl⟩)
  · intro hnone ordinal hordinal
    obtain ⟨position, htag, -⟩ := (ordinal?_eq_some_iff_getElem? h).mp hordinal
    exact hnone position htag

theorem name_of_size_lt (h : registry.size < ordinal) : registry.name ordinal = unknown := by
  obtain ⟨position, rfl⟩ : ∃ position, ordinal = position + 1 := ⟨ordinal - 1, by omega⟩
  have hend : registry.names.length ≤ position := Nat.le_of_lt_succ h
  rw [name, List.getElem?_eq_none hend, Option.getD_none]

/-- Registries are equal if and only if they come from the same set of tags. -/
theorem ofTags_eq_ofTags_iff {tags others : List String} :
    ofTags tags = ofTags others ↔ ∀ tag, tag ∈ tags ↔ tag ∈ others := by
  refine ⟨?_, ofTags_congr⟩
  intro h tag
  rw [← mem_names_ofTags, h, mem_names_ofTags]

section Rank

/-- The order of two ordinals is that of their tags. -/
theorem ordinal_lt_iff (h : registry.names.Pairwise (· < ·))
    (htag : registry.ordinal? tag = some ordinal) (hlater : registry.ordinal? later = some next) :
    ordinal < next ↔ tag < later := by
  obtain ⟨position, hposition, rfl⟩ := (ordinal?_eq_some_iff_getElem? h).mp htag
  obtain ⟨behind, hbehind, rfl⟩ := (ordinal?_eq_some_iff_getElem? h).mp hlater
  rw [lt_iff_position_lt h hposition hbehind, Nat.add_lt_add_iff_right]

/-- The ordinal of a tag is the number of tags that are not greater. -/
theorem ordinal_eq_countP (h : registry.names.Pairwise (· < ·))
    (htag : registry.ordinal? tag = some ordinal) :
    ordinal = registry.names.countP (· ≤ tag) := by
  obtain ⟨position, hposition, rfl⟩ := (ordinal?_eq_some_iff_getElem? h).mp htag
  have hlt : position < registry.names.length := (List.getElem?_eq_some_iff.mp hposition).1
  -- the tags up to this one are not greater, and all that follow are
  have hfront : ∀ name ∈ registry.names.take (position + 1), decide (name ≤ tag) = true := by
    intro name hname
    obtain ⟨index, hindex, rfl⟩ := List.mem_take_iff_getElem.mp hname
    have hbound : index < position + 1 ∧ index < registry.names.length := Nat.lt_min.mp hindex
    have hnot := mt (lt_iff_position_lt h hposition (List.getElem?_eq_getElem hbound.2)).mp
      (Nat.not_lt.mpr (Nat.le_of_lt_succ hbound.1))
    exact decide_eq_true (not_lt.mp hnot)
  have hrest : ∀ name ∈ registry.names.drop (position + 1), ¬decide (name ≤ tag) = true := by
    intro name hname
    obtain ⟨index, hindex, rfl⟩ := List.mem_drop_iff_getElem.mp hname
    have hpast := (lt_iff_position_lt h hposition (List.getElem?_eq_getElem (by omega))).mpr
      (show position < position + 1 + index by omega)
    simpa using hpast
  calc position + 1
    _ = (registry.names.take (position + 1)).length :=
      (List.length_take_of_le (Nat.succ_le_of_lt hlt)).symm
    _ = (registry.names.take (position + 1)).countP (· ≤ tag) +
        (registry.names.drop (position + 1)).countP (· ≤ tag) := by
      rw [List.countP_eq_length.mpr hfront, List.countP_eq_zero.mpr hrest]
      exact (Nat.add_zero _).symm
    _ = registry.names.countP (· ≤ tag) := by
      rw [← List.countP_append, List.take_append_drop]

/-- Where there are fewer tags, a tag has no greater ordinal. -/
theorem ordinal_le_of_subset (h : registry.names.Pairwise (· < ·))
    (hother : other.names.Pairwise (· < ·)) (hsubset : registry.names ⊆ other.names)
    (htag : registry.ordinal? tag = some ordinal) (hnext : other.ordinal? tag = some next) :
    ordinal ≤ next := by
  have hnodup : registry.names.Nodup := h.imp fun hlt => ne_of_lt hlt
  rw [ordinal_eq_countP h htag, ordinal_eq_countP hother hnext]
  exact (List.subperm_of_subset hnodup hsubset).countP_le _

end Rank

/-- A registry of tags holds each of them once, in ascending order of their bytes, and depends on
nothing but which tags there are. The ordinals from one up to their number are each the ordinal of
one tag, their name; all others are unknown, and a text that is no tag has none. -/
theorem ofTags_numbers_tags (tags : List String) :
    (∀ tag, tag ∈ (ofTags tags).names ↔ tag ∈ tags) ∧
    ((ofTags tags).names.Pairwise fun tag later => Bytes.ofText tag < Bytes.ofText later) ∧
    (∀ others, ofTags tags = ofTags others ↔ ∀ tag, tag ∈ tags ↔ tag ∈ others) ∧
    (∀ name ordinal, (ofTags tags).ordinal? name = some ordinal ↔
      1 ≤ ordinal ∧ ordinal ≤ (ofTags tags).size ∧ (ofTags tags).name ordinal = name) ∧
    (∀ name, (ofTags tags).ordinal? name = none ↔ name ∉ tags) ∧
    (∀ ordinal, ordinal = 0 ∨ (ofTags tags).size < ordinal →
      (ofTags tags).name ordinal = unknown) ∧
    (ofTags tags).pairs = (List.range (ofTags tags).size).map fun index =>
      (index + 1, (ofTags tags).name (index + 1)) := by
  -- everything but membership rests on the order of the tags
  have hascending := pairwise_names_ofTags tags
  refine ⟨?_, ?_, ?_, ?_, ?_, ?_, ?_⟩
  · exact fun tag => mem_names_ofTags
  · exact hascending.imp fun hlt => Bytes.ofText_lt_ofText_iff.mpr hlt
  · exact fun others => ofTags_eq_ofTags_iff
  · exact fun name ordinal => ordinal?_eq_some_iff hascending
  · intro name
    rw [ordinal?_eq_none_iff hascending, mem_names_ofTags]
  · rintro ordinal (rfl | hpast)
    · rfl
    · exact name_of_size_lt hpast
  · exact pairs_eq_map_range _

example :
    (ofTags ["pod", "Service", "Pod", "pod"]).pairs = [(1, "Pod"), (2, "Service"), (3, "pod")] := by
  decide +kernel

end KeyCatalog.Registry
