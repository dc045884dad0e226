import KeyCatalog.Registry
import Mathlib.Data.List.Sort
import Mathlib.Data.String.Basic
/-!
What a registry holds, and how its numbered tags relate to the names of ordinals. Its tags ascend
strictly, so a registry is determined by the set of its tags.
-/
namespace KeyCatalog.Registry

variable (registry : Registry)

theorem mem_insertName {name tag : String} {names : List String} :
    tag ∈ insertName name names ↔ tag = name ∨ tag ∈ names := by
  induction names with
  | nil => simp only [insertName, List.mem_singleton, List.not_mem_nil, or_false]
  | cons other rest ih =>
    rw [insertName]
    split
    · next heq =>
      subst heq
      simp only [List.mem_cons, or_self_left]
    · split
      · exact List.mem_cons
      · simp only [List.mem_cons, ih, or_left_comm]

/-- A registry holds exactly the tags that it is made of. -/
theorem mem_names_ofTags {tag : String} {tags : List String} :
    tag ∈ (ofTags tags).names ↔ tag ∈ tags := by
  induction tags with
  | nil => rfl
  | cons first tags ih =>
    have hstep : (ofTags (first :: tags)).names = insertName first (ofTags tags).names := rfl
    rw [hstep, mem_insertName, ih, List.mem_cons]

theorem pairwise_insertName {name : String} {names : List String} (h : names.Pairwise (· < ·)) :
    (insertName name names).Pairwise (· < ·) := by
  induction names with
  | nil => exact List.pairwise_singleton _ name
  | cons other rest ih =>
    obtain ⟨hother, hrest⟩ := List.pairwise_cons.mp h
    rw [insertName]
    split
    · exact h
    -- either the tag goes here, or further on
    next hne =>
    split
    · next hlt =>
      apply List.pairwise_cons.mpr
      refine ⟨?_, h⟩
      intro tag htag
      rcases List.mem_cons.mp htag with rfl | htag
      · exact hlt
      · exact lt_trans hlt (hother tag htag)
    · next hnot =>
      have hlt : other < name := lt_of_le_of_ne (not_lt.mp hnot) (Ne.symm hne)
      apply List.pairwise_cons.mpr
      refine ⟨?_, ih hrest⟩
      intro tag htag
      rcases mem_insertName.mp htag with rfl | htag
      · exact hlt
      · exact hother tag htag

/-- The tags of a registry ascend strictly, so none is repeated. -/
theorem pairwise_names_ofTags (tags : List String) : (ofTags tags).names.Pairwise (· < ·) := by
  induction tags with
  | nil => exact .nil
  | cons first tags ih => exact pairwise_insertName ih

/-- A registry forgets the order and the repeats of its tags. -/
theorem ofTags_congr {tags others : List String} (h : ∀ tag, tag ∈ tags ↔ tag ∈ others) :
    ofTags tags = ofTags others := by
  have hnames : (ofTags tags).names = (ofTags others).names := by
    apply (pairwise_names_ofTags tags).eq_of_mem_iff (pairwise_names_ofTags others)
    intro tag
    rw [mem_names_ofTags, mem_names_ofTags, h]
  exact congrArg mk hnames

theorem map_snd_pairs : registry.pairs.map Prod.snd = registry.names :=
  calc
    registry.pairs.map Prod.snd = (registry.names.zipIdx 1).map Prod.fst := List.map_map
    _ = registry.names := List.zipIdx_map_fst ..

theorem flatMap_pairs {β : Type} (f : String → β) :
    registry.pairs.flatMap (fun pair => [f pair.2]) = registry.names.map f := by
  rw [← List.map_eq_flatMap, ← map_snd_pairs, List.map_map]
  rfl

theorem mem_names_of_mem_pairs {registry : Registry} {pair : Nat × String}
    (hpair : pair ∈ registry.pairs) : pair.2 ∈ registry.names := by
  rw [← map_snd_pairs]
  exact List.mem_map_of_mem hpair

theorem lookup_zipIdx (names : List String) (first ordinal : Nat) :
    ((names.zipIdx first).map fun (name, ordinal) => (ordinal, name)).lookup ordinal =
      if first ≤ ordinal then names[ordinal - first]? else none := by
  induction names generalizing first with
  | nil => simp only [List.zipIdx_nil, List.map_nil, List.lookup_nil, List.getElem?_nil, ite_self]
  | cons name names ih =>
    rw [List.zipIdx_cons, List.map_cons, List.lookup_cons]
    by_cases heq : ordinal = first
    · subst heq
      simp only [beq_self_eq_true, Nat.le_refl, if_true, Nat.sub_self, List.getElem?_cons_zero]
    -- past the first number, the tags are numbered from the next one on
    · have hne : (ordinal == first) = false := beq_false_of_ne heq
      simp only [hne, ih]
      by_cases hle : first + 1 ≤ ordinal
      · have hindex : ordinal - first = ordinal - (first + 1) + 1 := by omega
        have hfirst : first ≤ ordinal := by omega
        rw [if_pos hle, if_pos hfirst, hindex, List.getElem?_cons_succ]
      · have hfirst : ¬first ≤ ordinal := by omega
        rw [if_neg hle, if_neg hfirst]

section Lookup

variable {registry : Registry} {names : List String} {name tag : String} {position ordinal : Nat}

/-- Ascending tags are in the order of their positions. -/
theorem lt_iff_position_lt (h : names.Pairwise (· < ·)) {other : String} {next : Nat}
    (htag : names[position]? = some tag) (hother : names[next]? = some other) :
    tag < other ↔ position < next := by
  obtain ⟨hposition, rfl⟩ := List.getElem?_eq_some_iff.mp htag
  obtain ⟨hnext, rfl⟩ := List.getElem?_eq_some_iff.mp hother
  have hascend := List.pairwise_iff_getElem.mp h
  constructor
  · intro hlt
    by_contra hle
    rcases Nat.lt_or_eq_of_le (Nat.le_of_not_lt hle) with hafter | rfl
    · exact lt_asymm hlt (hascend next position hnext hposition hafter)
    · exact lt_irrefl _ hlt
  · exact hascend position next hposition hnext

/-- Comparing a name with the tag in the middle of a range tells on which side its position is. -/
theorem past_middle_iff (h : names.Pairwise (· < ·)) {middle : Nat}
    (hname : names[position]? = some name) (hmiddle : middle < names.length) :
    names[middle]?.any (name < ·) = true ↔ position < middle := by
  have hfound : names[middle]? = some names[middle] := List.getElem?_eq_getElem hmiddle
  rw [hfound, Option.any_some, decide_eq_true_iff]
  exact lt_iff_position_lt h hname hfound

/-- A name that is among the ascending tags of a range is found there. -/
theorem search_eq_of_getElem? (h : names.Pairwise (· < ·)) {first size : Nat}
    (hname : names[position]? = some name) (hfirst : first ≤ position)
    (hlast : position < first + size) (hsize : first + size ≤ names.length) :
    search names name first size = position := by
  -- every step keeps the position in the range that is left
  induction first, size using search.induct names name with
  | case1 first size hone =>
    rw [search, if_pos hone]
    omega
  | case2 first size hmany hpast ih =>
    have hbefore : position < first + size / 2 := (past_middle_iff h hname (by omega)).mp hpast
    rw [search, if_neg hmany, if_pos hpast]
    exact ih hfirst (by omega) (by omega)
  | case3 first size hmany hpast ih =>
    have hbehind : ¬position < first + size / 2 := mt (past_middle_iff h hname (by omega)).mpr hpast
    rw [search, if_neg hmany, if_neg hpast]
    exact ih (by omega) (by omega) (by omega)

/-- The ordinal of a tag is one more than the position of the tag. -/
theorem ordinal?_eq_some_iff_getElem? (h : registry.names.Pairwise (· < ·)) :
    registry.ordinal? tag = some ordinal ↔
      ∃ position, registry.names[position]? = some tag ∧ position + 1 = ordinal := by
  rw [ordinal?, Option.ite_none_right_eq_some, Option.some_inj]
  constructor
  · rintro ⟨hfound, hordinal⟩
    exact ⟨_, hfound, hordinal⟩
  · rintro ⟨position, htag, hordinal⟩
    have hlast : position < 0 + registry.names.length := by
      rw [Nat.zero_add]
      exact (List.getElem?_eq_some_iff.mp htag).1
    -- the search keeps the position of the tag within its range
    have hsearch : search registry.names tag 0 registry.names.length = position :=
      search_eq_of_getElem? h htag (Nat.zero_le position) hlast (Nat.zero_add _).le
    rw [hsearch]
    exact ⟨htag, hordinal⟩

/-- The ordinal of a tag is one whose name is the tag. -/
theorem exists_ordinal?_of_mem (h : registry.names.Pairwise (· < ·)) (hmem : tag ∈ registry.names) :
    ∃ ordinal, registry.ordinal? tag = some ordinal ∧ registry.name ordinal = tag := by
  obtain ⟨position, htag⟩ := List.mem_iff_getElem?.mp hmem
  refine ⟨position + 1, (ordinal?_eq_some_iff_getElem? h).mpr ⟨position, htag, rfl⟩, ?_⟩
  rw [name, htag, Option.getD_some]

end Lookup

/-- The switch over numbered tags agrees with the names of ordinals. -/
theorem lookup_pairs (ordinal : Nat) :
    (registry.pairs.lookup ordinal).getD unknown = registry.name ordinal := by
  rw [pairs, lookup_zipIdx]
  cases ordinal with
  | zero => rfl
  | succ ordinal => rw [if_pos (Nat.le_add_left 1 ordinal), Nat.add_sub_cancel, name]

/-- The tag at a position is the name of the next ordinal. -/
theorem getElem?_names (position : Nat) :
    registry.names[position]? =
      if position < registry.size then some (registry.name (position + 1)) else none := by
  rw [name, size]
  by_cases h : position < registry.names.length
  · rw [List.getElem?_eq_getElem h, Option.getD_some, if_pos h]
  · rw [List.getElem?_eq_none (Nat.le_of_not_lt h), if_neg h]

/-- The unknown name and the tags are the names of the ordinals up to the number of tags. -/
theorem getElem?_unknown_cons (ordinal : Nat) :
    (unknown :: registry.names)[ordinal]? =
      if ordinal ≤ registry.size then some (registry.name ordinal) else none := by
  cases ordinal with
  | zero => rfl
  | succ position =>
    rw [List.getElem?_cons_succ, getElem?_names]
    rfl

/-- An ordinal has an unknown name if it numbers no tag, as long as no tag is that name. -/
theorem name_eq_unknown_iff (hunknown : unknown ∉ registry.names) (ordinal : Nat) :
    registry.name ordinal = unknown ↔ ¬(1 ≤ ordinal ∧ ordinal ≤ registry.size) := by
  cases ordinal with
  | zero => simp only [name, true_iff]; omega
  | succ ordinal =>
    rw [name, size]
    by_cases h : ordinal < registry.names.length
    · have hne : registry.names[ordinal] ≠ unknown :=
        fun heq => hunknown (heq ▸ List.getElem_mem h)
      rw [List.getElem?_eq_getElem h, Option.getD_some]
      exact ⟨fun heq => absurd heq hne, fun hout => absurd ⟨by omega, by omega⟩ hout⟩
    · rw [List.getElem?_eq_none (Nat.le_of_not_lt h), Option.getD_none]
      exact ⟨fun _ hin => h hin.2, fun _ => rfl⟩

/-- The tags are the names of the ordinals from one on. -/
theorem names_eq_map_name :
    registry.names = (List.range registry.size).map fun index => registry.name (index + 1) := by
  apply List.ext_getElem?
  intro index
  rw [getElem?_names, List.getElem?_map]
  split
  · next h => rw [List.getElem?_range h, Option.map_some]
  · next h =>
    have hend : (List.range registry.size).length ≤ index := by
      rw [List.length_range]
      exact Nat.le_of_not_lt h
    rw [List.getElem?_eq_none hend, Option.map_none]

/-- The numbered tags are the ordinals from one on, each with its name. -/
theorem pairs_eq_map_range :
    registry.pairs =
      (List.range registry.size).map fun index => (index + 1, registry.name (index + 1)) := by
  have hnumbers : List.range' 1 registry.names.length =
      (List.range registry.size).map fun index => index + 1 := by
    rw [List.range'_eq_map_range, size]
    exact List.map_congr_left fun index _ => Nat.add_comm 1 index
  calc registry.pairs
    _ = (registry.names.zip (List.range' 1 registry.names.length)).map Prod.swap := by
      rw [pairs, List.zipIdx_eq_zip_range']
      rfl
    _ = (((List.range registry.size).map fun index => registry.name (index + 1)).zip
          ((List.range registry.size).map fun index => index + 1)).map Prod.swap := by
      rw [hnumbers, ← names_eq_map_name]
    _ = (List.range registry.size).map fun index => (index + 1, registry.name (index + 1)) := by
      rw [List.zip_map', List.map_map]
      rfl

end KeyCatalog.Registry
