import KeyCatalog.Proofs.Index.View
import KeyCatalog.Proofs.Registry.Ordinals
/-!
Dropping records from a catalog. What is asked of records is asked of each of them and of each two
of them, so it still holds of those that are left. An entry is resolved from its own record alone
and stays as it is; only ordinals move, towards the front and past no other tag.
-/
namespace KeyCatalog

/-- A tag has one ordinal in a registry and another one after some tags are dropped. -/
structure Registry.Renumbers (registry fewer : Registry) (tag : String) (ordinal next : Nat) :
    Prop where
  before : registry.ordinal? tag = some ordinal
  after : fewer.ordinal? tag = some next

namespace Index

variable {collection : Collection} {suffix : String} {records kept : List Record}
  {entries rest : List Entry} {entry : Entry} {index fewer : Index}

/-- Records that are left over are resolved to the entries that they had. -/
theorem Resolved.exists_of_sublist (h : Resolved collection suffix records entries)
    (hkept : kept.Sublist records) :
    ∃ rest, rest.Sublist entries ∧ Resolved collection suffix kept rest := by
  obtain ⟨rest, hrest, hresolves⟩ := exists_related_of_sublist h.resolves hkept
  refine ⟨rest, hrest, hresolves, h.apart.sublist hrest, ?_⟩
  intro entry hentry tag htag owner howner
  exact h.tag_apart entry (hrest.subset hentry) tag htag owner (hrest.subset howner)

/-- Entries are named by their keys as their records are. -/
theorem Resolved.map_key_text (h : Resolved collection suffix records entries) :
    entries.map (·.key.text) = records.map Record.name := by
  have hsame : List.Forall₂ (· = ·) (records.map Record.name) (entries.map (·.key.text)) := by
    apply List.forall₂_map_left_iff.mpr
    apply List.forall₂_map_right_iff.mpr
    exact h.resolves.imp fun record entry hentry => hentry.key_text.symm
  rw [List.forall₂_eq_eq_eq] at hsame
  exact hsame.symm

/-- An entry is known by the text of its key. -/
theorem Resolved.eq_of_key_text (h : Resolved collection suffix records entries) {other : Entry}
    (hentry : entry ∈ entries) (hother : other ∈ entries)
    (htext : entry.key.text = other.key.text) : entry = other := by
  have hnodup : (entries.map (·.key.text)).Nodup :=
    List.pairwise_map.mpr (h.apart.imp fun hapart => Key.text_injective.ne hapart.key)
  exact List.inj_on_of_nodup_map hnodup hentry hother htext

/-- The entries that are left are those whose keys are. -/
theorem Resolved.mem_rest_iff (h : Resolved collection suffix records entries)
    (hrest : rest.Sublist entries) (hkept : Resolved collection suffix kept rest) :
    entry ∈ rest ↔ entry ∈ entries ∧ entry.key.text ∈ kept.map Record.name := by
  rw [← hkept.map_key_text, List.mem_map]
  constructor
  · intro hentry
    exact ⟨hrest.subset hentry, entry, hentry, rfl⟩
  · rintro ⟨hentry, other, hother, htext⟩
    rwa [h.eq_of_key_text hentry (hrest.subset hother) htext.symm]

/-- Sorting what is left gives the same as leaving it out of the sorted entries. -/
theorem Resolved.sortByKey_rest (h : Resolved collection suffix records entries)
    (hrest : rest.Sublist entries) (hkept : Resolved collection suffix kept rest) :
    sortByKey rest = (sortByKey entries).filter (·.key.text ∈ kept.map Record.name) := by
  have hfilter : Ascending ((sortByKey entries).filter (·.key.text ∈ kept.map Record.name)) :=
    (ascending_sortByKey h.apart).filter _
  apply (ascending_sortByKey hkept.apart).eq_of_mem_iff hfilter
  intro entry
  rw [mem_sortByKey, h.mem_rest_iff hrest hkept, List.mem_filter, mem_sortByKey,
    decide_eq_true_iff]

/-- Dropping records from a catalog gives a catalog. Its entries are those of the whole index whose
keys are left, and a tag that is left moves to an ordinal that is not greater, without overtaking
another one. -/
theorem build_of_sublist (hkept : kept.Sublist records)
    (h : build collection suffix records = .ok index) :
    ∃ fewer, build collection suffix kept = .ok fewer ∧
      fewer.entries = index.entries.filter (·.key.text ∈ kept.map Record.name) ∧
      (∀ entry ∈ fewer.entries, ∀ tag ∈ entry.resources, ∃ ordinal next,
        index.registry.Renumbers fewer.registry tag ordinal next ∧ next ≤ ordinal) ∧
      ∀ tag ordinal next later ordinal' next',
        index.registry.Renumbers fewer.registry tag ordinal next →
        index.registry.Renumbers fewer.registry later ordinal' next' →
        (next < next' ↔ ordinal < ordinal') := by
  obtain ⟨entries, hresolved, rfl⟩ := build_eq_ok_iff_resolved.mp h
  obtain ⟨rest, hrest, hfewer⟩ := hresolved.exists_of_sublist hkept
  have hascending := Registry.pairwise_names_ofTags (entries.flatMap Entry.resources)
  have hascending' := Registry.pairwise_names_ofTags (rest.flatMap Entry.resources)
  have htags : (registryOf rest).names ⊆ (registryOf entries).names := by
    intro tag htag
    rw [registryOf, Registry.mem_names_ofTags, List.mem_flatMap] at htag ⊢
    obtain ⟨entry, hentry, htag⟩ := htag
    exact ⟨entry, hrest.subset hentry, htag⟩
  refine ⟨_, build_eq_ok_iff_resolved.mpr ⟨rest, hfewer, rfl⟩,
    hresolved.sortByKey_rest hrest hfewer, ?_, ?_⟩
  · intro entry hentry tag htag
    have hleft : tag ∈ (registryOf rest).names :=
      Registry.mem_names_ofTags.mpr (List.mem_flatMap.mpr ⟨entry, mem_sortByKey.mp hentry, htag⟩)
    obtain ⟨next, hnext, -⟩ := Registry.exists_ordinal?_of_mem hascending' hleft
    obtain ⟨ordinal, hordinal, -⟩ := Registry.exists_ordinal?_of_mem hascending (htags hleft)
    exact ⟨ordinal, next, ⟨hordinal, hnext⟩,
      Registry.ordinal_le_of_subset hascending' hascending htags hnext hordinal⟩
  -- before and after, ordinals are in the order of their tags
  · intro tag ordinal next later ordinal' next' htag hlater
    rw [Registry.ordinal_lt_iff hascending' htag.after hlater.after,
      Registry.ordinal_lt_iff hascending htag.before hlater.before]

/-- The second record brings `Node`, without which `Pod` comes first. -/
theorem build_of_sublist_descending :
    (descendingRecords.take 1).Sublist descendingRecords ∧
    build .labels defaultSuffix descendingRecords = .ok ascendingLabels ∧
    ascendingLabels.registry.Renumbers ⟨["Pod"]⟩ "Pod" 2 1 ∧
    ∃ fewer, build .labels defaultSuffix (descendingRecords.take 1) = .ok fewer ∧
      fewer.entries = ascendingLabels.entries.filter
        (·.key.text ∈ (descendingRecords.take 1).map Record.name) ∧
      (∀ entry ∈ fewer.entries, ∀ tag ∈ entry.resources, ∃ ordinal next,
        ascendingLabels.registry.Renumbers fewer.registry tag ordinal next ∧ next ≤ ordinal) ∧
      ∀ tag ordinal next later ordinal' next',
        ascendingLabels.registry.Renumbers fewer.registry tag ordinal next →
        ascendingLabels.registry.Renumbers fewer.registry later ordinal' next' →
        (next < next' ↔ ordinal < ordinal') := by
  have hkept : (descendingRecords.take 1).Sublist descendingRecords := List.take_sublist 1 _
  have hbuild : build .labels defaultSuffix descendingRecords = .ok ascendingLabels := by
    decide +kernel
  have hpod : ascendingLabels.registry.Renumbers ⟨["Pod"]⟩ "Pod" 2 1 :=
    ⟨by decide +kernel, by decide +kernel⟩
  exact ⟨hkept, hbuild, hpod, build_of_sublist hkept hbuild⟩

end Index
end KeyCatalog
