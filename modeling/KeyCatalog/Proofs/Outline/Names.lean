import KeyCatalog.Proofs.Index.Order
import KeyCatalog.Proofs.Outline.Go
import KeyCatalog.Proofs.Outline.TypeScript
/-!
No name is declared twice. The names of a catalog come from its tags and its identifiers, and the
listings add the reserved names; all of these are apart, which is what the checks on records are
for. What a listing declares is a rearrangement of them, or a part of them.

Names are compared as the strings that an outline finds between the fixed texts of a line, white
space included. Whether a string is one token of Go or TypeScript is another matter.
-/
namespace KeyCatalog.Index
open Outline

variable {collection : Collection} {suffix : String} {records : List Record} {index : Index}

/-- No identifier is a name that every listing declares. -/
theorem identifier_free_of_build (h : build collection suffix records = .ok index) {entry : Entry}
    (hentry : entry ∈ index.entries) : entry.identifier ∉ reservedNames collection := by
  obtain ⟨record, hresolves⟩ := exists_resolves_of_build h hentry
  exact hresolves.identifier_free

theorem nodup_identifiers_of_build (h : build collection suffix records = .ok index) :
    (index.entries.map (·.identifier)).Nodup := by
  obtain ⟨entries, hresolved, hperm⟩ := exists_resolved_of_build h
  rw [(hperm.map _).nodup_iff, List.Nodup, List.pairwise_map]
  exact hresolved.apart.imp fun hentry => hentry.identifier

theorem nodup_tags_of_build (h : build collection suffix records = .ok index) :
    index.registry.names.Nodup := by
  obtain ⟨entries, -, rfl⟩ := build_eq_ok_iff_resolved.mp h
  exact (Registry.pairwise_names_ofTags _).imp fun hlt => hlt.ne

/-- No tag is the identifier of an entry, be it of a later one. -/
theorem tag_ne_identifier_of_build (h : build collection suffix records = .ok index) {tag : String}
    (htag : tag ∈ index.registry.names) {owner : Entry} (howner : owner ∈ index.entries) :
    tag ≠ owner.identifier := by
  obtain ⟨entry, hentry, hresource⟩ := (mem_registry_of_build h).mp htag
  obtain ⟨entries, hresolved, hperm⟩ := exists_resolved_of_build h
  have hapart := hresolved.tag_apart entry (hperm.mem_iff.mp hentry) tag hresource owner
    (hperm.mem_iff.mp howner)
  exact hapart.symm

theorem nodup_reservedNames (collection : Collection) : (reservedNames collection).Nodup := by
  cases collection <;> decide +kernel

/-- The reserved names, the tags and the identifiers of a catalog are apart. -/
theorem nodup_names_of_build (h : build collection suffix records = .ok index) :
    (reservedNames collection ++
      (index.registry.names ++ index.entries.map (·.identifier))).Nodup := by
  have htags : ∀ tag ∈ index.registry.names,
      tag ∉ index.entries.map (·.identifier) := by
    intro tag htag hmem
    obtain ⟨owner, howner, rfl⟩ := List.mem_map.mp hmem
    exact tag_ne_identifier_of_build h htag howner rfl
  -- no tag and no identifier is reserved
  have hfree : ∀ name ∈ index.registry.names ++ index.entries.map (·.identifier),
      name ∉ reservedNames collection := by
    intro name hname
    rcases List.mem_append.mp hname with htag | hidentifier
    · exact tag_free_of_build h htag
    · obtain ⟨entry, hentry, rfl⟩ := List.mem_map.mp hidentifier
      exact identifier_free_of_build h hentry
  have hcatalog := (nodup_tags_of_build h).append (nodup_identifiers_of_build h) htags
  exact (nodup_reservedNames collection).append hcatalog fun name hreserved hname =>
    hfree name hname hreserved

/-- At package scope, the Go listing declares the reserved names and those of the catalog. -/
theorem perm_namesIn_outline (index : Index) (package : String) :
    (namesIn "package" (Go.outline index package)).Perm
      (reservedNames index.collection ++
        (index.registry.names ++ index.entries.map (·.identifier))) := by
  rw [Go.namesIn_outline, List.perm_iff_count]
  intro name
  simp only [reservedNames, List.count_append, List.count_cons, List.count_nil]
  omega

/-- The names that a listing declares at one place are pairwise distinct: those of the Go listing at
package scope, the members of the TypeScript enumeration of resource types, and the keys of the
TypeScript table. -/
theorem declared_names_nodup (h : build collection suffix records = .ok index) (package : String) :
    (namesIn "package" (Go.outline index package) =
        ["FeatureStatus", "Alpha", "Beta", "Stable", "ResourceTypes", "Unknown"] ++
          index.registry.names ++ ["Instance"] ++ index.entries.map (·.identifier) ++
          ["AllResource" ++ collection.titlePlural, "AllResourceTypes"] ∧
      (namesIn "package" (Go.outline index package)).Nodup) ∧
    (namesIn "ResourceTypes" (TypeScript.outline index) = "Unknown" :: index.registry.names ∧
      (namesIn "ResourceTypes" (TypeScript.outline index)).Nodup) ∧
    (namesIn "instances" (TypeScript.outline index) = index.entries.map (·.identifier) ∧
      (namesIn "instances" (TypeScript.outline index)).Nodup) := by
  have hnames := Go.namesIn_outline index package
  rw [collection_of_build h] at hnames
  have hperm := perm_namesIn_outline index package
  rw [collection_of_build h] at hperm
  -- the name of unknown types is reserved, so it is no tag
  have hmembers : (Registry.unknown :: index.registry.names).Nodup := by
    apply List.nodup_cons.mpr
    refine ⟨?_, nodup_tags_of_build h⟩
    intro hunknown
    exact tag_free_of_build h hunknown List.mem_cons_self
  have hnodup := hperm.nodup_iff.mpr (nodup_names_of_build h)
  refine ⟨⟨hnames, hnodup⟩, ⟨TypeScript.members_outline index, ?_⟩,
    TypeScript.keys_outline index, ?_⟩
  · rwa [TypeScript.members_outline]
  · rw [TypeScript.keys_outline]
    exact nodup_identifiers_of_build h

theorem declared_names_nodup_ascending :
    build .labels defaultSuffix descendingRecords = .ok ascendingLabels ∧
    (namesIn "package" (Go.outline ascendingLabels "keys") =
        ["FeatureStatus", "Alpha", "Beta", "Stable", "ResourceTypes", "Unknown"] ++
          ["Node", "Pod"] ++ ["Instance"] ++ ["CX", "DY"] ++
          ["AllResourceLabels", "AllResourceTypes"] ∧
      (namesIn "package" (Go.outline ascendingLabels "keys")).Nodup) ∧
    (namesIn "ResourceTypes" (TypeScript.outline ascendingLabels) = ["Unknown", "Node", "Pod"] ∧
      (namesIn "ResourceTypes" (TypeScript.outline ascendingLabels)).Nodup) ∧
    (namesIn "instances" (TypeScript.outline ascendingLabels) = ["CX", "DY"] ∧
      (namesIn "instances" (TypeScript.outline ascendingLabels)).Nodup) := by
  have hbuild : build .labels defaultSuffix descendingRecords = .ok ascendingLabels := by
    decide +kernel
  exact ⟨hbuild, declared_names_nodup hbuild "keys"⟩

end KeyCatalog.Index
