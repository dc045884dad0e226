import KeyCatalog.Proofs.Listing.Catalog
/-!
The tables of resource types in a listing. Members of an enumeration have the numbers of their
positions, and a switch names the same numbers; both are to agree with the ordinals of the registry.
-/
namespace KeyCatalog
open Listing

/-- Every table of resource types in a listing agrees with a registry. -/
structure Listing.Contents.Agrees (contents : Contents) (registry : Registry) : Prop where
  length : contents.types.members.length = registry.size + 1
  member : ∀ ordinal, contents.types.members[ordinal]? =
    if ordinal ≤ registry.size then some (registry.name ordinal) else none
  nameOf : ∀ ordinal, contents.types.nameOf ordinal = registry.name ordinal
  unknown : ∀ ordinal, contents.types.nameOf ordinal = Registry.unknown ↔
    ¬(1 ≤ ordinal ∧ ordinal ≤ registry.size)
  declared : ∀ entry ∈ contents.entries, ∀ tag ∈ entry.resources, tag ∈ contents.types.members
  listed : contents.accessors.typeNames =
    (List.range registry.size).map fun index => registry.name (index + 1)

namespace Index

variable {collection : Collection} {suffix : String} {records : List Record} {index : Index}

/-- No tag has the name that stands for unknown types. -/
theorem unknown_not_mem_registry (h : build collection suffix records = .ok index) :
    Registry.unknown ∉ index.registry.names := by
  intro hmem
  exact tag_free_of_build h hmem List.mem_cons_self

/-- What a listing is to say of a catalog agrees with the registry of the catalog. -/
theorem agrees_ofIndex (h : build collection suffix records = .ok index) :
    (Contents.ofIndex index).Agrees index.registry where
  length := List.length_cons
  member := index.registry.getElem?_unknown_cons
  nameOf := index.registry.lookup_pairs
  unknown ordinal := by
    have hname : (TypeTable.ofRegistry index.registry).nameOf ordinal =
        index.registry.name ordinal := index.registry.lookup_pairs ordinal
    have hunknown := unknown_not_mem_registry h
    exact hname ▸ index.registry.name_eq_unknown_iff hunknown ordinal
  declared := by
    intro entry hentry tag htag
    obtain ⟨original, horiginal, rfl⟩ := List.mem_map.mp hentry
    have hregistry : tag ∈ index.registry.names :=
      (mem_registry_of_build h).mpr ⟨original, horiginal, htag⟩
    exact List.mem_cons_of_mem _ hregistry
  listed := index.registry.names_eq_map_name

/-- The tables that are read from the listings of a catalog agree with its registry. -/
theorem resourceTypes_agree (h : build collection suffix records = .ok index)
    (hnames : index.HasIdentifiers) (package : String) (language : Language) :
    ∃ contents : Contents,
      language.read? collection package (language.listing index package) = some contents ∧
        contents.Agrees index.registry :=
  ⟨.ofIndex index, read?_listing h hnames language package, agrees_ofIndex h⟩

/-- Two labels refer to two types, which both listings give the same numbers. -/
theorem resourceTypes_agree_labels :
    build .labels defaultSuffix (labelRecords "two\nlines") = .ok (labelIndex "two\nlines") ∧
    (labelIndex "two\nlines").HasIdentifiers ∧
    ∀ language : Language, ∃ contents : Contents,
      language.read? .labels "keys" (language.listing (labelIndex "two\nlines") "keys") =
          some contents ∧
        contents.Agrees ⟨["Node", "Pod"]⟩ := by
  have hbuild : build .labels defaultSuffix (labelRecords "two\nlines") =
      .ok (labelIndex "two\nlines") := by
    decide +kernel
  have hnames := hasIdentifiers_labelIndex "two\nlines"
  exact ⟨hbuild, hnames, fun language => resourceTypes_agree hbuild hnames "keys" language⟩

end Index
end KeyCatalog
