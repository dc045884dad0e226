import KeyCatalog.Proofs.Index.Build
import KeyCatalog.Proofs.Lists
import KeyCatalog.Proofs.Registry
/-!
Records that are resolved one after the other give the entries that each of them gives on its own,
as long as no two of these entries have one key or one identifier. So what a catalog is built from
can be said without the order of its records: one entry for each record, all entries apart, and no
tag that is an identifier.
-/
namespace KeyCatalog

structure Entry.Apart (entry other : Entry) : Prop where
  key : entry.key ≠ other.key
  identifier : entry.identifier ≠ other.identifier

theorem Entry.Apart.symm {entry other : Entry} (h : entry.Apart other) : other.Apart entry :=
  ⟨h.key.symm, h.identifier.symm⟩

namespace Index

variable {collection : Collection} {suffix : String} {before : List Entry} {record : Record}
  {entry : Entry} {records : List Record} {entries : List Entry}

/-- Behind others a record is resolved as it is on its own, to an entry apart from theirs. -/
theorem resolves_iff :
    Resolves collection suffix before record entry ↔
      Resolves collection suffix [] record entry ∧ ∀ other ∈ before, other.Apart entry := by
  constructor
  · intro h
    exact ⟨{ h with
        key_new := fun _ hother => absurd hother List.not_mem_nil
        identifier_new := fun _ hother => absurd hother List.not_mem_nil },
      fun other hother => ⟨h.key_new other hother, h.identifier_new other hother⟩⟩
  · rintro ⟨h, hapart⟩
    exact { h with
      key_new := fun other hother => (hapart other hother).key
      identifier_new := fun other hother => (hapart other hother).identifier }

/-- Records are resolved one after the other exactly if each can be on its own and the entries are
pairwise apart, those before them included. -/
theorem resolveAll_eq_ok_iff :
    resolveAll collection suffix before records = .ok entries ↔
      ∃ added, entries = before ++ added ∧
        List.Forall₂ (Resolves collection suffix []) records added ∧
        added.Pairwise Entry.Apart ∧ ∀ entry ∈ before, ∀ other ∈ added, entry.Apart other := by
  -- the entries before the records grow by one at every record
  induction records generalizing before with
  | nil =>
    simp only [resolveAll, List.forall₂_nil_left_iff]
    constructor
    · intro h
      cases h
      exact ⟨[], (List.append_nil _).symm, rfl, .nil,
        fun _ _ _ hother => absurd hother List.not_mem_nil⟩
    · rintro ⟨added, rfl, rfl, -, -⟩
      rw [List.append_nil]
  | cons record records ih =>
    rw [resolveAll]
    constructor
    · intro h
      split at h
      · cases h
      next entry hentry =>
      -- the rest is resolved behind this entry too, so all of the rest is apart from it
      obtain ⟨hresolves, hbefore⟩ := resolves_iff.mp (resolve_eq_ok_iff.mp hentry)
      obtain ⟨added, rfl, hadded, hpairwise, hapart⟩ := ih.mp h
      have hfirst : ∀ other ∈ added, entry.Apart other := hapart entry (by simp)
      refine ⟨entry :: added, List.append_assoc .., .cons hresolves hadded,
        List.pairwise_cons.mpr ⟨hfirst, hpairwise⟩, ?_⟩
      intro earlier hearlier other hother
      rcases List.mem_cons.mp hother with rfl | hother
      · exact hbefore earlier hearlier
      · exact hapart earlier (by simp [hearlier]) other hother
    · rintro ⟨added, rfl, hadded, hpairwise, hapart⟩
      obtain ⟨entry, rest, hresolves, hrest, rfl⟩ := List.forall₂_cons_left_iff.mp hadded
      obtain ⟨hfirst, hpairwise⟩ := List.pairwise_cons.mp hpairwise
      have hbefore : ∀ earlier ∈ before, earlier.Apart entry :=
        fun earlier hearlier => hapart earlier hearlier entry List.mem_cons_self
      rw [resolve_eq_ok_iff.mpr (resolves_iff.mpr ⟨hresolves, hbefore⟩)]
      apply ih.mpr
      refine ⟨rest, List.append_cons before entry rest, hrest, hpairwise, ?_⟩
      intro earlier hearlier other hother
      rcases List.mem_append.mp hearlier with hearlier | hearlier
      · exact hapart earlier hearlier other (List.mem_cons_of_mem _ hother)
      · rw [List.mem_singleton.mp hearlier]
        exact hfirst other hother

/-- No clash is found exactly if no tag is the identifier of an entry. -/
theorem tagClash?_eq_none_iff :
    tagClash? entries = none ↔
      ∀ entry ∈ entries, ∀ tag ∈ entry.resources, ∀ owner ∈ entries, owner.identifier ≠ tag := by
  -- positions are for the message only
  have hpositions (P : Entry → Prop) :
      (∀ item ∈ entries.zipIdx, P item.1) ↔ ∀ entry ∈ entries, P entry := by
    rw [← List.forall_mem_map, List.zipIdx_map_fst]
  rw [tagClash?, List.findSome?_eq_none_iff, ← hpositions]
  simp only [List.findSome?_eq_none_iff, Option.map_eq_none_iff, List.findIdx?_eq_none_iff,
    decide_eq_false_iff_not, ne_eq]

/-- The entries that a catalog is built from, in the order of their records. -/
structure Resolved (collection : Collection) (suffix : String) (records : List Record)
    (entries : List Entry) : Prop where
  resolves : List.Forall₂ (Resolves collection suffix []) records entries
  apart : entries.Pairwise Entry.Apart
  tag_apart : ∀ entry ∈ entries, ∀ tag ∈ entry.resources, ∀ owner ∈ entries,
    owner.identifier ≠ tag

theorem Resolved.exists_resolves (h : Resolved collection suffix records entries)
    (hentry : entry ∈ entries) : ∃ record, Resolves collection suffix [] record entry :=
  exists_related_iff.mp ⟨records, h.resolves.flip⟩ entry hentry

/-- An index is what the sorted entries of resolved records and their registry make. -/
theorem build_eq_ok_iff_resolved {index : Index} :
    build collection suffix records = .ok index ↔
      ∃ entries, Resolved collection suffix records entries ∧
        index = ⟨collection, sortByKey entries, registryOf entries⟩ := by
  rw [build_eq_ok_iff]
  constructor
  · rintro ⟨entries, hentries, hclash, rfl⟩
    obtain ⟨_, rfl, hresolves, hapart, -⟩ := resolveAll_eq_ok_iff.mp hentries
    exact ⟨entries, ⟨hresolves, hapart, tagClash?_eq_none_iff.mp hclash⟩, rfl⟩
  -- no entries come before the first record, so none of those can be in the way
  · rintro ⟨entries, h, rfl⟩
    have hentries : resolveAll collection suffix [] records = .ok entries :=
      resolveAll_eq_ok_iff.mpr ⟨entries, rfl, h.resolves, h.apart,
        fun _ hentry => absurd hentry List.not_mem_nil⟩
    exact ⟨entries, hentries, tagClash?_eq_none_iff.mpr h.tag_apart, rfl⟩

section Built

variable {index : Index}

theorem collection_of_build (h : build collection suffix records = .ok index) :
    index.collection = collection := by
  obtain ⟨entries, -, rfl⟩ := build_eq_ok_iff_resolved.mp h
  rfl

/-- The entries of an index are those that its records are resolved to. -/
theorem exists_resolved_of_build (h : build collection suffix records = .ok index) :
    ∃ entries, Resolved collection suffix records entries ∧ index.entries.Perm entries := by
  obtain ⟨entries, hresolved, rfl⟩ := build_eq_ok_iff_resolved.mp h
  exact ⟨entries, hresolved, perm_sortByKey entries⟩

/-- Every entry of an index comes from a record. -/
theorem exists_resolves_of_build (h : build collection suffix records = .ok index)
    (hentry : entry ∈ index.entries) : ∃ record, Resolves collection suffix [] record entry := by
  obtain ⟨entries, hresolved, hperm⟩ := exists_resolved_of_build h
  exact hresolved.exists_resolves (hperm.mem_iff.mp hentry)

/-- What holds of the records is said of the entries, in whichever order these are. -/
theorem forall_entries_iff_of_build (h : build collection suffix records = .ok index)
    {P : Record → Prop} {Q : Entry → Prop}
    (hPQ : ∀ record entry, Resolves collection suffix [] record entry → (P record ↔ Q entry)) :
    (∀ entry ∈ index.entries, Q entry) ↔ ∀ record ∈ records, P record := by
  obtain ⟨entries, hresolved, hperm⟩ := exists_resolved_of_build h
  simp only [hperm.mem_iff]
  exact (forall_mem_iff_of_related hresolved.resolves hPQ).symm

/-- The registry holds the tags of the entries and nothing else. -/
theorem mem_registry_of_build (h : build collection suffix records = .ok index) {tag : String} :
    tag ∈ index.registry.names ↔ ∃ entry ∈ index.entries, tag ∈ entry.resources := by
  obtain ⟨entries, -, rfl⟩ := build_eq_ok_iff_resolved.mp h
  have hmem (entry : Entry) : entry ∈ sortByKey entries ↔ entry ∈ entries :=
    (perm_sortByKey entries).mem_iff
  simp only [registryOf, Registry.mem_names_ofTags, List.mem_flatMap, hmem]

/-- No tag of a registry is a name that every listing declares. -/
theorem tag_free_of_build (h : build collection suffix records = .ok index) {tag : String}
    (htag : tag ∈ index.registry.names) : tag ∉ reservedNames collection := by
  obtain ⟨entry, hentry, hresource⟩ := (mem_registry_of_build h).mp htag
  obtain ⟨record, hresolves⟩ := exists_resolves_of_build h hentry
  exact hresolves.tag_free tag hresource

/-- The tags of a registry are those of the entries, so what holds of all of them, and of one more
text for every entry, holds entry by entry. -/
theorem forall_tags_and_texts_iff_of_build (h : build collection suffix records = .ok index)
    (text : Entry → String) {P : String → Prop} :
    (∀ name ∈ index.registry.names ++ index.entries.map text, P name) ↔
      ∀ entry ∈ index.entries, P (text entry) ∧ ∀ tag ∈ entry.resources, P tag := by
  constructor
  · intro hnames entry hentry
    refine ⟨hnames _ (List.mem_append_right _ (List.mem_map_of_mem hentry)), ?_⟩
    intro tag htag
    exact hnames tag (List.mem_append_left _ ((mem_registry_of_build h).mpr ⟨entry, hentry, htag⟩))
  · intro hentries name hname
    rcases List.mem_append.mp hname with htag | htext
    · obtain ⟨entry, hentry, hresource⟩ := (mem_registry_of_build h).mp htag
      exact (hentries entry hentry).2 name hresource
    · obtain ⟨entry, hentry, rfl⟩ := List.mem_map.mp htext
      exact (hentries entry hentry).1

end Built
end Index
end KeyCatalog
