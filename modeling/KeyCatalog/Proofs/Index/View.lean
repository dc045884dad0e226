import KeyCatalog.Proofs.Index.Acceptance
import KeyCatalog.Proofs.Index.Order
import KeyCatalog.Proofs.Utf8
import Mathlib.Data.Finset.Card
/-!
What an index says of the records that it is built from. Every record is there once, under its own
key and with its own data; the entries ascend by the bytes of their keys, a key is looked up through
its position among them, and the registry holds the tags that the entries have.
-/
namespace KeyCatalog

/-- An entry says of a record what the record says. Of its tags the first occurrences are kept, in
the order that they have in the record. -/
structure Entry.Represents (suffix : String) (record : Record) (entry : Entry) : Prop where
  key : entry.key.text = record.name
  identifier : entry.identifier = Identifier.resolve entry.key record.variableName suffix
  maturity : Maturity.resolve entry.key record.featureStatus = .ok entry.maturity
  description : entry.description = record.description
  hidden : entry.hidden = record.hidden
  deprecated : entry.deprecated = record.deprecated
  mem_resources : ∀ tag, tag ∈ entry.resources ↔ tag ∈ record.resources
  resources_order : entry.resources.Pairwise fun tag later =>
    record.resources.idxOf tag < record.resources.idxOf later

namespace Index

variable {collection : Collection} {suffix : String} {records : List Record} {entries : List Entry}
  {record : Record} {entry : Entry} {index : Index}

/-- First occurrences come in the order that the tags had. -/
theorem pairwise_idxOf_distinct (tags : List String) :
    (distinct tags).Pairwise fun tag later => tags.idxOf tag < tags.idxOf later := by
  induction tags with
  | nil => exact .nil
  | cons first rest ih =>
    have hne : ∀ tag ∈ (distinct rest).filter (· ≠ first), first ≠ tag := by
      intro tag htag
      exact (of_decide_eq_true (List.mem_filter.mp htag).2).symm
    rw [distinct, List.pairwise_cons]
    constructor
    · intro tag htag
      rw [List.idxOf_cons_self, List.idxOf_cons_ne rest (hne tag htag)]
      exact Nat.zero_lt_succ _
    -- behind the first tag every other one is one place further
    · apply (ih.filter _).imp_of_mem
      intro tag later htag hlater hlt
      rw [List.idxOf_cons_ne rest (hne tag htag), List.idxOf_cons_ne rest (hne later hlater)]
      exact Nat.succ_lt_succ hlt

/-- An entry represents the record that it is resolved from. -/
theorem Resolves.represents (h : Resolves collection suffix [] record entry) :
    entry.Represents suffix record where
  key := h.key_text
  identifier := h.identifier
  maturity := h.maturity
  description := h.description
  hidden := h.hidden
  deprecated := h.deprecated
  mem_resources _ := h.mem_resources
  resources_order := by
    rw [h.resources]
    exact pairwise_idxOf_distinct record.resources

section Lookup

theorem mem_positions {key : String} {position : Nat} :
    (key, position) ∈ index.positions ↔
      ∃ entry, index.entries[position]? = some entry ∧ entry.key.text = key := by
  rw [positions, List.mem_map]
  constructor
  · rintro ⟨⟨entry, found⟩, hmem, heq⟩
    cases heq
    exact ⟨entry, List.mk_mem_zipIdx_iff_getElem?.mp hmem, rfl⟩
  · rintro ⟨entry, hentry, rfl⟩
    exact ⟨(entry, position), List.mk_mem_zipIdx_iff_getElem?.mpr hentry, rfl⟩

theorem nodup_positions (h : Ascending index.entries) :
    (index.positions.reverse.map Prod.fst).Nodup := by
  let text : Entry → String := fun entry => entry.key.text
  have hkeys : index.positions.map Prod.fst = index.entries.map text :=
    calc index.positions.map Prod.fst
      _ = index.entries.zipIdx.map (text ∘ Prod.fst) := List.map_map ..
      _ = (index.entries.zipIdx.map Prod.fst).map text := (List.map_map ..).symm
      _ = index.entries.map text := by rw [List.zipIdx_map_fst]
  rw [List.map_reverse, List.nodup_reverse, hkeys]
  apply List.pairwise_map.mpr
  exact h.imp fun hlt => ne_of_lt hlt

/-- Looking a key up gives the position of its entry. -/
theorem position?_eq_some_iff (h : Ascending index.entries) {key : String} {position : Nat} :
    index.position? key = some position ↔
      ∃ entry, index.entries[position]? = some entry ∧ entry.key.text = key := by
  rw [position?, lookup_eq_some_iff_mem (nodup_positions h), List.mem_reverse, mem_positions]

/-- Looking a key up through its position finds the entry of that key. -/
theorem find?_eq_some_iff (h : Ascending index.entries) {key : String} :
    index.find? key = some entry ↔ entry ∈ index.entries ∧ entry.key.text = key := by
  rw [find?, Option.bind_eq_some_iff]
  constructor
  · rintro ⟨position, hposition, hentry⟩
    obtain ⟨other, hother, hkey⟩ := (position?_eq_some_iff h).mp hposition
    cases hentry.symm.trans hother
    exact ⟨List.mem_of_getElem? hentry, hkey⟩
  · rintro ⟨hmem, hkey⟩
    obtain ⟨position, hentry⟩ := List.mem_iff_getElem?.mp hmem
    exact ⟨position, (position?_eq_some_iff h).mpr ⟨entry, hentry, hkey⟩, hentry⟩

/-- The position of a key is the place at which a scan of the entries stops. -/
theorem find?_eq_scan (h : Ascending index.entries) (key : String) :
    index.find? key = index.entries.find? (·.key.text = key) := by
  cases hscan : index.entries.find? (·.key.text = key) with
  | some entry =>
    apply (find?_eq_some_iff h).mpr
    exact ⟨List.mem_of_find?_eq_some hscan, by simpa using List.find?_some hscan⟩
  | none =>
    apply Option.eq_none_iff_forall_ne_some.mpr
    intro entry hentry
    obtain ⟨hmem, hkey⟩ := (find?_eq_some_iff h).mp hentry
    exact List.find?_eq_none.mp hscan entry hmem (decide_eq_true hkey)

end Lookup

theorem ascending_of_build (h : build collection suffix records = .ok index) :
    Ascending index.entries := by
  obtain ⟨entries, hresolved, rfl⟩ := build_eq_ok_iff_resolved.mp h
  exact ascending_sortByKey hresolved.apart

section Count

/-- There is one entry for each record. -/
theorem size_of_build (h : build collection suffix records = .ok index) :
    index.size = records.length := by
  obtain ⟨authored, hresolved, hperm⟩ := exists_resolved_of_build h
  rw [size, hperm.length_eq, hresolved.resolves.length_eq]

/-- The registry holds the tags of the records and no others. -/
theorem mem_registry_iff_of_build (h : build collection suffix records = .ok index) {tag : String} :
    tag ∈ index.registry.names ↔ tag ∈ records.flatMap Record.resources := by
  obtain ⟨authored, hresolved, hperm⟩ := exists_resolved_of_build h
  -- no entry has the tag exactly if no record has it
  have hnone : (∀ record ∈ records, tag ∉ record.resources) ↔
      ∀ entry ∈ authored, tag ∉ entry.resources :=
    forall_mem_iff_of_related hresolved.resolves fun _ _ hentry => not_congr hentry.mem_resources.symm
  rw [mem_registry_of_build h, List.mem_flatMap]
  simp only [hperm.mem_iff]
  rw [← not_iff_not]
  simpa only [not_exists, not_and] using hnone.symm

theorem pairwise_names_of_build (h : build collection suffix records = .ok index) :
    index.registry.names.Pairwise (· < ·) := by
  obtain ⟨entries, -, rfl⟩ := build_eq_ok_iff_resolved.mp h
  exact Registry.pairwise_names_ofTags _

/-- A registry holds as many tags as the records have different ones. -/
theorem registry_size_of_build (h : build collection suffix records = .ok index) :
    index.registry.size = (records.flatMap Record.resources).toFinset.card := by
  have hnodup : index.registry.names.Nodup :=
    (pairwise_names_of_build h).imp fun hlt => ne_of_lt hlt
  have hsame : index.registry.names.toFinset = (records.flatMap Record.resources).toFinset := by
    ext tag
    rw [List.mem_toFinset, List.mem_toFinset, mem_registry_iff_of_build h]
  rw [← hsame, List.toFinset_card_of_nodup hnodup, Registry.size]

end Count

/-- An index that is built is a view of its records. The entries ascend by the bytes of their keys
and are, in another order, one for each record, which they represent. A look-up finds the entry of a
key, at a position that exists, and nothing for any other text. The names of the registry ascend and
are the tags of the entries, each of which has an ordinal. -/
theorem build_represents_records (h : build collection suffix records = .ok index) :
    (index.entries.Pairwise fun entry later =>
      Bytes.ofText entry.key.text < Bytes.ofText later.key.text) ∧
    (∃ authored, List.Forall₂ (Entry.Represents suffix) records authored ∧
      index.entries.Perm authored) ∧
    (∀ key entry, index.find? key = some entry ↔
      entry ∈ index.entries ∧ entry.key.text = key) ∧
    (∀ key position, index.position? key = some position → position < index.entries.length) ∧
    index.registry.names.Pairwise (· < ·) ∧
    (∀ tag, tag ∈ index.registry.names ↔ ∃ entry ∈ index.entries, tag ∈ entry.resources) ∧
    ∀ entry ∈ index.entries, ∀ tag ∈ entry.resources, ∃ ordinal,
      index.registry.ordinal? tag = some ordinal ∧ index.registry.name ordinal = tag := by
  -- look-ups rest on the order of the entries
  have hascending := ascending_of_build h
  refine ⟨?_, ?_, ?_, ?_, ?_, ?_, ?_⟩
  · exact hascending.imp fun hlt => Bytes.ofText_lt_ofText_iff.mpr hlt
  · obtain ⟨authored, hresolved, hperm⟩ := exists_resolved_of_build h
    refine ⟨authored, hresolved.resolves.imp ?_, hperm⟩
    exact fun record entry hresolves => hresolves.represents
  · exact fun key entry => find?_eq_some_iff hascending
  · intro key position hposition
    obtain ⟨entry, hentry, -⟩ := (position?_eq_some_iff hascending).mp hposition
    exact (List.getElem?_eq_some_iff.mp hentry).1
  · exact pairwise_names_of_build h
  · exact fun tag => mem_registry_of_build h
  · intro entry hentry tag htag
    apply Registry.exists_ordinal?_of_mem (pairwise_names_of_build h)
    exact (mem_registry_of_build h).mpr ⟨entry, hentry, htag⟩

/-- The entry of the record that comes first stands second. -/
theorem build_represents_descending :
    build .labels defaultSuffix descendingRecords = .ok ascendingLabels ∧
    ascendingLabels.position? "d/y" = some 1 ∧
    (∀ entry, ascendingLabels.find? "d/y" = some entry ↔
      entry ∈ ascendingLabels.entries ∧ entry.key.text = "d/y") ∧
    ∀ tag, tag ∈ ascendingLabels.registry.names ↔
      ∃ entry ∈ ascendingLabels.entries, tag ∈ entry.resources := by
  have hbuild : build .labels defaultSuffix descendingRecords = .ok ascendingLabels := by
    decide +kernel
  obtain ⟨-, -, hfind, -, -, hnames, -⟩ := build_represents_records hbuild
  exact ⟨hbuild, by decide +kernel, hfind "d/y", hnames⟩

end Index
end KeyCatalog
