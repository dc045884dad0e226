import KeyCatalog.Proofs.Index.Resolution
import KeyCatalog.Proofs.Key
import KeyCatalog.Proofs.Maturity
/-!
Which records give an index. Building checks records one after the other and gives up at the first
fault; here the same is said of all records at once, without an order and without entries: each
record is valid, no two of them share a name or an identifier, and no tag of a record is the
identifier of a record.
-/
namespace KeyCatalog

/-- The identifier of a record: the stated one unless it is empty, or else the one that is derived
from the key which the record is named by. -/
inductive Record.HasIdentifier (suffix : String) (record : Record) : String → Prop
  | stated {identifier : String} (h : record.variableName = some identifier)
      (hne : identifier ≠ "") : record.HasIdentifier suffix identifier
  | derived {key : Key} (hname : key.text = record.name) (h : record.variableName.getD "" = "") :
      record.HasIdentifier suffix (Identifier.derive key suffix)

/-- What is asked of a record whatever the other records are. Its name is the text of a key: a
namespace and a name, neither of them empty, and the only slash between them. -/
structure Record.IsValid (collection : Collection) (suffix : String) (record : Record) : Prop where
  name : ∃ key : Key, key.text = record.name
  identifier : ∀ identifier, record.HasIdentifier suffix identifier →
    identifier ∉ reservedNames collection
  maturity : ∀ value, record.featureStatus = some value → value ≠ "" → Maturity.IsName value
  resources : ∀ tag ∈ record.resources, tag ∉ reservedNames collection

structure Acceptable (collection : Collection) (suffix : String) (records : List Record) :
    Prop where
  valid : ∀ record ∈ records, record.IsValid collection suffix
  names : (records.map Record.name).Nodup
  identifiers : records.Pairwise fun record other => ∀ identifier,
    record.HasIdentifier suffix identifier → ¬other.HasIdentifier suffix identifier
  tags : ∀ record ∈ records, ∀ tag ∈ record.resources, ∀ owner ∈ records,
    ¬owner.HasIdentifier suffix tag

variable {collection : Collection} {suffix : String} {before : List Entry} {record : Record}
  {entry : Entry}

theorem Identifier.resolve_stated {key : Key} {identifier : String} (hne : identifier ≠ "") :
    resolve key (some identifier) suffix = identifier := by
  rw [resolve, Option.filter_some, if_pos (decide_eq_true hne), Option.getD_some]

theorem Identifier.resolve_unstated {key : Key} {stated : Option String}
    (h : stated.getD "" = "") : resolve key stated suffix = derive key suffix := by
  cases stated with
  | none => rfl
  | some identifier =>
    subst h
    rfl

/-- The identifier of a named record is the one that resolving it settles on. -/
theorem Record.hasIdentifier_iff {key : Key} (hkey : key.text = record.name)
    {identifier : String} :
    record.HasIdentifier suffix identifier ↔
      identifier = Identifier.resolve key record.variableName suffix := by
  constructor
  · intro h
    cases h with
    | stated hstated hne => rw [hstated, Identifier.resolve_stated hne]
    | derived hname hunstated =>
      rw [Identifier.resolve_unstated hunstated, Key.text_injective (hname.trans hkey.symm)]
  · rintro rfl
    by_cases hunstated : record.variableName.getD "" = ""
    -- an empty identifier counts as none
    · rw [Identifier.resolve_unstated hunstated]
      exact .derived hkey hunstated
    · cases hstated : record.variableName with
      | none => exact absurd (by rw [hstated, Option.getD_none]) hunstated
      | some identifier =>
        have hne : identifier ≠ "" := by simpa only [hstated, Option.getD_some] using hunstated
        rw [Identifier.resolve_stated hne]
        exact .stated hstated hne

namespace Index

theorem mem_distinct {tag : String} {tags : List String} : tag ∈ distinct tags ↔ tag ∈ tags := by
  induction tags with
  | nil => rfl
  | cons first rest ih =>
    rw [distinct, List.mem_cons, List.mem_filter, ih, List.mem_cons]
    by_cases h : tag = first
    · simp [h]
    · simp [h]

namespace Resolves

theorem key_text (h : Resolves collection suffix before record entry) :
    entry.key.text = record.name :=
  Key.parse_eq_ok_iff.mp h.key

theorem hasIdentifier_iff (h : Resolves collection suffix before record entry)
    {identifier : String} :
    record.HasIdentifier suffix identifier ↔ identifier = entry.identifier := by
  rw [Record.hasIdentifier_iff h.key_text, h.identifier]

theorem mem_resources (h : Resolves collection suffix before record entry) {tag : String} :
    tag ∈ entry.resources ↔ tag ∈ record.resources := by
  rw [h.resources, mem_distinct]

end Resolves

/-- A record is resolved on its own exactly if it is valid. -/
theorem exists_resolves_iff :
    (∃ entry, Resolves collection suffix [] record entry) ↔ record.IsValid collection suffix := by
  constructor
  · rintro ⟨entry, h⟩
    refine ⟨⟨entry.key, h.key_text⟩, ?_, Maturity.exists_resolve_eq_ok_iff.mp ⟨_, h.maturity⟩, ?_⟩
    · intro identifier hidentifier
      rw [h.hasIdentifier_iff.mp hidentifier]
      exact h.identifier_free
    · intro tag htag
      exact h.tag_free tag (h.mem_resources.mpr htag)
  · rintro ⟨⟨key, hname⟩, hidentifier, hmaturity, hresources⟩
    obtain ⟨maturity, hmaturity⟩ : ∃ maturity,
        Maturity.resolve key record.featureStatus = .ok maturity :=
      Maturity.exists_resolve_eq_ok_iff.mpr hmaturity
    -- the entry that the record gives when nothing comes before it
    refine ⟨⟨key, Identifier.resolve key record.variableName suffix, maturity, record.description,
      record.hidden, record.deprecated, distinct record.resources⟩, ?_⟩
    exact {
      key := Key.parse_eq_ok_iff.mpr hname
      identifier := rfl
      maturity := hmaturity
      description := rfl
      hidden := rfl
      deprecated := rfl
      resources := rfl
      key_new := fun _ hother => absurd hother List.not_mem_nil
      identifier_new := fun _ hother => absurd hother List.not_mem_nil
      identifier_free := hidentifier _ ((Record.hasIdentifier_iff hname).mpr rfl)
      tag_free := fun tag htag => hresources tag (mem_distinct.mp htag) }

section Related

variable {records : List Record} {entries : List Entry}

/-- Entries are apart exactly if their records share no name and no identifier. -/
theorem pairwise_apart_iff
    (h : List.Forall₂ (Resolves collection suffix []) records entries) :
    entries.Pairwise Entry.Apart ↔
      (records.map Record.name).Nodup ∧
        records.Pairwise fun record other => ∀ identifier,
          record.HasIdentifier suffix identifier → ¬other.HasIdentifier suffix identifier := by
  have hapart : entries.Pairwise Entry.Apart ↔
      entries.Pairwise fun entry other =>
        entry.key ≠ other.key ∧ entry.identifier ≠ other.identifier :=
    List.Pairwise.iff fun entry other => ⟨fun h => ⟨h.key, h.identifier⟩, fun h => ⟨h.1, h.2⟩⟩
  rw [hapart, List.pairwise_and_iff, List.Nodup, List.pairwise_map]
  apply and_congr
  -- names are the texts of keys, so they differ where keys do
  · symm
    apply pairwise_iff_of_related h
    intro record entry hentry record' entry' hentry'
    rw [← hentry.key_text, ← hentry'.key_text]
    exact Key.text_injective.ne_iff
  · symm
    apply pairwise_iff_of_related h
    intro record entry hentry record' entry' hentry'
    simp only [hentry.hasIdentifier_iff, hentry'.hasIdentifier_iff, forall_eq, ne_eq]

/-- No tag of a record is the identifier of a record, wherever the record with the tag comes from. -/
theorem tags_free_iff (h : List.Forall₂ (Resolves collection suffix []) records entries)
    (hentry : Resolves collection suffix [] record entry) :
    (∀ tag ∈ record.resources, ∀ owner ∈ records, ¬owner.HasIdentifier suffix tag) ↔
      ∀ tag ∈ entry.resources, ∀ owner ∈ entries, owner.identifier ≠ tag := by
  have howner (tag : String) : (∀ owner ∈ records, ¬owner.HasIdentifier suffix tag) ↔
      ∀ owner ∈ entries, owner.identifier ≠ tag := by
    apply forall_mem_iff_of_related h
    intro owner entry howner
    rw [howner.hasIdentifier_iff, ne_eq, eq_comm]
  simp only [hentry.mem_resources, howner]

/-- A tag is apart from all identifiers of entries exactly if it is from those of records. -/
theorem tags_apart_iff (h : List.Forall₂ (Resolves collection suffix []) records entries) :
    (∀ entry ∈ entries, ∀ tag ∈ entry.resources, ∀ owner ∈ entries, owner.identifier ≠ tag) ↔
      ∀ record ∈ records, ∀ tag ∈ record.resources, ∀ owner ∈ records,
        ¬owner.HasIdentifier suffix tag := by
  symm
  apply forall_mem_iff_of_related h
  -- owners range over all records, before and after the one with the tag
  exact fun record entry hentry => tags_free_iff h hentry

/-- Entries for all records exist exactly if the records are acceptable. -/
theorem exists_resolved_iff :
    (∃ entries, Resolved collection suffix records entries) ↔
      Acceptable collection suffix records := by
  constructor
  · rintro ⟨entries, h⟩
    obtain ⟨hnames, hidentifiers⟩ := (pairwise_apart_iff h.resolves).mp h.apart
    refine ⟨?_, hnames, hidentifiers, (tags_apart_iff h.resolves).mp h.tag_apart⟩
    intro record hrecord
    exact exists_resolves_iff.mp (exists_related_iff.mp ⟨entries, h.resolves⟩ record hrecord)
  -- every valid record has an entry, and the entries are as far apart as the records
  · intro h
    obtain ⟨entries, hentries⟩ :=
      exists_related_iff.mpr fun record hrecord => exists_resolves_iff.mpr (h.valid record hrecord)
    exact ⟨entries, hentries, (pairwise_apart_iff hentries).mpr ⟨h.names, h.identifiers⟩,
      (tags_apart_iff hentries).mpr h.tags⟩

end Related

/-- Records give an index if and only if they are acceptable. -/
theorem build_succeeds_iff_acceptable (collection : Collection) (suffix : String)
    (records : List Record) :
    (∃ index, build collection suffix records = .ok index) ↔
      Acceptable collection suffix records := by
  rw [← exists_resolved_iff]
  constructor
  · rintro ⟨index, hindex⟩
    obtain ⟨entries, h, -⟩ := build_eq_ok_iff_resolved.mp hindex
    exact ⟨entries, h⟩
  · rintro ⟨entries, h⟩
    exact ⟨_, build_eq_ok_iff_resolved.mpr ⟨entries, h, rfl⟩⟩

end Index
end KeyCatalog
