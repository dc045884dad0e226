import KeyCatalog.Proofs.Identifier
import KeyCatalog.Proofs.Index.Acceptance
import KeyCatalog.Proofs.Outline.Names
/-!
Whether the declarations of a Go listing are well-formed. An index keeps stated identifiers and tags
as they are, and a derived identifier keeps the characters of its key, so this is decided by the
records: no check on them asks for it.
-/
namespace KeyCatalog
open Identifier

structure Record.Declarable (suffix : String) (record : Record) : Prop where
  stated : ∀ identifier, record.variableName = some identifier → identifier ≠ "" →
    Usable identifier
  derived : record.variableName.getD "" = "" → ∀ key : Key, key.text = record.name →
    Spellable key suffix
  tags : ∀ tag ∈ record.resources, Usable tag

/-- An identifier can be declared if the stated one can or, without one, if the key spells one that
can. -/
theorem Record.usable_identifier_iff {suffix : String} {record : Record} :
    (∀ identifier, record.HasIdentifier suffix identifier → Usable identifier) ↔
      (∀ identifier, record.variableName = some identifier → identifier ≠ "" →
        Usable identifier) ∧
      (record.variableName.getD "" = "" → ∀ key : Key, key.text = record.name →
        Spellable key suffix) := by
  constructor
  · intro h
    exact ⟨fun identifier hstated hne => h identifier (.stated hstated hne),
      fun hunstated key hname => usable_derive_iff.mp (h _ (.derived hname hunstated))⟩
  · rintro ⟨hstated, hderived⟩ identifier hidentifier
    cases hidentifier with
    | stated hsome hne => exact hstated identifier hsome hne
    | derived hname hunstated => exact usable_derive_iff.mpr (hderived hunstated _ hname)

namespace Index
open Outline

variable {collection : Collection} {suffix : String} {before : List Entry} {record : Record}
  {entry : Entry} {records : List Record} {index : Index}

/-- What a record declares is what its entry declares. -/
theorem Resolves.declarable_iff (h : Resolves collection suffix before record entry) :
    record.Declarable suffix ↔
      Usable entry.identifier ∧ ∀ tag ∈ entry.resources, Usable tag := by
  have hidentifier : Usable entry.identifier ↔
      ∀ identifier, record.HasIdentifier suffix identifier → Usable identifier := by
    simp only [h.hasIdentifier_iff, forall_eq]
  have htags : (∀ tag ∈ entry.resources, Usable tag) ↔ ∀ tag ∈ record.resources, Usable tag := by
    simp only [h.mem_resources]
  rw [hidentifier, htags, Record.usable_identifier_iff]
  constructor
  · rintro ⟨hstated, hderived, hresources⟩
    exact ⟨⟨hstated, hderived⟩, hresources⟩
  · rintro ⟨⟨hstated, hderived⟩, hresources⟩
    exact ⟨hstated, hderived, hresources⟩

/-- The names that every listing declares can be declared. -/
theorem usable_of_mem_reservedNames (collection : Collection) :
    ∀ name ∈ reservedNames collection, Usable name := by
  cases collection <;> decide +kernel

/-- The names that the Go listing writes bare can all be declared if and only if those of every
record can: its stated identifier, or else what its key spells, and its tags. -/
theorem declared_names_usable_iff (h : build collection suffix records = .ok index)
    (package : String) :
    ((∀ entry ∈ index.entries, Usable entry.identifier ∧ ∀ tag ∈ entry.resources, Usable tag) ↔
      ∀ record ∈ records, record.Declarable suffix) ∧
    ((∀ name ∈ namesIn "package" (Go.outline index package), Usable name) ↔
      ∀ record ∈ records, record.Declarable suffix) := by
  have hrecords : (∀ entry ∈ index.entries,
      Usable entry.identifier ∧ ∀ tag ∈ entry.resources, Usable tag) ↔
        ∀ record ∈ records, record.Declarable suffix :=
    forall_entries_iff_of_build h fun _ _ hentry => hentry.declarable_iff
  have hdeclared : (∀ name ∈ namesIn "package" (Go.outline index package), Usable name) ↔
      ∀ name ∈ index.registry.names ++ index.entries.map (·.identifier), Usable name := by
    have hreserved := usable_of_mem_reservedNames index.collection
    simp only [(perm_namesIn_outline index package).mem_iff]
    rw [List.forall_mem_append]
    exact and_iff_right hreserved
  exact ⟨hrecords, hdeclared.trans ((forall_tags_and_texts_iff_of_build h _).trans hrecords)⟩

theorem declared_names_usable_iff_ascending :
    build .labels defaultSuffix descendingRecords = .ok ascendingLabels ∧
    ((∀ entry ∈ ascendingLabels.entries,
        Usable entry.identifier ∧ ∀ tag ∈ entry.resources, Usable tag) ↔
      ∀ record ∈ descendingRecords, record.Declarable defaultSuffix) ∧
    ((∀ name ∈ namesIn "package" (Go.outline ascendingLabels "keys"), Usable name) ↔
      ∀ record ∈ descendingRecords, record.Declarable defaultSuffix) := by
  have hbuild : build .labels defaultSuffix descendingRecords = .ok ascendingLabels := by
    decide +kernel
  exact ⟨hbuild, declared_names_usable_iff hbuild "keys"⟩

/-- A record whose key starts with a digit, with a predeclared name for a tag. -/
def digitRecord : Record :=
  { name := "3scale.kubevm.io/limit", resources := ["string"] }

def digitAnnotations : Index where
  collection := .annotations
  entries :=
    [⟨⟨"3scale.kubevm.io", "limit", by decide, by decide, by decide, by decide⟩, "3scaleLimit",
      .alpha, "", false, false, ["string"]⟩]
  registry := ⟨["string"]⟩

/-- No check on a record sees to it that the listing can declare its names. -/
theorem build_accepts_unusable_names :
    build .annotations defaultSuffix [digitRecord] = .ok digitAnnotations ∧
    ¬∀ entry ∈ digitAnnotations.entries,
      Usable entry.identifier ∧ ∀ tag ∈ entry.resources, Usable tag := by
  refine ⟨by decide +kernel, by decide +kernel⟩

end Index
end KeyCatalog
