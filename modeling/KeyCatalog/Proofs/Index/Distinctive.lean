import KeyCatalog.Proofs.Index.Acceptance
/-!
Records that their names alone tell apart. Whatever suffix is dropped from namespaces, a derived
identifier ends with the spelling of the name. So if no such spelling is the end of another one, of
a tag, or of a name that listings declare, the records are acceptable with every suffix.
-/
namespace KeyCatalog

def Record.ending (record : Record) : Text :=
  match Key.parse record.name with
  | .ok key => Identifier.ofName key.name.toList
  | .error _ => []

/-- What is asked of records so that it does not matter what is dropped from their namespaces. -/
structure Distinctive (collection : Collection) (records : List Record) : Prop where
  unstated : ∀ record ∈ records,
    record.variableName.getD "" = "" ∧ record.featureStatus.getD "" = ""
  apart : records.Pairwise fun record other =>
    ¬record.ending <:+ other.ending ∧ ¬other.ending <:+ record.ending
  clear : ∀ record ∈ records, ∀ name ∈ reservedNames collection ++ records.flatMap Record.resources,
    ¬record.ending <:+ name.toList
  resources : ∀ tag ∈ records.flatMap Record.resources, tag ∉ reservedNames collection

instance (collection : Collection) (records : List Record) :
    Decidable (Distinctive collection records) :=
  decidable_of_iff
    ((∀ record ∈ records,
        record.variableName.getD "" = "" ∧ record.featureStatus.getD "" = "") ∧
      (records.Pairwise fun record other =>
        ¬record.ending <:+ other.ending ∧ ¬other.ending <:+ record.ending) ∧
      (∀ record ∈ records,
        ∀ name ∈ reservedNames collection ++ records.flatMap Record.resources,
          ¬record.ending <:+ name.toList) ∧
      ∀ tag ∈ records.flatMap Record.resources, tag ∉ reservedNames collection)
    ⟨fun h => ⟨h.1, h.2.1, h.2.2.1, h.2.2.2⟩, fun h => ⟨h.1, h.2, h.3, h.4⟩⟩

variable {collection : Collection} {suffix identifier : String} {record : Record}
  {records : List Record}

namespace Record

theorem ending_of_key {key : Key} (h : key.text = record.name) :
    record.ending = Identifier.ofName key.name.toList := by
  rw [ending, ← h, Key.parse_text]

/-- Only a record that is named by a key has an ending. -/
theorem exists_key_of_ending (h : record.ending ≠ []) : ∃ key : Key, key.text = record.name := by
  rw [ending] at h
  cases hparse : Key.parse record.name with
  | ok key => exact ⟨key, Key.parse_eq_ok_iff.mp hparse⟩
  | error error =>
    rw [hparse] at h
    exact absurd rfl h

/-- Whatever is dropped from the namespace, a derived identifier ends with the spelling of the
name. -/
theorem HasIdentifier.ending_suffix (h : record.HasIdentifier suffix identifier)
    (hunstated : record.variableName.getD "" = "") : record.ending <:+ identifier.toList := by
  cases h with
  | stated hstated hne =>
    rw [hstated, Option.getD_some] at hunstated
    exact absurd hunstated hne
  | derived hname =>
    rw [ending_of_key hname, Identifier.derive, String.toList_ofList]
    exact List.suffix_append _ _

end Record

namespace Distinctive

theorem isValid (h : Distinctive collection records) (suffix : String) (hrecord : record ∈ records) :
    record.IsValid collection suffix where
  name := by
    have hunknown : Registry.unknown ∈ reservedNames collection := List.mem_cons_self
    apply Record.exists_key_of_ending
    intro hempty
    -- the empty text is the end of every name
    exact h.clear record hrecord _ (List.mem_append_left _ hunknown) (hempty ▸ List.nil_suffix)
  identifier identifier hidentifier hreserved :=
    h.clear record hrecord identifier (List.mem_append_left _ hreserved)
      (hidentifier.ending_suffix (h.unstated record hrecord).1)
  maturity value hvalue hne := by
    have hunstated := (h.unstated record hrecord).2
    rw [hvalue, Option.getD_some] at hunstated
    exact absurd hunstated hne
  resources tag htag := h.resources tag (List.mem_flatMap.mpr ⟨record, hrecord, htag⟩)

/-- Records with one name would have one ending. -/
theorem nodup_names (h : Distinctive collection records) : (records.map Record.name).Nodup := by
  rw [List.Nodup, List.pairwise_map]
  refine h.apart.imp ?_
  intro record other hends hname
  have hsame : record.ending = other.ending := by rw [Record.ending, Record.ending, hname]
  exact hends.1 (hsame ▸ List.suffix_refl _)

/-- Distinctive records are acceptable whatever suffix is dropped. -/
theorem acceptable (h : Distinctive collection records) (suffix : String) :
    Acceptable collection suffix records where
  valid record hrecord := h.isValid suffix hrecord
  names := h.nodup_names
  identifiers := by
    refine h.apart.imp_of_mem ?_
    intro record other hrecord hother hends identifier hidentifier hsame
    -- both endings end the one identifier, so the shorter one ends the longer one
    have hending := hidentifier.ending_suffix (h.unstated record hrecord).1
    have hotherEnding := hsame.ending_suffix (h.unstated other hother).1
    rcases List.suffix_or_suffix_of_suffix hending hotherEnding with hends' | hends'
    · exact hends.1 hends'
    · exact hends.2 hends'
  tags record hrecord tag htag owner howner hidentifier :=
    h.clear owner howner tag
      (List.mem_append_right _ (List.mem_flatMap.mpr ⟨record, hrecord, htag⟩))
      (hidentifier.ending_suffix (h.unstated owner howner).1)

end Distinctive

namespace Index

/-- Distinctive records give an index for every suffix. -/
theorem exists_build_of_distinctive (h : Distinctive collection records) (suffix : String) :
    ∃ index, build collection suffix records = .ok index := by
  obtain ⟨entries, hentries⟩ := exists_resolved_iff.mpr (h.acceptable suffix)
  exact ⟨_, build_eq_ok_iff_resolved.mpr ⟨entries, hentries, rfl⟩⟩

end Index
end KeyCatalog
