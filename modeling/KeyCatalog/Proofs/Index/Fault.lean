import KeyCatalog.Proofs.Index.Acceptance
import KeyCatalog.Proofs.Search
/-!
What is wrong with a record, said of the records before it as they are authored. The checks of a
record are made in one order, and the first one that fails is reported; a record with which nothing
is wrong passes them all.
-/
namespace KeyCatalog.Index

/-- The name of a record is the text of a key and the name of no record before it. -/
structure NameIsNew (before : List Record) (record : Record) (key : Key) : Prop where
  text : key.text = record.name
  new : ∀ other ∈ before, other.name ≠ record.name

/-- The identifier of a record is neither declared by listings nor one of a record before it. -/
structure IdentifierIsNew (collection : Collection) (suffix : String) (before : List Record)
    (record : Record) (identifier : String) : Prop where
  own : record.HasIdentifier suffix identifier
  free : identifier ∉ reservedNames collection
  new : ∀ other ∈ before, ¬other.HasIdentifier suffix identifier

/-- What is wrong with a record behind others: the first check that fails. Of those before it that
share its name or its identifier there is exactly one. -/
inductive Faults (collection : Collection) (suffix : String) (before : List Record)
    (record : Record) : RecordFault → Prop
  | missingName (h : record.name = "") : Faults collection suffix before record .missingName
  | invalidName {error : Key.ParseError} (hname : record.name ≠ "")
      (h : Key.parse record.name = .error error) :
      Faults collection suffix before record (.invalidName error)
  | duplicateName {key : Key} {previous : Nat} (hkey : key.text = record.name)
      (h : OnlyAt (fun other => other.name = record.name) before previous) :
      Faults collection suffix before record (.duplicateName key previous)
  | reservedIdentifier {key : Key} {identifier : String} (hname : NameIsNew before record key)
      (hidentifier : record.HasIdentifier suffix identifier)
      (h : identifier ∈ reservedNames collection) :
      Faults collection suffix before record (.reservedIdentifier key identifier)
  | sharedIdentifier {key : Key} {identifier : String} {previous : Nat}
      (hname : NameIsNew before record key) (hidentifier : record.HasIdentifier suffix identifier)
      (hfree : identifier ∉ reservedNames collection)
      (h : OnlyAt (fun other => other.HasIdentifier suffix identifier) before previous) :
      Faults collection suffix before record (.sharedIdentifier key identifier previous)
  | invalidMaturity {key : Key} {identifier : String} {error : Maturity.Unrecognized}
      (hname : NameIsNew before record key)
      (hidentifier : IdentifierIsNew collection suffix before record identifier)
      (h : Maturity.resolve key record.featureStatus = .error error) :
      Faults collection suffix before record (.invalidMaturity key error)
  | reservedResource {key : Key} {identifier : String} {maturity : Maturity} {tag : String}
      (hname : NameIsNew before record key)
      (hidentifier : IdentifierIsNew collection suffix before record identifier)
      (hmaturity : Maturity.resolve key record.featureStatus = .ok maturity)
      (h : IsFirst (· ∈ reservedNames collection) record.resources tag) :
      Faults collection suffix before record (.reservedResource key tag)

inductive Passes (collection : Collection) (suffix : String) (before : List Record)
    (record : Record) : Prop
  | intro {key : Key} {identifier : String} {maturity : Maturity}
      (hname : NameIsNew before record key)
      (hidentifier : IdentifierIsNew collection suffix before record identifier)
      (hmaturity : Maturity.resolve key record.featureStatus = .ok maturity)
      (hresources : ∀ tag ∈ record.resources, tag ∉ reservedNames collection)

variable {collection : Collection} {suffix : String} {before : List Record} {record : Record}
  {entries : List Entry} {entry : Entry} {fault : RecordFault} {key : Key} {identifier : String}
  {position : Nat}

namespace NameIsNew

theorem parse (h : NameIsNew before record key) : Key.parse record.name = .ok key :=
  Key.parse_eq_ok_iff.mpr h.text

theorem ne_empty (h : NameIsNew before record key) : record.name ≠ "" :=
  h.text ▸ Key.text_ne_empty key

end NameIsNew

section Entries

/-- No entry has a key exactly if no record has it for a name. -/
theorem findIdx?_key_eq_none_iff
    (h : List.Forall₂ (Resolves collection suffix []) before entries) :
    entries.findIdx? (·.key = key) = none ↔ ∀ other ∈ before, other.name ≠ key.text := by
  simp only [List.findIdx?_eq_none_iff, decide_eq_false_iff_not]
  symm
  apply forall_mem_iff_of_related h
  intro record entry hentry
  rw [← hentry.key_text]
  exact Key.text_injective.ne_iff

/-- A key is found at the one position where a record has it for a name. -/
theorem findIdx?_key_eq_some_iff
    (h : List.Forall₂ (Resolves collection suffix []) before entries)
    (hapart : entries.Pairwise Entry.Apart) :
    entries.findIdx? (·.key = key) = some position ↔
      OnlyAt (fun other => other.name = key.text) before position := by
  have hunique : entries.Pairwise fun entry other => ¬(entry.key = key ∧ other.key = key) :=
    hapart.imp fun hentry heq => hentry.key (heq.1.trans heq.2.symm)
  rw [findIdx?_eq_some_iff_onlyAt hunique]
  apply forall_congr'
  intro other
  rw [exists_getElem?_iff_of_related h fun record entry hentry => by
    rw [← hentry.key_text, Key.text_injective.eq_iff]]

theorem findIdx?_identifier_eq_none_iff
    (h : List.Forall₂ (Resolves collection suffix []) before entries) :
    entries.findIdx? (·.identifier = identifier) = none ↔
      ∀ other ∈ before, ¬other.HasIdentifier suffix identifier := by
  simp only [List.findIdx?_eq_none_iff, decide_eq_false_iff_not]
  symm
  apply forall_mem_iff_of_related h
  intro record entry hentry
  rw [hentry.hasIdentifier_iff, eq_comm]

/-- An identifier is found at the position of the one record that has it. -/
theorem findIdx?_identifier_eq_some_iff
    (h : List.Forall₂ (Resolves collection suffix []) before entries)
    (hapart : entries.Pairwise Entry.Apart) :
    entries.findIdx? (·.identifier = identifier) = some position ↔
      OnlyAt (fun other => other.HasIdentifier suffix identifier) before position := by
  have hunique : entries.Pairwise fun entry other =>
      ¬(entry.identifier = identifier ∧ other.identifier = identifier) :=
    hapart.imp fun hentry heq => hentry.identifier (heq.1.trans heq.2.symm)
  rw [findIdx?_eq_some_iff_onlyAt hunique]
  apply forall_congr'
  intro other
  rw [exists_getElem?_iff_of_related h fun record entry hentry => by
    rw [hentry.hasIdentifier_iff, eq_comm]]

end Entries

/-- Dropping repeated tags does not change which tag is the first of its sort. -/
theorem isFirst_distinct_iff {P : String → Prop} {tags : List String} {tag : String} :
    IsFirst P (distinct tags) tag ↔ IsFirst P tags tag := by
  induction tags with
  | nil => rfl
  | cons first rest ih =>
    rw [distinct, isFirst_cons_iff, isFirst_cons_iff]
    by_cases hfirst : P first
    · simp only [hfirst, not_true_eq_false, false_and]
    -- the tags that are left out are not the ones looked for
    · have hkeep : ∀ tag, P tag → decide (tag ≠ first) = true := by
        intro tag htag
        apply decide_eq_true
        rintro rfl
        exact hfirst htag
      rw [isFirst_filter_iff hkeep, ih]

/-- The first tag that listings declare is the one that is refused. -/
theorem checkResources_of_isFirst {tag : String}
    (h : IsFirst (· ∈ reservedNames collection) entry.resources tag) :
    checkResources collection entry = .error (.reservedResource entry.key tag) := by
  rw [checkResources, find?_eq_some_iff_isFirst.mpr h]

section Record

variable (h : List.Forall₂ (Resolves collection suffix []) before entries)

include h

theorem NameIsNew.findIdx?_eq_none (hname : NameIsNew before record key) :
    entries.findIdx? (·.key = key) = none :=
  (findIdx?_key_eq_none_iff h).mpr (hname.text ▸ hname.new)

/-- Of a record with a name and an identifier of its own the maturity is checked last. -/
theorem identify_of_new (hname : NameIsNew before record key)
    (hidentifier : IdentifierIsNew collection suffix before record identifier) :
    identify collection suffix entries record =
      ((Maturity.resolve key record.featureStatus).map fun maturity =>
        ⟨key, identifier, maturity, record.description, record.hidden, record.deprecated,
          distinct record.resources⟩).mapError (.invalidMaturity key) := by
  have hkeys := hname.findIdx?_eq_none h
  have hidentifiers := (findIdx?_identifier_eq_none_iff h).mpr hidentifier.new
  have hfree := hidentifier.free
  obtain rfl := (Record.hasIdentifier_iff hname.text).mp hidentifier.own
  simp only [identify, if_neg hname.ne_empty, hname.parse, hkeys, if_neg hfree, hidentifiers]
  cases Maturity.resolve key record.featureStatus with
  | error error => rfl
  | ok maturity => rfl

/-- A record that passes is resolved. -/
theorem exists_resolve_of_passes (hpasses : Passes collection suffix before record) :
    ∃ entry, resolve collection suffix entries record = .ok entry := by
  obtain ⟨hname, hidentifier, hmaturity, hresources⟩ := hpasses
  rw [resolve, identify_of_new h hname hidentifier, hmaturity]
  exact ⟨_, checkResources_eq_ok_iff.mpr ⟨rfl, fun tag htag => hresources tag (mem_distinct.mp htag)⟩⟩

variable (hapart : entries.Pairwise Entry.Apart)

include hapart

/-- A fault of a record is reported. -/
theorem resolve_of_faults (hfault : Faults collection suffix before record fault) :
    resolve collection suffix entries record = .error fault := by
  rw [resolve]
  -- one case for each check; those before it pass
  cases hfault with
  | missingName hname => rw [identify, if_pos hname]
  | invalidName hne hparse => simp only [identify, if_neg hne, hparse]
  | @duplicateName key previous hkey honly =>
    have hparse : Key.parse record.name = .ok key := Key.parse_eq_ok_iff.mpr hkey
    have hne : record.name ≠ "" := hkey ▸ Key.text_ne_empty key
    have hfound : entries.findIdx? (·.key = key) = some previous :=
      (findIdx?_key_eq_some_iff h hapart).mpr (hkey ▸ honly)
    simp only [identify, if_neg hne, hparse, hfound]
  | reservedIdentifier hname hidentifier hreserved =>
    have hkeys := hname.findIdx?_eq_none h
    obtain rfl := (Record.hasIdentifier_iff hname.text).mp hidentifier
    simp only [identify, if_neg hname.ne_empty, hname.parse, hkeys, if_pos hreserved]
  | sharedIdentifier hname hidentifier hfree honly =>
    have hkeys := hname.findIdx?_eq_none h
    have hfound := (findIdx?_identifier_eq_some_iff h hapart).mpr honly
    obtain rfl := (Record.hasIdentifier_iff hname.text).mp hidentifier
    simp only [identify, if_neg hname.ne_empty, hname.parse, hkeys, if_neg hfree, hfound]
  | invalidMaturity hname hidentifier hmaturity =>
    rw [identify_of_new h hname hidentifier, hmaturity]
    rfl
  | reservedResource hname hidentifier hmaturity hfirst =>
    rw [identify_of_new h hname hidentifier, hmaturity]
    exact checkResources_of_isFirst (isFirst_distinct_iff.mpr hfirst)

/-- Behind records that are resolved, a record passes every check or there is a first one that it
fails. -/
theorem passes_or_faults :
    Passes collection suffix before record ∨ ∃ fault, Faults collection suffix before record fault := by
  -- the checks in their order: each one fails, or what it asks is kept for those behind it
  by_cases hne : record.name = ""
  · exact .inr ⟨_, .missingName hne⟩
  cases hparse : Key.parse record.name with
  | error error => exact .inr ⟨_, .invalidName hne hparse⟩
  | ok key =>
  have hkey : key.text = record.name := Key.parse_eq_ok_iff.mp hparse
  cases hkeys : entries.findIdx? (·.key = key) with
  | some previous =>
    have honly := (findIdx?_key_eq_some_iff h hapart).mp hkeys
    exact .inr ⟨_, .duplicateName hkey (hkey ▸ honly)⟩
  | none =>
  have hname : NameIsNew before record key :=
    ⟨hkey, hkey ▸ (findIdx?_key_eq_none_iff h).mp hkeys⟩
  obtain ⟨identifier, hidentifier⟩ : ∃ identifier, record.HasIdentifier suffix identifier :=
    ⟨_, (Record.hasIdentifier_iff hkey).mpr rfl⟩
  by_cases hfree : identifier ∈ reservedNames collection
  · exact .inr ⟨_, .reservedIdentifier hname hidentifier hfree⟩
  cases hidentifiers : entries.findIdx? (·.identifier = identifier) with
  | some previous =>
    have honly := (findIdx?_identifier_eq_some_iff h hapart).mp hidentifiers
    exact .inr ⟨_, .sharedIdentifier hname hidentifier hfree honly⟩
  | none =>
  have hidentifier : IdentifierIsNew collection suffix before record identifier :=
    ⟨hidentifier, hfree, (findIdx?_identifier_eq_none_iff h).mp hidentifiers⟩
  cases hmaturity : Maturity.resolve key record.featureStatus with
  | error error => exact .inr ⟨_, .invalidMaturity hname hidentifier hmaturity⟩
  | ok maturity =>
  cases htag : record.resources.find? (· ∈ reservedNames collection) with
  | some tag =>
    have hfirst := find?_eq_some_iff_isFirst.mp htag
    exact .inr ⟨_, .reservedResource hname hidentifier hmaturity hfirst⟩
  | none =>
    have hresources : ∀ tag ∈ record.resources, tag ∉ reservedNames collection :=
      fun tag hmem hreserved => List.find?_eq_none.mp htag tag hmem (decide_eq_true hreserved)
    exact .inl ⟨hname, hidentifier, hmaturity, hresources⟩

/-- A record is refused for its first fault and for no other. -/
theorem resolve_eq_error_iff :
    resolve collection suffix entries record = .error fault ↔
      Faults collection suffix before record fault := by
  refine ⟨?_, resolve_of_faults h hapart⟩
  intro hresolve
  -- a record has one result, so the fault that it has is the one reported
  rcases passes_or_faults h hapart with hpasses | ⟨other, hfault⟩
  · obtain ⟨entry, hentry⟩ := exists_resolve_of_passes h hpasses
    cases hresolve.symm.trans hentry
  · cases hresolve.symm.trans (resolve_of_faults h hapart hfault)
    exact hfault

/-- Passing is what being resolved behind others asks for. -/
theorem exists_resolve_iff_passes :
    (∃ entry, resolve collection suffix entries record = .ok entry) ↔
      Passes collection suffix before record := by
  refine ⟨?_, exists_resolve_of_passes h⟩
  rintro ⟨entry, hentry⟩
  rcases passes_or_faults h hapart with hpasses | ⟨fault, hfault⟩
  · exact hpasses
  · cases hentry.symm.trans (resolve_of_faults h hapart hfault)

end Record

end KeyCatalog.Index
