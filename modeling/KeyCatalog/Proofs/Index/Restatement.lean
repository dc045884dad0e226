import KeyCatalog.Proofs.Index.View
/-!
What an index is built from can be read off the index. An entry is written back as a record that
states all that was derived for it: its identifier, its maturity and its tags. Resolving that record
gives the entry again, so the records of an index give the same index.
-/
namespace KeyCatalog

/-- The record that states everything that an entry holds. -/
def Entry.toRecord (entry : Entry) : Record where
  name := entry.key.text
  variableName := some entry.identifier
  featureStatus := some entry.maturity.name
  description := entry.description
  hidden := entry.hidden
  deprecated := entry.deprecated
  resources := entry.resources

/-- An identifier is its own resolution. An empty one counts as not stated, but then it was derived,
and it is derived again. -/
theorem Identifier.resolve_resolve (key : Key) (stated : Option String) (suffix : String) :
    resolve key (some (resolve key stated suffix)) suffix = resolve key stated suffix := by
  by_cases hempty : resolve key stated suffix = ""
  · have hunstated : stated.getD "" = "" := by
      by_contra hne
      cases stated with
      | none => exact hne rfl
      | some identifier => exact hne ((resolve_stated hne).symm.trans hempty)
    calc resolve key (some (resolve key stated suffix)) suffix
      _ = derive key suffix := resolve_unstated hempty
      _ = resolve key stated suffix := (resolve_unstated hunstated).symm
  · exact resolve_stated hempty

/-- A maturity that is stated by its own name counts, whatever the key says. -/
theorem Maturity.resolve_name (key : Key) (maturity : Maturity) :
    resolve key (some maturity.name) = .ok maturity := by
  have hname : ofName? maturity.name.toList = some maturity := by cases maturity <;> decide
  have hne : maturity.name ≠ "" := by cases maturity <;> decide
  rw [resolve_stated hne, hname]

namespace Index

variable {collection : Collection} {suffix : String} {before entries : List Entry} {record : Record}
  {records : List Record} {entry : Entry} {index : Index}

theorem nodup_distinct (tags : List String) : (distinct tags).Nodup := by
  apply (pairwise_idxOf_distinct tags).imp
  rintro tag later hlt rfl
  exact Nat.lt_irrefl _ hlt

/-- Tags without repeats are kept as they are. -/
theorem distinct_of_nodup {tags : List String} (h : tags.Nodup) : distinct tags = tags := by
  induction tags with
  | nil => rfl
  | cons first rest ih =>
    obtain ⟨hfirst, hrest⟩ := List.nodup_cons.mp h
    have hkeep : rest.filter (· ≠ first) = rest := by
      apply List.filter_eq_self.mpr
      intro tag htag
      exact decide_eq_true fun heq => hfirst (heq ▸ htag)
    rw [distinct, ih hrest, hkeep]

/-- The record of a resolved entry is resolved to that entry. -/
theorem Resolves.restated (h : Resolves collection suffix before record entry) :
    Resolves collection suffix [] entry.toRecord entry where
  key := Key.parse_text entry.key
  identifier := by
    show entry.identifier = Identifier.resolve entry.key (some entry.identifier) suffix
    rw [h.identifier, Identifier.resolve_resolve]
  maturity := Maturity.resolve_name entry.key entry.maturity
  description := rfl
  hidden := rfl
  deprecated := rfl
  -- the tags are distinct already, so none of them is dropped
  resources := by
    show entry.resources = distinct entry.resources
    rw [h.resources, distinct_of_nodup (nodup_distinct record.resources)]
  key_new := fun _ hother => absurd hother List.not_mem_nil
  identifier_new := fun _ hother => absurd hother List.not_mem_nil
  identifier_free := h.identifier_free
  tag_free := h.tag_free

/-- Restated entries are resolved to themselves. -/
theorem Resolved.restated (h : Resolved collection suffix records entries) :
    Resolved collection suffix (entries.map Entry.toRecord) entries := by
  refine ⟨?_, h.apart, h.tag_apart⟩
  apply List.forall₂_map_left_iff.mpr
  apply List.forall₂_same.mpr
  intro entry hentry
  obtain ⟨record, hresolves⟩ := h.exists_resolves hentry
  exact hresolves.restated

/-- The entries of an index, written back as records, give the index that they come from. -/
theorem build_toRecord (h : build collection suffix records = .ok index) :
    build collection suffix (index.entries.map Entry.toRecord) = .ok index := by
  obtain ⟨entries, hresolved, rfl⟩ := build_eq_ok_iff_resolved.mp h
  -- in the order of their records the entries give this index, and the order leaves no trace
  have hauthored : build collection suffix (entries.map Entry.toRecord) =
      .ok ⟨collection, sortByKey entries, registryOf entries⟩ :=
    build_eq_ok_iff_resolved.mpr ⟨entries, hresolved.restated, rfl⟩
  have hperm : (entries.map Entry.toRecord).Perm ((sortByKey entries).map Entry.toRecord) :=
    ((perm_sortByKey entries).map Entry.toRecord).symm
  exact build_eq_ok_of_perm hperm hauthored

/-- A key that names its maturity and a repeated tag, and a key without any word, whose identifier
is empty. -/
def wordlessRecords : List Record :=
  [{ name := "beta.q/r", resources := ["Pod", "Node", "Pod"] }, { name := "./-" }]

def wordlessLabels : Index where
  collection := .labels
  entries :=
    [⟨⟨".", "-", by decide, by decide, by decide, by decide⟩, "", .alpha, "", false, false, []⟩,
      ⟨⟨"beta.q", "r", by decide, by decide, by decide, by decide⟩, "QBetaR", .beta, "", false,
        false, ["Pod", "Node"]⟩]
  registry := ⟨["Node", "Pod"]⟩

/-- An empty identifier is restated as an empty one, which counts as none, so it is derived
again. -/
theorem build_toRecord_wordless :
    build .labels defaultSuffix wordlessRecords = .ok wordlessLabels ∧
    wordlessLabels.entries.map Entry.toRecord =
      [{ name := "./-", variableName := some "", featureStatus := some "Alpha" },
        { name := "beta.q/r", variableName := some "QBetaR", featureStatus := some "Beta",
          resources := ["Pod", "Node"] }] ∧
    build .labels defaultSuffix (wordlessLabels.entries.map Entry.toRecord) =
      .ok wordlessLabels := by
  have hbuild : build .labels defaultSuffix wordlessRecords = .ok wordlessLabels := by
    decide +kernel
  exact ⟨hbuild, by decide +kernel, build_toRecord hbuild⟩

end Index
end KeyCatalog
