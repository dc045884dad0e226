import KeyCatalog.Index
import Mathlib.Data.List.Basic
/-!
What resolving a record does, said by one relation, and the steps of a successful build.
-/
namespace KeyCatalog.Index

/-- A record is resolved to an entry behind entries that are resolved already. -/
structure Resolves (collection : Collection) (suffix : String) (before : List Entry)
    (record : Record) (entry : Entry) : Prop where
  key : Key.parse record.name = .ok entry.key
  identifier : entry.identifier = Identifier.resolve entry.key record.variableName suffix
  maturity : Maturity.resolve entry.key record.featureStatus = .ok entry.maturity
  description : entry.description = record.description
  hidden : entry.hidden = record.hidden
  deprecated : entry.deprecated = record.deprecated
  resources : entry.resources = distinct record.resources
  key_new : ∀ other ∈ before, other.key ≠ entry.key
  identifier_new : ∀ other ∈ before, other.identifier ≠ entry.identifier
  identifier_free : entry.identifier ∉ reservedNames collection
  tag_free : ∀ tag ∈ entry.resources, tag ∉ reservedNames collection

variable {collection : Collection} {suffix : String} {before : List Entry} {record : Record}
  {entry : Entry}

/-- Checking tags keeps the entry, and passes if no listing declares one of them. -/
theorem checkResources_eq_ok_iff {checked : Entry} :
    checkResources collection entry = .ok checked ↔
      checked = entry ∧ ∀ tag ∈ entry.resources, tag ∉ reservedNames collection := by
  rw [checkResources]
  split
  · next tag hfound =>
    have htag := List.find?_some hfound
    have hreserved : tag ∈ reservedNames collection := of_decide_eq_true htag
    have hmem := List.mem_of_find?_eq_some hfound
    exact ⟨fun h => (by cases h), fun h => absurd hreserved (h.2 tag hmem)⟩
  · next hnone =>
    have hfree : ∀ tag ∈ entry.resources, tag ∉ reservedNames collection :=
      fun tag hmem hreserved => List.find?_eq_none.mp hnone tag hmem (decide_eq_true hreserved)
    exact ⟨fun h => ⟨(Except.ok.inj h).symm, hfree⟩, fun h => by rw [h.1]⟩

/-- A record is resolved when it passes every check, one after the other. -/
theorem resolve_eq_ok_iff :
    resolve collection suffix before record = .ok entry ↔
      Resolves collection suffix before record entry := by
  constructor
  · intro h
    rw [resolve] at h
    split at h
    · cases h
    · next named hnamed =>
      obtain ⟨rfl, htags⟩ := checkResources_eq_ok_iff.mp h
      rw [identify] at hnamed
      -- one case for every check that `identify` makes
      split at hnamed
      · cases hnamed
      split at hnamed
      · cases hnamed
      next key hkey =>
      split at hnamed
      · cases hnamed
      next hkeys =>
      dsimp only at hnamed
      split at hnamed
      · cases hnamed
      next hfree =>
      split at hnamed
      · cases hnamed
      next hidentifiers =>
      split at hnamed
      · cases hnamed
      next maturity hmaturity =>
      cases hnamed
      have hkeyNew := List.findIdx?_eq_none_iff.mp hkeys
      have hidentifierNew := List.findIdx?_eq_none_iff.mp hidentifiers
      exact ⟨hkey, rfl, hmaturity, rfl, rfl, rfl, rfl,
        fun other hother => of_decide_eq_false (hkeyNew other hother),
        fun other hother => of_decide_eq_false (hidentifierNew other hother), hfree, htags⟩
  · intro h
    have hname : record.name ≠ "" := by
      intro hempty
      have hkey := h.key
      rw [hempty] at hkey
      cases hkey
    have hkeys : before.findIdx? (·.key = entry.key) = none :=
      List.findIdx?_eq_none_iff.mpr fun other hother => decide_eq_false (h.key_new other hother)
    have hidentifiers : before.findIdx? (·.identifier = entry.identifier) = none :=
      List.findIdx?_eq_none_iff.mpr fun other hother =>
        decide_eq_false (h.identifier_new other hother)
    have hnamed : identify collection suffix before record = .ok entry := by
      simp only [identify, if_neg hname, h.key, hkeys, ← h.identifier, if_neg h.identifier_free,
        hidentifiers, h.maturity, ← h.description, ← h.hidden, ← h.deprecated, ← h.resources]
    rw [resolve, hnamed]
    exact checkResources_eq_ok_iff.mpr ⟨rfl, h.tag_free⟩

theorem perm_insertEntry (entry : Entry) (entries : List Entry) :
    (insertEntry entry entries).Perm (entry :: entries) := by
  induction entries with
  | nil => rfl
  | cons other entries ih =>
    rw [insertEntry]
    split
    · exact (ih.cons other).trans (.swap entry other entries)
    · rfl

theorem perm_sortByKey (entries : List Entry) : (sortByKey entries).Perm entries := by
  induction entries with
  | nil => rfl
  | cons entry entries ih =>
    exact (perm_insertEntry entry (sortByKey entries)).trans (ih.cons entry)

/-- An index is built from resolved records without a clash of tags, sorted by key. -/
theorem build_eq_ok_iff {records : List Record} {index : Index} :
    build collection suffix records = .ok index ↔
      ∃ entries, resolveAll collection suffix [] records = .ok entries ∧
        tagClash? entries = none ∧
        index = ⟨collection, sortByKey entries, registryOf entries⟩ := by
  rw [build]
  constructor
  · intro h
    split at h
    · cases h
    · next entries hentries =>
      split at h
      · cases h
      · next hclash => exact ⟨entries, hentries, hclash, (Except.ok.inj h).symm⟩
  · rintro ⟨entries, hentries, hclash, rfl⟩
    simp only [hentries, hclash]

end KeyCatalog.Index
