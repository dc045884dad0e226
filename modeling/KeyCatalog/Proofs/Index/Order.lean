import KeyCatalog.Listing.Language
import KeyCatalog.Proofs.Index.Resolution
import KeyCatalog.Proofs.Key
import Mathlib.Data.List.Perm.Basic
/-!
The order in which records are authored leaves no trace in an index: entries are sorted by their
keys, which are distinct, and a registry holds a set of tags in ascending order.
-/
namespace KeyCatalog.Index

variable {collection : Collection} {suffix : String} {records others : List Record}
  {entries : List Entry} {entry : Entry} {index : Index}

def Ascending (entries : List Entry) : Prop :=
  entries.Pairwise fun entry other => entry.key.text < other.key.text

/-- An entry with a new key is put where the order goes on. -/
theorem ascending_insertEntry (hnew : ∀ other ∈ entries, other.key ≠ entry.key)
    (h : Ascending entries) : Ascending (insertEntry entry entries) := by
  induction entries with
  | nil => exact List.pairwise_singleton _ entry
  | cons other rest ih =>
    obtain ⟨hother, hrest⟩ := List.pairwise_cons.mp h
    obtain ⟨hne, hnew⟩ := List.forall_mem_cons.mp hnew
    rw [insertEntry]
    split
    -- the entry belongs further on, and what comes after the first is as before with the entry
    · next hlt =>
      apply List.pairwise_cons.mpr
      refine ⟨?_, ih hnew hrest⟩
      intro later hlater
      rcases List.mem_cons.mp ((perm_insertEntry entry rest).mem_iff.mp hlater) with rfl | hlater
      · exact hlt
      · exact hother later hlater
    -- it belongs in front; keys of one text are one key, so it is not level with the first
    · next hnot =>
      have hlt : entry.key.text < other.key.text :=
        lt_of_le_of_ne (not_lt.mp hnot) (Key.text_injective.ne hne.symm)
      apply List.pairwise_cons.mpr
      refine ⟨?_, h⟩
      intro later hlater
      rcases List.mem_cons.mp hlater with rfl | hlater
      · exact hlt
      · exact lt_trans hlt (hother later hlater)

theorem ascending_sortByKey (h : entries.Pairwise Entry.Apart) : Ascending (sortByKey entries) := by
  induction entries with
  | nil => exact .nil
  | cons entry rest ih =>
    obtain ⟨hentry, hrest⟩ := List.pairwise_cons.mp h
    apply ascending_insertEntry _ (ih hrest)
    intro other hother
    exact (hentry other ((perm_sortByKey rest).mem_iff.mp hother)).key.symm

/-- Two strictly ascending orders of the same entries are one. -/
theorem Ascending.eq_of_mem_iff {permuted : List Entry} (h : Ascending entries)
    (hpermuted : Ascending permuted) (hmem : ∀ entry, entry ∈ entries ↔ entry ∈ permuted) :
    entries = permuted := by
  have hnodup {sorted : List Entry} (hsorted : Ascending sorted) : sorted.Nodup := by
    apply hsorted.imp
    rintro entry other hlt rfl
    exact lt_irrefl _ hlt
  have hperm : entries.Perm permuted :=
    (List.perm_ext_iff_of_nodup (hnodup h) (hnodup hpermuted)).mpr hmem
  apply hperm.eq_of_pairwise _ h hpermuted
  intro entry other _ _ hlt hgt
  exact absurd hgt (lt_asymm hlt)

theorem mem_sortByKey : entry ∈ sortByKey entries ↔ entry ∈ entries :=
  (perm_sortByKey entries).mem_iff

/-- Entries without shared keys are sorted in one way only. -/
theorem sortByKey_eq_of_perm {permuted : List Entry} (h : entries.Perm permuted)
    (hapart : entries.Pairwise Entry.Apart) : sortByKey entries = sortByKey permuted := by
  have hpermuted : permuted.Pairwise Entry.Apart :=
    hapart.perm h fun hentry => hentry.symm
  apply (ascending_sortByKey hapart).eq_of_mem_iff (ascending_sortByKey hpermuted)
  intro entry
  rw [mem_sortByKey, mem_sortByKey, h.mem_iff]

/-- A registry depends on the set of tags. -/
theorem registryOf_eq_of_perm {permuted : List Entry} (h : entries.Perm permuted) :
    registryOf entries = registryOf permuted :=
  Registry.ofTags_congr fun _ => (h.flatMap_right Entry.resources).mem_iff

/-- Records in another order are resolved to the same entries in that order. -/
theorem Resolved.exists_of_perm (h : Resolved collection suffix records entries)
    (hperm : records.Perm others) :
    ∃ permuted, Resolved collection suffix others permuted ∧ entries.Perm permuted := by
  obtain ⟨permuted, hresolves, hentries⟩ := List.perm_comp_forall₂ hperm.symm h.resolves
  refine ⟨permuted, ⟨hresolves, ?_, ?_⟩, hentries.symm⟩
  · exact h.apart.perm hentries.symm fun hentry => hentry.symm
  · intro entry hentry tag htag owner howner
    exact h.tag_apart entry (hentries.mem_iff.mp hentry) tag htag owner (hentries.mem_iff.mp howner)

/-- An index that records give is the one that they give in any order. -/
theorem build_eq_ok_of_perm (hperm : records.Perm others)
    (h : build collection suffix records = .ok index) :
    build collection suffix others = .ok index := by
  obtain ⟨entries, hresolved, rfl⟩ := build_eq_ok_iff_resolved.mp h
  -- the same entries in another order; what is kept of them does not depend on it
  obtain ⟨permuted, hpermuted, hentries⟩ := hresolved.exists_of_perm hperm
  apply build_eq_ok_iff_resolved.mpr
  refine ⟨permuted, hpermuted, ?_⟩
  rw [sortByKey_eq_of_perm hentries hresolved.apart, registryOf_eq_of_perm hentries]

/-- Permuted records give an index for both orders or for none, and two indexes that they give
cannot be told apart, neither by their contents nor by look-ups nor by listings. -/
theorem build_ignores_order (hperm : records.Perm others) (collection : Collection)
    (suffix : String) :
    ((∃ index, build collection suffix records = .ok index) ↔
      ∃ index, build collection suffix others = .ok index) ∧
    ∀ index other, build collection suffix records = .ok index →
      build collection suffix others = .ok other →
      index.entries = other.entries ∧ index.registry = other.registry ∧
        (∀ key, index.find? key = other.find? key) ∧
        ∀ (language : Language) (package : String),
          language.listing index package = language.listing other package := by
  constructor
  · constructor
    · rintro ⟨index, hindex⟩
      exact ⟨index, build_eq_ok_of_perm hperm hindex⟩
    · rintro ⟨index, hindex⟩
      exact ⟨index, build_eq_ok_of_perm hperm.symm hindex⟩
  · intro index other hindex hother
    have hsame : index = other :=
      Except.ok.inj ((build_eq_ok_of_perm hperm hindex).symm.trans hother)
    subst hsame
    exact ⟨rfl, rfl, fun _ => rfl, fun _ _ => rfl⟩

/-- Two records whose keys and tags descend. -/
def descendingRecords : List Record :=
  [{ name := "d/y", resources := ["Pod"] }, { name := "c/x", resources := ["Node", "Pod"] }]

def ascendingLabels : Index where
  collection := .labels
  entries :=
    [⟨⟨"c", "x", by decide, by decide, by decide, by decide⟩, "CX", .alpha, "", false, false,
        ["Node", "Pod"]⟩,
      ⟨⟨"d", "y", by decide, by decide, by decide, by decide⟩, "DY", .alpha, "", false, false,
        ["Pod"]⟩]
  registry := ⟨["Node", "Pod"]⟩

/-- Two descending records and their reverse, which ascends. -/
theorem build_ignores_order_descending :
    descendingRecords.Perm descendingRecords.reverse ∧
    build .labels defaultSuffix descendingRecords = .ok ascendingLabels ∧
    ((∃ index, build .labels defaultSuffix descendingRecords = .ok index) ↔
      ∃ index, build .labels defaultSuffix descendingRecords.reverse = .ok index) ∧
    ∀ index other, build .labels defaultSuffix descendingRecords = .ok index →
      build .labels defaultSuffix descendingRecords.reverse = .ok other →
      index.entries = other.entries ∧ index.registry = other.registry ∧
        (∀ key, index.find? key = other.find? key) ∧
        ∀ (language : Language) (package : String),
          language.listing index package = language.listing other package := by
  have hperm : descendingRecords.Perm descendingRecords.reverse :=
    (List.reverse_perm descendingRecords).symm
  have hbuild : build .labels defaultSuffix descendingRecords = .ok ascendingLabels := by
    decide +kernel
  exact ⟨hperm, hbuild, build_ignores_order hperm .labels defaultSuffix⟩

end KeyCatalog.Index
