import KeyCatalog.Draft
import KeyCatalog.Proofs.Generation
/-!
What a repository holds after any drafts were registered in it. Of each collection it is the catalog
of the last draft that was resolved, whatever else was registered or failed, and entries are looked
up in that catalog.
-/
namespace KeyCatalog

namespace Draft

variable {draft : Draft} {index : Index}

/-- Whatever a draft is written in, its catalog is built from records. -/
theorem exists_build_of_index (h : draft.index = .ok index) :
    ∃ records, Index.build draft.collection draft.suffix records = .ok index := by
  obtain ⟨collection, suffix, form⟩ := draft
  cases form with
  | records records => exact ⟨records, mapError_eq_ok_iff.mp h⟩
  | yaml text origin =>
    obtain ⟨records, -, hbuild⟩ := Index.ofYaml_eq_ok_iff.mp (mapError_eq_ok_iff.mp h)
    exact ⟨records, hbuild⟩
  | file tree path =>
    obtain ⟨text, -, htext⟩ := Generation.load_eq_ok_iff.mp (mapError_eq_ok_iff.mp h)
    obtain ⟨records, -, hbuild⟩ := Index.ofYaml_eq_ok_iff.mp htext
    exact ⟨records, hbuild⟩

theorem collection_of_index (h : draft.index = .ok index) :
    index.collection = draft.collection := by
  obtain ⟨records, hbuild⟩ := exists_build_of_index h
  exact Index.collection_of_build hbuild

structure Gives (draft : Draft) (collection : Collection) (index : Index) : Prop where
  collection : draft.collection = collection
  index : draft.index = .ok index

variable {collection : Collection}

/-- A draft gives at most one catalog. -/
theorem Gives.eq {other : Index} (h : draft.Gives collection index)
    (hother : draft.Gives collection other) : index = other :=
  Except.ok.inj (h.index.symm.trans hother.index)

theorem Gives.ascending (h : draft.Gives collection index) : Index.Ascending index.entries := by
  obtain ⟨records, hbuild⟩ := exists_build_of_index h.index
  exact Index.ascending_of_build hbuild

theorem gives_or_not (draft : Draft) (collection : Collection) :
    (∃ index, draft.Gives collection index) ∨ ∀ index, ¬draft.Gives collection index := by
  rw [← not_exists]
  exact Classical.em _

end Draft

namespace Repository

variable {repository other : Repository} {draft : Draft} {drafts before after : List Draft}
  {collection : Collection} {index : Index} {error : Draft.Error}

/-- A catalog comes from a draft behind which no other draft of the collection is resolved. -/
def IsLatest (collection : Collection) (drafts : List Draft) (index : Index) : Prop :=
  ∃ before draft after, drafts = before ++ draft :: after ∧ draft.Gives collection index ∧
    ∀ later ∈ after, ∀ other, ¬later.Gives collection other

section Step

/-- A draft that fails changes nothing. -/
theorem registerDraft_of_error (h : draft.index = .error error) :
    repository.registerDraft draft = repository := by
  simp only [registerDraft, h]

theorem get?_registerDraft_of_gives (h : draft.Gives collection index) :
    (repository.registerDraft draft).get? collection = some index := by
  have hcollection : index.collection = collection :=
    (Draft.collection_of_index h.index).trans h.collection
  simp only [registerDraft, h.index, get?_register, if_pos hcollection]

theorem get?_registerDraft_of_not_gives (h : ∀ index, ¬draft.Gives collection index) :
    (repository.registerDraft draft).get? collection = repository.get? collection := by
  cases hindex : draft.index with
  | error error => rw [registerDraft_of_error hindex]
  | ok index =>
    have hother : index.collection ≠ collection := by
      rintro rfl
      exact h index ⟨(Draft.collection_of_index hindex).symm, hindex⟩
    simp only [registerDraft, hindex, get?_register, if_neg hother]

/-- Behind a draft, its catalog is found if it gives one of the collection, and the earlier one if
not. -/
theorem get?_registerDraft_eq_some_iff :
    (repository.registerDraft draft).get? collection = some index ↔
      draft.Gives collection index ∨
        (∀ other, ¬draft.Gives collection other) ∧ repository.get? collection = some index := by
  rcases draft.gives_or_not collection with ⟨given, hgiven⟩ | hnot
  · have hsame : given = index ↔ draft.Gives collection index := ⟨fun h => h ▸ hgiven, hgiven.eq⟩
    have hsome : ¬∀ other, ¬draft.Gives collection other := fun h => h given hgiven
    rw [get?_registerDraft_of_gives hgiven, Option.some_inj, hsame, eq_false hsome, false_and,
      or_false]
  · rw [get?_registerDraft_of_not_gives hnot, eq_false (hnot index), eq_true hnot, false_or,
      true_and]

theorem get?_registerDraft_eq_none_iff :
    (repository.registerDraft draft).get? collection = none ↔
      (∀ index, ¬draft.Gives collection index) ∧ repository.get? collection = none := by
  rcases draft.gives_or_not collection with ⟨given, hgiven⟩ | hnot
  · rw [get?_registerDraft_of_gives hgiven]
    exact iff_of_false nofun fun h => h.1 given hgiven
  · rw [get?_registerDraft_of_not_gives hnot, and_iff_right hnot]

/-- What a repository holds of a collection after a draft depends on what it held of that
collection alone. -/
theorem get?_registerDraft_congr (h : repository.get? collection = other.get? collection) :
    (repository.registerDraft draft).get? collection =
      (other.registerDraft draft).get? collection := by
  apply Option.ext
  intro index
  rw [get?_registerDraft_eq_some_iff, get?_registerDraft_eq_some_iff, h]

end Step

section Run

theorem get?_ofDrafts_nil : (ofDrafts []).get? collection = none := by
  cases collection <;> rfl

theorem ofDrafts_append_singleton :
    ofDrafts (drafts ++ [draft]) = (ofDrafts drafts).registerDraft draft :=
  List.foldl_append

theorem not_isLatest_nil : ¬IsLatest collection [] index := by
  rintro ⟨before, draft, after, hdrafts, -⟩
  exact List.append_ne_nil_of_right_ne_nil before (List.cons_ne_nil draft after) hdrafts.symm

/-- The latest catalog of a longer list obeys the law of a single registration. -/
theorem isLatest_append_singleton_iff :
    IsLatest collection (drafts ++ [draft]) index ↔
      draft.Gives collection index ∨
        (∀ other, ¬draft.Gives collection other) ∧ IsLatest collection drafts index := by
  constructor
  · rintro ⟨before, source, after, hdrafts, hgives, hafter⟩
    -- the draft that gives the catalog is the last one, or else the last one stands behind it
    rcases List.eq_nil_or_concat after with rfl | ⟨rest, last, rfl⟩
    · obtain ⟨rfl, hlast⟩ := List.append_inj' hdrafts rfl
      cases hlast
      exact .inl hgives
    · rw [List.concat_eq_append] at hdrafts hafter
      rw [← List.cons_append, ← List.append_assoc] at hdrafts
      obtain ⟨rfl, hlast⟩ := List.append_inj' hdrafts rfl
      cases hlast
      have hnot := hafter draft (List.mem_append_right rest List.mem_cons_self)
      have hrest : ∀ later ∈ rest, ∀ other, ¬later.Gives collection other :=
        fun later hlater => hafter later (List.mem_append_left _ hlater)
      exact .inr ⟨hnot, before, source, rest, rfl, hgives, hrest⟩
  · rintro (hgives | ⟨hnot, before, source, after, rfl, hgives, hafter⟩)
    · exact ⟨drafts, draft, [], rfl, hgives, fun _ hlater => absurd hlater List.not_mem_nil⟩
    · refine ⟨before, source, after ++ [draft], List.append_assoc .., hgives, ?_⟩
      rw [List.forall_mem_append, List.forall_mem_singleton]
      exact ⟨hafter, hnot⟩

/-- The last draft decides if it is resolved, and otherwise those in front of it do. -/
theorem get?_ofDrafts_eq_some_iff :
    (ofDrafts drafts).get? collection = some index ↔ IsLatest collection drafts index := by
  induction drafts using List.reverseRecOn with
  | nil =>
    rw [get?_ofDrafts_nil]
    exact iff_of_false nofun not_isLatest_nil
  | append_singleton drafts draft ih =>
    rw [ofDrafts_append_singleton, get?_registerDraft_eq_some_iff, ih,
      isLatest_append_singleton_iff]

/-- A collection has no catalog exactly if no draft gives one. -/
theorem get?_ofDrafts_eq_none_iff :
    (ofDrafts drafts).get? collection = none ↔
      ∀ draft ∈ drafts, ∀ index, ¬draft.Gives collection index := by
  induction drafts using List.reverseRecOn with
  | nil => exact iff_of_true get?_ofDrafts_nil fun _ hdraft => absurd hdraft List.not_mem_nil
  | append_singleton drafts draft ih =>
    rw [ofDrafts_append_singleton, get?_registerDraft_eq_none_iff, List.forall_mem_append,
      List.forall_mem_singleton, ih, and_comm]

/-- A draft that fails can be left out. -/
theorem ofDrafts_without_error (h : draft.index = .error error) :
    ofDrafts (before ++ draft :: after) = ofDrafts (before ++ after) := by
  simp only [ofDrafts, List.foldl_append, List.foldl_cons, registerDraft_of_error h]

theorem get?_ofDrafts_without (h : ∀ index, ¬draft.Gives collection index) :
    (ofDrafts (before ++ draft :: after)).get? collection =
      (ofDrafts (before ++ after)).get? collection := by
  induction after using List.reverseRecOn with
  | nil => rw [List.append_nil, ofDrafts_append_singleton, get?_registerDraft_of_not_gives h]
  | append_singleton after later ih =>
    rw [← List.cons_append, ← List.append_assoc, ← List.append_assoc, ofDrafts_append_singleton,
      ofDrafts_append_singleton]
    exact get?_registerDraft_congr ih

end Run

section Lookup

/-- A catalog gets into a repository by being resolved, so its keys are in order. -/
theorem ascending_of_get? (h : (ofDrafts drafts).get? collection = some index) :
    Index.Ascending index.entries := by
  obtain ⟨before, draft, after, -, hgives, -⟩ := get?_ofDrafts_eq_some_iff.mp h
  exact hgives.ascending

theorem find?_ofDrafts_eq_scan (drafts : List Draft) (collection : Collection) (key : String) :
    (ofDrafts drafts).find? collection key =
      ((ofDrafts drafts).get? collection).bind (·.entries.find? (·.key.text = key)) := by
  rw [find?]
  cases hindex : (ofDrafts drafts).get? collection with
  | none => rfl
  | some index => exact Index.find?_eq_scan (ascending_of_get? hindex) key

/-- An entry is found by its key in the catalog that is registered. -/
theorem find?_ofDrafts_eq_some_iff {key : String} {entry : Entry} :
    (ofDrafts drafts).find? collection key = some entry ↔
      ∃ index, (ofDrafts drafts).get? collection = some index ∧
        entry ∈ index.entries ∧ entry.key.text = key := by
  rw [find?, Option.bind_eq_some_iff]
  apply exists_congr
  intro index
  apply and_congr_right
  intro hindex
  exact Index.find?_eq_some_iff (ascending_of_get? hindex)

theorem position_lt_of_get? (h : (ofDrafts drafts).get? collection = some index) {key : String}
    {position : Nat} (hposition : index.position? key = some position) :
    position < index.entries.length := by
  obtain ⟨entry, hentry, -⟩ := (Index.position?_eq_some_iff (ascending_of_get? h)).mp hposition
  exact (List.getElem?_eq_some_iff.mp hentry).1

end Lookup

/-- After any drafts a repository holds of a collection the catalog of the last draft that was
resolved, and nothing exactly if none was. A draft of another collection makes no difference to it,
and one at fault makes none at all. A key is looked up in that catalog as a scan of the entries finds
it, at a position that there is. -/
theorem ofDrafts_holds_latest (drafts : List Draft) (collection : Collection) :
    (∀ index, (ofDrafts drafts).get? collection = some index ↔
      IsLatest collection drafts index) ∧
    ((ofDrafts drafts).get? collection = none ↔
      ∀ draft ∈ drafts, ∀ index, ¬draft.Gives collection index) ∧
    (∀ before draft after, drafts = before ++ draft :: after → draft.collection ≠ collection →
      (ofDrafts drafts).get? collection = (ofDrafts (before ++ after)).get? collection) ∧
    (∀ before draft after error, drafts = before ++ draft :: after → draft.index = .error error →
      ofDrafts drafts = ofDrafts (before ++ after)) ∧
    (∀ key, (ofDrafts drafts).find? collection key =
      ((ofDrafts drafts).get? collection).bind (·.entries.find? (·.key.text = key))) ∧
    (∀ key entry, (ofDrafts drafts).find? collection key = some entry ↔
      ∃ index, (ofDrafts drafts).get? collection = some index ∧
        entry ∈ index.entries ∧ entry.key.text = key) ∧
    ∀ index, (ofDrafts drafts).get? collection = some index →
      ∀ key position, index.position? key = some position → position < index.entries.length := by
  refine ⟨?_, ?_, ?_, ?_, ?_, ?_, ?_⟩
  · exact fun index => get?_ofDrafts_eq_some_iff
  · exact get?_ofDrafts_eq_none_iff
  · rintro before draft after rfl hother
    exact get?_ofDrafts_without fun index hgives => hother hgives.collection
  · rintro before draft after error rfl herror
    exact ofDrafts_without_error herror
  · exact find?_ofDrafts_eq_scan drafts collection
  · exact fun key entry => find?_ofDrafts_eq_some_iff
  · exact fun index hindex key position => position_lt_of_get? hindex

def annotationsDraft : Draft where
  collection := .annotations
  form := .yaml "annotations:\n  - name: k/u\n" "inline"

def missingDraft : Draft where
  collection := .labels
  form := .file (FileTree.fresh ["work"]) "labels.yaml"

def labelsDraft (names : List String) : Draft where
  collection := .labels
  form := .records (names.map fun name => { name })

/-- Labels, then other labels in their place; their first key is in the annotations too. -/
def relabelled : List Draft :=
  [labelsDraft ["k/u", "k/v"], annotationsDraft, labelsDraft ["k/w", "i/w"], missingDraft]

def latestLabels : Index where
  collection := .labels
  entries :=
    [⟨⟨"i", "w", by decide, by decide, by decide, by decide⟩, "IW", .alpha, "", false, false, []⟩,
      ⟨⟨"k", "w", by decide, by decide, by decide, by decide⟩, "KW", .alpha, "", false, false, []⟩]
  registry := ⟨[]⟩

/-- The labels that came first are not found any more. -/
theorem ofDrafts_holds_latest_relabelled :
    (ofDrafts relabelled).get? .labels = some latestLabels ∧
    IsLatest .labels relabelled latestLabels ∧
    missingDraft.index = .error (.file (.unreadable "labels.yaml")) ∧
    (ofDrafts relabelled).get? .labels =
      (ofDrafts [labelsDraft ["k/u", "k/v"], labelsDraft ["k/w", "i/w"], missingDraft]).get?
        .labels ∧
    ofDrafts relabelled =
      ofDrafts [labelsDraft ["k/u", "k/v"], annotationsDraft, labelsDraft ["k/w", "i/w"]] ∧
    (ofDrafts relabelled).find? .labels "k/u" = none ∧
    (ofDrafts relabelled).find? .labels "i/w" = latestLabels.entries.head? ∧
    ∀ position, latestLabels.position? "i/w" = some position →
      position < latestLabels.entries.length := by
  have hget : (ofDrafts relabelled).get? .labels = some latestLabels := by decide +kernel
  -- the draft of a file that is not there fails
  have hmissing : missingDraft.index = .error (.file (.unreadable "labels.yaml")) := by
    have htext : (FileTree.fresh ["work"]).readText? "labels.yaml" = none := by decide +kernel
    simp only [Draft.index, missingDraft, Generation.load, htext, Generation.loadText,
      Except.mapError]
  obtain ⟨hlatest, -, hother, herror, hscan, -, hposition⟩ :=
    ofDrafts_holds_latest relabelled .labels
  have hfind (key : String) : (ofDrafts relabelled).find? .labels key =
      latestLabels.entries.find? (·.key.text = key) := by
    rw [hscan, hget, Option.bind_some]
  refine ⟨hget, (hlatest latestLabels).mp hget, hmissing, ?_, ?_, ?_, ?_,
    hposition latestLabels hget "i/w"⟩
  · exact hother [labelsDraft ["k/u", "k/v"]] annotationsDraft _ rfl (by decide)
  · exact herror [labelsDraft ["k/u", "k/v"], annotationsDraft, labelsDraft ["k/w", "i/w"]]
      missingDraft [] _ rfl hmissing
  · rw [hfind]
    decide +kernel
  · rw [hfind]
    decide +kernel

end Repository
end KeyCatalog
