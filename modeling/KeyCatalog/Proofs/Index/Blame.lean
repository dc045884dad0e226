import KeyCatalog.Proofs.Index.Fault
import Mathlib.Data.List.Induction
/-!
Why records give no index. They are checked from the first to the last, and a run stops at the first
record that fails a check; tags are compared with identifiers only when every record passes. So an
error tells which record is at fault, and no record behind that one has a part in it.
-/
namespace KeyCatalog.Index

def AllPass (collection : Collection) (suffix : String) (records : List Record) : Prop :=
  ∀ before record after, records = before ++ record :: after →
    Passes collection suffix before record

/-- The first record of which a tag is the identifier of a record, and the first such tag. The
identifier belongs to exactly one record. -/
inductive Clashes (suffix : String) (records : List Record) : BuildError → Prop
  | intro {before : List Record} {record : Record} {after : List Record} {key : Key} {tag : String}
      {owner : Nat} (hrecords : records = before ++ record :: after)
      (hkey : key.text = record.name)
      (hbefore : ∀ other ∈ before, ∀ tag ∈ other.resources, ∀ owner ∈ records,
        ¬owner.HasIdentifier suffix tag)
      (htag : IsFirst (fun tag => ∃ owner ∈ records, owner.HasIdentifier suffix tag)
        record.resources tag)
      (howner : OnlyAt (fun owner => owner.HasIdentifier suffix tag) records owner) :
      Clashes suffix records (.resourceIsIdentifier before.length key tag owner)

/-- Why records give no index: the first of them that fails a check, behind records that pass, or a
tag if all of them pass. -/
inductive Blames (collection : Collection) (suffix : String) (records : List Record) :
    BuildError → Prop
  | record {before : List Record} {record : Record} {after : List Record} {fault : RecordFault}
      (hrecords : records = before ++ record :: after) (hbefore : AllPass collection suffix before)
      (h : Faults collection suffix before record fault) :
      Blames collection suffix records (.record before.length fault)
  | tag {error : BuildError} (hrecords : AllPass collection suffix records)
      (h : Clashes suffix records error) : Blames collection suffix records error

variable {collection : Collection} {suffix : String} {records : List Record} {record : Record}
  {entries : List Entry} {entry : Entry} {error : BuildError} {fault : RecordFault} {position : Nat}

section Run

/-- More records are resolved behind those that come first. -/
theorem resolveAll_append (first more : List Record) :
    resolveAll collection suffix entries (first ++ more) =
      match resolveAll collection suffix entries first with
      | .error error => .error error
      | .ok entries => resolveAll collection suffix entries more := by
  induction first generalizing entries with
  | nil => rfl
  | cons record rest ih =>
    rw [List.cons_append, resolveAll, resolveAll]
    cases resolve collection suffix entries record with
    | error fault => rfl
    | ok entry => exact ih

/-- A run stops at the first record that is not resolved. -/
theorem resolveAll_eq_error_iff :
    resolveAll collection suffix entries records = .error error ↔
      ∃ first record after resolved fault, records = first ++ record :: after ∧
        resolveAll collection suffix entries first = .ok resolved ∧
        resolve collection suffix resolved record = .error fault ∧
        error = .record resolved.length fault := by
  constructor
  -- a record that is resolved goes to those before the failing one
  · intro h
    induction records generalizing entries with
    | nil => cases h
    | cons record rest ih =>
      rw [resolveAll] at h
      cases hresolve : resolve collection suffix entries record with
      | error fault =>
        rw [hresolve] at h
        exact ⟨[], record, rest, entries, fault, rfl, rfl, hresolve, (Except.error.inj h).symm⟩
      | ok entry =>
        rw [hresolve] at h
        obtain ⟨first, other, after, resolved, fault, rfl, hfirst, hfault, herror⟩ := ih h
        refine ⟨record :: first, other, after, resolved, fault, rfl, ?_, hfault, herror⟩
        rw [resolveAll, hresolve]
        exact hfirst
  · rintro ⟨first, record, after, resolved, fault, rfl, hfirst, hfault, rfl⟩
    rw [resolveAll_append, hfirst]
    simp only [resolveAll, hfault]

theorem allPass_append_singleton_iff :
    AllPass collection suffix (records ++ [record]) ↔
      AllPass collection suffix records ∧ Passes collection suffix records record := by
  constructor
  · intro h
    refine ⟨?_, h records record [] rfl⟩
    rintro before other after rfl
    exact h before other (after ++ [record]) (List.append_assoc ..)
  · rintro ⟨hrecords, hrecord⟩ before other after heq
    -- the record is the last one, or it stands before the last one
    rcases List.eq_nil_or_concat after with rfl | ⟨rest, last, rfl⟩
    · obtain ⟨rfl, hsame⟩ := List.append_inj' heq rfl
      cases hsame
      exact hrecord
    · rw [List.concat_eq_append, ← List.cons_append, ← List.append_assoc] at heq
      obtain ⟨rfl, -⟩ := List.append_inj' heq rfl
      exact hrecords before other rest rfl

/-- What records are resolved to, when all of them are. -/
theorem resolves_of_resolveAll (h : resolveAll collection suffix [] records = .ok entries) :
    List.Forall₂ (Resolves collection suffix []) records entries ∧
      entries.Pairwise Entry.Apart := by
  obtain ⟨_, rfl, hresolves, hapart, -⟩ := resolveAll_eq_ok_iff.mp h
  exact ⟨hresolves, hapart⟩

/-- Records are resolved one after the other exactly if each of them passes. -/
theorem exists_resolveAll_iff_allPass :
    (∃ entries, resolveAll collection suffix [] records = .ok entries) ↔
      AllPass collection suffix records := by
  -- the last record is checked behind all the others
  induction records using List.reverseRecOn with
  | nil =>
    refine iff_of_true ⟨[], rfl⟩ ?_
    intro before record after heq
    exact absurd heq.symm (List.append_ne_nil_of_right_ne_nil before (List.cons_ne_nil record after))
  | append_singleton records record ih =>
    rw [allPass_append_singleton_iff, ← ih, resolveAll_append]
    cases hrun : resolveAll collection suffix [] records with
    | error error => simp
    | ok entries =>
      obtain ⟨hresolves, hapart⟩ := resolves_of_resolveAll hrun
      rw [← exists_resolve_iff_passes hresolves hapart]
      simp only [resolveAll]
      cases resolve collection suffix entries record with
      | error fault => simp
      | ok entry => simp

end Run

section Build

/-- The tags of an entry are compared with the identifiers as those of its record are. -/
theorem findSome?_tag_eq_some_iff
    (h : List.Forall₂ (Resolves collection suffix []) records entries)
    (hapart : entries.Pairwise Entry.Apart)
    (hentry : Resolves collection suffix [] record entry) :
    (entry.resources.findSome? fun tag =>
      (entries.findIdx? (·.identifier = tag)).map fun owner =>
        BuildError.resourceIsIdentifier position entry.key tag owner) = some error ↔
      ∃ tag owner,
        IsFirst (fun tag => ∃ owner ∈ records, owner.HasIdentifier suffix tag)
          record.resources tag ∧
        OnlyAt (fun owner => owner.HasIdentifier suffix tag) records owner ∧
        error = .resourceIsIdentifier position entry.key tag owner := by
  have hnone (tag : String) :
      ((entries.findIdx? (·.identifier = tag)).map fun owner =>
        BuildError.resourceIsIdentifier position entry.key tag owner) = none ↔
        ¬∃ owner ∈ records, owner.HasIdentifier suffix tag := by
    rw [Option.map_eq_none_iff, findIdx?_identifier_eq_none_iff h]
    simp only [not_exists, not_and]
  rw [findSome?_eq_some_iff_isFirst hnone, hentry.resources]
  simp only [isFirst_distinct_iff, Option.map_eq_some_iff,
    findIdx?_identifier_eq_some_iff h hapart, exists_and_left, eq_comm (a := error)]

/-- A tag that is an identifier is reported as the records have it. -/
theorem tagClash?_eq_some_iff
    (h : List.Forall₂ (Resolves collection suffix []) records entries)
    (hapart : entries.Pairwise Entry.Apart) :
    tagClash? entries = some error ↔ Clashes suffix records error := by
  have hnone (entry : Entry) (position : Nat) :
      (entry.resources.findSome? fun tag =>
        (entries.findIdx? (·.identifier = tag)).map fun owner =>
          BuildError.resourceIsIdentifier position entry.key tag owner) = none ↔
        ∀ tag ∈ entry.resources, ∀ owner ∈ entries, owner.identifier ≠ tag := by
    simp only [List.findSome?_eq_none_iff, Option.map_eq_none_iff, List.findIdx?_eq_none_iff,
      decide_eq_false_iff_not, ne_eq]
  rw [tagClash?, findSome?_zipIdx_eq_some_iff hnone]
  -- entries and records are taken apart at the same place
  constructor
  · rintro ⟨earlier, entry, later, heq, hearlier, hfound⟩
    obtain ⟨before, record, after, hrecords, hbefore, hentry, -⟩ :=
      related_append_cons_iff.mp (heq ▸ h.flip)
    have hlength : 0 + earlier.length = before.length := by
      rw [Nat.zero_add]
      exact hbefore.length_eq
    obtain ⟨tag, owner, htag, howner, rfl⟩ := (findSome?_tag_eq_some_iff h hapart hentry).mp hfound
    rw [hlength]
    refine .intro hrecords hentry.key_text ?_ htag howner
    exact (forall_mem_iff_of_related hbefore.flip fun _ _ => tags_free_iff h).mpr hearlier
  · intro hclash
    cases hclash with
    | @intro before record after key tag owner hrecords hkey hbefore htag howner =>
    obtain ⟨earlier, entry, later, heq, hearlier, hentry, -⟩ :=
      related_append_cons_iff.mp (hrecords ▸ h)
    refine ⟨earlier, entry, later, heq, ?_, ?_⟩
    · exact (forall_mem_iff_of_related hearlier fun _ _ => tags_free_iff h).mp hbefore
    · obtain rfl := Key.text_injective (hkey.trans hentry.key_text.symm)
      apply (findSome?_tag_eq_some_iff h hapart hentry).mpr
      refine ⟨tag, owner, htag, howner, ?_⟩
      rw [Nat.zero_add, hearlier.length_eq]

/-- Tags are compared with identifiers only when every record is resolved. -/
theorem build_eq_error_iff :
    build collection suffix records = .error error ↔
      resolveAll collection suffix [] records = .error error ∨
        ∃ entries, resolveAll collection suffix [] records = .ok entries ∧
          tagClash? entries = some error := by
  rw [build]
  cases hrun : resolveAll collection suffix [] records with
  | error other => simp
  | ok entries =>
    cases hclash : tagClash? entries with
    | none => simp [hclash]
    | some other => simp [hclash]

/-- Records are refused for exactly one reason, the one that is to blame. -/
theorem build_eq_error_iff_blames :
    build collection suffix records = .error error ↔ Blames collection suffix records error := by
  rw [build_eq_error_iff]
  constructor
  · rintro (hrun | ⟨entries, hrun, hclash⟩)
    · obtain ⟨before, record, after, resolved, fault, rfl, hbefore, hfault, rfl⟩ :=
        resolveAll_eq_error_iff.mp hrun
      obtain ⟨hresolves, hapart⟩ := resolves_of_resolveAll hbefore
      -- the position of a record is the number of entries before it
      rw [← hresolves.length_eq]
      exact .record rfl (exists_resolveAll_iff_allPass.mp ⟨resolved, hbefore⟩)
        ((resolve_eq_error_iff hresolves hapart).mp hfault)
    · obtain ⟨hresolves, hapart⟩ := resolves_of_resolveAll hrun
      exact .tag (exists_resolveAll_iff_allPass.mp ⟨entries, hrun⟩)
        ((tagClash?_eq_some_iff hresolves hapart).mp hclash)
  · rintro (⟨rfl, hbefore, hfault⟩ | ⟨hrecords, hclash⟩)
    · obtain ⟨resolved, hrun⟩ := exists_resolveAll_iff_allPass.mpr hbefore
      obtain ⟨hresolves, hapart⟩ := resolves_of_resolveAll hrun
      have hresolve := (resolve_eq_error_iff hresolves hapart).mpr hfault
      exact .inl (resolveAll_eq_error_iff.mpr
        ⟨_, _, _, resolved, _, rfl, hrun, hresolve, by rw [hresolves.length_eq]⟩)
    · obtain ⟨entries, hrun⟩ := exists_resolveAll_iff_allPass.mpr hrecords
      obtain ⟨hresolves, hapart⟩ := resolves_of_resolveAll hrun
      exact .inr ⟨entries, hrun, (tagClash?_eq_some_iff hresolves hapart).mpr hclash⟩

/-- Records that come later have no part in the fault of a record. -/
theorem Blames.append (h : Blames collection suffix records (.record position fault))
    (more : List Record) :
    Blames collection suffix (records ++ more) (.record position fault) := by
  cases h with
  | record hrecords hbefore hfault =>
    exact .record (hrecords ▸ List.append_assoc ..) hbefore hfault
  | tag _ hclash => cases hclash

/-- Records that give no index are refused for the culprit among them, whom every error points at;
what is wrong with a record stays wrong with it whatever records follow. -/
theorem build_blames_culprit (collection : Collection) (suffix : String) (records : List Record) :
    (∀ error, build collection suffix records = .error error ↔
      Blames collection suffix records error) ∧
    ∀ position fault more, build collection suffix records = .error (.record position fault) →
      build collection suffix (records ++ more) = .error (.record position fault) := by
  constructor
  · exact fun error => build_eq_error_iff_blames
  · intro position fault more h
    exact build_eq_error_iff_blames.mpr ((build_eq_error_iff_blames.mp h).append more)

/-- Three records, of which the last has the name of the one before it. -/
def twinRecords : List Record :=
  [{ name := "a/b" }, { name := "c/d" }, { name := "c/d", variableName := some "Other" }]

/-- The last record is blamed for the name of the one before it, whatever is added behind. -/
theorem build_blames_twin :
    build .labels defaultSuffix twinRecords =
      .error (.record 2 (.duplicateName ⟨"c", "d", by decide, by decide, by decide, by decide⟩ 1)) ∧
    Blames .labels defaultSuffix twinRecords
      (.record 2 (.duplicateName ⟨"c", "d", by decide, by decide, by decide, by decide⟩ 1)) ∧
    ∀ more, build .labels defaultSuffix (twinRecords ++ more) =
      .error (.record 2 (.duplicateName ⟨"c", "d", by decide, by decide, by decide, by decide⟩ 1))
    := by
  have hbuild : build .labels defaultSuffix twinRecords =
      .error (.record 2
        (.duplicateName ⟨"c", "d", by decide, by decide, by decide, by decide⟩ 1)) := by
    decide +kernel
  obtain ⟨hblames, hstable⟩ := build_blames_culprit .labels defaultSuffix twinRecords
  exact ⟨hbuild, (hblames _).mp hbuild, fun more => hstable _ _ more hbuild⟩

end Build

end KeyCatalog.Index
