import KeyCatalog.Proofs.Output.Replacement
import Mathlib.Data.List.Nodup
/-!
What is on file after a run of outputs that succeeds: at every place the last output that went
there. Destinations are compared by the text of their paths, so two outputs at one place are found
out as long as no path goes up by `..`; one that does can hide an output behind a later one.
-/
namespace KeyCatalog.Output

variable {tree last : FileTree} {outputs : List Output} {output : Output} {place : Place}

def node (output : Output) : FileNode :=
  .file mode (Bytes.ofText output.contents)

/-- Destinations pass if all of them are known, none was seen before, and no two are equal. -/
theorem checkDestinations_eq_ok_iff {workingDirectory : Place}
    {seen : List (List String × String)} :
    checkDestinations workingDirectory seen outputs = .ok () ↔
      (∀ output ∈ outputs, Path.absolute? workingDirectory output.path ≠ none) ∧
      (∀ output ∈ outputs, ∀ entry ∈ seen,
        Path.absolute? workingDirectory output.path ≠ some entry.1) ∧
      (outputs.map fun output => Path.absolute? workingDirectory output.path).Nodup := by
  -- what has been seen grows by one destination at every output
  induction outputs generalizing seen with
  | nil =>
    exact ⟨fun _ => ⟨fun _ houtput => absurd houtput List.not_mem_nil,
      fun _ houtput => absurd houtput List.not_mem_nil, .nil⟩, fun _ => rfl⟩
  | cons output rest ih =>
    rw [checkDestinations]
    constructor
    · intro h
      split at h
      · cases h
      next destination hdestination =>
      split at h
      · cases h
      next hnew =>
      obtain ⟨hknown, hrest, hnodup⟩ := ih.mp h
      refine ⟨?_, ?_, ?_⟩
      · intro other hother
        rcases List.mem_cons.mp hother with rfl | hother
        · rw [hdestination]
          exact Option.some_ne_none destination
        · exact hknown other hother
      · intro other hother entry hentry
        rcases List.mem_cons.mp hother with rfl | hother
        · intro hsame
          have hsame : destination = entry.1 := Option.some.inj (hdestination.symm.trans hsame)
          exact List.find?_eq_none.mp hnew entry hentry (decide_eq_true hsame.symm)
        · exact hrest other hother entry (List.mem_cons_of_mem _ hentry)
      · apply List.nodup_cons.mpr
        refine ⟨?_, hnodup⟩
        intro hmem
        obtain ⟨other, hother, hsame⟩ := List.mem_map.mp hmem
        exact hrest other hother _ List.mem_cons_self (hsame.trans hdestination)
    · rintro ⟨hknown, hseen, hnodup⟩
      obtain ⟨hfirst, hnodup⟩ := List.nodup_cons.mp hnodup
      obtain ⟨destination, hdestination⟩ :=
        Option.ne_none_iff_exists'.mp (hknown output List.mem_cons_self)
      have hnew : seen.find? (·.1 = destination) = none := by
        rw [List.find?_eq_none]
        intro entry hentry hsame
        apply hseen output List.mem_cons_self entry hentry
        rw [hdestination, of_decide_eq_true hsame]
      simp only [hdestination, hnew]
      -- the rest is apart from this output too, since no two destinations are equal
      apply ih.mpr
      refine ⟨fun other hother => hknown other (List.mem_cons_of_mem _ hother), ?_, hnodup⟩
      intro other hother entry hentry
      rcases List.mem_cons.mp hentry with rfl | hentry
      · intro hsame
        exact hfirst (List.mem_map.mpr ⟨other, hother, hsame.trans hdestination.symm⟩)
      · exact hseen other (List.mem_cons_of_mem _ hother) entry hentry

/-- Every output has a place where a file could be put from the start. -/
theorem Replaces.canReplace (h : Replaces tree outputs last) :
    ∀ output ∈ outputs, tree.CanReplace output.path := by
  induction h with
  | nil => exact fun _ houtput => absurd houtput List.not_mem_nil
  | cons hwrite _ ih =>
    obtain ⟨place, hplace, hfree, -⟩ := FileTree.write?_eq_some_iff.mp hwrite
    have hsame := FileTree.sameDirectories_of_write? hwrite
    intro other hother
    rcases List.mem_cons.mp hother with rfl | hother
    · exact ⟨place, hplace, hfree⟩
    · exact hsame.canReplace_iff.mpr (ih other hother)

/-- Every place holds the last output that leads there, or else what it held before. -/
theorem Replaces.node? (h : Replaces tree outputs last) (place : Place) :
    last.node? place =
      ((outputs.reverse.find? fun output => tree.locate? output.path = some place).map node).or
        (tree.node? place) := by
  induction h with
  | nil => rfl
  | @cons tree next last output rest hwrite _ ih =>
    obtain ⟨target, htarget, hfree, hnext⟩ := FileTree.write?_eq_some_iff.mp hwrite
    have hsame := FileTree.sameDirectories_of_write? hwrite
    have hnode : next.node? place =
        (([output].find? fun output => tree.locate? output.path = some place).map node).or
          (tree.node? place) := by
      subst hnext
      -- one replacement changes its own place alone
      by_cases hplace : target = place
      · subst hplace
        rw [FileTree.node?_set_self tree _ (FileTree.ne_root_of_not_directory hfree)]
        simp [htarget, node]
      · rw [FileTree.node?_set_of_ne tree _ (Ne.symm hplace)]
        simp [htarget, hplace]
    -- the last output that leads to the place is among the rest, or else it is this one
    rw [ih, hnode, List.reverse_cons, List.find?_append]
    simp only [hsame.locate?, Option.map_or, Option.or_assoc]

/-- What is read at the path of an output is what one of the outputs of that place holds. -/
theorem Replaces.exists_read? (h : Replaces tree outputs last) (houtput : output ∈ outputs) :
    ∃ other ∈ outputs, tree.locate? output.path = tree.locate? other.path ∧
      last.read? output.path = some (Bytes.ofText other.contents) := by
  obtain ⟨place, hplace, -⟩ := h.canReplace output houtput
  -- the last output of a place is the one that stays
  cases hfound : outputs.reverse.find? fun output => tree.locate? output.path = some place with
  | none =>
    have hmissing := List.find?_eq_none.mp hfound output (List.mem_reverse.mpr houtput)
    exact absurd (decide_eq_true hplace) hmissing
  | some other =>
    have hother : tree.locate? other.path = some place := by
      simpa using List.find?_some hfound
    have hnode : last.node? place = some (node other) := by
      rw [h.node?, hfound, Option.map_some, Option.some_or]
    refine ⟨other, List.mem_reverse.mp (List.mem_of_find?_eq_some hfound),
      hplace.trans hother.symm, ?_⟩
    apply FileTree.read?_eq_some_iff.mpr
    exact ⟨place, mode, by rw [← h.sameDirectories.locate?, hplace], hnode⟩

/-- All outputs read back exactly if those that share a place have the same contents. -/
theorem Replaces.reads_back_iff (h : Replaces tree outputs last) :
    (∀ output ∈ outputs, last.read? output.path = some (Bytes.ofText output.contents)) ↔
      ∀ output ∈ outputs, ∀ other ∈ outputs,
        tree.locate? output.path = tree.locate? other.path → output.contents = other.contents := by
  constructor
  · intro hread output houtput other hother hplace
    have hlast : last.locate? output.path = last.locate? other.path := by
      rw [← h.sameDirectories.locate?, ← h.sameDirectories.locate?, hplace]
    have hsame : last.read? output.path = last.read? other.path := by
      rw [FileTree.read?, FileTree.read?, hlast]
    rw [hread output houtput, hread other hother] at hsame
    exact Bytes.ofText_injective (Option.some.inj hsame)
  -- what is read is the last output at the place, perhaps another one
  · intro hcontents output houtput
    obtain ⟨other, hother, hplace, hread⟩ := h.exists_read? houtput
    rw [hread, hcontents output houtput other hother hplace]

/-- Without `..`, two outputs that passed the check share no place. -/
theorem Replaces.eq_of_locate?_eq (h : Replaces tree outputs last)
    (hdestinations : checkDestinations tree.workingDirectory [] outputs = .ok ())
    (hup : ∀ output ∈ outputs, ".." ∉ Path.segments output.path) {other : Output}
    (houtput : output ∈ outputs) (hother : other ∈ outputs)
    (hplace : tree.locate? output.path = tree.locate? other.path) : output = other := by
  have hnodup := (checkDestinations_eq_ok_iff.mp hdestinations).2.2
  obtain ⟨place, hlocate, -⟩ := h.canReplace output houtput
  -- without `..` the text of either path spells the place
  have hspelled := FileTree.absolute?_of_locate? (hup output houtput) hlocate
  have hspelled' := FileTree.absolute?_of_locate? (hup other hother) (hplace ▸ hlocate)
  exact List.inj_on_of_nodup_map hnodup houtput hother (hspelled.trans hspelled'.symm)

/-- A success means that every destination was replaced, in order. -/
theorem replaces_of_success (h : (writeAll tree outputs).result = .ok ()) :
    checkDestinations tree.workingDirectory [] outputs = .ok () ∧
      Replaces tree outputs (writeAll tree outputs).tree := by
  rcases writeAll_cases tree outputs with ⟨⟨error, herror⟩, -⟩ | ⟨hdestinations, -, hresult, htree⟩
  · rw [h] at herror
    cases herror
  rcases replaceAll_cases tree outputs with ⟨-, hreplaces⟩ | ⟨_, _, _, -, herror, -⟩
  · exact ⟨hdestinations, htree ▸ hreplaces⟩
  · rw [← hresult, h] at herror
    cases herror

/-- After a run that succeeds all outputs are on file if and only if outputs at the same place have
the same contents. That is so whenever no path goes up. -/
theorem success_reads_back (hsuccess : (writeAll tree outputs).result = .ok ()) :
    ((∀ output ∈ outputs, (writeAll tree outputs).tree.read? output.path =
        some (Bytes.ofText output.contents)) ↔
      ∀ output ∈ outputs, ∀ other ∈ outputs,
        tree.locate? output.path = tree.locate? other.path → output.contents = other.contents) ∧
    ((∀ output ∈ outputs, ".." ∉ Path.segments output.path) →
      ∀ output ∈ outputs, (writeAll tree outputs).tree.read? output.path =
        some (Bytes.ofText output.contents)) := by
  obtain ⟨hdestinations, hreplaces⟩ := replaces_of_success hsuccess
  refine ⟨hreplaces.reads_back_iff, ?_⟩
  intro hup
  apply hreplaces.reads_back_iff.mpr
  intro output houtput other hother hplace
  rw [hreplaces.eq_of_locate?_eq hdestinations hup houtput hother hplace]

def nested : FileTree :=
  (FileTree.fresh ["work"]).set ["work", "web"] .directory

def differing (path other : String) : List Output :=
  [⟨path, "1"⟩, ⟨other, "2"⟩]

theorem success_reads_back_nested :
    (writeAll nested (differing "keys" "./web//keys")).result = .ok () ∧
    (∀ output ∈ differing "keys" "./web//keys", ".." ∉ Path.segments output.path) ∧
    ∀ output ∈ differing "keys" "./web//keys",
      (writeAll nested (differing "keys" "./web//keys")).tree.read? output.path =
        some (Bytes.ofText output.contents) := by
  have hsuccess : (writeAll nested (differing "keys" "./web//keys")).result = .ok () := by
    decide +kernel
  have hup : ∀ output ∈ differing "keys" "./web//keys", ".." ∉ Path.segments output.path := by
    decide +kernel
  exact ⟨hsuccess, hup, (success_reads_back hsuccess).2 hup⟩

/-- A path that goes up leads to the place of another one unnoticed, and its output is lost. -/
theorem success_loses_output :
    (writeAll nested (differing "keys" "web/../keys")).result = .ok () ∧
    (writeAll nested (differing "keys" "web/../keys")).tree.read? "keys" =
      some (Bytes.ofText "2") ∧
    ⟨"keys", "1"⟩ ∈ differing "keys" "web/../keys" ∧ Bytes.ofText "1" ≠ Bytes.ofText "2" := by
  decide +kernel

end KeyCatalog.Output
