import KeyCatalog.Proofs.Output.Staging
/-!
What a run of outputs leaves behind: the tree before it with some of its first outputs put in place,
and nothing else. All of them are put in place if and only if the run succeeds, and none if an
output fails a check that is made before the first replacement.
-/
namespace KeyCatalog.Output

variable {tree last : FileTree} {outputs : List Output}

def put (tree : FileTree) (output : Output) : FileTree :=
  match tree.locate? output.path with
  | some place => tree.set place (node output)
  | none => tree

/-- Every check that is made before the first replacement passes: the destinations are known, no two
of them are equal, and every output can be staged. -/
structure Ready (tree : FileTree) (outputs : List Output) : Prop where
  known : ∀ output ∈ outputs, output.path ≠ ""
  distinct : (outputs.map fun output => Path.absolute? tree.workingDirectory output.path).Nodup
  staged : ∀ output ∈ outputs, canStage tree output = true

/-- What a run with some result turns a tree into: the first outputs are put in place, each of them
where no directory was, and every other place holds what it held. -/
structure Effect (tree : FileTree) (outputs written : List Output) (result : Except WriteError Unit)
    (last : FileTree) : Prop where
  start : written <+: outputs
  put : last = written.foldl put tree
  free : ∀ output ∈ written, tree.CanReplace output.path
  node? : ∀ place, last.node? place =
    ((written.reverse.find? fun output => tree.locate? output.path = some place).map node).or
      (tree.node? place)
  complete : result = .ok () ↔ written = outputs
  unready : ¬Ready tree outputs → written = []
  stopped : Ready tree outputs → ∀ output rest, outputs = written ++ output :: rest →
    ¬tree.CanReplace output.path

theorem ready_iff :
    Ready tree outputs ↔ checkDestinations tree.workingDirectory [] outputs = .ok () ∧
      ∀ output ∈ outputs, canStage tree output = true := by
  simp only [checkDestinations_eq_ok_iff, ne_eq, Path.absolute?_eq_none_iff]
  constructor
  · intro h
    exact ⟨⟨h.known, fun _ _ _ hentry => absurd hentry List.not_mem_nil, h.distinct⟩, h.staged⟩
  · rintro ⟨⟨hknown, -, hdistinct⟩, hstaged⟩
    exact ⟨hknown, hdistinct, hstaged⟩

/-- Once every check passes, only the replacements decide. -/
theorem writeAll_of_ready (h : Ready tree outputs) :
    (writeAll tree outputs).result = (replaceAll tree outputs).result ∧
      (writeAll tree outputs).tree = (replaceAll tree outputs).tree := by
  obtain ⟨hdestinations, hstaged⟩ := ready_iff.mp h
  have hnone : outputs.find? (!canStage tree ·) = none := by
    rw [List.find?_eq_none]
    intro output houtput
    simp [hstaged output houtput]
  simp only [writeAll, hdestinations, hnone, and_self]

/-- A check that fails leaves the tree alone. -/
theorem writeAll_of_not_ready (h : ¬Ready tree outputs) :
    (∃ error, (writeAll tree outputs).result = .error error) ∧
      (writeAll tree outputs).tree = tree := by
  rcases writeAll_cases tree outputs with hfailure | ⟨hdestinations, hstaged, -⟩
  · exact hfailure
  · exact absurd (ready_iff.mpr ⟨hdestinations, hstaged⟩) h

theorem Replaces.eq_foldl_put (h : Replaces tree outputs last) : last = outputs.foldl put tree := by
  induction h with
  | nil => rfl
  | @cons tree next last output rest hwrite _ ih =>
    obtain ⟨place, hplace, -, hnext⟩ := FileTree.write?_eq_some_iff.mp hwrite
    have hput : put tree output = next := by
      rw [put, hplace, hnext]
      rfl
    rw [List.foldl_cons, hput, ih]

theorem effect_of_not_ready (h : ¬Ready tree outputs) :
    Effect tree outputs [] (writeAll tree outputs).result (writeAll tree outputs).tree := by
  obtain ⟨⟨error, herror⟩, htree⟩ := writeAll_of_not_ready h
  -- without outputs every check passes
  have hne : [] ≠ outputs := by
    rintro rfl
    exact h (ready_iff.mpr ⟨rfl, fun _ houtput => absurd houtput List.not_mem_nil⟩)
  exact {
    start := List.nil_prefix
    put := htree
    free := fun _ houtput => absurd houtput List.not_mem_nil
    node? := fun _ => by rw [htree]; rfl
    complete := by simp only [herror, reduceCtorEq, hne]
    unready := fun _ => rfl
    stopped := fun hready => absurd hready h }

/-- What is written is the outputs up to the first that cannot be put in place. -/
theorem exists_effect_of_ready (h : Ready tree outputs) :
    ∃ written, Effect tree outputs written (writeAll tree outputs).result
      (writeAll tree outputs).tree := by
  obtain ⟨hresult, htree⟩ := writeAll_of_ready h
  rw [hresult, htree]
  rcases replaceAll_cases tree outputs with
    ⟨hok, hreplaces⟩ | ⟨before, failed, after, houtputs, herror, hreplaces, hfixed⟩
  -- all outputs are replaced, or those before the first one that cannot be
  · refine ⟨outputs, List.prefix_rfl, hreplaces.eq_foldl_put, hreplaces.canReplace,
      hreplaces.node?, by simp only [hok], fun hnot => absurd h hnot, ?_⟩
    intro _ output rest hsplit
    have hlength := congrArg List.length hsplit
    simp at hlength
  · have hne : before ≠ outputs := by
      rw [houtputs]
      simp
    refine ⟨before, ⟨failed :: after, houtputs.symm⟩, hreplaces.eq_foldl_put, hreplaces.canReplace,
      hreplaces.node?, by simp only [herror, reduceCtorEq, hne], fun hnot => absurd h hnot, ?_⟩
    intro _ output rest hsplit
    have hcons := List.append_cancel_left (houtputs.symm.trans hsplit)
    rw [← (List.cons.inj hcons).1]
    exact hfixed

/-- A run writes some of its first outputs and changes nothing else, and that is also what it does
with its staged copies on file: none of them is left, under whatever fresh names they stand. -/
theorem writes_first_outputs (tree : FileTree) (outputs : List Output) :
    (∃ written, Effect tree outputs written (writeAll tree outputs).result
      (writeAll tree outputs).tree) ∧
    ∀ named : List (String × Output), named.map Prod.snd = outputs →
      Fresh tree (stagingPlaces tree named) outputs →
      writeStaged tree named = ((writeAll tree outputs).result, (writeAll tree outputs).tree) := by
  constructor
  · by_cases h : Ready tree outputs
    · exact exists_effect_of_ready h
    · exact ⟨[], effect_of_not_ready h⟩
  · rintro named rfl hfresh
    exact writeStaged_eq hfresh

/-- The second output goes to a directory. Its copy and the one of the first output are both gone
afterwards, and the first output is in place. -/
theorem writes_first_output_occupied :
    (∃ written, Effect occupied (renewed "keys.go" "keys.ts") written
      (writeAll occupied (renewed "keys.go" "keys.ts")).result
      (writeAll occupied (renewed "keys.go" "keys.ts")).tree) ∧
    [(".tmpAbCdEf", ⟨"keys.go", "new"⟩), (".tmpGhIjKl", ⟨"keys.ts", "new"⟩)].map Prod.snd =
      renewed "keys.go" "keys.ts" ∧
    Fresh occupied
      (stagingPlaces occupied
        [(".tmpAbCdEf", ⟨"keys.go", "new"⟩), (".tmpGhIjKl", ⟨"keys.ts", "new"⟩)])
      (renewed "keys.go" "keys.ts") ∧
    writeStaged occupied
        [(".tmpAbCdEf", ⟨"keys.go", "new"⟩), (".tmpGhIjKl", ⟨"keys.ts", "new"⟩)] =
      ((writeAll occupied (renewed "keys.go" "keys.ts")).result,
        (writeAll occupied (renewed "keys.go" "keys.ts")).tree) := by
  have hfresh : Fresh occupied
      (stagingPlaces occupied
        [(".tmpAbCdEf", ⟨"keys.go", "new"⟩), (".tmpGhIjKl", ⟨"keys.ts", "new"⟩)])
      (renewed "keys.go" "keys.ts") :=
    ⟨by decide +kernel, by decide +kernel, by decide +kernel⟩
  obtain ⟨heffect, hstaged⟩ := writes_first_outputs occupied (renewed "keys.go" "keys.ts")
  exact ⟨heffect, rfl, hfresh, hstaged _ rfl hfresh⟩

end KeyCatalog.Output
