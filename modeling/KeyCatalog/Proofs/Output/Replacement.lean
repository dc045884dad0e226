import KeyCatalog.Output
import KeyCatalog.Proofs.FileTree
/-!
What a run of outputs does to a tree. Either all of them replace their destinations, or those
before the first that cannot; there is no way back. So a run that fails leaves the tree alone as
long as only its first output can fail to be replaced.
-/
namespace KeyCatalog.Output

/-- Outputs that replace their destinations one after the other, with the trees before and after. -/
inductive Replaces : FileTree → List Output → FileTree → Prop
  | nil (tree : FileTree) : Replaces tree [] tree
  | cons {tree next last : FileTree} {output : Output} {rest : List Output}
      (hwrite : tree.write? output.path mode (Bytes.ofText output.contents) = some next)
      (hrest : Replaces next rest last) : Replaces tree (output :: rest) last

/-- Replacing files changes no directory. -/
theorem Replaces.sameDirectories {tree last : FileTree} {outputs : List Output}
    (h : Replaces tree outputs last) : tree.SameDirectories last := by
  induction h with
  | nil => exact .refl _
  | cons hwrite _ ih => exact (FileTree.sameDirectories_of_write? hwrite).trans ih

theorem Replaces.eq_of_nil {tree last : FileTree} (h : Replaces tree [] last) : last = tree := by
  cases h
  rfl

/-- Either all outputs are put in place, or those before the first that cannot be. -/
theorem replaceAll_cases (tree : FileTree) (outputs : List Output) :
    ((replaceAll tree outputs).result = .ok () ∧
      Replaces tree outputs (replaceAll tree outputs).tree) ∨
    ∃ before output after, outputs = before ++ output :: after ∧
      (replaceAll tree outputs).result = .error (.unreplaced output.path) ∧
      Replaces tree before (replaceAll tree outputs).tree ∧ ¬tree.CanReplace output.path := by
  -- a replacement keeps the directories, so what can be replaced is settled by the first tree
  induction outputs generalizing tree with
  | nil => exact .inl ⟨rfl, .nil tree⟩
  | cons output rest ih =>
    cases hwrite : tree.write? output.path mode (Bytes.ofText output.contents) with
    | none =>
      have hfixed := FileTree.write?_eq_none_iff.mp hwrite
      rw [replaceAll, hwrite]
      exact .inr ⟨[], output, rest, rfl, rfl, .nil tree, hfixed⟩
    | some next =>
      have hsame := FileTree.sameDirectories_of_write? hwrite
      rw [replaceAll, hwrite]
      -- the failure may come later, and then this output is among those before it
      rcases ih next with
        ⟨hresult, hreplaces⟩ | ⟨before, failed, after, rfl, hresult, hreplaces, hfixed⟩
      · exact .inl ⟨hresult, .cons hwrite hreplaces⟩
      · exact .inr ⟨output :: before, failed, after, rfl, hresult, .cons hwrite hreplaces,
          mt hsame.canReplace_iff.mp hfixed⟩

/-- Either a check fails and nothing changes, or all checks pass and the replacements decide. -/
theorem writeAll_cases (tree : FileTree) (outputs : List Output) :
    ((∃ error, (writeAll tree outputs).result = .error error) ∧
      (writeAll tree outputs).tree = tree) ∨
    (checkDestinations tree.workingDirectory [] outputs = .ok () ∧
      (∀ output ∈ outputs, canStage tree output = true) ∧
      (writeAll tree outputs).result = (replaceAll tree outputs).result ∧
      (writeAll tree outputs).tree = (replaceAll tree outputs).tree) := by
  rw [writeAll]
  -- both checks come before the first replacement
  split
  · next error _ => exact .inl ⟨⟨error, rfl⟩, rfl⟩
  next hdestinations =>
  split
  · next output _ => exact .inl ⟨⟨.unstaged (Path.directory output.path), rfl⟩, rfl⟩
  · next hstaged =>
    refine .inr ⟨hdestinations, ?_, rfl, rfl⟩
    intro output houtput
    simpa using List.find?_eq_none.mp hstaged output houtput

/-- A run that fails changes nothing, as long as every output behind the first one can be replaced
if it can be staged. -/
theorem failure_changes_nothing {tree : FileTree} {outputs : List Output} {error : WriteError}
    (hlater : ∀ output ∈ outputs.tail, canStage tree output = true → tree.CanReplace output.path)
    (hfailure : (writeAll tree outputs).result = .error error) :
    (writeAll tree outputs).tree = tree := by
  rcases writeAll_cases tree outputs with ⟨-, htree⟩ | ⟨-, hstaged, hresult, htree⟩
  · exact htree
  rw [htree]
  rcases replaceAll_cases tree outputs with
    ⟨hok, -⟩ | ⟨before, output, after, houtputs, -, hreplaces, hfixed⟩
  · rw [hresult, hok] at hfailure
    cases hfailure
  -- only the first output can fail, and none is replaced before it
  · cases before with
    | nil => exact hreplaces.eq_of_nil
    | cons first between =>
      have hmem : output ∈ outputs := by simp [houtputs]
      have htail : output ∈ outputs.tail := by simp [houtputs]
      exact absurd (hlater output htail (hstaged output hmem)) hfixed

/-- A tree with an old file and a directory. -/
def occupied : FileTree :=
  ((FileTree.fresh ["work"]).set ["work", "keys.go"] (.file 0o600 (Bytes.ofText "old"))).set
    ["work", "keys.ts"] .directory

def renewed (path other : String) : List Output :=
  [⟨path, "new"⟩, ⟨other, "new"⟩]

/-- The directory comes first and cannot be replaced, and so nothing is. -/
theorem failure_changes_nothing_occupied :
    (∀ output ∈ (renewed "keys.ts" "keys.go").tail,
      canStage occupied output = true → occupied.CanReplace output.path) ∧
    (writeAll occupied (renewed "keys.ts" "keys.go")).result = .error (.unreplaced "keys.ts") ∧
    (writeAll occupied (renewed "keys.ts" "keys.go")).tree = occupied := by
  have hlater : ∀ output ∈ (renewed "keys.ts" "keys.go").tail,
      canStage occupied output = true → occupied.CanReplace output.path := by
    intro output houtput _
    rw [List.mem_singleton.mp houtput]
    exact ⟨["work", "keys.go"], by decide +kernel, by decide +kernel⟩
  have hfailure : (writeAll occupied (renewed "keys.ts" "keys.go")).result =
      .error (.unreplaced "keys.ts") := by
    decide +kernel
  exact ⟨hlater, hfailure, failure_changes_nothing hlater hfailure⟩

/-- In the other order the file is replaced before the directory is found to be one. -/
theorem failure_keeps_earlier_output :
    (writeAll occupied (renewed "keys.go" "keys.ts")).result = .error (.unreplaced "keys.ts") ∧
    occupied.read? "keys.go" = some (Bytes.ofText "old") ∧
    (writeAll occupied (renewed "keys.go" "keys.ts")).tree.read? "keys.go" =
      some (Bytes.ofText "new") ∧
    Bytes.ofText "old" ≠ Bytes.ofText "new" := by
  decide +kernel

end KeyCatalog.Output
