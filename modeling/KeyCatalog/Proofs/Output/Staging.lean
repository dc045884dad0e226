import KeyCatalog.Proofs.Output.Destination
/-!
Staged copies as files of their own. A copy of every output is put beside its destination, and the
copies are moved once all of them are on file; those that are not moved are removed, whatever the
outcome. If the copies stand at fresh places, such a run ends like the one that keeps copies out of
the tree: removing the copies that are still waiting always gives the tree of the other run.
-/
namespace KeyCatalog

namespace FileTree

variable {tree : FileTree} {place other : Place} {places : List Place} {node : FileNode}

def without (tree : FileTree) (places : List Place) : FileTree :=
  { tree with nodes := tree.nodes.filter (·.1 ∉ places) }

/-- Moves what is at a place to where a path leads. A directory is never replaced. -/
def move? (tree : FileTree) (source : Place) (path : String) : Option FileTree :=
  match tree.node? source, tree.locate? path with
  | some node, some place =>
    if tree.isDirectory place then none else some ((tree.without [source]).set place node)
  | _, _ => none

theorem ne_root_of_node?_eq_none (h : tree.node? place = none) : place ≠ [] := by
  rintro rfl
  cases h

theorem node?_without_of_mem (hplace : place ∈ places) (hroot : place ≠ []) :
    (tree.without places).node? place = none := by
  rw [node?, if_neg hroot, Option.map_eq_none_iff, List.find?_eq_none]
  intro entry hentry hsame
  have hnot : entry.1 ∉ places := of_decide_eq_true (List.mem_filter.mp hentry).2
  rw [of_decide_eq_true hsame] at hnot
  exact hnot hplace

theorem node?_without_of_not_mem (hplace : place ∉ places) :
    (tree.without places).node? place = tree.node? place := by
  -- an entry of the place is not among those that are removed
  have hfind : (tree.nodes.filter (·.1 ∉ places)).find? (·.1 = place) =
      tree.nodes.find? (·.1 = place) := by
    rw [List.find?_filter]
    congr 1
    funext entry
    by_cases hentry : entry.1 = place
    · simp [hentry, hplace]
    · simp [hentry]
  rw [node?, node?, without, hfind]

theorem without_append (tree : FileTree) (places others : List Place) :
    tree.without (places ++ others) = (tree.without places).without others := by
  simp [without, List.filter_filter, Bool.and_comm]

theorem without_cons (tree : FileTree) (place : Place) (places : List Place) :
    tree.without (place :: places) = (tree.without [place]).without places :=
  tree.without_append [place] places

theorem without_singleton (h : tree.node? place = none) : tree.without [place] = tree := by
  have hentries : ∀ entry ∈ tree.nodes, entry.1 ≠ place := by
    rw [node?, if_neg (ne_root_of_node?_eq_none h), Option.map_eq_none_iff,
      List.find?_eq_none] at h
    intro entry hentry hsame
    exact h entry hentry (decide_eq_true hsame)
  have hnodes : tree.nodes.filter (·.1 ∉ [place]) = tree.nodes := by
    apply List.filter_eq_self.mpr
    intro entry hentry
    exact decide_eq_true (mt List.mem_singleton.mp (hentries entry hentry))
  rw [without, hnodes]

/-- What is put where it will be removed again does not matter. -/
theorem without_set_of_mem (h : place ∈ places) :
    (tree.set place node).without places = tree.without places := by
  have hnodes : (tree.nodes.filter (·.1 ≠ place)).filter (·.1 ∉ places) =
      tree.nodes.filter (·.1 ∉ places) := by
    rw [List.filter_filter]
    apply List.filter_congr
    intro entry _
    by_cases hentry : entry.1 = place
    · simp [hentry, h]
    · simp [hentry]
  rw [without, set, without, List.filter_cons_of_neg (by simp [h]), hnodes]

theorem without_set_of_not_mem (h : place ∉ places) :
    (tree.set place node).without places = (tree.without places).set place node := by
  simp [without, set, h, List.filter_filter, Bool.and_comm]

end FileTree

namespace Output

-- unfolded, it leads into the text of a path
attribute [local irreducible] canStage

variable {tree base current next : FileTree} {output : Output} {outputs : List Output}
  {place : Place} {places : List Place}

structure Copy where
  place : Place
  output : Output

/-- Where a copy of an output stands: in the directory of the output, under its own name. -/
def stagingPlace? (tree : FileTree) (name : String) (output : Output) : Option Place :=
  (tree.locate? (Path.directory output.path)).map (· ++ [name])

def stage? (tree : FileTree) (name : String) (output : Output) : Option (FileTree × Copy) :=
  if canStage tree output then
    (stagingPlace? tree name output).map fun place =>
      (tree.set place (node output), ⟨place, output⟩)
  else none

/-- Moves copies to their destinations one after the other. At a failure those that are left are
removed. -/
def moveAll (tree : FileTree) : List Copy → Except WriteError Unit × FileTree
  | [] => (.ok (), tree)
  | copy :: rest =>
    match tree.move? copy.place copy.output.path with
    | none => (.error (.unreplaced copy.output.path), tree.without ((copy :: rest).map Copy.place))
    | some next => moveAll next rest

/-- Stages outputs with names for their copies, behind the copies that are there already, and then
moves all of them. At a failure the copies are removed. -/
def stageAll (tree : FileTree) (copies : List Copy) :
    List (String × Output) → Except WriteError Unit × FileTree
  | [] => moveAll tree copies
  | pair :: rest =>
    match stage? tree pair.1 pair.2 with
    | none =>
      (.error (.unstaged (Path.directory pair.2.path)), tree.without (copies.map Copy.place))
    | some (next, copy) => stageAll next (copies ++ [copy]) rest

/-- Writes outputs through staged copies on file, given the names of the copies. -/
def writeStaged (tree : FileTree) (named : List (String × Output)) :
    Except WriteError Unit × FileTree :=
  match checkDestinations tree.workingDirectory [] (named.map Prod.snd) with
  | .error error => (.error error, tree)
  | .ok () => stageAll tree [] named

def stagingPlaces (tree : FileTree) (named : List (String × Output)) : List Place :=
  named.filterMap fun pair => stagingPlace? tree pair.1 pair.2

/-- Places for copies that are free and will stay so: no two copies share one, nothing is there, and
no output goes there. -/
structure Fresh (tree : FileTree) (places : List Place) (outputs : List Output) : Prop where
  distinct : places.Nodup
  unused : ∀ place ∈ places, tree.node? place = none
  apart : ∀ place ∈ places, ∀ output ∈ outputs, tree.locate? output.path ≠ some place

/-- The copies stand in a tree that is otherwise the same as another one. -/
structure Holds (current : FileTree) (copies : List Copy) (base : FileTree) : Prop where
  without : current.without (copies.map Copy.place) = base
  node : ∀ copy ∈ copies, current.node? copy.place = some (node copy.output)

variable {copies : List Copy} {copy : Copy}

/-- Copies are files, so directories and what paths lead to are the same with and without them. -/
theorem Holds.sameDirectories (h : Holds current copies base) : current.SameDirectories base := by
  have hdirectory : current.workingDirectory = base.workingDirectory := by
    rw [← h.without]
    rfl
  refine ⟨hdirectory, ?_⟩
  funext place
  rw [FileTree.isDirectory, FileTree.isDirectory, ← h.without]
  by_cases hplace : place ∈ copies.map Copy.place
  · obtain ⟨copy, hcopy, rfl⟩ := List.mem_map.mp hplace
    have hnode := h.node copy hcopy
    have hroot : copy.place ≠ [] := by
      intro hempty
      rw [hempty] at hnode
      cases hnode
    rw [hnode, FileTree.node?_without_of_mem hplace hroot]
    rfl
  · rw [FileTree.node?_without_of_not_mem hplace]

theorem canStage_eq_of_sameDirectories (h : tree.SameDirectories base) (output : Output) :
    canStage tree output = canStage base output := by
  have hleads (path : String) : tree.leadsToDirectory path = base.leadsToDirectory path := by
    rw [FileTree.leadsToDirectory, FileTree.leadsToDirectory, h.locate?, h.isDirectory]
  have hfull (path : String) : tree.fullPath path = base.fullPath path := by
    rw [FileTree.fullPath, FileTree.fullPath, h.workingDirectory]
  rw [canStage, canStage, hleads, hfull]

theorem stagingPlace?_eq_of_sameDirectories (h : tree.SameDirectories base) (name : String)
    (output : Output) : stagingPlace? tree name output = stagingPlace? base name output := by
  rw [stagingPlace?, stagingPlace?, h.locate?]

/-- An output that can be staged has a place for its copy. -/
theorem exists_stagingPlace?_of_canStage (h : canStage tree output = true) (name : String) :
    ∃ place, stagingPlace? tree name output = some place := by
  rw [canStage, Bool.and_eq_true, FileTree.leadsToDirectory] at h
  cases hdirectory : tree.locate? (Path.directory output.path) with
  | none =>
    rw [hdirectory] at h
    cases h.1
  | some directory =>
    exact ⟨directory ++ [name], by rw [stagingPlace?, hdirectory, Option.map_some]⟩

/-- One more copy at an unused place. -/
theorem Holds.stage (h : Holds current copies base) (hnew : place ∉ copies.map Copy.place)
    (hunused : base.node? place = none) :
    Holds (current.set place (Output.node output)) (copies ++ [⟨place, output⟩]) base := by
  constructor
  · rw [List.map_append, FileTree.without_set_of_mem (by simp), FileTree.without_append, h.without]
    exact FileTree.without_singleton hunused
  · intro copy hcopy
    rcases List.mem_append.mp hcopy with hcopy | hcopy
    · have hne : copy.place ≠ place := fun heq => hnew (heq ▸ List.mem_map_of_mem hcopy)
      rw [FileTree.node?_set_of_ne current _ hne]
      exact h.node copy hcopy
    · rw [List.mem_singleton.mp hcopy]
      exact FileTree.node?_set_self current _ (FileTree.ne_root_of_node?_eq_none hunused)

/-- A copy that is moved replaces its destination as its output would, and the copies behind it
stay. -/
theorem Holds.move (h : Holds current (copy :: copies) base)
    (hfresh : Fresh base ((copy :: copies).map Copy.place) outputs) (hcopy : copy.output ∈ outputs)
    (hwrite : base.write? copy.output.path mode (Bytes.ofText copy.output.contents) = some next) :
    ∃ moved, current.move? copy.place copy.output.path = some moved ∧ Holds moved copies next := by
  obtain ⟨place, hplace, hfree, rfl⟩ := FileTree.write?_eq_some_iff.mp hwrite
  have hsame := h.sameDirectories
  have hnode := h.node copy List.mem_cons_self
  have hfree' : current.isDirectory place = false := by rw [hsame.isDirectory, hfree]
  -- no other copy stands where this one goes, or where it comes from
  have hdestination : place ∉ (copy :: copies).map Copy.place :=
    fun hmem => hfresh.apart place hmem copy.output hcopy hplace
  have hrest : place ∉ copies.map Copy.place := fun hmem =>
    hdestination (List.mem_cons_of_mem _ hmem)
  have hsource : copy.place ∉ copies.map Copy.place := (List.nodup_cons.mp hfresh.distinct).1
  refine ⟨(current.without [copy.place]).set place copy.output.node, ?_, ?_, ?_⟩
  · rw [FileTree.move?, hnode, hsame.locate?, hplace]
    simp only [hfree', Bool.false_eq_true, if_false]
  · rw [FileTree.without_set_of_not_mem hrest, ← FileTree.without_cons, ← List.map_cons, h.without]
    rfl
  · intro other hother
    have hmem : other.place ∈ copies.map Copy.place := List.mem_map_of_mem hother
    have hne : other.place ≠ place := fun heq => hrest (heq ▸ hmem)
    have hne' : other.place ∉ [copy.place] := fun hsingle =>
      hsource (List.mem_singleton.mp hsingle ▸ hmem)
    rw [FileTree.node?_set_of_ne _ _ hne, FileTree.node?_without_of_not_mem hne']
    exact h.node other (List.mem_cons_of_mem copy hother)

/-- A copy cannot be moved where no file could be put without the copies. -/
theorem Holds.move?_eq_none (h : Holds current copies base) {source : Place} {path : String}
    (hfixed : ¬base.CanReplace path) : current.move? source path = none := by
  have hsame := h.sameDirectories
  rw [FileTree.move?]
  split
  · next node place _ hplace =>
    rw [hsame.locate?] at hplace
    split
    · rfl
    · next hfree =>
      rw [hsame.isDirectory] at hfree
      exact absurd ⟨place, hplace, eq_false_of_ne_true hfree⟩ hfixed
  · rfl

/-- Places for copies stay free when an output is written. -/
theorem Fresh.of_write? {path : String} {bytes : Bytes} (h : Fresh tree places outputs)
    (hwrite : tree.write? path mode bytes = some next) (houtput : output ∈ outputs)
    (hpath : output.path = path) : Fresh next places outputs := by
  have hsame := FileTree.sameDirectories_of_write? hwrite
  obtain ⟨target, htarget, -, rfl⟩ := FileTree.write?_eq_some_iff.mp hwrite
  refine ⟨h.distinct, ?_, ?_⟩
  · intro place hplace
    -- an output never goes where a copy will stand
    have hne : place ≠ target := by
      rintro rfl
      exact h.apart place hplace output houtput (hpath ▸ htarget)
    rw [FileTree.node?_set_of_ne tree _ hne]
    exact h.unused place hplace
  · intro place hplace other hother
    rw [← hsame.locate?]
    exact h.apart place hplace other hother

theorem Fresh.subset {others : List Place} (h : Fresh tree places outputs)
    (hsublist : others.Sublist places) : Fresh tree others outputs :=
  ⟨h.distinct.sublist hsublist, fun place hplace => h.unused place (hsublist.subset hplace),
    fun place hplace => h.apart place (hsublist.subset hplace)⟩

/-- Moving copies ends like replacing by the outputs that they are of, without any copy. -/
theorem moveAll_eq (h : Holds current copies base)
    (hfresh : Fresh base (copies.map Copy.place) outputs)
    (houtputs : ∀ copy ∈ copies, copy.output ∈ outputs) :
    moveAll current copies =
      ((replaceAll base (copies.map Copy.output)).result,
        (replaceAll base (copies.map Copy.output)).tree) := by
  -- at each copy both runs go on, or both fail and the copies are removed
  induction copies generalizing current base with
  | nil =>
    have hsame : current = base := by
      rw [← h.without, List.map_nil]
      simp [FileTree.without]
    rw [hsame]
    rfl
  | cons copy rest ih =>
    have hcopy := houtputs copy List.mem_cons_self
    have hwithout : current.without (copy.place :: rest.map Copy.place) = base := h.without
    simp only [moveAll, List.map_cons, replaceAll]
    cases hwrite : base.write? copy.output.path mode (Bytes.ofText copy.output.contents) with
    | none =>
      have hfixed := FileTree.write?_eq_none_iff.mp hwrite
      simp only [h.move?_eq_none hfixed, hwithout]
    | some next =>
      obtain ⟨moved, hmoved, hholds⟩ := h.move hfresh hcopy hwrite
      have hrest : Fresh base (rest.map Copy.place) outputs :=
        hfresh.subset (List.sublist_cons_self _ _)
      simp only [hmoved]
      exact ih hholds (hrest.of_write? hwrite hcopy rfl)
        fun other hother => houtputs other (List.mem_cons_of_mem copy hother)

/-- Staging fails at the first output that cannot be staged, and leaves no copy; otherwise all
outputs replace their destinations. -/
theorem stageAll_eq {named : List (String × Output)} (h : Holds current copies tree)
    (hfresh : Fresh tree (copies.map Copy.place ++ stagingPlaces tree named)
      (copies.map Copy.output ++ named.map Prod.snd)) :
    stageAll current copies named =
      match (named.map Prod.snd).find? (!canStage tree ·) with
      | some output => (.error (.unstaged (Path.directory output.path)), tree)
      | none =>
        ((replaceAll tree (copies.map Copy.output ++ named.map Prod.snd)).result,
          (replaceAll tree (copies.map Copy.output ++ named.map Prod.snd)).tree) := by
  -- the copies grow by one at every output that is staged
  induction named generalizing current copies with
  | nil =>
    rw [stagingPlaces, List.filterMap_nil, List.append_nil] at hfresh
    simp only [List.map_nil, List.append_nil, List.find?_nil] at hfresh ⊢
    exact moveAll_eq h hfresh fun copy hcopy => List.mem_map_of_mem hcopy
  | cons pair rest ih =>
    obtain ⟨name, output⟩ := pair
    have hsame := h.sameDirectories
    have hstage : stage? current name output =
        if canStage tree output then
          (stagingPlace? tree name output).map fun place =>
            (current.set place (node output), ⟨place, output⟩)
        else none := by
      rw [stage?, canStage_eq_of_sameDirectories hsame, stagingPlace?_eq_of_sameDirectories hsame]
    rw [stageAll, hstage, List.map_cons, List.find?_cons]
    cases hcan : canStage tree output with
    | false =>
      simp only [Bool.false_eq_true, if_false, Bool.not_false, h.without]
    | true =>
      obtain ⟨place, hplace⟩ := exists_stagingPlace?_of_canStage hcan name
      have hplaces : stagingPlaces tree ((name, output) :: rest) =
          place :: stagingPlaces tree rest := by
        rw [stagingPlaces, List.filterMap_cons, hplace, stagingPlaces]
      rw [hplaces] at hfresh
      have hnew : place ∉ copies.map Copy.place := fun hmem =>
        (List.nodup_append.mp hfresh.distinct).2.2 place hmem place List.mem_cons_self rfl
      have hholds : Holds (current.set place (node output)) (copies ++ [⟨place, output⟩]) tree :=
        h.stage hnew (hfresh.unused place (by simp))
      have hrest := ih hholds (by simpa using hfresh)
      simpa only [hplace, if_true, Option.map_some, Bool.not_true, List.map_append, List.map_cons,
        List.map_nil, List.append_assoc, List.cons_append, List.nil_append] using hrest

/-- With fresh places for its copies, a run that has them on file ends like one that has not. -/
theorem writeStaged_eq {named : List (String × Output)}
    (hfresh : Fresh tree (stagingPlaces tree named) (named.map Prod.snd)) :
    writeStaged tree named =
      ((writeAll tree (named.map Prod.snd)).result, (writeAll tree (named.map Prod.snd)).tree) := by
  have hholds : Holds tree [] tree := by
    refine ⟨?_, fun _ hcopy => absurd hcopy List.not_mem_nil⟩
    simp [FileTree.without]
  have hstaged := stageAll_eq hholds hfresh
  rw [writeStaged, writeAll]
  -- both ways of writing make the same checks before the first replacement
  cases checkDestinations tree.workingDirectory [] (named.map Prod.snd) with
  | error error => rfl
  | ok _ =>
    simp only [hstaged, List.map_nil, List.nil_append]
    cases (named.map Prod.snd).find? (!canStage tree ·) with
    | none => rfl
    | some output => rfl

end Output
end KeyCatalog
