import KeyCatalog.Proofs.FileTree
/-!
The directory that holds what a path names. In a tree where everything lies in a directory a path
that leads to no directory ends with the name of a file, and the step before it is the name of the
directory, unless that step goes up. Files and directories are only made in directories, so trees
stay like this.
-/
namespace KeyCatalog.FileTree

variable {tree next : FileTree} {place target : Place} {path segment name : String}
  {spelled segments : List String} {mode : Nat} {bytes : Bytes}

/-- The last part of a path is followed like those before it. -/
theorem exists_last_part (hlocate : tree.locate? path = some place) :
    ∃ front last before, Path.segments path = front ++ [last] ∧
      front.foldlM tree.follow? (tree.base path) = some before ∧
      tree.follow? before last = some place := by
  obtain ⟨-, -, hfollow⟩ := locate?_eq_some_iff.mp hlocate
  have hsegments : Path.segments path ≠ [] := by
    rw [Path.segments, ne_eq, List.map_eq_nil_iff]
    exact Text.split_ne_nil _ _
  have hsplit := (List.dropLast_concat_getLast hsegments).symm
  rw [hsplit, List.foldlM_append] at hfollow
  obtain ⟨before, hbefore, hlast⟩ := Option.bind_eq_some_iff.mp hfollow
  rw [List.foldlM_cons] at hlast
  obtain ⟨target, htarget, hend⟩ := Option.bind_eq_some_iff.mp hlast
  cases hend
  exact ⟨_, _, before, hsplit, hbefore, htarget⟩

/-- Whatever a tree holds lies in a directory. -/
def Connected (tree : FileTree) : Prop :=
  ∀ place, tree.node? place ≠ none → tree.isDirectory place.dropLast = true

section Connected

theorem isDirectory_iff : tree.isDirectory place = true ↔ tree.node? place = some .directory := by
  rw [isDirectory, decide_eq_true_iff]

/-- The place above a directory is a directory. -/
theorem Connected.isDirectory_dropLast (h : tree.Connected)
    (hplace : tree.isDirectory place = true) : tree.isDirectory place.dropLast = true := by
  apply h
  rw [isDirectory_iff.mp hplace]
  exact Option.some_ne_none _

/-- Every step along a path stays among the places that lie in a directory. -/
theorem Connected.isDirectory_of_follow? (h : tree.Connected)
    (hfollow : tree.follow? place segment = some target) :
    tree.isDirectory target.dropLast = true := by
  obtain ⟨hplace, ⟨-, rfl⟩ | ⟨-, rfl⟩ | ⟨-, -, rfl⟩⟩ := follow?_cases hfollow
  · exact h.isDirectory_dropLast hplace
  · exact h.isDirectory_dropLast (h.isDirectory_dropLast hplace)
  · rwa [List.dropLast_concat]

/-- A new directory is the only one that is added. -/
theorem isDirectory_set_directory (tree : FileTree) (place other : Place) :
    (tree.set place .directory).isDirectory other =
      (decide (other = place) || tree.isDirectory other) := by
  by_cases hroot : other = []
  · rw [hroot, isDirectory_root, isDirectory_root, Bool.or_true]
  by_cases hother : other = place
  · subst hother
    rw [isDirectory, node?_set_self tree _ hroot]
    simp
  · rw [isDirectory, node?_set_of_ne tree _ hother, isDirectory]
    simp [hother]

/-- A directory that is made in a directory keeps the tree connected. -/
theorem Connected.set_directory (h : tree.Connected)
    (hparent : tree.isDirectory place.dropLast = true) :
    (tree.set place .directory).Connected := by
  intro other hother
  rw [isDirectory_set_directory, Bool.or_eq_true]
  by_cases hsame : other = place
  · exact .inr (hsame ▸ hparent)
  · rw [node?_set_of_ne tree _ hsame] at hother
    exact .inr (h other hother)

/-- So does a file, as long as it takes the place of no directory. -/
theorem Connected.set_file (h : tree.Connected) (hparent : tree.isDirectory place.dropLast = true)
    (hfree : tree.isDirectory place = false) (mode : Nat) (bytes : Bytes) :
    (tree.set place (.file mode bytes)).Connected := by
  have hsame := sameDirectories_set_file hfree mode bytes
  intro other hother
  rw [← hsame.isDirectory]
  by_cases hplace : other = place
  · exact hplace ▸ hparent
  · rw [node?_set_of_ne tree _ hplace] at hother
    exact h other hother

theorem mem_nodes_fresh {workingDirectory : Place} {entry : Place × FileNode} :
    entry ∈ (fresh workingDirectory).nodes ↔
      entry.2 = .directory ∧ entry.1 ≠ [] ∧ entry.1 <+: workingDirectory := by
  rw [fresh, List.mem_map]
  constructor
  · rintro ⟨depth, hdepth, rfl⟩
    have hlength : depth < workingDirectory.length := List.mem_range.mp hdepth
    refine ⟨rfl, ?_, List.take_prefix _ _⟩
    intro hempty
    have hzero := congrArg List.length hempty
    simp only [List.length_take, List.length_nil] at hzero
    omega
  · rintro ⟨hnode, hne, hprefix⟩
    have hpositive : 0 < entry.1.length := List.length_pos_of_ne_nil hne
    have hbound := hprefix.length_le
    -- a place on the way is what its own depth cuts off
    refine ⟨entry.1.length - 1, List.mem_range.mpr (by omega), ?_⟩
    rw [Nat.sub_add_cancel hpositive, ← List.prefix_iff_eq_take.mp hprefix, ← hnode]

/-- A tree with an empty working directory holds the directories on the way there. -/
theorem connected_fresh (workingDirectory : Place) : (fresh workingDirectory).Connected := by
  intro place hplace
  have hprefix : place.dropLast <+: workingDirectory := by
    by_cases hroot : place = []
    · exact hroot ▸ List.nil_prefix
    rw [node?, if_neg hroot, ne_eq, Option.map_eq_none_iff, ← ne_eq,
      Option.ne_none_iff_exists'] at hplace
    obtain ⟨entry, hentry⟩ := hplace
    have hfound := List.find?_some hentry
    have hsame : entry.1 = place := of_decide_eq_true hfound
    have hmem := mem_nodes_fresh.mp (List.mem_of_find?_eq_some hentry)
    exact place.dropLast_prefix.trans (hsame ▸ hmem.2.2)
  by_cases hparent : place.dropLast = []
  · rw [hparent, isDirectory_root]
  -- what is found at a place on the way is a directory like everything else
  have hmem : (place.dropLast, FileNode.directory) ∈ (fresh workingDirectory).nodes :=
    mem_nodes_fresh.mpr ⟨rfl, hparent, hprefix⟩
  rw [isDirectory_iff, node?, if_neg hparent]
  cases hfound : (fresh workingDirectory).nodes.find? (·.1 = place.dropLast) with
  | none => exact absurd (decide_eq_true rfl) (List.find?_eq_none.mp hfound _ hmem)
  | some entry => rw [Option.map_some, (mem_nodes_fresh.mp (List.mem_of_find?_eq_some hfound)).1]

/-- What a path locates stands in a directory, even if nothing is there yet. -/
theorem Connected.isDirectory_of_locate? (h : tree.Connected)
    (hlocate : tree.locate? path = some place) : tree.isDirectory place.dropLast = true := by
  obtain ⟨_, _, _, -, -, hlast⟩ := exists_last_part hlocate
  exact h.isDirectory_of_follow? hlast

theorem Connected.write? (h : tree.Connected)
    (hwrite : tree.write? path mode bytes = some next) : next.Connected := by
  obtain ⟨place, hplace, hfree, rfl⟩ := write?_eq_some_iff.mp hwrite
  exact h.set_file (h.isDirectory_of_locate? hplace) hfree mode bytes

/-- Directories on the way are made from the top down, so none is left without a parent. -/
theorem Connected.makeSteps (h : tree.Connected) (place : Place) (steps : List String) :
    (tree.makeSteps place steps).1.Connected := by
  induction steps generalizing tree place with
  | nil => exact h
  | cons step rest ih =>
    rw [FileTree.makeSteps]
    cases hfollow : tree.follow? place step with
    | none => exact h
    | some target =>
      dsimp only
      cases hnode : tree.node? target with
      -- a missing directory is made in the one that was just reached
      | none => exact ih (h.set_directory (h.isDirectory_of_follow? hfollow)) target
      | some node =>
        cases node with
        | directory => exact ih h target
        | file mode bytes => exact h

theorem Connected.makeDirectory (h : tree.Connected) (path : String) :
    (tree.makeDirectory path).1.Connected := by
  rw [FileTree.makeDirectory]
  split
  · exact h
  split
  · exact h.makeSteps _ _
  · exact h.makeSteps _ _

end Connected

section Names

/-- The last step of a spelling is the name of a place, unless it goes up. -/
def Names (spelled : List String) (place : Place) : Prop :=
  ∀ name, spelled.getLast? = some name → name ≠ ".." → place.getLast? = some name

/-- An idle part keeps the name, and any other part is the last step itself. -/
theorem Names.follow? (h : Names spelled place)
    (hfollow : tree.follow? place segment = some target) :
    Names (spelled ++ [segment].filter fun segment => !Path.isIdle segment) target := by
  obtain ⟨-, ⟨hidle, rfl⟩ | ⟨rfl, -⟩ | ⟨hidle, -, rfl⟩⟩ := follow?_cases hfollow
  · rw [List.filter_cons_of_neg (by simp [hidle]), List.filter_nil, List.append_nil]
    exact h
  · intro name hname hup
    rw [List.filter_cons_of_pos (by decide), List.getLast?_append_cons] at hname
    exact absurd (Option.some.inj hname).symm hup
  · intro name hname _
    rw [List.filter_cons_of_pos (by simp [hidle]), List.filter_nil, List.getLast?_concat] at hname
    rw [List.getLast?_concat, hname]

/-- The law of a single step carries over to all parts of a path; the idle ones are not spelled. -/
theorem Names.foldlM (h : Names spelled place)
    (hfollow : segments.foldlM tree.follow? place = some target) :
    Names (spelled ++ segments.filter fun segment => !Path.isIdle segment) target := by
  induction segments generalizing spelled place with
  | nil =>
    cases hfollow
    rwa [List.filter_nil, List.append_nil]
  | cons segment rest ih =>
    rw [List.foldlM_cons] at hfollow
    obtain ⟨next, hnext, htarget⟩ := Option.bind_eq_some_iff.mp hfollow
    have hrest := ih (h.follow? hnext) htarget
    rwa [List.append_assoc, ← List.filter_append, List.singleton_append] at hrest

/-- A path to a place without a directory ends with the name of a file, and the step before it names
the directory that the file is in, unless it goes up. -/
theorem Connected.exists_directory (h : tree.Connected) (hlocate : tree.locate? path = some place)
    (hfree : tree.isDirectory place = false) :
    ∃ directory file, place = directory ++ [file] ∧ tree.isDirectory directory = true ∧
      ∀ steps name, Path.absolute? tree.workingDirectory path = some steps →
        Path.directoryName? steps = some name → directory.getLast? = some name := by
  obtain ⟨front, file, directory, hsegments, hfront, hfile⟩ := exists_last_part hlocate
  have hnames : Names (tree.base path ++ front.filter fun segment => !Path.isIdle segment)
      directory :=
    Names.foldlM (fun _ hname _ => hname) hfront
  obtain ⟨hdirectory, ⟨-, rfl⟩ | ⟨-, rfl⟩ | ⟨hidle, -, rfl⟩⟩ := follow?_cases hfile
  -- an idle part and `..` lead to directories
  · rw [hfree] at hdirectory
    cases hdirectory
  · rw [h.isDirectory_dropLast hdirectory] at hfree
    cases hfree
  refine ⟨directory, file, rfl, hdirectory, ?_⟩
  intro steps name hsteps hname
  obtain ⟨hne, -, -⟩ := locate?_eq_some_iff.mp hlocate
  rw [absolute?_eq tree hne, Path.steps, hsegments, List.filter_append,
    List.filter_cons_of_pos (by simp [hidle]), List.filter_nil, ← List.append_assoc] at hsteps
  obtain rfl := Option.some.inj hsteps
  rw [Path.directoryName?, List.dropLast_concat, Option.filter_eq_some_iff] at hname
  exact hnames name hname.1 (by simpa using hname.2)

end Names

end KeyCatalog.FileTree
