import KeyCatalog.FileTree
import Mathlib.Data.List.Basic
/-!
How a tree changes when a file is put into it. Paths are followed through directories alone, and a
file never takes the place of a directory, so every path leads to the same place afterwards.
-/
namespace KeyCatalog

theorem Bytes.ofText_injective : Function.Injective Bytes.ofText := by
  intro text other h
  have htext := Bytes.text?_ofText text
  rw [h, Bytes.text?_ofText] at htext
  exact (Option.some.inj htext).symm

/-- Every path but the empty one can be made absolute. -/
theorem Path.absolute?_eq_none_iff {workingDirectory : Place} {path : String} :
    absolute? workingDirectory path = none ↔ path = "" := by
  rw [absolute?]
  split
  · next h => simp [h]
  · next h => split <;> simp [h]

namespace FileTree

variable {tree other next : FileTree} {place : Place} {path : String} {mode : Nat} {bytes : Bytes}

theorem isDirectory_root (tree : FileTree) : tree.isDirectory [] = true := by
  rw [isDirectory, node?, if_pos rfl, decide_eq_true rfl]

theorem ne_root_of_not_directory (h : tree.isDirectory place = false) : place ≠ [] := by
  rintro rfl
  rw [isDirectory_root] at h
  cases h

structure SameDirectories (tree other : FileTree) : Prop where
  workingDirectory : tree.workingDirectory = other.workingDirectory
  isDirectory : tree.isDirectory = other.isDirectory

theorem SameDirectories.refl (tree : FileTree) : tree.SameDirectories tree :=
  ⟨rfl, rfl⟩

theorem SameDirectories.trans (h : tree.SameDirectories other)
    (h' : other.SameDirectories next) : tree.SameDirectories next :=
  ⟨h.workingDirectory.trans h'.workingDirectory, h.isDirectory.trans h'.isDirectory⟩

/-- Only directories count on the way along a path. -/
theorem SameDirectories.locate? (h : tree.SameDirectories other) (path : String) :
    tree.locate? path = other.locate? path := by
  -- a part is followed from a directory, whatever else the directory holds
  have hfollow : tree.follow? = other.follow? := by
    funext place segment
    rw [follow?, follow?, h.isDirectory]
  rw [FileTree.locate?, FileTree.locate?, hfollow, base, base, h.workingDirectory]

/-- A file that is put where no directory is changes no directory. -/
theorem sameDirectories_set_file (h : tree.isDirectory place = false) (mode : Nat)
    (bytes : Bytes) : tree.SameDirectories (tree.set place (.file mode bytes)) := by
  refine ⟨rfl, ?_⟩
  funext target
  by_cases htarget : target = place
  -- a file stands where no directory was, and is none either
  · subst htarget
    rw [h, isDirectory, node?_set_self tree _ (ne_root_of_not_directory h)]
    rfl
  · rw [isDirectory, isDirectory, node?_set_of_ne tree _ htarget]

/-- Holds for a path at whose place a file can be put: the path leads to a place, and no directory
is there. -/
def CanReplace (tree : FileTree) (path : String) : Prop :=
  ∃ place, tree.locate? path = some place ∧ tree.isDirectory place = false

/-- Which paths can be written depends on the directories alone. -/
theorem SameDirectories.canReplace_iff (h : tree.SameDirectories other) :
    tree.CanReplace path ↔ other.CanReplace path := by
  rw [CanReplace, CanReplace, h.locate?, h.isDirectory]

/-- A write that is made puts one file where no directory was. -/
theorem write?_eq_some_iff :
    tree.write? path mode bytes = some next ↔
      ∃ place, tree.locate? path = some place ∧ tree.isDirectory place = false ∧
        next = tree.set place (.file mode bytes) := by
  constructor
  · intro h
    rw [write?] at h
    split at h
    · next place hplace =>
      split at h
      · cases h
      · next hfree =>
        cases h
        exact ⟨place, hplace, eq_false_of_ne_true hfree, rfl⟩
    · cases h
  · rintro ⟨place, hplace, hfree, rfl⟩
    simp only [write?, hplace, hfree, Bool.false_eq_true, if_false]

/-- A write fails only where no file can be put. -/
theorem write?_eq_none_iff : tree.write? path mode bytes = none ↔ ¬tree.CanReplace path := by
  constructor
  · rintro h ⟨place, hplace, hfree⟩
    rw [write?_eq_some_iff.mpr ⟨place, hplace, hfree, rfl⟩] at h
    cases h
  · intro h
    cases hwrite : tree.write? path mode bytes with
    | none => rfl
    | some next =>
      obtain ⟨place, hplace, hfree, -⟩ := write?_eq_some_iff.mp hwrite
      exact absurd ⟨place, hplace, hfree⟩ h

theorem sameDirectories_of_write? (h : tree.write? path mode bytes = some next) :
    tree.SameDirectories next := by
  obtain ⟨place, -, hfree, rfl⟩ := write?_eq_some_iff.mp h
  exact sameDirectories_set_file hfree mode bytes

/-- What is read is what the place of the path holds. -/
theorem read?_eq_some_iff :
    tree.read? path = some bytes ↔
      ∃ place mode, tree.locate? path = some place ∧
        tree.node? place = some (.file mode bytes) := by
  rw [read?]
  constructor
  · intro h
    split at h
    · next mode found hfile =>
      cases h
      obtain ⟨place, hplace, hnode⟩ := Option.bind_eq_some_iff.mp hfile
      exact ⟨place, mode, hplace, hnode⟩
    · cases h
  · rintro ⟨place, mode, hplace, hnode⟩
    rw [hplace, Option.bind_some, hnode]

/-- A part of a path is followed from a directory: it leads nowhere, up, or to a name in the
directory. -/
theorem follow?_cases {segment : String} {target : Place}
    (h : tree.follow? place segment = some target) :
    tree.isDirectory place = true ∧
      (Path.isIdle segment = true ∧ target = place ∨
        segment = ".." ∧ target = place.dropLast ∨
        Path.isIdle segment = false ∧ segment ≠ ".." ∧ target = place ++ [segment]) := by
  rw [follow?] at h
  split at h
  · cases h
  -- from here on the place so far is a directory
  next hdirectory =>
  refine ⟨by simpa using hdirectory, ?_⟩
  split at h
  · next hidle =>
    cases h
    exact .inl ⟨hidle, rfl⟩
  next hidle =>
  split at h
  · next hup =>
    cases h
    exact .inr (.inl ⟨hup, rfl⟩)
  next hup =>
  split at h
  · cases h
  · cases h
    exact .inr (.inr ⟨eq_false_of_ne_true hidle, hup, rfl⟩)

/-- Without a part `..` a path spells the place that it leads to. -/
theorem foldlM_follow? {segments : List String} {last : Place} (hup : ".." ∉ segments)
    (h : segments.foldlM tree.follow? place = some last) :
    last = place ++ segments.filter fun segment => !Path.isIdle segment := by
  induction segments generalizing place with
  | nil =>
    cases h
    exact (List.append_nil _).symm
  | cons segment rest ih =>
    obtain ⟨hsegment, hrest⟩ := List.ne_and_not_mem_of_not_mem_cons hup
    rw [List.foldlM_cons] at h
    obtain ⟨next, hnext, hlast⟩ := Option.bind_eq_some_iff.mp h
    rw [ih hrest hlast]
    -- an idle part stays where it is and is left out of the spelling; any other is added to both
    obtain ⟨-, ⟨hidle, rfl⟩ | ⟨rfl, -⟩ | ⟨hidle, -, rfl⟩⟩ := follow?_cases hnext
    · rw [List.filter_cons_of_neg (by simp [hidle])]
    · exact absurd rfl hsegment
    · rw [List.filter_cons_of_pos (by simp [hidle]), List.append_assoc, List.singleton_append]

/-- Steps from the root are those to the place where a path begins and then its own. -/
theorem absolute?_eq (tree : FileTree) (hne : path ≠ "") :
    Path.absolute? tree.workingDirectory path = some (tree.base path ++ Path.steps path) := by
  rw [Path.absolute?, if_neg hne, base]
  split
  · rfl
  · rfl

/-- A path is located by following its parts, after its text is checked. -/
theorem locate?_eq_some_iff :
    tree.locate? path = some place ↔ path ≠ "" ∧ admits path = true ∧
      (Path.segments path).foldlM tree.follow? (tree.base path) = some place := by
  rw [locate?]
  split
  · next hrefused =>
    have hnot : ¬(path ≠ "" ∧ admits path = true) := by
      rintro ⟨hne, hadmits⟩
      simp [hne, hadmits] at hrefused
    constructor
    · intro h
      cases h
    · rintro ⟨hne, hadmits, -⟩
      exact absurd ⟨hne, hadmits⟩ hnot
  · next hadmitted =>
    have hgiven : path ≠ "" ∧ admits path = true := by simpa using hadmitted
    exact ⟨fun h => ⟨hgiven.1, hgiven.2, h⟩, fun h => h.2.2⟩

/-- Without `..`, following a path leads where its text says. -/
theorem absolute?_of_locate? (hup : ".." ∉ Path.segments path)
    (h : tree.locate? path = some place) :
    Path.absolute? tree.workingDirectory path = some place := by
  obtain ⟨hne, -, hfollow⟩ := locate?_eq_some_iff.mp h
  rw [absolute?_eq tree hne, foldlM_follow? hup hfollow, Path.steps]

end FileTree
end KeyCatalog
