import KeyCatalog.Proofs.FileTree.Directory
import KeyCatalog.Proofs.Generation
/-!
The package that is named after a directory. The name is taken from the text of a path, the listing
is written where the path leads, and the two agree whenever a run succeeds: a path whose text names
another directory than the one it leads into ends in a directory, where no listing can be written.
A path whose text names no directory is refused before anything is written.
-/
namespace KeyCatalog

/-- Why the text of a path does not tell the name of the directory that holds what it names. -/
inductive Path.Untold (workingDirectory : Place) (path : String) : Package.Error → Prop
  | empty (h : path = "") : Untold workingDirectory path (.unresolved path)
  | root {steps : List String} (h : absolute? workingDirectory path = some steps)
      (hroot : steps.dropLast = []) : Untold workingDirectory path (.underivable path)
  | up {steps : List String} (h : absolute? workingDirectory path = some steps)
      (hup : steps.dropLast.getLast? = some "..") : Untold workingDirectory path (.underivable path)

/-- A package is derived from the steps that the text of a path tells. -/
theorem Package.ofPath_eq_ok_iff {workingDirectory : Place} {path name : String} :
    ofPath workingDirectory path = .ok name ↔
      ∃ steps, Path.absolute? workingDirectory path = some steps ∧
        Path.directoryName? steps = some name := by
  rw [ofPath]
  cases Path.absolute? workingDirectory path with
  | none => simp
  | some steps => cases hname : Path.directoryName? steps <;> simp [hname]

/-- No directory is named at the root and behind a step up. -/
theorem Path.directoryName?_eq_none_iff {steps : List String} :
    directoryName? steps = none ↔ steps.dropLast = [] ∨ steps.dropLast.getLast? = some ".." := by
  rw [directoryName?, Option.filter_eq_none_iff]
  cases hlast : steps.dropLast.getLast? with
  | none => simp [List.getLast?_eq_none_iff.mp hlast]
  | some name =>
    have hne : steps.dropLast ≠ [] := by
      intro hempty
      rw [hempty] at hlast
      cases hlast
    simp [hne]

/-- Nothing else keeps a path from telling the name. -/
theorem Package.ofPath_eq_error_iff {workingDirectory : Place} {path : String}
    {error : Package.Error} :
    ofPath workingDirectory path = .error error ↔ Path.Untold workingDirectory path error := by
  constructor
  · intro h
    rw [ofPath] at h
    split at h
    · next hsteps =>
      cases h
      exact .empty (Path.absolute?_eq_none_iff.mp hsteps)
    next steps hsteps =>
    split at h
    · next hname =>
      cases h
      -- no name is left at the root and behind a step up
      rcases Path.directoryName?_eq_none_iff.mp hname with hroot | hup
      · exact .root hsteps hroot
      · exact .up hsteps hup
    · cases h
  · intro h
    cases h with
    | empty h => rw [ofPath, Path.absolute?_eq_none_iff.mpr h]
    | root h hroot => simp only [ofPath, h, Path.directoryName?_eq_none_iff.mpr (.inl hroot)]
    | up h hup => simp only [ofPath, h, Path.directoryName?_eq_none_iff.mpr (.inr hup)]

theorem Output.Replaces.connected {tree last : FileTree} {outputs : List Output}
    (h : Replaces tree outputs last) (hconnected : tree.Connected) : last.Connected := by
  induction h with
  | nil => exact hconnected
  | cons hwrite _ ih => exact ih (hconnected.write? hwrite)

theorem Output.connected_writeAll {tree : FileTree} (h : tree.Connected) (outputs : List Output) :
    (writeAll tree outputs).tree.Connected := by
  rcases writeAll_cases tree outputs with ⟨-, htree⟩ | ⟨-, -, -, htree⟩
  · rw [htree]
    exact h
  rw [htree]
  rcases replaceAll_cases tree outputs with ⟨-, hreplaces⟩ | ⟨_, _, _, -, -, hreplaces, -⟩
  · exact hreplaces.connected h
  · exact hreplaces.connected h

namespace Generation

variable {tree : FileTree} {request : Request} {report : Report}

/-- A run leaves everything in directories, whether it succeeds or not. -/
theorem connected_run (h : tree.Connected) (request : Request) :
    (run tree request).tree.Connected := by
  by_cases hfails : ∃ error, Fails tree request error
  · obtain ⟨error, herror⟩ := hfails
    rw [(run_of_fails herror).2]
    exact h
  · obtain ⟨text, origin, records, index, package, hloaded, hpackage⟩ :=
      loaded_of_not_fails (not_exists.mp hfails)
    rw [(run_of_loaded hloaded hpackage).1]
    exact Output.connected_writeAll h _

/-- A run that succeeds puts both listings of one catalog in place. -/
theorem exists_replaces_of_success (h : (run tree request).result = .ok report) :
    ∃ text origin records index, Loaded tree request text origin records index ∧
      Package.resolve tree.workingDirectory request.outputGo request.package =
        .ok report.package ∧
      Output.Replaces tree (outputs request index report.package) (run tree request).tree := by
  obtain ⟨text, origin, records, index, hloaded, hpackage, -, -, hok, htree⟩ :=
    written_of_success h
  rw [htree]
  exact ⟨text, origin, records, index, hloaded, hpackage, (Output.replaces_of_success hok).2⟩

/-- What is then found where the Go listing goes is a listing of that catalog, and it is the one in
Go unless the other one has taken its place. -/
theorem exists_language_of_replaces {index : Index} {package : String} {last : FileTree}
    (h : Output.Replaces tree (outputs request index package) last) :
    ∃ language : Language,
      last.read? request.outputGo = some (Bytes.ofText (language.listing index package)) ∧
      (language = .go ∨ tree.locate? request.outputGo = tree.locate? request.outputTypeScript) := by
  obtain ⟨output, houtput, hplace, hread⟩ := h.exists_read? List.mem_cons_self
  rw [outputs, List.mem_pair] at houtput
  rcases houtput with rfl | rfl
  · dsimp only at hread
    exact ⟨.go, hread, Or.inl rfl⟩
  · dsimp only at hplace hread
    exact ⟨.typeScript, hread, Or.inr hplace⟩

/-- Without a stated package, a path that does not tell its directory is an error, unless loading
fails first. -/
theorem run_of_untold {error : Package.Error} (hpackage : request.package = none)
    (h : Path.Untold tree.workingDirectory request.outputGo error) :
    (run tree request).tree = tree ∧ ∃ failure, (run tree request).result = .error failure ∧
      (LoadFails tree request failure ∨ failure = .package error) := by
  have hresolve : Package.resolve tree.workingDirectory request.outputGo request.package =
      .error error := by
    rw [hpackage, Package.resolve, Package.ofPath_eq_error_iff.mpr h]
  rcases loaded_or_loadFails tree request with ⟨text, origin, records, index, hloaded⟩ | hfails
  · obtain ⟨hresult, htree⟩ := run_of_fails (.package hloaded hresolve)
    exact ⟨htree, _, hresult, Or.inr rfl⟩
  · obtain ⟨failure, hfailure⟩ := hfails
    obtain ⟨hresult, htree⟩ := run_of_fails (.load hfailure)
    exact ⟨htree, failure, hresult, Or.inl hfailure⟩

/-- If no package is stated, a run that succeeds names the package after the directory that holds
the Go listing, however the path to it is spelled. A path that does not tell the name gives an error
and changes nothing. Whatever its result, a run leaves everything in directories. -/
theorem run_names_directory (hconnected : tree.Connected) (hpackage : request.package = none) :
    (∀ report, (run tree request).result = .ok report →
      ∃ (directory : Place) (file text origin : String) (records : List Record) (index : Index)
          (language : Language),
        Loaded tree request text origin records index ∧
        (run tree request).tree.locate? request.outputGo = some (directory ++ [file]) ∧
        (run tree request).tree.isDirectory directory = true ∧
        directory.getLast? = some report.package ∧
        (∃ rest, Listing.Go.packageClause (Language.go.listing index report.package).toList =
          some (report.package, rest)) ∧
        (run tree request).tree.read? request.outputGo =
          some (Bytes.ofText (language.listing index report.package)) ∧
        (language = .go ∨
          tree.locate? request.outputGo = tree.locate? request.outputTypeScript)) ∧
    (∀ error, Path.Untold tree.workingDirectory request.outputGo error →
      (run tree request).tree = tree ∧ ∃ failure, (run tree request).result = .error failure ∧
        (LoadFails tree request failure ∨ failure = .package error)) ∧
    (run tree request).tree.Connected := by
  refine ⟨?_, fun error => run_of_untold hpackage, connected_run hconnected request⟩
  intro report hreport
  obtain ⟨text, origin, records, index, hloaded, hresolve, hreplaces⟩ :=
    exists_replaces_of_success hreport
  have hsame := hreplaces.sameDirectories
  have hgo : ⟨request.outputGo, Language.go.listing index report.package⟩ ∈
      outputs request index report.package := List.mem_cons_self
  -- the listing goes where no directory is, so its path ends with a name in a directory
  obtain ⟨place, hplace, hfree⟩ := hreplaces.canReplace _ hgo
  obtain ⟨directory, file, rfl, hdirectory, hname⟩ := hconnected.exists_directory hplace hfree
  have hlisting := packageClause_listing (isIdentifier_of_resolve hresolve) index
  rw [hpackage] at hresolve
  obtain ⟨hproposes, -⟩ := Package.resolve_eq_ok_iff.mp hresolve
  cases hproposes with
  | derived hderived =>
  obtain ⟨steps, hsteps, hlast⟩ := Package.ofPath_eq_ok_iff.mp hderived
  obtain ⟨language, hread, hlanguage⟩ := exists_language_of_replaces hreplaces
  exact ⟨directory, file, text, origin, records, index, language, hloaded,
    by rw [← hsame.locate?, hplace], by rw [← hsame.isDirectory, hdirectory],
    hname steps _ hsteps hlast, hlisting, hread, hlanguage⟩

def annex : FileTree :=
  shelf.set ["work", "api"] .directory

def annexRequest : Request where
  input := some "labels.yaml"
  collection := .labels
  outputGo := "api/../api//./keys.go"
  outputTypeScript := "keys.ts"

theorem connected_annex : annex.Connected := by
  have hfresh := FileTree.connected_fresh ["work"]
  have hshelf : shelf.Connected := hfresh.set_file (by decide) (by decide) _ _
  exact hshelf.set_directory (by decide +kernel)

/-- The package is named after the directory that the last step starts in. -/
theorem run_names_directory_annex :
    annex.Connected ∧ annexRequest.package = none ∧
    (run annex annexRequest).result =
      .ok ⟨.labels, 2, 2, "api", "api/../api//./keys.go", "keys.ts"⟩ ∧
    ∃ (directory : Place) (file : String),
      (run annex annexRequest).tree.locate? "api/../api//./keys.go" = some (directory ++ [file]) ∧
      (run annex annexRequest).tree.isDirectory directory = true ∧
      directory.getLast? = some "api" := by
  have htext : annex.readText? "labels.yaml" = some shelfText := by decide +kernel
  have hloaded : Loaded annex annexRequest shelfText "labels.yaml" shelfRecords shelfIndex :=
    ⟨.file rfl htext, parse_shelfText, build_shelfRecords, fun huses => nomatch huses.1⟩
  have hpackage : Package.resolve annex.workingDirectory "api/../api//./keys.go" none =
      .ok "api" := by
    decide +kernel
  have hwritten : (Output.writeAll annex (outputs annexRequest shelfIndex "api")).result =
      .ok () := by
    decide +kernel
  have hresult : (run annex annexRequest).result =
      .ok ⟨.labels, 2, 2, "api", "api/../api//./keys.go", "keys.ts"⟩ := by
    rw [(run_of_loaded hloaded hpackage).2, hwritten]
    rfl
  have hunstated : annexRequest.package = none := rfl
  obtain ⟨hsuccess, -, -⟩ := run_names_directory connected_annex hunstated
  obtain ⟨directory, file, -, -, -, -, -, -, hplace, hdirectory, hname, -⟩ := hsuccess _ hresult
  exact ⟨connected_annex, hunstated, hresult, directory, file, hplace, hdirectory, hname⟩

end Generation
end KeyCatalog
