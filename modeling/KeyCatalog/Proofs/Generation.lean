import KeyCatalog.Generation
import KeyCatalog.Proofs.Index.View
import KeyCatalog.Proofs.Listing.Go
import KeyCatalog.Proofs.Output.Destination
import KeyCatalog.Proofs.Package
/-!
A whole run. What can fail before the first output is written leaves the tree of files alone: the
catalog that is read and resolved, and the name of the package. Otherwise the listings of one catalog
are written in both languages, and what is reported at the end is what the records and the package
clause say.
-/
namespace KeyCatalog

/-- Naming an error in another way changes no success. -/
theorem mapError_eq_ok_iff {ε ε' α : Type} {f : ε → ε'} {result : Except ε α} {a : α} :
    result.mapError f = .ok a ↔ result = .ok a := by
  cases result with
  | error error => exact iff_of_false nofun nofun
  | ok other => simp only [Except.mapError, Except.ok.injEq]

namespace Index

variable {yaml origin suffix : String} {collection : Collection} {records : List Record}

theorem ofYaml_of_parse (h : Document.parse yaml collection origin = .ok records) :
    ofYaml yaml collection suffix origin =
      (build collection suffix records).mapError (.build origin) := by
  rw [ofYaml, h]
  cases hbuild : build collection suffix records with
  | error error => simp only [hbuild, Except.mapError]
  | ok index => simp only [hbuild, Except.mapError]

theorem ofYaml_of_parse_error {error : Document.ReadError}
    (h : Document.parse yaml collection origin = .error error) :
    ofYaml yaml collection suffix origin = .error (.read error) := by
  rw [ofYaml, h]

/-- A text gives a catalog if it is read and its records are accepted. -/
theorem ofYaml_eq_ok_iff {index : Index} :
    ofYaml yaml collection suffix origin = .ok index ↔
      ∃ records, Document.parse yaml collection origin = .ok records ∧
        build collection suffix records = .ok index := by
  cases hparse : Document.parse yaml collection origin with
  | error error => simp [ofYaml_of_parse_error hparse]
  | ok records => simp [ofYaml_of_parse hparse, mapError_eq_ok_iff]

end Index

namespace Bundled

/-- There is a repository only if both catalogs are resolved, and it holds both. -/
theorem repositoryOf_eq_ok_iff {annotations? labels? : Except Index.LoadError Index}
    {repository : Repository} :
    repositoryOf annotations? labels? = .ok repository ↔
      ∃ annotations labels, annotations? = .ok annotations ∧ labels? = .ok labels ∧
        repository = (({} : Repository).register annotations).register labels := by
  cases annotations? with
  | error error => simp [repositoryOf]
  | ok annotations =>
    cases labels? with
    | error error => simp [repositoryOf]
    | ok labels => simp [repositoryOf, eq_comm]

theorem collection_of_index {collection : Collection} {suffix : String} {index : Index}
    (h : Bundled.index collection suffix = .ok index) : index.collection = collection := by
  obtain ⟨records, -, hbuild⟩ := Index.ofYaml_eq_ok_iff.mp h
  exact Index.collection_of_build hbuild

/-- The repository has the catalog of each collection that resolving it gives. -/
theorem exists_index_of_repository {repository : Repository}
    (h : Bundled.repository = .ok repository) (collection : Collection) :
    ∃ index, Bundled.index collection defaultSuffix = .ok index ∧
      repository.get? collection = some index := by
  obtain ⟨annotations, labels, hannotations, hlabels, rfl⟩ := repositoryOf_eq_ok_iff.mp h
  have hannotation := collection_of_index hannotations
  have hlabel := collection_of_index hlabels
  cases collection with
  | annotations =>
    refine ⟨annotations, hannotations, ?_⟩
    simp only [Repository.get?_register, hannotation, hlabel, reduceCtorEq, if_true, if_false]
  | labels =>
    refine ⟨labels, hlabels, ?_⟩
    simp only [Repository.get?_register, hlabel, if_true]

end Bundled

namespace Generation

/-- The text of the catalog of a request, and what messages call that text. -/
inductive Source (tree : FileTree) (request : Request) : (text origin : String) → Prop
  | file {path text : String} (hinput : request.input = some path)
      (h : tree.readText? path = some text) : Source tree request text path
  | bundled (hinput : request.input = none) :
      Source tree request (Bundled.source request.collection) (Bundled.origin request.collection)

/-- A bundled catalog with the default suffix comes from the repository, for which both of them are
resolved. -/
def UsesRepository (request : Request) : Prop :=
  request.input = none ∧ request.domainSuffix = defaultSuffix

structure Loaded (tree : FileTree) (request : Request) (text origin : String)
    (records : List Record) (index : Index) : Prop where
  source : Source tree request text origin
  parse : Document.parse text request.collection origin = .ok records
  build : Index.build request.collection request.domainSuffix records = .ok index
  repository : UsesRepository request → ∃ repository, Bundled.repository = .ok repository

inductive LoadFails (tree : FileTree) (request : Request) : Error → Prop
  | unreadable {path : String} (hinput : request.input = some path)
      (h : tree.readText? path = none) : LoadFails tree request (.unreadable path)
  | repository {error : Index.LoadError} (huses : UsesRepository request)
      (h : Bundled.repository = .error error) : LoadFails tree request (.load error)
  | parse {text origin : String} {error : Document.ReadError}
      (hsource : Source tree request text origin) (hnew : ¬UsesRepository request)
      (h : Document.parse text request.collection origin = .error error) :
      LoadFails tree request (.load (.read error))
  | build {text origin : String} {records : List Record} {error : Index.BuildError}
      (hsource : Source tree request text origin) (hnew : ¬UsesRepository request)
      (hparse : Document.parse text request.collection origin = .ok records)
      (h : Index.build request.collection request.domainSuffix records = .error error) :
      LoadFails tree request (.load (.build origin error))

/-- Why a request gives nothing to write. -/
inductive Fails (tree : FileTree) (request : Request) : Error → Prop
  | load {error : Error} (h : LoadFails tree request error) : Fails tree request error
  | package {text origin : String} {records : List Record} {index : Index} {error : Package.Error}
      (hloaded : Loaded tree request text origin records index)
      (h : Package.resolve tree.workingDirectory request.outputGo request.package = .error error) :
      Fails tree request (.package error)

variable {tree : FileTree} {request : Request} {text origin package : String}
  {records : List Record} {index : Index} {error : Error}

section Load

/-- A catalog is loaded from a file that is there, holds text and gives a catalog. -/
theorem load_eq_ok_iff {path suffix : String} {collection : Collection} :
    load tree path collection suffix = .ok index ↔
      ∃ text, tree.readText? path = some text ∧
        Index.ofYaml text collection suffix path = .ok index := by
  cases htext : tree.readText? path with
  | none => simp only [load, htext, loadText, reduceCtorEq, false_and, exists_false]
  | some text =>
    simp only [load, htext, loadText, mapError_eq_ok_iff, Option.some_inj, exists_eq_left']

/-- A catalog that is not taken from the repository is resolved from its text. -/
theorem index_of_source (hsource : Source tree request text origin)
    (hnew : ¬UsesRepository request) :
    Generation.index request (request.input.bind tree.readText?) =
      (Index.ofYaml text request.collection request.domainSuffix origin).mapError .load := by
  cases hsource with
  | file hinput htext => simp only [Generation.index, hinput, Option.bind_some, htext, loadText]
  | bundled hinput =>
    have hsuffix : request.domainSuffix ≠ defaultSuffix := fun h => hnew ⟨hinput, h⟩
    simp only [Generation.index, hinput, loadBundled, if_neg hsuffix]
    rfl

/-- With the default suffix the bundled catalog is taken from the repository. -/
theorem index_of_repository {repository : Repository} (huses : UsesRepository request)
    (h : Bundled.repository = .ok repository)
    (hindex : Bundled.index request.collection defaultSuffix = .ok index) :
    Generation.index request (request.input.bind tree.readText?) = .ok index := by
  obtain ⟨other, hother, hget⟩ := Bundled.exists_index_of_repository h request.collection
  cases hindex.symm.trans hother
  simp only [Generation.index, huses.1, loadBundled, if_pos huses.2, h, hget]

/-- The pipeline gives the catalog that is loaded. -/
theorem index_of_loaded (h : Loaded tree request text origin records index) :
    Generation.index request (request.input.bind tree.readText?) = .ok index := by
  have hindex : Index.ofYaml text request.collection request.domainSuffix origin = .ok index :=
    Index.ofYaml_eq_ok_iff.mpr ⟨records, h.parse, h.build⟩
  by_cases huses : UsesRepository request
  · obtain ⟨repository, hrepository⟩ := h.repository huses
    apply index_of_repository huses hrepository
    cases h.source with
    | file hinput => cases hinput.symm.trans huses.1
    | bundled => rwa [huses.2] at hindex
  · rw [index_of_source h.source huses, hindex]
    rfl

/-- The pipeline fails for the reason that the catalog is not loaded. -/
theorem index_of_loadFails (h : LoadFails tree request error) :
    Generation.index request (request.input.bind tree.readText?) = .error error := by
  cases h with
  | unreadable hinput hnone =>
    simp only [Generation.index, hinput, Option.bind_some, hnone, loadText]
  | repository huses herror =>
    simp only [Generation.index, huses.1, loadBundled, if_pos huses.2, herror]
  | parse hsource hnew herror =>
    rw [index_of_source hsource hnew, Index.ofYaml_of_parse_error herror]
    rfl
  | build hsource hnew hparse herror =>
    rw [index_of_source hsource hnew, Index.ofYaml_of_parse hparse, herror]
    rfl

/-- A catalog is read and resolved unless there is a reason why not. -/
theorem loaded_or_loadFails (tree : FileTree) (request : Request) :
    (∃ text origin records index, Loaded tree request text origin records index) ∨
      ∃ error, LoadFails tree request error := by
  by_cases huses : UsesRepository request
  · cases hrepository : Bundled.repository with
    | error error => exact .inr ⟨_, .repository huses hrepository⟩
    | ok repository =>
      obtain ⟨index, hindex, -⟩ :=
        Bundled.exists_index_of_repository hrepository request.collection
      obtain ⟨records, hparse, hbuild⟩ := Index.ofYaml_eq_ok_iff.mp hindex
      exact .inl ⟨_, _, records, index, .bundled huses.1, hparse, huses.2 ▸ hbuild,
        fun _ => ⟨repository, hrepository⟩⟩
  -- the text is there, or else the input is a file that cannot be read
  have hsource : (∃ text origin, Source tree request text origin) ∨
      ∃ error, LoadFails tree request error := by
    cases hinput : request.input with
    | none => exact .inl ⟨_, _, .bundled hinput⟩
    | some path =>
      cases htext : tree.readText? path with
      | none => exact .inr ⟨_, .unreadable hinput htext⟩
      | some text => exact .inl ⟨text, path, .file hinput htext⟩
  rcases hsource with ⟨text, origin, hsource⟩ | hfails
  · cases hparse : Document.parse text request.collection origin with
    | error error => exact .inr ⟨_, .parse hsource huses hparse⟩
    | ok records =>
    cases hbuild : Index.build request.collection request.domainSuffix records with
    | error error => exact .inr ⟨_, .build hsource huses hparse hbuild⟩
    | ok index =>
      exact .inl ⟨text, origin, records, index, hsource, hparse, hbuild, fun h => absurd h huses⟩
  · exact .inr hfails

end Load

section Run

/-- Nothing is written before everything is worked out. -/
theorem run_of_fails (h : Fails tree request error) :
    (run tree request).result = .error error ∧ (run tree request).tree = tree := by
  have hplan : plan tree.workingDirectory request (request.input.bind tree.readText?) =
      .error error := by
    cases h with
    | load hload => rw [plan, index_of_loadFails hload]
    | package hloaded hpackage => simp only [plan, index_of_loaded hloaded, hpackage]
  simp only [run, hplan, and_self]

/-- Both listings of a catalog are handed over, and an error of writing them is passed on. -/
theorem run_of_loaded (hloaded : Loaded tree request text origin records index)
    (hpackage : Package.resolve tree.workingDirectory request.outputGo request.package =
      .ok package) :
    (run tree request).tree = (Output.writeAll tree (outputs request index package)).tree ∧
    (run tree request).result =
      ((Output.writeAll tree (outputs request index package)).result.map fun () =>
        ⟨index.collection, index.size, index.registry.size, package, request.outputGo,
          request.outputTypeScript⟩).mapError .write := by
  have hplan : plan tree.workingDirectory request (request.input.bind tree.readText?) =
      .ok ⟨outputs request index package, ⟨index.collection, index.size, index.registry.size,
        package, request.outputGo, request.outputTypeScript⟩⟩ := by
    simp only [plan, index_of_loaded hloaded, hpackage]
  rw [run, hplan]
  cases hresult : (Output.writeAll tree (outputs request index package)).result with
  | error error => simp only [hresult, Except.map, Except.mapError, and_self]
  | ok _ => simp only [hresult, Except.map, Except.mapError, and_self]

/-- If nothing fails before writing, there are a catalog and a package. -/
theorem loaded_of_not_fails (h : ∀ error, ¬Fails tree request error) :
    ∃ text origin records index package, Loaded tree request text origin records index ∧
      Package.resolve tree.workingDirectory request.outputGo request.package = .ok package := by
  rcases loaded_or_loadFails tree request with ⟨text, origin, records, index, hloaded⟩ | hfails
  · cases hpackage : Package.resolve tree.workingDirectory request.outputGo request.package with
    | error error => exact absurd (.package hloaded hpackage) (h _)
    | ok package => exact ⟨text, origin, records, index, package, hloaded, rfl⟩
  · obtain ⟨error, hload⟩ := hfails
    exact absurd (.load hload) (h error)

/-- A run that succeeds has loaded its catalog, has written both listings of it, and reports what
they are of. -/
theorem written_of_success {report : Report} (h : (run tree request).result = .ok report) :
    ∃ text origin records index, Loaded tree request text origin records index ∧
      Package.resolve tree.workingDirectory request.outputGo request.package =
        .ok report.package ∧
      report.entries = index.size ∧ report.resourceTypes = index.registry.size ∧
      (Output.writeAll tree (outputs request index report.package)).result = .ok () ∧
      (run tree request).tree =
        (Output.writeAll tree (outputs request index report.package)).tree := by
  -- a reason to fail would be the result
  have hnone : ∀ error, ¬Fails tree request error := by
    intro error hfails
    cases h.symm.trans (run_of_fails hfails).1
  obtain ⟨text, origin, records, index, package, hloaded, hpackage⟩ := loaded_of_not_fails hnone
  obtain ⟨htree, hresult⟩ := run_of_loaded hloaded hpackage
  cases hwritten : (Output.writeAll tree (outputs request index package)).result with
  | error error =>
    rw [h, hwritten] at hresult
    cases hresult
  | ok _ =>
    rw [h, hwritten] at hresult
    cases hresult
    exact ⟨text, origin, records, index, hloaded, hpackage, rfl, rfl, hwritten, htree⟩

end Run

/-- Whatever package is settled on passes the check of names. -/
theorem isIdentifier_of_resolve {workingDirectory : Place} {path : String} {stated : Option String}
    (h : Package.resolve workingDirectory path stated = .ok package) :
    Package.isIdentifier package = true :=
  (Package.resolve_eq_ok_iff.mp h).2

/-- A Go listing starts with the clause of its package. -/
theorem packageClause_listing (hpackage : Package.isIdentifier package = true) (index : Index) :
    ∃ rest, Listing.Go.packageClause (Language.go.listing index package).toList =
      some (package, rest) := by
  have hlines : Listing.Go.lines index package =
      [Listing.header, "", "package " ++ package] ++ (Listing.Go.maturityLines ++
        Listing.Go.resourceTypeLines index.registry ++
        Listing.Go.entryTypeLines index.collection ++ Listing.Go.variableLines index.entries ++
        Listing.Go.accessorLines index) := by
    simp only [Listing.Go.lines, List.append_assoc]
  have hlisting : (Language.go.listing index package).toList =
      Listing.written (Listing.Go.lines index package) := rfl
  have hread := Listing.Go.reads_packageClause hpackage
  rw [hlisting, hlines, Listing.written_append]
  exact ⟨_, hread _⟩

/-- The first of two outputs is on file after both are written, unless the second one takes its
place. -/
theorem read?_first {path contents other otherContents : String}
    (hsuccess : (Output.writeAll tree [⟨path, contents⟩, ⟨other, otherContents⟩]).result = .ok ())
    (hplaces : tree.locate? path ≠ tree.locate? other) :
    (Output.writeAll tree [⟨path, contents⟩, ⟨other, otherContents⟩]).tree.read? path =
      some (Bytes.ofText contents) := by
  obtain ⟨-, hreplaces⟩ := Output.replaces_of_success hsuccess
  obtain ⟨output, houtput, hplace, hread⟩ := hreplaces.exists_read? List.mem_cons_self
  rcases List.mem_pair.mp houtput with rfl | rfl
  · exact hread
  · exact absurd hplace hplaces

/-- A run fails before anything is written, with the first error there is, or it hands over the
listings of one catalog in both languages. What it reports in the end is the number of records, the
number of their different tags, and the package that the Go listing names. -/
theorem run_fails_or_writes_listings (tree : FileTree) (request : Request) :
    (∀ error, Fails tree request error →
      (run tree request).result = .error error ∧ (run tree request).tree = tree) ∧
    ((∀ error, ¬Fails tree request error) → ∃ text origin records index package written,
      Loaded tree request text origin records index ∧
      Package.resolve tree.workingDirectory request.outputGo request.package = .ok package ∧
      written = Output.writeAll tree
        [⟨request.outputGo, Language.go.listing index package⟩,
          ⟨request.outputTypeScript, Language.typeScript.listing index package⟩] ∧
      (run tree request).tree = written.tree ∧
      (∀ error, written.result = .error error → (run tree request).result = .error (.write error)) ∧
      (written.result = .ok () → ∃ report, (run tree request).result = .ok report)) ∧
    ∀ report, (run tree request).result = .ok report → ∃ text origin records index,
      Loaded tree request text origin records index ∧
      Package.resolve tree.workingDirectory request.outputGo request.package =
        .ok report.package ∧
      report.entries = records.length ∧
      report.resourceTypes = (records.flatMap Record.resources).toFinset.card ∧
      (∃ rest, Listing.Go.packageClause (Language.go.listing index report.package).toList =
        some (report.package, rest)) ∧
      (tree.locate? request.outputGo ≠ tree.locate? request.outputTypeScript →
        (run tree request).tree.read? request.outputGo =
          some (Bytes.ofText (Language.go.listing index report.package))) := by
  refine ⟨fun error => run_of_fails, ?_, ?_⟩
  · intro hnone
    obtain ⟨text, origin, records, index, package, hloaded, hpackage⟩ := loaded_of_not_fails hnone
    obtain ⟨htree, hresult⟩ := run_of_loaded hloaded hpackage
    refine ⟨text, origin, records, index, package, _, hloaded, hpackage, rfl, htree, ?_, ?_⟩
    · intro error herror
      rw [hresult, outputs, herror]
      rfl
    · intro hok
      rw [hresult, outputs, hok]
      exact ⟨_, rfl⟩
  · intro report hreport
    obtain ⟨text, origin, records, index, hloaded, hpackage, hentries, htypes, hok, htree⟩ :=
      written_of_success hreport
    refine ⟨text, origin, records, index, hloaded, hpackage,
      hentries.trans (Index.size_of_build hloaded.build),
      htypes.trans (Index.registry_size_of_build hloaded.build),
      packageClause_listing (isIdentifier_of_resolve hpackage) index, ?_⟩
    intro hplaces
    rw [htree]
    exact read?_first hok hplaces

/-- A catalog of two labels that share a tag. -/
def shelfText : String :=
  "labels:\n- name: m/o\n  resources: [Node]\n- name: m/n\n  resources: [Pod, Node]\n"

def shelfRecords : List Record :=
  [{ name := "m/o", resources := ["Node"] }, { name := "m/n", resources := ["Pod", "Node"] }]

def shelfIndex : Index where
  collection := .labels
  entries :=
    [⟨⟨"m", "n", by decide, by decide, by decide, by decide⟩, "MN", .alpha, "", false, false,
        ["Pod", "Node"]⟩,
      ⟨⟨"m", "o", by decide, by decide, by decide, by decide⟩, "MO", .alpha, "", false, false,
        ["Node"]⟩]
  registry := ⟨["Node", "Pod"]⟩

theorem parse_shelfText : Document.parse shelfText .labels "labels.yaml" = .ok shelfRecords := by
  decide +kernel

theorem build_shelfRecords : Index.build .labels defaultSuffix shelfRecords = .ok shelfIndex := by
  decide +kernel

def shelf : FileTree :=
  (FileTree.fresh ["work"]).set ["work", "labels.yaml"] (.file 0o644 (Bytes.ofText shelfText))

def shelfRequest : Request where
  input := some "labels.yaml"
  collection := .labels
  outputGo := "keys.go"
  outputTypeScript := "keys.ts"
  package := some "keys"

/-- The two labels and their two tags are reported, and their listing is on file. Under a name that
no package can have, nothing is written. -/
theorem run_writes_listings_shelf :
    (run shelf shelfRequest).result = .ok ⟨.labels, 2, 2, "keys", "keys.go", "keys.ts"⟩ ∧
    (∃ text origin records index, Loaded shelf shelfRequest text origin records index ∧
      2 = records.length ∧ 2 = (records.flatMap Record.resources).toFinset.card ∧
      (run shelf shelfRequest).tree.read? "keys.go" =
        some (Bytes.ofText (Language.go.listing index "keys"))) ∧
    (run shelf { shelfRequest with package := some "4" }).result =
      .error (.package (.invalid "4")) ∧
    (run shelf { shelfRequest with package := some "4" }).tree = shelf := by
  have htext : shelf.readText? "labels.yaml" = some shelfText := by decide +kernel
  have hloaded : Loaded shelf shelfRequest shelfText "labels.yaml" shelfRecords shelfIndex :=
    ⟨.file rfl htext, parse_shelfText, build_shelfRecords, fun huses => nomatch huses.1⟩
  have hpackage : Package.resolve shelf.workingDirectory "keys.go" (some "keys") = .ok "keys" := by
    decide +kernel
  have hwritten : (Output.writeAll shelf (outputs shelfRequest shelfIndex "keys")).result =
      .ok () := by
    decide +kernel
  have hresult : (run shelf shelfRequest).result =
      .ok ⟨.labels, 2, 2, "keys", "keys.go", "keys.ts"⟩ := by
    rw [(run_of_loaded hloaded hpackage).2, hwritten]
    rfl
  obtain ⟨-, -, hreport⟩ := run_fails_or_writes_listings shelf shelfRequest
  obtain ⟨text, origin, records, index, hreported, -, hentries, htypes, -, hread⟩ :=
    hreport _ hresult
  have hplaces : shelf.locate? "keys.go" ≠ shelf.locate? "keys.ts" := by decide +kernel
  -- the same catalog is loaded for a package that is refused
  have hrefused : Fails shelf { shelfRequest with package := some "4" }
      (.package (.invalid "4")) := by
    refine .package ⟨.file rfl htext, parse_shelfText, build_shelfRecords, ?_⟩ (by decide +kernel)
    exact fun huses => nomatch huses.1
  obtain ⟨hfails, -⟩ := run_fails_or_writes_listings shelf
    { shelfRequest with package := some "4" }
  exact ⟨hresult, ⟨text, origin, records, index, hreported, hentries, htypes, hread hplaces⟩,
    hfails _ hrefused⟩

end Generation
end KeyCatalog
