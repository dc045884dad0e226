import KeyCatalog.Bundled
import KeyCatalog.Listing.Language
import KeyCatalog.Output
import KeyCatalog.Package
/-!
From a catalog to its two listings on file. Everything is worked out before the first output is
written: the catalog is resolved, the package is named, and both listings are there as text.
-/
namespace KeyCatalog

/-- What a run is asked for. Without an input it lists a bundled catalog. -/
structure Request where
  input : Option String := none
  collection : Collection := .annotations
  outputGo : String
  outputTypeScript : String
  package : Option String := none
  domainSuffix : String := defaultSuffix
deriving DecidableEq, Repr

namespace Generation

structure Report where
  collection : Collection
  entries : Nat
  resourceTypes : Nat
  package : String
  goPath : String
  typeScriptPath : String
deriving DecidableEq, Repr

structure Plan where
  outputs : List Output
  report : Report
deriving DecidableEq, Repr

inductive Error where
  | unreadable (path : String)
  | load (error : Index.LoadError)
  | notBundled (collection : Collection)
  | package (error : Package.Error)
  | write (error : Output.WriteError)
deriving DecidableEq, Repr

def Error.message : Error → String
  | .unreadable path => "unable to read input catalog " ++ path
  | .load error => error.message
  | .notBundled collection => "no bundled catalog for " ++ collection.nounPlural
  | .package error => error.message
  | .write error => error.message

/-- The catalog in a file, given the text of the file if there is one. -/
def loadText (path : String) (text? : Option String) (collection : Collection)
    (suffix : String) : Except Error Index :=
  match text? with
  | none => .error (.unreadable path)
  | some text => (Index.ofYaml text collection suffix path).mapError .load

def loadTextEvents (path : String) (text? : Option String) (collection : Collection)
    (suffix : String) : List Event :=
  match text? with
  | none => []
  | some text => Index.yamlEvents text collection suffix path

def load (tree : FileTree) (path : String) (collection : Collection) (suffix : String) :
    Except Error Index :=
  loadText path (tree.readText? path) collection suffix

/-- A bundled catalog. With the default suffix it is the one that the repository holds. -/
def loadBundled (collection : Collection) (suffix : String) : Except Error Index :=
  if suffix = defaultSuffix then
    match Bundled.repository with
    | .error error => .error (.load error)
    | .ok repository =>
      match repository.get? collection with
      | some index => .ok index
      | none => .error (.notBundled collection)
  else (Bundled.index collection suffix).mapError .load

/-- The catalog of a request, given the text of its input if there is one. -/
def index (request : Request) (text? : Option String) : Except Error Index :=
  match request.input with
  | some path => loadText path text? request.collection request.domainSuffix
  | none => loadBundled request.collection request.domainSuffix

def indexEvents (request : Request) (text? : Option String) : List Event :=
  match request.input with
  | some path =>
    .loading path request.collection ::
      loadTextEvents path text? request.collection request.domainSuffix
  | none =>
    if request.domainSuffix = defaultSuffix then [.usingBundled request.collection]
    else
      .resolvingBundled request.collection request.domainSuffix ::
        Index.yamlEvents (Bundled.source request.collection) request.collection
          request.domainSuffix (Bundled.origin request.collection)

def outputs (request : Request) (index : Index) (package : String) : List Output :=
  [⟨request.outputGo, Language.go.listing index package⟩,
    ⟨request.outputTypeScript, Language.typeScript.listing index package⟩]

def renderEvents (index : Index) (package : String) : List Event :=
  [Language.go, Language.typeScript].map fun language =>
    .rendered language.name (language.listing index package).utf8ByteSize

def plan (workingDirectory : Place) (request : Request) (text? : Option String) :
    Except Error Plan :=
  match index request text? with
  | .error error => .error error
  | .ok index =>
    match Package.resolve workingDirectory request.outputGo request.package with
    | .error error => .error (.package error)
    | .ok package =>
      .ok ⟨outputs request index package,
        ⟨index.collection, index.size, index.registry.size, package, request.outputGo,
          request.outputTypeScript⟩⟩

def planEvents (workingDirectory : Place) (request : Request) (text? : Option String) :
    List Event :=
  indexEvents request text? ++
    match index request text?,
      Package.resolve workingDirectory request.outputGo request.package with
    | .ok index, .ok package => renderEvents index package
    | _, _ => []

def Report.event (report : Report) : Event :=
  .finished report.collection report.entries report.resourceTypes report.package

def run (tree : FileTree) (request : Request) : Outcome Error Report :=
  let text? := request.input.bind tree.readText?
  let events := planEvents tree.workingDirectory request text?
  match plan tree.workingDirectory request text? with
  | .error error => ⟨.error error, tree, events⟩
  | .ok plan =>
    let written := Output.writeAll tree plan.outputs
    match written.result with
    | .error error => ⟨.error (.write error), written.tree, events ++ written.events⟩
    | .ok () => ⟨.ok plan.report, written.tree, events ++ written.events ++ [plan.report.event]⟩

end Generation
end KeyCatalog
