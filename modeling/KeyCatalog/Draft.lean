import KeyCatalog.Generation
/-!
Catalogs that are still to be resolved, and the repository that is filled from them one after the
other. A catalog is registered when it is resolved; a draft that is at fault is passed over.
-/
namespace KeyCatalog

/-- What a catalog is drafted as: its records, a YAML text and what messages call it, or a file of a
tree. -/
inductive Draft.Form where
  | records (records : List Record)
  | yaml (text origin : String)
  | file (tree : FileTree) (path : String)

/-- A catalog that is still to be resolved. -/
structure Draft where
  collection : Collection
  suffix : String := defaultSuffix
  form : Draft.Form

namespace Draft

inductive Error where
  | records (error : Index.BuildError)
  | yaml (error : Index.LoadError)
  | file (error : Generation.Error)
deriving DecidableEq, Repr

def Error.message : Error → String
  | .records error => error.message
  | .yaml error => error.message
  | .file error => error.message

def index (draft : Draft) : Except Error Index :=
  match draft.form with
  | .records records => (Index.build draft.collection draft.suffix records).mapError .records
  | .yaml text origin =>
    (Index.ofYaml text draft.collection draft.suffix origin).mapError .yaml
  | .file tree path =>
    (Generation.load tree path draft.collection draft.suffix).mapError .file

end Draft

namespace Repository

/-- Registers the catalog of a draft. A draft without one changes nothing. -/
def registerDraft (repository : Repository) (draft : Draft) : Repository :=
  match draft.index with
  | .error _ => repository
  | .ok index => repository.register index

def ofDrafts (drafts : List Draft) : Repository :=
  drafts.foldl registerDraft {}

end Repository
end KeyCatalog
