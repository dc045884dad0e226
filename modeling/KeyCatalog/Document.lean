import KeyCatalog.Collection
import KeyCatalog.Record
import KeyCatalog.Schema
import KeyCatalog.Yaml.Document
/-!
Catalog documents: one list of entries, under the name of its collection. A document is checked
against a schema, so that all of its faults are reported together, and then decoded. Decoding on
its own is more lenient than the schema: it ignores members that it does not know, and it also
reads a document or an entry from an array of its fields.
-/
namespace KeyCatalog

/-- A decoded document: the entries of each collection, if it has a list for it. -/
structure Document where
  annotations : Option (List Record)
  labels : Option (List Record)
deriving DecidableEq, Repr

namespace Document

def entrySchema : Schema :=
  .object
    [("deprecated", .boolean), ("description", .string 0), ("featureStatus", .string 0),
      ("hidden", .boolean), ("name", .string 0), ("resources", .array false (.string 1)),
      ("variableName", .string 0)]
    ["name"] none none

/-- The schema of a document: exactly one list, which may be null. -/
def schema : Schema :=
  .object
    [("annotations", .array true entrySchema), ("labels", .array true entrySchema)]
    [] (some 1) (some 1)

def entryFields : List String :=
  ["name", "variableName", "featureStatus", "description", "hidden", "deprecated", "resources"]

def fields : List String :=
  ["annotations", "labels"]

def members? (fields : List String) : Json → Option (List (String × Json))
  | .object members => some members
  | .array items => if items.length ≤ fields.length then some (fields.zip items) else none
  | _ => none

def string? : Json → Option String
  | .string text => some text
  | _ => none

def bool? : Json → Option Bool
  | .bool value => some value
  | _ => none

/-- A string or null, which is no string. -/
def optionalString? : Json → Option (Option String)
  | .null => some none
  | .string text => some (some text)
  | _ => none

def strings? : Json → Option (List String)
  | .array items => items.mapM string?
  | _ => none

/-- The value of a field, or a default if the field is missing. -/
def field? {α : Type} (members : List (String × Json)) (name : String) (decode : Json → Option α)
    (missing : α) : Option α :=
  match members.lookup name with
  | some value => decode value
  | none => some missing

def record? (value : Json) : Option Record := do
  let members ← members? entryFields value
  some {
    name := ← field? members "name" string? ""
    variableName := ← field? members "variableName" optionalString? none
    featureStatus := ← field? members "featureStatus" optionalString? none
    description := ← field? members "description" string? ""
    hidden := ← field? members "hidden" bool? false
    deprecated := ← field? members "deprecated" bool? false
    resources := ← field? members "resources" strings? [] }

/-- A list of entries; null is the empty list. -/
def records? : Json → Option (Option (List Record))
  | .null => some (some [])
  | .array items => (items.mapM record?).map some
  | _ => none

/-- Decodes a document. Both lists are decoded, whichever is asked for later. -/
def decode? (value : Json) : Option Document := do
  let members ← members? fields value
  some {
    annotations := ← field? members "annotations" records? none
    labels := ← field? members "labels" records? none }

def entries? (document : Document) : Collection → Option (List Record)
  | .annotations => document.annotations
  | .labels => document.labels

/-- Why a text gives no entries of a collection; `origin` names the text in messages. -/
inductive ReadError where
  | yaml (origin : String)
  | invalid (origin : String) (violations : List Violation)
  | undecodable (origin : String)
  | noList (origin : String) (collection : Collection)
deriving DecidableEq, Repr

def missingList (collection : Collection) : String :=
  "catalog document has no top-level '" ++ collection.nounPlural ++ "' list"

def ReadError.message : ReadError → String
  | .yaml origin => "parsing catalog YAML " ++ origin
  | .invalid origin violations =>
    "catalog " ++ origin ++ " failed schema validation:\n" ++
      "\n".intercalate (violations.map Violation.message)
  | .undecodable origin => "decoding catalog entries from " ++ origin
  | .noList origin collection => "reading " ++ origin ++ ": " ++ missingList collection

def ofJson (value : Json) (collection : Collection) (origin : String) :
    Except ReadError (List Record) :=
  match schema.violations "" value with
  | [] =>
    match decode? value with
    | some document =>
      match document.entries? collection with
      | some records => .ok records
      | none => .error (.noList origin collection)
    | none => .error (.undecodable origin)
  | violations => .error (.invalid origin violations)

/-- The entries of a collection in a YAML text. -/
def parse (yaml : String) (collection : Collection) (origin : String) :
    Except ReadError (List Record) :=
  match Yaml.read? yaml with
  | some value => ofJson value collection origin
  | none => .error (.yaml origin)

end Document
end KeyCatalog
