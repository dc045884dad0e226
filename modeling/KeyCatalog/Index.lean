import KeyCatalog.Document
import KeyCatalog.Event
import KeyCatalog.Identifier
import KeyCatalog.Registry
/-!
The resolved view of a catalog. Records are resolved in the order of their author, each one
checked against those before it, so an error names the position of the record that is at fault.
Only when all of them pass are tags checked against identifiers, since a tag may equal the
identifier of a later entry. The entries are then sorted by key.
-/
namespace KeyCatalog

/-- A catalog entry with every derived field. The resource tags are in the author's order, each
tag once. -/
structure Entry where
  key : Key
  identifier : String
  maturity : Maturity
  description : String
  hidden : Bool
  deprecated : Bool
  resources : List String
deriving DecidableEq, Repr

/-- The entries of a catalog in ascending order of their keys, and the resource types that they
refer to. -/
structure Index where
  collection : Collection
  entries : List Entry
  registry : Registry
deriving DecidableEq, Repr

/-- The namespace suffix that is dropped if no other is asked for. -/
def defaultSuffix : String := ".kubevm.io"

/-- The names that the listings of a collection declare whatever the catalog holds. -/
def reservedNames (collection : Collection) : List String :=
  [Registry.unknown, "Alpha", "Beta", "Stable", "FeatureStatus", "ResourceTypes", "Instance",
    "AllResourceTypes", "AllResource" ++ collection.titlePlural]

namespace Index

/-- What is wrong with a record, given the records before it. -/
inductive RecordFault where
  | missingName
  | invalidName (error : Key.ParseError)
  | duplicateName (key : Key) (previous : Nat)
  | reservedIdentifier (key : Key) (identifier : String)
  | sharedIdentifier (key : Key) (identifier : String) (previous : Nat)
  | invalidMaturity (key : Key) (error : Maturity.Unrecognized)
  | reservedResource (key : Key) (tag : String)
deriving DecidableEq, Repr

/-- Why records give no index; positions are those of the author. -/
inductive BuildError where
  | record (position : Nat) (fault : RecordFault)
  | resourceIsIdentifier (position : Nat) (key : Key) (tag : String) (owner : Nat)
deriving DecidableEq, Repr

def entryLabel (position : Nat) (key : Key) : String :=
  "entry " ++ toString position ++ " ('" ++ key.text ++ "'): "

def BuildError.message : BuildError → String
  | .record position .missingName => "entry " ++ toString position ++ " is missing name"
  | .record position (.invalidName error) =>
    "entry " ++ toString position ++ ": invalid name: " ++ error.message
  | .record position (.duplicateName key previous) =>
    "entry " ++ toString position ++ ": duplicate name '" ++ key.text ++
      "' (first defined by entry " ++ toString previous ++ ")"
  | .record position (.reservedIdentifier key identifier) =>
    entryLabel position key ++ "identifier '" ++ identifier ++
      "' clashes with a generated symbol; set variableName to rename it"
  | .record position (.sharedIdentifier key identifier previous) =>
    entryLabel position key ++ "identifier '" ++ identifier ++ "' collides with entry " ++
      toString previous ++ "; set variableName to disambiguate"
  | .record position (.invalidMaturity key error) =>
    entryLabel position key ++ "invalid featureStatus: " ++ error.message
  | .record position (.reservedResource key tag) =>
    entryLabel position key ++ "resource '" ++ tag ++ "' clashes with a generated symbol"
  | .resourceIsIdentifier position key tag owner =>
    entryLabel position key ++ "resource '" ++ tag ++ "' clashes with the identifier of entry " ++
      toString owner

def distinct : List String → List String
  | [] => []
  | tag :: rest => tag :: (distinct rest).filter (· ≠ tag)

/-- Names a record: its entry, whose tags are still unchecked. The entries before it are in the
author's order. -/
def identify (collection : Collection) (suffix : String) (before : List Entry)
    (record : Record) : Except RecordFault Entry :=
  if record.name = "" then .error .missingName
  else
    match Key.parse record.name with
    | .error error => .error (.invalidName error)
    | .ok key =>
      match before.findIdx? (·.key = key) with
      | some previous => .error (.duplicateName key previous)
      | none =>
        let identifier := Identifier.resolve key record.variableName suffix
        if identifier ∈ reservedNames collection then
          .error (.reservedIdentifier key identifier)
        else
          match before.findIdx? (·.identifier = identifier) with
          | some previous => .error (.sharedIdentifier key identifier previous)
          | none =>
            match Maturity.resolve key record.featureStatus with
            | .error error => .error (.invalidMaturity key error)
            | .ok maturity =>
              .ok ⟨key, identifier, maturity, record.description, record.hidden,
                record.deprecated, distinct record.resources⟩

def checkResources (collection : Collection) (entry : Entry) : Except RecordFault Entry :=
  match entry.resources.find? (· ∈ reservedNames collection) with
  | some tag => .error (.reservedResource entry.key tag)
  | none => .ok entry

def resolve (collection : Collection) (suffix : String) (before : List Entry)
    (record : Record) : Except RecordFault Entry :=
  match identify collection suffix before record with
  | .error fault => .error fault
  | .ok entry => checkResources collection entry

/-- Resolves records one after the other, behind entries that are resolved already. -/
def resolveAll (collection : Collection) (suffix : String) :
    (before : List Entry) → List Record → Except BuildError (List Entry)
  | before, [] => .ok before
  | before, record :: rest =>
    match resolve collection suffix before record with
    | .error fault => .error (.record before.length fault)
    | .ok entry => resolveAll collection suffix (before ++ [entry]) rest

/-- The first tag, in the author's order, that is the identifier of an entry. -/
def tagClash? (entries : List Entry) : Option BuildError :=
  entries.zipIdx.findSome? fun (entry, position) =>
    entry.resources.findSome? fun tag =>
      (entries.findIdx? (·.identifier = tag)).map fun owner =>
        .resourceIsIdentifier position entry.key tag owner

/-- Puts an entry in its place among entries in ascending order of their keys. -/
def insertEntry (entry : Entry) : List Entry → List Entry
  | [] => [entry]
  | other :: rest =>
    if other.key.text < entry.key.text then other :: insertEntry entry rest
    else entry :: other :: rest

def sortByKey (entries : List Entry) : List Entry :=
  entries.foldr insertEntry []

def registryOf (entries : List Entry) : Registry :=
  Registry.ofTags (entries.flatMap Entry.resources)

def build (collection : Collection) (suffix : String) (records : List Record) :
    Except BuildError Index :=
  match resolveAll collection suffix [] records with
  | .error error => .error error
  | .ok entries =>
    match tagClash? entries with
    | some error => .error error
    | none => .ok ⟨collection, sortByKey entries, registryOf entries⟩

def size (index : Index) : Nat :=
  index.entries.length

def positions (index : Index) : List (String × Nat) :=
  index.entries.zipIdx.map fun (entry, position) => (entry.key.text, position)

/-- The position of a key; a later entry replaces an earlier one of the same key. -/
def position? (index : Index) (key : String) : Option Nat :=
  index.positions.reverse.lookup key

def find? (index : Index) (key : String) : Option Entry :=
  (index.position? key).bind fun position => index.entries[position]?

/-- Why a text gives no index; `origin` names the text in messages. -/
inductive LoadError where
  | read (error : Document.ReadError)
  | build (origin : String) (error : BuildError)
deriving DecidableEq, Repr

def LoadError.message : LoadError → String
  | .read error => error.message
  | .build origin error => "validating catalog " ++ origin ++ ": " ++ error.message

def ofYaml (yaml : String) (collection : Collection) (suffix origin : String) :
    Except LoadError Index :=
  match Document.parse yaml collection origin with
  | .error error => .error (.read error)
  | .ok records =>
    match build collection suffix records with
    | .error error => .error (.build origin error)
    | .ok index => .ok index

/-- What is reported of the records behind entries that are resolved already, up to the first one
at fault. A record is reported once it is named, before its tags are checked. -/
def recordEvents (collection : Collection) (suffix : String) :
    (before : List Entry) → List Record → List Event
  | _, [] => []
  | before, record :: rest =>
    match identify collection suffix before record with
    | .error _ => []
    | .ok entry =>
      .resolvedEntry entry.key.text entry.identifier entry.maturity ::
        match checkResources collection entry with
        | .error _ => []
        | .ok entry =>
          (if entry.resources.isEmpty then [.noResources entry.key.text] else []) ++
            recordEvents collection suffix (before ++ [entry]) rest

def buildEvents (collection : Collection) (suffix : String) (records : List Record) :
    List Event :=
  recordEvents collection suffix [] records ++
    match build collection suffix records with
    | .error _ => []
    | .ok index => [.resolvedCatalog collection index.size index.registry.size]

/-- What is reported of building an index from a YAML text. -/
def yamlEvents (yaml : String) (collection : Collection) (suffix origin : String) :
    List Event :=
  match Document.parse yaml collection origin with
  | .error _ => []
  | .ok records => buildEvents collection suffix records

end Index
end KeyCatalog
