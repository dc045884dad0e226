import KeyCatalog.Index
import KeyCatalog.Listing.Basic
import KeyCatalog.LiteralStyle
/-!
The Go listing of a catalog: two enumerations with their names, the type of an entry, one variable
for every entry, and two functions that list entries and resource types.
-/
namespace KeyCatalog.Listing.Go

/-- String literals of Go; raw ones have no escapes. -/
def style : LiteralStyle where
  quote := '"'
  rawDelimiter := '\x60'
  concat := ['+']
  quotedEscapes := [(['\\'], ['\\', '\\']), (['"'], ['\\', '"']), (['\r'], ['\\', 'r'])]
  rawEscapes := []

def quoted (text : String) : String :=
  String.ofList (style.quoted text.toList)

/-- The maturities, numbered in their order, and their names. -/
def maturityLines : List String :=
  ["", "type FeatureStatus int", "", "const ("] ++
    Maturity.all.mapIdx (fun i maturity =>
      "\t" ++ maturity.name ++ if i = 0 then " FeatureStatus = iota" else "") ++
    [")", "", "func (s FeatureStatus) String() string \x7b", "\tswitch s \x7b"] ++
    Maturity.all.flatMap (fun maturity =>
      ["\tcase " ++ maturity.name ++ ":", "\t\treturn " ++ quoted maturity.name]) ++
    ["\t\x7d", "\treturn \"Unknown\"", "\x7d"]

/-- The resource types, numbered by their ordinals, and their names. -/
def resourceTypeLines (registry : Registry) : List String :=
  ["", "type ResourceTypes int", "", "const (",
    "\t" ++ Registry.unknown ++ " ResourceTypes = iota"] ++
    registry.pairs.map (fun (_, name) => "\t" ++ name) ++
    [")", "", "func (r ResourceTypes) String() string \x7b", "\tswitch r \x7b"] ++
    registry.pairs.flatMap (fun (ordinal, name) =>
      ["\tcase " ++ toString ordinal ++ ":", "\t\treturn " ++ quoted name]) ++
    ["\t\x7d", "\treturn " ++ quoted Registry.unknown, "\x7d"]

def fields (noun : String) : List (String × String) :=
  [("The name of the " ++ noun ++ ".", "Name string"),
    ("Description of the " ++ noun ++ ".", "Description string"),
    ("FeatureStatus of this " ++ noun ++ ".", "FeatureStatus FeatureStatus"),
    ("Hide the existence of this " ++ noun ++ " when outputting usage information.",
      "Hidden bool"),
    ("Mark this " ++ noun ++ " as deprecated when generating usage information.",
      "Deprecated bool"),
    ("The types of resources this " ++ noun ++ " applies to.", "Resources []ResourceTypes")]

def entryTypeLines (collection : Collection) : List String :=
  ["", "// Instance describes a single resource " ++ collection.noun ++ ".", "//",
    "// Reference: " ++ collection.reference, "// Concept: " ++ collection.concept,
    "type Instance struct \x7b"] ++
    separated ((fields collection.noun).map fun (comment, field) =>
      ["\t// " ++ comment, "\t" ++ field]) ++
    ["\x7d"]

def entryLines (entry : Entry) : List String :=
  ["\t" ++ entry.identifier ++ " = Instance\x7b",
    "\t\tName:          " ++ quoted entry.key.text ++ ",",
    "\t\tDescription:   " ++
      String.ofList (style.description descriptionIndent entry.description.toList) ++ ",",
    "\t\tFeatureStatus: " ++ entry.maturity.name ++ ",",
    "\t\tHidden:        " ++ truth entry.hidden ++ ",",
    "\t\tDeprecated:    " ++ truth entry.deprecated ++ ",",
    "\t\tResources: []ResourceTypes\x7b"] ++
    entry.resources.map (fun tag => "\t\t\t" ++ tag ++ ",") ++
    ["\t\t\x7d,", "\t\x7d"]

def variableLines (entries : List Entry) : List String :=
  ["", "var ("] ++ separated (entries.map entryLines) ++ [")"]

def accessorLines (index : Index) : List String :=
  ["", "func AllResource" ++ index.collection.titlePlural ++ "() []*Instance \x7b",
    "\treturn []*Instance\x7b"] ++
    index.entries.map (fun entry => "\t\t&" ++ entry.identifier ++ ",") ++
    ["\t\x7d", "\x7d", "", "func AllResourceTypes() []string \x7b", "\treturn []string\x7b"] ++
    index.registry.pairs.map (fun (_, name) => "\t\t" ++ quoted name ++ ",") ++
    ["\t\x7d", "\x7d"]

def lines (index : Index) (package : String) : List String :=
  [header, "", "package " ++ package] ++ maturityLines ++ resourceTypeLines index.registry ++
    entryTypeLines index.collection ++ variableLines index.entries ++ accessorLines index

end KeyCatalog.Listing.Go
