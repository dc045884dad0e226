import KeyCatalog.Index
import KeyCatalog.Listing.Basic
import KeyCatalog.LiteralStyle
/-!
The TypeScript listing of a catalog: two enumerations with their names, the type of an entry, a
table of the entries, and two functions that list entries and resource types.
-/
namespace KeyCatalog.Listing.TypeScript

/-- String literals of TypeScript; raw ones are templates without interpolation. -/
def style : LiteralStyle where
  quote := '"'
  rawDelimiter := '\x60'
  concat := ['+']
  quotedEscapes := [(['\\'], ['\\', '\\']), (['"'], ['\\', '"']), (['\r'], ['\\', 'r'])]
  rawEscapes := [(['\\'], ['\\', '\\']), (['$', '\x7b'], ['\\', '$', '\x7b'])]

def quoted (text : String) : String :=
  String.ofList (style.quoted text.toList)

/-- The maturities in their order and their names. -/
def maturityLines : List String :=
  ["", "export enum FeatureStatus \x7b"] ++
    Maturity.all.map (fun maturity => "  " ++ maturity.name ++ ",") ++
    ["\x7d", "", "export function featureStatusToString(status: FeatureStatus): string \x7b",
      "  switch (status) \x7b"] ++
    Maturity.all.flatMap (fun maturity =>
      ["    case FeatureStatus." ++ maturity.name ++ ":",
        "      return " ++ quoted maturity.name ++ ";"]) ++
    ["    default:", "      return \"Unknown\";", "  \x7d", "\x7d"]

/-- The resource types in the order of their ordinals and their names. -/
def resourceTypeLines (registry : Registry) : List String :=
  ["", "export enum ResourceTypes \x7b", "  " ++ Registry.unknown ++ ","] ++
    registry.pairs.map (fun (_, name) => "  " ++ name ++ ",") ++
    ["\x7d", "", "export function resourceTypesToString(type: ResourceTypes): string \x7b",
      "  switch (type) \x7b"] ++
    registry.pairs.flatMap (fun (ordinal, name) =>
      ["    case " ++ toString ordinal ++ ":", "      return " ++ quoted name ++ ";"]) ++
    ["    default:", "      return " ++ quoted Registry.unknown ++ ";", "  \x7d", "\x7d"]

def entryTypeLines (collection : Collection) : List String :=
  ["", "/**", " * Instance describes a single resource " ++ collection.noun ++ ".", " *",
    " * Reference: " ++ collection.reference, " * Concept: " ++ collection.concept, " */",
    "export interface Instance \x7b", "  name: string;", "  description: string;",
    "  featureStatus: FeatureStatus;", "  hidden: boolean;", "  deprecated: boolean;",
    "  resources: ResourceTypes[];", "\x7d"]

def entryLines (entry : Entry) : List String :=
  ["  " ++ entry.identifier ++ ": \x7b",
    "    name: " ++ quoted entry.key.text ++ ",",
    "    description: " ++
      String.ofList (style.description descriptionIndent entry.description.toList) ++ ",",
    "    featureStatus: FeatureStatus." ++ entry.maturity.name ++ ",",
    "    hidden: " ++ truth entry.hidden ++ ",",
    "    deprecated: " ++ truth entry.deprecated ++ ",",
    "    resources: ["] ++
    entry.resources.map (fun tag => "      ResourceTypes." ++ tag ++ ",") ++
    ["    ],", "  \x7d,"]

def tableLines (entries : List Entry) : List String :=
  ["", "export const instances: \x7b readonly [key: string]: Instance \x7d = \x7b"] ++
    entries.flatMap entryLines ++ ["\x7d;"]

def accessorLines (index : Index) : List String :=
  ["", "export function allResource" ++ index.collection.titlePlural ++ "(): Instance[] \x7b",
    "  return ["] ++
    index.entries.map (fun entry => "    instances." ++ entry.identifier ++ ",") ++
    ["  ];", "\x7d", "", "export function allResourceTypes(): string[] \x7b", "  return ["] ++
    index.registry.pairs.map (fun (_, name) => "    " ++ quoted name ++ ",") ++
    ["  ];", "\x7d"]

def lines (index : Index) : List String :=
  [header] ++ maturityLines ++ resourceTypeLines index.registry ++
    entryTypeLines index.collection ++ tableLines index.entries ++ accessorLines index

end KeyCatalog.Listing.TypeScript
