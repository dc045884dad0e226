import KeyCatalog.Proofs.Listing.Contents
import KeyCatalog.Proofs.Registry
/-!
The TypeScript listing is read back, like the one of Go. Members of enumerations stand behind the
name of their enumeration where they are used.
-/
namespace KeyCatalog.Listing.TypeScript
open Reader

def typeCase : Reader (Nat × String) := do
  let ordinal ← number.line "    case " ":"
  let label ← string.line "      return " ";"
  return (ordinal, label)

def entry : Reader Entry := do
  let identifier ← name.line "  " ": \x7b"
  let key ← key.line "    name: " ","
  let description ← (description .typeScript).line "    description: " ","
  let maturity ← maturity.line "    featureStatus: FeatureStatus." ","
  let hidden ← truthValue.line "    hidden: " ","
  let deprecated ← truthValue.line "    deprecated: " ","
  expect (written ["    resources: ["])
  let resources ← (name.line "      ResourceTypes." ",").many.followedBy
    (written ["    ],", "  \x7d,"])
  return ⟨key, identifier, maturity, description, hidden, deprecated, resources⟩

def resourceTypes : Reader TypeTable := do
  expect (written ["", "export enum ResourceTypes \x7b"])
  let zero ← name.line "  " ","
  let others ← (name.line "  " ",").many.followedBy
    (written ["\x7d", "", "export function resourceTypesToString(type: ResourceTypes): string \x7b",
      "  switch (type) \x7b"])
  let cases ← typeCase.many.followedBy (written ["    default:"])
  let fallback ← string.line "      return " ";"
  expect (written ["  \x7d", "\x7d"])
  return ⟨zero :: others, cases, fallback⟩

def instances : Reader (List Entry) := do
  expect (written ["", "export const instances: \x7b readonly [key: string]: Instance \x7d = \x7b"])
  entry.many.followedBy (written ["\x7d;"])

def accessors (collection : Collection) : Reader Accessors := do
  expect (written ["",
    "export function allResource" ++ collection.titlePlural ++ "(): Instance[] \x7b", "  return ["])
  let entryNames ← (name.line "    instances." ",").many.followedBy
    (written ["  ];", "\x7d", "", "export function allResourceTypes(): string[] \x7b", "  return ["])
  let typeNames ← (string.line "    " ",").many.followedBy (written ["  ];", "\x7d"])
  return ⟨entryNames, typeNames⟩

def contents (collection : Collection) : Reader Contents := do
  expect (written ([header] ++ maturityLines))
  let types ← resourceTypes
  expect (written (entryTypeLines collection))
  let entries ← instances
  let accessors ← accessors collection
  return ⟨types, entries, accessors⟩

theorem reads_typeCase (ordinal : Nat) (label : String) :
    Reads typeCase
      (written ["    case " ++ toString ordinal ++ ":", "      return " ++ quoted label ++ ";"])
      (ordinal, label) := by
  have hordinal : Reads (number.line "    case " ":")
      (written ["    case " ++ toString ordinal ++ ":"]) ordinal :=
    reads_line (reads_number ordinal rfl)
  have hlabel : Reads (string.line "      return " ";")
      (written ["      return " ++ quoted label ++ ";"]) label :=
    reads_line ((reads_string .typeScript label).before _)
  exact reads_cons hordinal (hlabel.bind_pure _)

/-- An entry of the table is read as it is, up to the normal form of the description. -/
theorem reads_entry {value : Entry} (hidentifier : Package.isIdentifier value.identifier = true)
    (htag : ∀ tag ∈ value.resources, Package.isIdentifier tag = true) :
    Reads entry (written (entryLines value)) value.normal := by
  have hname : Reads (name.line "  " ": \x7b")
      (written ["  " ++ value.identifier ++ ": \x7b"]) value.identifier :=
    reads_line (reads_name hidentifier (by decide +kernel))
  have hkey : Reads (key.line "    name: " ",")
      (written ["    name: " ++ quoted value.key.text ++ ","]) value.key :=
    reads_line ((reads_key .typeScript value.key).before _)
  have hdescription : Reads ((description .typeScript).line "    description: " ",")
      (written ["    description: " ++
        String.ofList (style.description descriptionIndent value.description.toList) ++ ","])
      value.normal.description :=
    reads_line (reads_description .typeScript value.description fun _ => rfl)
  have hmaturity : Reads (maturity.line "    featureStatus: FeatureStatus." ",")
      (written ["    featureStatus: FeatureStatus." ++ value.maturity.name ++ ","])
      value.maturity :=
    reads_line (reads_maturity value.maturity (by decide +kernel))
  have hhidden : Reads (truthValue.line "    hidden: " ",")
      (written ["    hidden: " ++ truth value.hidden ++ ","]) value.hidden :=
    reads_line (reads_truthValue value.hidden (by decide +kernel))
  have hdeprecated : Reads (truthValue.line "    deprecated: " ",")
      (written ["    deprecated: " ++ truth value.deprecated ++ ","]) value.deprecated :=
    reads_line (reads_truthValue value.deprecated (by decide +kernel))
  have htags : Reads ((name.line "      ResourceTypes." ",").many.followedBy
        (written ["    ],", "  \x7d,"]))
      (written (value.resources.map (fun tag => "      ResourceTypes." ++ tag ++ ",") ++
        ["    ],", "  \x7d,"])) (value.resources.map id) :=
    reads_lines (line_stops (fun _ => rfl) _ _ _) fun tag hmem =>
      reads_line (reads_name (htag tag hmem) (by decide +kernel))
  rw [List.map_id] at htags
  -- the entry is read line by line, and then its tags
  rw [entryLines, List.append_assoc]
  apply reads_cons hname
  apply reads_cons hkey
  apply reads_cons hdescription
  apply reads_cons hmaturity
  apply reads_cons hhidden
  apply reads_cons hdeprecated
  apply reads_cons (Reads.expect _)
  exact htags.bind_pure _

/-- The enumeration and the switch are read as the types of the registry. -/
theorem reads_resourceTypes {registry : Registry}
    (hnames : ∀ name ∈ registry.names, Package.isIdentifier name = true) :
    Reads resourceTypes (written (resourceTypeLines registry)) (.ofRegistry registry) := by
  have hzero : Reads (name.line "  " ",") (written ["  " ++ Registry.unknown ++ ","])
      Registry.unknown :=
    reads_line (reads_name (by decide +kernel) (by decide +kernel))
  have hothers : Reads ((name.line "  " ",").many.followedBy
        (written ["\x7d", "",
          "export function resourceTypesToString(type: ResourceTypes): string \x7b",
          "  switch (type) \x7b"]))
      (written (registry.pairs.map (fun pair => "  " ++ pair.2 ++ ",") ++
        ["\x7d", "", "export function resourceTypesToString(type: ResourceTypes): string \x7b",
          "  switch (type) \x7b"]))
      (registry.pairs.map Prod.snd) :=
    reads_lines (line_stops (fun _ => rfl) _ _ _) fun pair hmem =>
      reads_line (reads_name (hnames pair.2 (Registry.mem_names_of_mem_pairs hmem))
        (by decide +kernel))
  have hcases : Reads (typeCase.many.followedBy (written ["    default:"]))
      (written (registry.pairs.flatMap (fun pair =>
          ["    case " ++ toString pair.1 ++ ":", "      return " ++ quoted pair.2 ++ ";"]) ++
        ["    default:"]))
      (registry.pairs.map id) :=
    reads_block (fun rest => Reads.bind_eq_none (line_stops (fun _ => rfl) _ _ _ rest))
      fun pair _ => ⟨written_ne_nil _ _, reads_typeCase pair.1 pair.2⟩
  have hfallback : Reads (string.line "      return " ";")
      (written ["      return " ++ quoted Registry.unknown ++ ";"]) Registry.unknown :=
    reads_line ((reads_string .typeScript Registry.unknown).before _)
  rw [Registry.map_snd_pairs] at hothers
  rw [List.map_id] at hcases
  -- the same lines, with every block next to the lines that close it
  have hlines : resourceTypeLines registry =
      ["", "export enum ResourceTypes \x7b"] ++
        ("  " ++ Registry.unknown ++ ",") ::
          ((registry.pairs.map (fun pair => "  " ++ pair.2 ++ ",") ++
              ["\x7d", "",
                "export function resourceTypesToString(type: ResourceTypes): string \x7b",
                "  switch (type) \x7b"]) ++
            ((registry.pairs.flatMap (fun pair =>
                ["    case " ++ toString pair.1 ++ ":",
                  "      return " ++ quoted pair.2 ++ ";"]) ++
              ["    default:"]) ++
              ["      return " ++ quoted Registry.unknown ++ ";", "  \x7d", "\x7d"])) := by
    simp only [resourceTypeLines, List.append_assoc, List.cons_append, List.nil_append]
  rw [hlines]
  apply reads_append (Reads.expect _)
  apply reads_cons hzero
  apply reads_append hothers
  apply reads_append hcases
  apply reads_cons hfallback
  exact (Reads.expect _).bind_pure _

theorem reads_instances {entries : List Entry}
    (hidentifier : ∀ entry ∈ entries, Package.isIdentifier entry.identifier = true)
    (htag : ∀ entry ∈ entries, ∀ tag ∈ entry.resources, Package.isIdentifier tag = true) :
    Reads instances (written (tableLines entries)) (entries.map Entry.normal) := by
  have hentries : Reads (entry.many.followedBy (written ["\x7d;"]))
      (written (entries.flatMap entryLines ++ ["\x7d;"])) (entries.map Entry.normal) :=
    reads_block (fun rest => Reads.bind_eq_none (line_stops (fun _ => rfl) _ _ _ rest))
      fun entry hmem =>
        ⟨written_ne_nil _ _, reads_entry (hidentifier entry hmem) (htag entry hmem)⟩
  rw [tableLines, List.append_assoc]
  exact reads_append (Reads.expect _) hentries

theorem reads_accessors {index : Index}
    (hidentifier : ∀ entry ∈ index.entries, Package.isIdentifier entry.identifier = true) :
    Reads (accessors index.collection) (written (accessorLines index))
      ⟨index.entries.map (·.identifier), index.registry.names⟩ := by
  have hentries : Reads ((name.line "    instances." ",").many.followedBy
        (written ["  ];", "\x7d", "", "export function allResourceTypes(): string[] \x7b",
          "  return ["]))
      (written (index.entries.map (fun entry => "    instances." ++ entry.identifier ++ ",") ++
        ["  ];", "\x7d", "", "export function allResourceTypes(): string[] \x7b", "  return ["]))
      (index.entries.map (·.identifier)) :=
    reads_lines (line_stops (fun _ => rfl) _ _ _) fun entry hmem =>
      reads_line (reads_name (hidentifier entry hmem) (by decide +kernel))
  have htypes : Reads ((string.line "    " ",").many.followedBy (written ["  ];", "\x7d"]))
      (written (index.registry.pairs.map (fun pair => "    " ++ quoted pair.2 ++ ",") ++
        ["  ];", "\x7d"]))
      (index.registry.pairs.map Prod.snd) :=
    reads_lines (line_stops (fun _ => rfl) _ _ _) fun pair _ =>
      reads_line ((reads_string .typeScript pair.2).before _)
  rw [Registry.map_snd_pairs] at htypes
  -- the lines between two lists close the first of them
  have hlines : accessorLines index =
      ["", "export function allResource" ++ index.collection.titlePlural ++ "(): Instance[] \x7b",
        "  return ["] ++
        ((index.entries.map (fun entry => "    instances." ++ entry.identifier ++ ",") ++
            ["  ];", "\x7d", "", "export function allResourceTypes(): string[] \x7b",
              "  return ["]) ++
          (index.registry.pairs.map (fun pair => "    " ++ quoted pair.2 ++ ",") ++
            ["  ];", "\x7d"])) := by
    simp only [accessorLines, List.append_assoc]
  rw [hlines]
  apply reads_append (Reads.expect _)
  apply reads_append hentries
  exact htypes.bind_pure _

/-- A listing is read as the contents of its catalog, whatever follows. -/
theorem reads_contents {index : Index} (hindex : index.HasIdentifiers)
    (hnames : ∀ name ∈ index.registry.names, Package.isIdentifier name = true) :
    Reads (contents index.collection) (written (lines index)) (.ofIndex index) := by
  have hlines : lines index =
      ([header] ++ maturityLines) ++
        (resourceTypeLines index.registry ++ (entryTypeLines index.collection ++
          (tableLines index.entries ++ accessorLines index))) := by
    simp only [lines, List.append_assoc]
  rw [hlines]
  apply reads_append (Reads.expect _)
  apply reads_append (reads_resourceTypes hnames)
  apply reads_append (Reads.expect _)
  apply reads_append (reads_instances hindex.entry hindex.tag)
  exact (reads_accessors hindex.entry).bind_pure _

theorem entryLines_normal (value : Entry) : entryLines value.normal = entryLines value := by
  have hdescription := LiteralStyle.description_normalText .typeScript descriptionIndent
    value.description.toList
  simp only [Language.style] at hdescription
  simp only [entryLines, Entry.normal, String.toList_ofList, hdescription]

theorem lines_normal (index : Index) : lines index.normal = lines index := by
  have hentries : tableLines index.normal.entries = tableLines index.entries := by
    simp only [tableLines, Index.normal, List.flatMap_map, entryLines_normal]
  have haccessors : accessorLines index.normal = accessorLines index := by
    simp only [accessorLines, Index.normal, List.map_map]
    rfl
  rw [lines, hentries, haccessors]
  rfl

end KeyCatalog.Listing.TypeScript
