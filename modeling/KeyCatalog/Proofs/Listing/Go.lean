import KeyCatalog.Proofs.Listing.Contents
import KeyCatalog.Proofs.Registry
/-!
The Go listing is read back. Every reader takes the lines of one part of the listing, and the texts
that close blocks are known.
-/
namespace KeyCatalog.Listing.Go
open Reader

def typeCase : Reader (Nat × String) := do
  let ordinal ← number.line "\tcase " ":"
  let label ← string.line "\t\treturn " ""
  return (ordinal, label)

def entry : Reader Entry := do
  let identifier ← name.line "\t" " = Instance\x7b"
  let key ← key.line "\t\tName:          " ","
  let description ← (description .go).line "\t\tDescription:   " ","
  let maturity ← maturity.line "\t\tFeatureStatus: " ","
  let hidden ← truthValue.line "\t\tHidden:        " ","
  let deprecated ← truthValue.line "\t\tDeprecated:    " ","
  expect (written ["\t\tResources: []ResourceTypes\x7b"])
  let resources ← (name.line "\t\t\t" ",").many.followedBy (written ["\t\t\x7d,", "\t\x7d"])
  return ⟨key, identifier, maturity, description, hidden, deprecated, resources⟩

def resourceTypes : Reader TypeTable := do
  expect (written ["", "type ResourceTypes int", "", "const ("])
  let zero ← name.line "\t" " ResourceTypes = iota"
  let others ← (name.line "\t" "").many.followedBy
    (written [")", "", "func (r ResourceTypes) String() string \x7b", "\tswitch r \x7b"])
  let cases ← typeCase.many.followedBy (written ["\t\x7d"])
  let fallback ← string.line "\treturn " ""
  expect (written ["\x7d"])
  return ⟨zero :: others, cases, fallback⟩

def instances : Reader (List Entry) := do
  expect (written ["", "var ("])
  (entry.sepBy ['\n']).followedBy (written [")"])

def accessors (collection : Collection) : Reader Accessors := do
  expect (written ["", "func AllResource" ++ collection.titlePlural ++ "() []*Instance \x7b",
    "\treturn []*Instance\x7b"])
  let entryNames ← (name.line "\t\t&" ",").many.followedBy
    (written ["\t\x7d", "\x7d", "", "func AllResourceTypes() []string \x7b",
      "\treturn []string\x7b"])
  let typeNames ← (string.line "\t\t" ",").many.followedBy (written ["\t\x7d", "\x7d"])
  return ⟨entryNames, typeNames⟩

/-- Reads the package clause at the head of a listing, and leaves the rest. -/
def packageClause : Reader String := do
  expect (written [header, ""])
  name.line "package " ""

def contents (collection : Collection) (package : String) : Reader Contents := do
  expect (written ([header, "", "package " ++ package] ++ maturityLines))
  let types ← resourceTypes
  expect (written (entryTypeLines collection))
  let entries ← instances
  let accessors ← accessors collection
  return ⟨types, entries, accessors⟩

/-- Whatever is listed, the package clause is read. -/
theorem reads_packageClause {package : String} (hpackage : Package.isIdentifier package = true) :
    Reads packageClause (written [header, "", "package " ++ package]) package := by
  have hclause : Reads (name.line "package " "") (written ["package " ++ package]) package :=
    reads_line_end (reads_name hpackage (by decide +kernel))
  have hlines : [header, "", "package " ++ package] = [header, ""] ++ ["package " ++ package] := rfl
  rw [hlines]
  exact reads_append (Reads.expect _) hclause

theorem reads_typeCase (ordinal : Nat) (label : String) :
    Reads typeCase
      (written ["\tcase " ++ toString ordinal ++ ":", "\t\treturn " ++ quoted label])
      (ordinal, label) := by
  have hordinal : Reads (number.line "\tcase " ":")
      (written ["\tcase " ++ toString ordinal ++ ":"]) ordinal :=
    reads_line (reads_number ordinal rfl)
  have hlabel : Reads (string.line "\t\treturn " "") (written ["\t\treturn " ++ quoted label])
      label := reads_line_end ((reads_string .go label).before _)
  exact reads_cons hordinal (hlabel.bind_pure _)

/-- A variable is read as its entry, up to the normal form of the description. -/
theorem reads_entry {value : Entry} (hidentifier : Package.isIdentifier value.identifier = true)
    (htag : ∀ tag ∈ value.resources, Package.isIdentifier tag = true) :
    Reads entry (written (entryLines value)) value.normal := by
  have hname : Reads (name.line "\t" " = Instance\x7b")
      (written ["\t" ++ value.identifier ++ " = Instance\x7b"]) value.identifier :=
    reads_line (reads_name hidentifier (by decide +kernel))
  have hkey : Reads (key.line "\t\tName:          " ",")
      (written ["\t\tName:          " ++ quoted value.key.text ++ ","]) value.key :=
    reads_line ((reads_key .go value.key).before _)
  have hdescription : Reads ((description .go).line "\t\tDescription:   " ",")
      (written ["\t\tDescription:   " ++
        String.ofList (style.description descriptionIndent value.description.toList) ++ ","])
      value.normal.description :=
    reads_line (reads_description .go value.description fun _ => rfl)
  have hmaturity : Reads (maturity.line "\t\tFeatureStatus: " ",")
      (written ["\t\tFeatureStatus: " ++ value.maturity.name ++ ","]) value.maturity :=
    reads_line (reads_maturity value.maturity (by decide +kernel))
  have hhidden : Reads (truthValue.line "\t\tHidden:        " ",")
      (written ["\t\tHidden:        " ++ truth value.hidden ++ ","]) value.hidden :=
    reads_line (reads_truthValue value.hidden (by decide +kernel))
  have hdeprecated : Reads (truthValue.line "\t\tDeprecated:    " ",")
      (written ["\t\tDeprecated:    " ++ truth value.deprecated ++ ","]) value.deprecated :=
    reads_line (reads_truthValue value.deprecated (by decide +kernel))
  have htags : Reads ((name.line "\t\t\t" ",").many.followedBy (written ["\t\t\x7d,", "\t\x7d"]))
      (written (value.resources.map (fun tag => "\t\t\t" ++ tag ++ ",") ++
        ["\t\t\x7d,", "\t\x7d"])) (value.resources.map id) :=
    reads_lines (line_stops (fun _ => rfl) _ _ _) fun tag hmem =>
      reads_line (reads_name (htag tag hmem) (by decide +kernel))
  rw [List.map_id] at htags
  -- the entry is read line by line, and then its tags
  rw [entryLines, List.append_assoc]
  apply reads_cons hname
  apply reads_cons hkey
  apply reads_cons hdescription
  apply reads_cons hmaturity
  apply reads_cons hhidden
  apply reads_cons hdeprecated
  apply reads_cons (Reads.expect _)
  exact htags.bind_pure _

/-- The enumeration and the switch are read as the types of the registry. -/
theorem reads_resourceTypes {registry : Registry}
    (hnames : ∀ name ∈ registry.names, Package.isIdentifier name = true) :
    Reads resourceTypes (written (resourceTypeLines registry)) (.ofRegistry registry) := by
  have hzero : Reads (name.line "\t" " ResourceTypes = iota")
      (written ["\t" ++ Registry.unknown ++ " ResourceTypes = iota"]) Registry.unknown :=
    reads_line (reads_name (by decide +kernel) (by decide +kernel))
  have hothers : Reads ((name.line "\t" "").many.followedBy
        (written [")", "", "func (r ResourceTypes) String() string \x7b", "\tswitch r \x7b"]))
      (written (registry.pairs.map (fun pair => "\t" ++ pair.2) ++
        [")", "", "func (r ResourceTypes) String() string \x7b", "\tswitch r \x7b"]))
      (registry.pairs.map Prod.snd) :=
    reads_lines (line_stops (fun _ => rfl) _ _ _) fun pair hmem =>
      reads_line_end (reads_name (hnames pair.2 (Registry.mem_names_of_mem_pairs hmem))
        (by decide +kernel))
  have hcases : Reads (typeCase.many.followedBy (written ["\t\x7d"]))
      (written (registry.pairs.flatMap (fun pair =>
          ["\tcase " ++ toString pair.1 ++ ":", "\t\treturn " ++ quoted pair.2]) ++ ["\t\x7d"]))
      (registry.pairs.map id) :=
    reads_block (fun rest => Reads.bind_eq_none (line_stops (fun _ => rfl) _ _ _ rest))
      fun pair _ => ⟨written_ne_nil _ _, reads_typeCase pair.1 pair.2⟩
  have hfallback : Reads (string.line "\treturn " "")
      (written ["\treturn " ++ quoted Registry.unknown]) Registry.unknown :=
    reads_line_end ((reads_string .go Registry.unknown).before _)
  rw [Registry.map_snd_pairs] at hothers
  rw [List.map_id] at hcases
  -- the same lines, with every block next to the lines that close it
  have hlines : resourceTypeLines registry =
      ["", "type ResourceTypes int", "", "const ("] ++
        ("\t" ++ Registry.unknown ++ " ResourceTypes = iota") ::
          ((registry.pairs.map (fun pair => "\t" ++ pair.2) ++
              [")", "", "func (r ResourceTypes) String() string \x7b", "\tswitch r \x7b"]) ++
            ((registry.pairs.flatMap (fun pair =>
                ["\tcase " ++ toString pair.1 ++ ":", "\t\treturn " ++ quoted pair.2]) ++
              ["\t\x7d"]) ++ ["\treturn " ++ quoted Registry.unknown, "\x7d"])) := by
    simp only [resourceTypeLines, List.append_assoc, List.cons_append, List.nil_append]
  rw [hlines]
  apply reads_append (Reads.expect _)
  apply reads_cons hzero
  apply reads_append hothers
  apply reads_append hcases
  apply reads_cons hfallback
  exact (Reads.expect _).bind_pure _

theorem reads_instances {entries : List Entry}
    (hidentifier : ∀ entry ∈ entries, Package.isIdentifier entry.identifier = true)
    (htag : ∀ entry ∈ entries, ∀ tag ∈ entry.resources, Package.isIdentifier tag = true) :
    Reads instances (written (variableLines entries)) (entries.map Entry.normal) := by
  have hentries : ReadsBefore (written [")"]) (entry.sepBy ['\n'])
      (['\n'].intercalate (entries.map fun entry => written (entryLines entry)))
      (entries.map Entry.normal) := by
    apply ReadsBefore.sepBy (List.cons_ne_nil _ _)
    · exact fun rest => Reads.bind_eq_none (line_stops (fun _ => rfl) _ _ _ rest)
    · exact fun _ => rfl
    · exact fun entry hmem => reads_entry (hidentifier entry hmem) (htag entry hmem)
  -- an empty line separates two variables
  have hwritten : written (separated (entries.map entryLines) ++ [")"]) =
      ['\n'].intercalate (entries.map fun entry => written (entryLines entry)) ++
        written [")"] := by
    rw [written_append, written_separated, List.map_map]
    rfl
  have hblock := hentries.followedBy
  rw [← hwritten] at hblock
  rw [variableLines, List.append_assoc]
  exact reads_append (Reads.expect _) hblock

theorem reads_accessors {index : Index}
    (hidentifier : ∀ entry ∈ index.entries, Package.isIdentifier entry.identifier = true) :
    Reads (accessors index.collection) (written (accessorLines index))
      ⟨index.entries.map (·.identifier), index.registry.names⟩ := by
  have hentries : Reads ((name.line "\t\t&" ",").many.followedBy
        (written ["\t\x7d", "\x7d", "", "func AllResourceTypes() []string \x7b",
          "\treturn []string\x7b"]))
      (written (index.entries.map (fun entry => "\t\t&" ++ entry.identifier ++ ",") ++
        ["\t\x7d", "\x7d", "", "func AllResourceTypes() []string \x7b", "\treturn []string\x7b"]))
      (index.entries.map (·.identifier)) :=
    reads_lines (line_stops (fun _ => rfl) _ _ _) fun entry hmem =>
      reads_line (reads_name (hidentifier entry hmem) (by decide +kernel))
  have htypes : Reads ((string.line "\t\t" ",").many.followedBy (written ["\t\x7d", "\x7d"]))
      (written (index.registry.pairs.map (fun pair => "\t\t" ++ quoted pair.2 ++ ",") ++
        ["\t\x7d", "\x7d"]))
      (index.registry.pairs.map Prod.snd) :=
    reads_lines (line_stops (fun _ => rfl) _ _ _) fun pair _ =>
      reads_line ((reads_string .go pair.2).before _)
  rw [Registry.map_snd_pairs] at htypes
  -- the lines between two lists close the first of them
  have hlines : accessorLines index =
      ["", "func AllResource" ++ index.collection.titlePlural ++ "() []*Instance \x7b",
        "\treturn []*Instance\x7b"] ++
        ((index.entries.map (fun entry => "\t\t&" ++ entry.identifier ++ ",") ++
            ["\t\x7d", "\x7d", "", "func AllResourceTypes() []string \x7b",
              "\treturn []string\x7b"]) ++
          (index.registry.pairs.map (fun pair => "\t\t" ++ quoted pair.2 ++ ",") ++
            ["\t\x7d", "\x7d"])) := by
    simp only [accessorLines, List.append_assoc]
  rw [hlines]
  apply reads_append (Reads.expect _)
  apply reads_append hentries
  exact htypes.bind_pure _

/-- A listing is read as the contents of its catalog, whatever follows. -/
theorem reads_contents {index : Index} (hindex : index.HasIdentifiers)
    (hnames : ∀ name ∈ index.registry.names, Package.isIdentifier name = true)
    (package : String) :
    Reads (contents index.collection package) (written (lines index package))
      (.ofIndex index) := by
  have hlines : lines index package =
      ([header, "", "package " ++ package] ++ maturityLines) ++
        (resourceTypeLines index.registry ++ (entryTypeLines index.collection ++
          (variableLines index.entries ++ accessorLines index))) := by
    simp only [lines, List.append_assoc]
  rw [hlines]
  apply reads_append (Reads.expect _)
  apply reads_append (reads_resourceTypes hnames)
  apply reads_append (Reads.expect _)
  apply reads_append (reads_instances hindex.entry hindex.tag)
  exact (reads_accessors hindex.entry).bind_pure _

theorem entryLines_normal (value : Entry) : entryLines value.normal = entryLines value := by
  have hdescription := LiteralStyle.description_normalText .go descriptionIndent
    value.description.toList
  simp only [Language.style] at hdescription
  simp only [entryLines, Entry.normal, String.toList_ofList, hdescription]

/-- The normal forms of descriptions have the same listing. -/
theorem lines_normal (index : Index) (package : String) :
    lines index.normal package = lines index package := by
  have hentries : variableLines index.normal.entries = variableLines index.entries := by
    have hsame : (index.entries.map Entry.normal).map entryLines = index.entries.map entryLines := by
      rw [List.map_map]
      exact List.map_congr_left fun entry _ => entryLines_normal entry
    simp only [variableLines, Index.normal, hsame]
  have haccessors : accessorLines index.normal = accessorLines index := by
    simp only [accessorLines, Index.normal, List.map_map]
    rfl
  rw [lines, hentries, haccessors]
  rfl

end KeyCatalog.Listing.Go
