import KeyCatalog.Proofs.Outline.Basic
import KeyCatalog.Proofs.Registry
/-!
The outline of the TypeScript listing: the members of its enumerations, the keys of its table, and
the literals of names, tags and keys that it writes.
-/
namespace KeyCatalog.Outline.TypeScript
open Listing Listing.TypeScript

/-- The block that a line stands in; members and keys are in the scope of what they belong to. -/
inductive Block where
  | module
  | members (scope : String)
  | table (scope : String)
  | fields (scope : String)
  | body
deriving DecidableEq

def literalPlaces : List (String × String) :=
  [("      return ", ";"), ("    ", ",")]

/-- What a line brings in, and the block of the next line. -/
def step : Block → Text → List Item × Block
  | .module, line =>
    match between? "export enum " " \x7b" line, line.dropPrefix? "export const ".toList,
      line.dropPrefix? "export function ".toList with
    | some scope, _, _ => ([], .members scope)
    | none, some rest, _ => ([], .table (String.ofList (rest.takeWhile (· ≠ ':'))))
    | none, none, some _ => ([], .body)
    | none, none, none => ([], .module)
  | .members scope, line =>
    if line = "\x7d".toList then ([], .module)
    else
      match between? "  " "," line with
      | some name => ([.name scope name], .members scope)
      | none => ([], .members scope)
  | .table scope, line =>
    if line = "\x7d;".toList then ([], .module)
    else
      match between? "  " ": \x7b" line with
      | some key => ([.name scope key], .fields scope)
      | none => ([], .table scope)
  | .fields scope, line =>
    if line = "  \x7d,".toList then ([], .table scope)
    else
      match between? "    name: " "," line with
      | some source => ([.literal source], .fields scope)
      | none => ([], .fields scope)
  | .body, line =>
    if line = "\x7d".toList then ([], .module)
    else ((literal? literalPlaces line).toList.map .literal, .body)

theorem step_member (scope name : String) :
    step (.members scope) ("  " ++ name ++ ",").toList =
      ([.name scope name], .members scope) := by
  have hopen : ("  " ++ name ++ ",").toList ≠ "\x7d".toList :=
    append_ne (fun _ h => by cases h) _ _
  rw [step, if_neg hopen, between?_append]

theorem step_return (text : String) :
    step .body ("      return " ++ quoted text ++ ";").toList =
      ([.literal (quoted text)], .body) := by
  have hliteral : literal? literalPlaces ("      return " ++ quoted text ++ ";").toList =
      some (quoted text) :=
    literal?_of_between? (between?_append "      return " (quoted text) ";")
      (head?_quoted style text.toList)
  have hopen : ("      return " ++ quoted text ++ ";").toList ≠ "\x7d".toList :=
    append_ne (fun _ h => by cases h) _ _
  rw [step, if_neg hopen, hliteral]
  rfl

section Indented

variable {text : String} {c : Char}

theorem dropPrefix?_return (hhead : text.toList.head? = some c) (hc : c ≠ ' ') :
    ("    " ++ text).toList.dropPrefix? "      return ".toList = none := by
  obtain ⟨rest, htext⟩ := List.head?_eq_some_iff.mp hhead
  have hline : ("    " ++ text).toList = ' ' :: ' ' :: ' ' :: ' ' :: c :: rest := by
    rw [String.toList_append, htext]
    rfl
  rw [hline]
  simp [List.dropPrefix?, hc]

/-- A line of a body without a literal brings in nothing. -/
theorem step_other (hhead : text.toList.head? = some c) (hc : c ≠ ' ') (hquote : c ≠ '"') :
    step .body ("    " ++ text).toList = ([], .body) := by
  have hopen : ("    " ++ text).toList ≠ "\x7d".toList := by
    rw [String.toList_append]
    intro h
    cases h
  -- the line fits an entry of a list, but what is found there is not quoted
  have hdrop : ("    " ++ text).toList.dropPrefix? "    ".toList = some text.toList := by
    rw [String.toList_append]
    exact List.dropPrefix?_append_of_beq _ (beq_self_eq_true _)
  have hnone : literal? literalPlaces ("    " ++ text).toList = none := by
    rw [literalPlaces, literal?_skip (dropPrefix?_return hhead hc),
      literal?_skip_of_head? hdrop (by simpa [hhead] using hquote)]
    rfl
  rw [step, if_neg hopen, hnone]
  rfl

end Indented

theorem step_listed (text : String) :
    step .body ("    " ++ quoted text ++ ",").toList = ([.literal (quoted text)], .body) := by
  have hhead : (quoted text).toList.head? = some '"' := head?_quoted style text.toList
  have hopen : ("    " ++ quoted text ++ ",").toList ≠ "\x7d".toList :=
    append_ne (fun _ h => by cases h) _ _
  have hreturn := dropPrefix?_return (head?_append hhead ",") (by decide)
  rw [← String.append_assoc] at hreturn
  rw [step, if_neg hopen, literalPlaces, literal?_skip hreturn,
    literal?_of_between? (between?_append "    " (quoted text) ",") hhead]
  rfl

theorem step_field {before : String} {c : Char} {tail : Text}
    (hbefore : before.toList = ' ' :: ' ' :: ' ' :: ' ' :: c :: tail) (hc : c ≠ 'n')
    (scope found after : String) :
    step (.fields scope) (before ++ found ++ after).toList = ([], .fields scope) := by
  have hline : (before ++ found ++ after).toList =
      ' ' :: ' ' :: ' ' :: ' ' :: c :: (tail ++ (found.toList ++ after.toList)) := by
    simp only [String.toList_append, hbefore, List.append_assoc, List.cons_append]
  have hclosing : (before ++ found ++ after).toList ≠ "  \x7d,".toList := by
    rw [hline]
    intro h
    cases h
  have hnone : (before ++ found ++ after).toList.dropPrefix? "    name: ".toList = none := by
    rw [hline]
    simp [List.dropPrefix?, hc]
  rw [step, if_neg hclosing, between?_eq_none hnone]

theorem step_enum (scope : String) :
    step .module ("export enum " ++ scope ++ " \x7b").toList = ([], .members scope) := by
  rw [step, between?_append]

theorem step_function (rest : String) :
    step .module ("export function " ++ rest).toList = ([], .body) := by
  have hfunction : ("export function ".toList ++ rest.toList).dropPrefix?
      "export function ".toList = some rest.toList :=
    List.dropPrefix?_append_of_beq _ (beq_self_eq_true _)
  have henum : ("export function ".toList ++ rest.toList).dropPrefix? "export enum ".toList =
      none :=
    rfl
  have hconst : ("export function ".toList ++ rest.toList).dropPrefix? "export const ".toList =
      none :=
    rfl
  rw [String.toList_append, step, between?_eq_none henum, hconst, hfunction]

theorem step_switch (rest : String) :
    step .body ("  switch (" ++ rest).toList = ([], .body) := by
  rw [String.toList_append]
  rfl

theorem step_case (label : String) :
    step .body ("    case " ++ label ++ ":").toList = ([], .body) := by
  have hhead : ("case " ++ label ++ ":").toList.head? = some 'c' :=
    head?_append (head?_append rfl _) _
  have hstep := step_other hhead (by decide) (by decide)
  rwa [← String.append_assoc, ← String.append_assoc] at hstep

/-- The lines of an enumeration and of the function that names its members. -/
def enumerationLines (scope : String) (members : List String) (head subject : String)
    (cases : List (String × String)) (fallback : String) : List String :=
  ["", "export enum " ++ scope ++ " \x7b"] ++ members.map (fun member => "  " ++ member ++ ",") ++
    ["\x7d", "", "export function " ++ head, "  switch (" ++ subject] ++
    cases.flatMap (fun pair =>
      ["    case " ++ pair.1 ++ ":", "      return " ++ quoted pair.2 ++ ";"]) ++
    ["    default:", "      return " ++ quoted fallback ++ ";", "  \x7d", "\x7d"]

/-- An enumeration brings in its members, and its function the literals that it returns. -/
theorem scan_enumerationLines (scope : String) (members : List String) (head subject : String)
    (cases : List (String × String)) (fallback : String) :
    scan step .module (enumerationLines scope members head subject cases fallback) =
      (ofNames scope members ++ ofTexts quoted (cases.map Prod.snd ++ [fallback]), .module) := by
  have hempty : step .module "".toList = ([], .module) :=
    rfl
  have hend : step (.members scope) "\x7d".toList = ([], .module) :=
    rfl
  -- one scan for each stretch of lines that stays in a block
  have hopening : scan step .module ["", "export enum " ++ scope ++ " \x7b"] =
      ([], .members scope) :=
    scan_cons hempty (scan_cons (step_enum scope) rfl)
  have hmembers : scan step (.members scope) (members.map fun member => "  " ++ member ++ ",") =
      (members.flatMap fun member => [.name scope member], .members scope) :=
    scan_map fun member _ => step_member scope member
  have hswitch : scan step (.members scope)
      ["\x7d", "", "export function " ++ head, "  switch (" ++ subject] = ([], .body) :=
    scan_cons hend (scan_cons hempty
      (scan_cons (step_function head) (scan_cons (step_switch subject) rfl)))
  have hcases : scan step .body (cases.flatMap fun pair =>
        ["    case " ++ pair.1 ++ ":", "      return " ++ quoted pair.2 ++ ";"]) =
      (cases.flatMap fun pair => [.literal (quoted pair.2)], .body) := by
    apply scan_flatMap
    intro pair _
    exact scan_cons (step_case pair.1) (scan_cons (step_return pair.2) rfl)
  have hdefault : step .body "    default:".toList = ([], .body) :=
    rfl
  have hbraces : scan step .body ["  \x7d", "\x7d"] = ([], .module) :=
    rfl
  have hclosing := scan_cons hdefault (scan_cons (step_return fallback) hbraces)
  -- what is brought in is the names of the members and then the literals
  have hscan := scan_append (scan_append (scan_append (scan_append hopening hmembers) hswitch)
    hcases) hclosing
  rw [enumerationLines, hscan]
  simp only [ofNames, ofTexts, ← List.map_eq_flatMap, List.map_append, List.map_map,
    List.nil_append, List.append_nil, List.append_assoc, List.map_cons, List.map_nil]
  rfl

theorem scan_maturityLines :
    scan step .module maturityLines =
      (ofNames "FeatureStatus" ["Alpha", "Beta", "Stable"] ++
        ofTexts quoted ["Alpha", "Beta", "Stable", "Unknown"], .module) := by
  have hlines : maturityLines =
      enumerationLines "FeatureStatus" ["Alpha", "Beta", "Stable"]
        "featureStatusToString(status: FeatureStatus): string \x7b" "status) \x7b"
        [("FeatureStatus.Alpha", "Alpha"), ("FeatureStatus.Beta", "Beta"),
          ("FeatureStatus.Stable", "Stable")] "Unknown" :=
    rfl
  rw [hlines, scan_enumerationLines]
  rfl

theorem scan_resourceTypeLines (registry : Registry) :
    scan step .module (resourceTypeLines registry) =
      (ofNames "ResourceTypes" (Registry.unknown :: registry.names) ++
        ofTexts quoted (registry.names ++ [Registry.unknown]), .module) := by
  have hlines : resourceTypeLines registry =
      enumerationLines "ResourceTypes" (Registry.unknown :: registry.names)
        "resourceTypesToString(type: ResourceTypes): string \x7b" "type) \x7b"
        (registry.pairs.map fun pair => (toString pair.1, pair.2)) Registry.unknown := by
    rw [enumerationLines, ← registry.map_snd_pairs, List.map_cons, List.map_map, List.flatMap_map]
    rfl
  have hlabels : (registry.pairs.map fun pair => (toString pair.1, pair.2)).map Prod.snd =
      registry.names := by
    rw [← registry.map_snd_pairs, List.map_map]
    rfl
  rw [hlines, scan_enumerationLines, hlabels]

theorem step_module {line : Text} {c : Char} (hline : line.head? = some c) (hc : c ≠ 'e') :
    step .module line = ([], .module) := by
  obtain ⟨rest, rfl⟩ : ∃ rest, line = c :: rest := List.head?_eq_some_iff.mp hline
  have henum : (c :: rest).dropPrefix? "export enum ".toList = none := by
    simp [List.dropPrefix?, hc]
  have hconst : (c :: rest).dropPrefix? "export const ".toList = none := by
    simp [List.dropPrefix?, hc]
  have hfunction : (c :: rest).dropPrefix? "export function ".toList = none := by
    simp [List.dropPrefix?, hc]
  rw [step, between?_eq_none henum, hconst, hfunction]

theorem scan_entryTypeLines (collection : Collection) :
    scan step .module (entryTypeLines collection) = ([], .module) := by
  have hopening : scan step .module ["", "/**"] = ([], .module) := by
    decide +kernel
  -- no comment starts a declaration, whatever it names
  have hnoun : step .module
      (" * Instance describes a single resource " ++ collection.noun ++ ".").toList =
        ([], .module) :=
    step_module (head?_append (head?_append rfl _) _) (by decide)
  have hbare : step .module " *".toList = ([], .module) :=
    step_module rfl (by decide)
  have hreference : step .module (" * Reference: " ++ collection.reference).toList =
      ([], .module) :=
    step_module (head?_append rfl _) (by decide)
  have hconcept : step .module (" * Concept: " ++ collection.concept).toList = ([], .module) :=
    step_module (head?_append rfl _) (by decide)
  have hfields : scan step .module [" */", "export interface Instance \x7b", "  name: string;",
      "  description: string;", "  featureStatus: FeatureStatus;", "  hidden: boolean;",
      "  deprecated: boolean;", "  resources: ResourceTypes[];", "\x7d"] = ([], .module) := by
    decide +kernel
  have hcomments := scan_cons hreference (scan_cons hconcept hfields)
  exact scan_append hopening (scan_cons hnoun (scan_cons hbare hcomments))

/-- An entry brings in its identifier and the literal of its key, whatever its description is. -/
theorem scan_entryLines (scope : String) (entry : Entry) :
    scan step (.table scope) (entryLines entry) =
      ([.name scope entry.identifier, .literal (quoted entry.key.text)], .table scope) := by
  have hidentifier : step (.table scope) ("  " ++ entry.identifier ++ ": \x7b").toList =
      ([.name scope entry.identifier], .fields scope) := by
    have hopen : ("  " ++ entry.identifier ++ ": \x7b").toList ≠ "\x7d;".toList :=
      append_ne (fun _ h => by cases h) _ _
    rw [step, if_neg hopen, between?_append]
  have hkey : step (.fields scope) ("    name: " ++ quoted entry.key.text ++ ",").toList =
      ([.literal (quoted entry.key.text)], .fields scope) := by
    have hopen : ("    name: " ++ quoted entry.key.text ++ ",").toList ≠ "  \x7d,".toList :=
      append_ne (fun _ h => by cases h) _ _
    rw [step, if_neg hopen, between?_append]
  have htags : scan step (.fields scope)
      (entry.resources.map fun tag => "      ResourceTypes." ++ tag ++ ",") =
        ([], .fields scope) :=
    scan_map_nothing fun tag _ => step_field rfl (by decide) scope tag ","
  have hresources : scan step (.fields scope) ["    resources: ["] = ([], .fields scope) :=
    rfl
  have hclosing : scan step (.fields scope) ["    ],", "  \x7d,"] = ([], .table scope) :=
    rfl
  have hfields := scan_append hresources (scan_append htags hclosing)
  rw [entryLines, List.append_assoc]
  -- the fields between the key and the tags bring in nothing
  refine scan_cons hidentifier (scan_cons hkey ?_)
  refine scan_cons (step_field rfl (by decide) scope _ _) ?_
  refine scan_cons (step_field rfl (by decide) scope _ _) ?_
  refine scan_cons (step_field rfl (by decide) scope _ _) ?_
  exact scan_cons (step_field rfl (by decide) scope _ _) hfields

theorem scan_tableLines (entries : List Entry) :
    scan step .module (tableLines entries) =
      (ofEntries "instances" quoted entries, .module) := by
  have hopening : scan step .module
      ["", "export const instances: \x7b readonly [key: string]: Instance \x7d = \x7b"] =
        ([], .table "instances") := by
    decide +kernel
  have hentries : scan step (.table "instances") (entries.flatMap entryLines) =
      (ofEntries "instances" quoted entries, .table "instances") :=
    scan_flatMap fun entry _ => scan_entryLines "instances" entry
  have hclosing : scan step (.table "instances") ["\x7d;"] = ([], .module) := by
    decide +kernel
  have hscan := scan_append (scan_append hopening hentries) hclosing
  rwa [List.nil_append, List.append_nil] at hscan

theorem scan_accessorLines (index : Index) :
    scan step .module (accessorLines index) =
      (ofTexts quoted index.registry.names, .module) := by
  have hopening : scan step .module ["",
      "export function allResource" ++ index.collection.titlePlural ++ "(): Instance[] \x7b",
      "  return ["] = ([], .body) := by
    cases index.collection <;> decide +kernel
  have hentries : scan step .body
      (index.entries.map fun entry => "    instances." ++ entry.identifier ++ ",") =
        ([], .body) := by
    apply scan_map_nothing
    intro entry _
    -- an identifier is not quoted, whatever it is, since its prefix comes first
    have hhead : ("instances." ++ entry.identifier ++ ",").toList.head? = some 'i' :=
      head?_append (head?_append rfl _) _
    have hstep := step_other hhead (by decide) (by decide)
    rwa [← String.append_assoc, ← String.append_assoc] at hstep
  have hbetween : scan step .body
      ["  ];", "\x7d", "", "export function allResourceTypes(): string[] \x7b", "  return ["] =
        ([], .body) := by
    decide +kernel
  have htypes : scan step .body
      (index.registry.pairs.map fun pair => "    " ++ quoted pair.2 ++ ",") =
        (index.registry.pairs.flatMap fun pair => [.literal (quoted pair.2)], .body) :=
    scan_map fun pair _ => step_listed pair.2
  have hclosing : scan step .body ["  ];", "\x7d"] = ([], .module) := by
    decide +kernel
  have hscan := scan_append (scan_append (scan_append (scan_append hopening hentries) hbetween)
    htypes) hclosing
  rwa [index.registry.flatMap_pairs fun name => Item.literal (quoted name), List.append_nil]
    at hscan

def outline (index : Index) : List Item :=
  (scan step .module (lines index)).1

theorem outline_eq (index : Index) :
    outline index =
      (ofNames "FeatureStatus" ["Alpha", "Beta", "Stable"] ++
          ofTexts quoted ["Alpha", "Beta", "Stable", "Unknown"]) ++
        (ofNames "ResourceTypes" (Registry.unknown :: index.registry.names) ++
          ofTexts quoted (index.registry.names ++ [Registry.unknown])) ++
        ofEntries "instances" quoted index.entries ++ ofTexts quoted index.registry.names := by
  have hheader : scan step .module [header] = ([], .module) := by
    decide +kernel
  have hscan := scan_append (scan_append (scan_append (scan_append (scan_append hheader
    scan_maturityLines) (scan_resourceTypeLines index.registry))
    (scan_entryTypeLines index.collection)) (scan_tableLines index.entries))
    (scan_accessorLines index)
  rw [List.append_nil] at hscan
  exact congrArg Prod.fst hscan

/-- The members of the enumeration are the tags behind the name of unknown types. -/
theorem members_outline (index : Index) :
    namesIn "ResourceTypes" (outline index) = Registry.unknown :: index.registry.names := by
  have hstatus : "FeatureStatus" ≠ "ResourceTypes" := by
    decide
  have hinstances : "instances" ≠ "ResourceTypes" := by
    decide
  rw [outline_eq]
  simp only [namesIn_append, namesIn_ofNames, namesIn_ofTexts, namesIn_ofNames_of_ne _ _ hstatus,
    namesIn_ofEntries_of_ne _ _ _ hinstances, List.nil_append, List.append_nil]

/-- The keys of the table are the identifiers of the entries. -/
theorem keys_outline (index : Index) :
    namesIn "instances" (outline index) = index.entries.map (·.identifier) := by
  have hstatus : "FeatureStatus" ≠ "instances" := by
    decide
  have htypes : "ResourceTypes" ≠ "instances" := by
    decide
  rw [outline_eq]
  simp only [namesIn_append, namesIn_ofTexts, namesIn_ofEntries, namesIn_ofNames_of_ne _ _ hstatus,
    namesIn_ofNames_of_ne _ _ htypes, List.nil_append, List.append_nil]

/-- Literals are written for the fixed names, the tags and the keys. -/
theorem literals_outline (index : Index) :
    literals (outline index) =
      (["Alpha", "Beta", "Stable", Registry.unknown] ++ index.registry.names ++
        [Registry.unknown] ++ index.entries.map (·.key.text) ++ index.registry.names).map
        quoted := by
  rw [outline_eq]
  simp only [literals_append, literals_ofNames, literals_ofTexts, literals_ofEntries,
    List.map_append, List.append_assoc, List.nil_append]
  rfl

end KeyCatalog.Outline.TypeScript
