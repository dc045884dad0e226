import KeyCatalog.Listing.Language
import KeyCatalog.Proofs.Outline.Basic
import KeyCatalog.Proofs.Registry
/-!
The outline of the Go listing: what it declares at package scope, and the literals of names, tags
and keys that it writes.
-/
namespace KeyCatalog.Outline.Go
open Listing Listing.Go

inductive Block where
  | package
  | firstConstant
  | constants
  | variables
  | fields
  | body
deriving DecidableEq

def declared (name : Text) : Item :=
  .name "package" (String.ofList name)

/-- Where literals stand in the body of a function. -/
def literalPlaces : List (String × String) :=
  [("\t\treturn ", ""), ("\treturn ", ""), ("\t\t", ",")]

/-- What a line brings in, and the block of the next line. -/
def step : Block → Text → List Item × Block
  | .package, line =>
    if line = "const (".toList then ([], .firstConstant)
    else if line = "var (".toList then ([], .variables)
    else
      match line.dropPrefix? "type ".toList, line.dropPrefix? "func ".toList with
      | some rest, _ => ([declared (rest.takeWhile (· ≠ ' '))], .package)
      -- a method declares no name at package scope
      | none, some ('(' :: _) => ([], .body)
      | none, some rest => ([declared (rest.takeWhile (· ≠ '('))], .body)
      | none, none => ([], .package)
  | .firstConstant, line => ([declared ((line.drop 1).takeWhile (· ≠ ' '))], .constants)
  | .constants, line =>
    if line = ")".toList then ([], .package) else ([declared (line.drop 1)], .constants)
  | .variables, line =>
    if line = ")".toList then ([], .package)
    else
      match between? "\t" " = Instance\x7b" line with
      | some name => ([declared name.toList], .fields)
      | none => ([], .variables)
  | .fields, line =>
    if line = "\t\x7d".toList then ([], .variables)
    else
      match between? "\t\tName:          " "," line with
      | some source => ([.literal source], .fields)
      | none => ([], .fields)
  | .body, line =>
    if line = "\x7d".toList then ([], .package)
    else ((literal? literalPlaces line).toList.map .literal, .body)

theorem scan_maturityLines :
    scan step .package maturityLines =
      (ofNames "package" ["FeatureStatus", "Alpha", "Beta", "Stable"] ++
        ofTexts quoted ["Alpha", "Beta", "Stable", "Unknown"], .package) := by
  decide +kernel

/-- At package scope, a line brings in nothing unless it starts with one of four letters. -/
theorem step_package {line : Text} {c : Char} (hline : line.head? = some c)
    (hc : c ∉ ['c', 'v', 't', 'f']) : step .package line = ([], .package) := by
  obtain ⟨rest, rfl⟩ : ∃ rest, line = c :: rest := List.head?_eq_some_iff.mp hline
  simp only [List.mem_cons, List.not_mem_nil, or_false, not_or] at hc
  obtain ⟨hconst, hvar, htype, hfunc⟩ := hc
  have hconstants : c :: rest ≠ "const (".toList := fun h => hconst (List.cons.inj h).1
  have hvariables : c :: rest ≠ "var (".toList := fun h => hvar (List.cons.inj h).1
  have htype? : (c :: rest).dropPrefix? "type ".toList = none := by
    simp [List.dropPrefix?, htype]
  have hfunc? : (c :: rest).dropPrefix? "func ".toList = none := by
    simp [List.dropPrefix?, hfunc]
  rw [step, if_neg hconstants, if_neg hvariables, htype?, hfunc?]

theorem scan_entryTypeLines (collection : Collection) :
    scan step .package (entryTypeLines collection) =
      (ofNames "package" ["Instance"], .package) := by
  have hslash : '/' ∉ ['c', 'v', 't', 'f'] := by
    decide
  have htab : '\t' ∉ ['c', 'v', 't', 'f'] := by
    decide
  have hnoun : step .package
      ("// Instance describes a single resource " ++ collection.noun ++ ".").toList =
        ([], .package) :=
    step_package (head?_append (head?_append rfl _) _) hslash
  have hempty : step .package "".toList = ([], .package) :=
    rfl
  have hbare : step .package "//".toList = ([], .package) :=
    step_package rfl hslash
  have hreference : step .package ("// Reference: " ++ collection.reference).toList =
      ([], .package) :=
    step_package (head?_append rfl _) hslash
  have hconcept : step .package ("// Concept: " ++ collection.concept).toList = ([], .package) :=
    step_package (head?_append rfl _) hslash
  have htype : scan step .package ["type Instance struct \x7b"] =
      (ofNames "package" ["Instance"], .package) := by
    decide +kernel
  have hfields : scan step .package (separated ((fields collection.noun).map fun pair =>
      ["\t// " ++ pair.1, "\t" ++ pair.2])) =
        ((fields collection.noun).flatMap fun _ => [], .package) := by
    apply scan_separated rfl
    intro pair _
    have hcomment : step .package ("\t// " ++ pair.1).toList = ([], .package) :=
      step_package (head?_append rfl _) htab
    have hfield : step .package ("\t" ++ pair.2).toList = ([], .package) :=
      step_package (head?_append rfl _) htab
    exact scan_cons hcomment (scan_cons hfield rfl)
  have hclosing : scan step .package ["\x7d"] = ([], .package) := by
    decide +kernel
  -- the type is a name at package scope, its fields are not
  have hbody := scan_append htype (scan_append hfields hclosing)
  rw [List.flatMap_eq_nil_iff.mpr fun _ _ => rfl] at hbody
  have hcomments := scan_cons hreference (scan_cons hconcept hbody)
  exact scan_cons hempty (scan_cons hnoun (scan_cons hbare hcomments))

theorem step_constant (name : String) :
    step .constants ("\t" ++ name).toList = ([.name "package" name], .constants) := by
  have hline : ("\t" ++ name).toList = '\t' :: name.toList := String.toList_append
  have hopen : ('\t' :: name.toList) ≠ ")".toList := by
    intro h
    cases h
  rw [hline, step, if_neg hopen, declared, List.drop_one, List.tail_cons, String.ofList_toList]

theorem step_case (label : String) :
    step .body ("\tcase " ++ label ++ ":").toList = ([], .body) := by
  have hline : ("\tcase " ++ label ++ ":").toList =
      "\tcase ".toList ++ (label.toList ++ ":".toList) := by
    simp only [String.toList_append, List.append_assoc]
  rw [hline]
  rfl

theorem step_return (text : String) :
    step .body ("\t\treturn " ++ quoted text).toList = ([.literal (quoted text)], .body) := by
  have hbetween := between?_append "\t\treturn " (quoted text) ""
  rw [String.append_empty] at hbetween
  have hliteral : literal? literalPlaces ("\t\treturn " ++ quoted text).toList =
      some (quoted text) :=
    literal?_of_between? hbetween (head?_quoted style text.toList)
  have hopen : ("\t\treturn " ++ quoted text).toList ≠ "\x7d".toList := by
    rw [String.toList_append]
    intro h
    cases h
  rw [step, if_neg hopen, hliteral]
  rfl

theorem scan_resourceTypeLines (registry : Registry) :
    scan step .package (resourceTypeLines registry) =
      (ofNames "package" (["ResourceTypes", Registry.unknown] ++ registry.names) ++
        ofTexts quoted (registry.names ++ [Registry.unknown]), .package) := by
  have hopening : scan step .package ["", "type ResourceTypes int", "", "const (",
        "\t" ++ Registry.unknown ++ " ResourceTypes = iota"] =
      (ofNames "package" ["ResourceTypes", Registry.unknown], .constants) := by
    decide +kernel
  have hconstants : scan step .constants (registry.pairs.map fun pair => "\t" ++ pair.2) =
      (registry.pairs.flatMap fun pair => [.name "package" pair.2], .constants) :=
    scan_map fun pair _ => step_constant pair.2
  have hswitch : scan step .constants [")", "", "func (r ResourceTypes) String() string \x7b",
      "\tswitch r \x7b"] = ([], .body) := by
    decide +kernel
  have hcases : scan step .body (registry.pairs.flatMap fun pair =>
        ["\tcase " ++ toString pair.1 ++ ":", "\t\treturn " ++ quoted pair.2]) =
      (registry.pairs.flatMap fun pair => [.literal (quoted pair.2)], .body) := by
    apply scan_flatMap
    intro pair _
    exact scan_cons (step_case (toString pair.1)) (scan_cons (step_return pair.2) rfl)
  have hclosing : scan step .body ["\t\x7d", "\treturn " ++ quoted Registry.unknown, "\x7d"] =
      ([.literal (quoted Registry.unknown)], .package) := by
    decide +kernel
  have hscan := scan_append (scan_append (scan_append (scan_append hopening hconstants) hswitch)
    hcases) hclosing
  -- the same tags are brought in as names and then as literals
  rw [registry.flatMap_pairs (Item.name "package"),
    registry.flatMap_pairs fun name => Item.literal (quoted name)] at hscan
  refine hscan.trans ?_
  simp only [ofNames, ofTexts, List.map_append, List.append_assoc, List.nil_append,
    List.map_cons, List.map_nil]

theorem step_field {before : String} {c : Char} {tail : Text}
    (hbefore : before.toList = '\t' :: '\t' :: c :: tail) (hc : c ≠ 'N') (found after : String) :
    step .fields (before ++ found ++ after).toList = ([], .fields) := by
  have hline : (before ++ found ++ after).toList =
      '\t' :: '\t' :: c :: (tail ++ (found.toList ++ after.toList)) := by
    simp only [String.toList_append, hbefore, List.append_assoc, List.cons_append]
  have hclosing : (before ++ found ++ after).toList ≠ "\t\x7d".toList := by
    rw [hline]
    intro h
    cases h
  -- the field of the name is the only one that brings in a literal
  have hname : "\t\tName:          ".toList = '\t' :: '\t' :: 'N' :: "ame:          ".toList := by
    decide
  have hnone : (before ++ found ++ after).toList.dropPrefix? "\t\tName:          ".toList =
      none := by
    rw [hline, hname]
    simp [List.dropPrefix?, hc]
  rw [step, if_neg hclosing, between?_eq_none hnone]

/-- A variable brings in its identifier and the literal of its key, whatever its description is. -/
theorem scan_entryLines (entry : Entry) :
    scan step .variables (entryLines entry) =
      ([.name "package" entry.identifier, .literal (quoted entry.key.text)], .variables) := by
  have hidentifier : step .variables ("\t" ++ entry.identifier ++ " = Instance\x7b").toList =
      ([.name "package" entry.identifier], .fields) := by
    have hbetween := between?_append "\t" entry.identifier " = Instance\x7b"
    have hopen : ("\t" ++ entry.identifier ++ " = Instance\x7b").toList ≠ ")".toList :=
      append_ne (fun _ h => by cases h) _ _
    rw [step, if_neg hopen, hbetween]
    simp only [declared, String.ofList_toList]
  have hkey : step .fields ("\t\tName:          " ++ quoted entry.key.text ++ ",").toList =
      ([.literal (quoted entry.key.text)], .fields) := by
    have hbetween := between?_append "\t\tName:          " (quoted entry.key.text) ","
    have hopen : ("\t\tName:          " ++ quoted entry.key.text ++ ",").toList ≠
        "\t\x7d".toList :=
      append_ne (fun _ h => by cases h) _ _
    rw [step, if_neg hopen, hbetween]
  have htags : scan step .fields (entry.resources.map fun tag => "\t\t\t" ++ tag ++ ",") =
      ([], .fields) :=
    scan_map_nothing fun tag _ => step_field rfl (by decide) tag ","
  have hresources : scan step .fields ["\t\tResources: []ResourceTypes\x7b"] = ([], .fields) := by
    decide +kernel
  have hclosing : scan step .fields ["\t\t\x7d,", "\t\x7d"] = ([], .variables) := by
    decide +kernel
  have hfields := scan_append hresources (scan_append htags hclosing)
  rw [entryLines, List.append_assoc]
  -- the fields between the key and the tags bring in nothing
  refine scan_cons hidentifier (scan_cons hkey ?_)
  refine scan_cons (step_field rfl (by decide) _ _) ?_
  refine scan_cons (step_field rfl (by decide) _ _) ?_
  refine scan_cons (step_field rfl (by decide) _ _) ?_
  exact scan_cons (step_field rfl (by decide) _ _) hfields

theorem scan_variableLines (entries : List Entry) :
    scan step .package (variableLines entries) =
      (ofEntries "package" quoted entries, .package) := by
  have hopening : scan step .package ["", "var ("] = ([], .variables) := by
    decide +kernel
  have hentries : scan step .variables (separated (entries.map entryLines)) =
      (ofEntries "package" quoted entries, .variables) :=
    scan_separated rfl fun entry _ => scan_entryLines entry
  have hclosing : scan step .variables [")"] = ([], .package) := by
    decide +kernel
  have hscan := scan_append (scan_append hopening hentries) hclosing
  rwa [List.nil_append, List.append_nil] at hscan

/-- A line of a list brings in a literal if it starts with a quote. -/
theorem step_listed {found : String} {c : Char} (hhead : found.toList.head? = some c)
    (hc : c ≠ 'r') :
    step .body ("\t\t" ++ found ++ ",").toList =
      (if c = '"' then [.literal found] else [], .body) := by
  obtain ⟨rest, hfound⟩ := List.head?_eq_some_iff.mp hhead
  have hline : ("\t\t" ++ found ++ ",").toList = '\t' :: '\t' :: c :: (rest ++ [',']) := by
    simp only [String.toList_append, hfound]
    rfl
  have hopen : ("\t\t" ++ found ++ ",").toList ≠ "\x7d".toList := by
    rw [hline]
    intro h
    cases h
  -- the two lines that return a literal do not fit
  have hcase : ("\t\t" ++ found ++ ",").toList.dropPrefix? "\t\treturn ".toList = none := by
    rw [hline]
    simp [List.dropPrefix?, hc]
  have hdefault : ("\t\t" ++ found ++ ",").toList.dropPrefix? "\treturn ".toList = none := by
    rw [hline]
    rfl
  rw [step, if_neg hopen, literalPlaces, literal?_skip hcase, literal?_skip hdefault]
  by_cases hquote : c = '"'
  · subst hquote
    rw [literal?_of_between? (between?_append "\t\t" found ",") hhead, if_pos rfl]
    rfl
  · have hdrop : ("\t\t" ++ found ++ ",").toList.dropPrefix? "\t\t".toList =
        some (c :: (rest ++ [','])) := by
      rw [hline]
      rfl
    rw [literal?_skip_of_head? hdrop (by simpa using hquote), if_neg hquote]
    rfl

theorem scan_accessorLines (index : Index) :
    scan step .package (accessorLines index) =
      (ofNames "package" ["AllResource" ++ index.collection.titlePlural, "AllResourceTypes"] ++
        ofTexts quoted index.registry.names, .package) := by
  have hopening : scan step .package ["",
        "func AllResource" ++ index.collection.titlePlural ++ "() []*Instance \x7b",
        "\treturn []*Instance\x7b"] =
      ([.name "package" ("AllResource" ++ index.collection.titlePlural)], .body) := by
    cases index.collection <;> decide +kernel
  have hentries : scan step .body
      (index.entries.map fun entry => "\t\t&" ++ entry.identifier ++ ",") = ([], .body) := by
    apply scan_map_nothing
    intro entry _
    have hhead : ("&" ++ entry.identifier).toList.head? = some '&' := head?_append rfl _
    -- an address is no literal
    have hstep := step_listed hhead (by decide)
    rwa [← String.append_assoc] at hstep
  have hbetween : scan step .body ["\t\x7d", "\x7d", "", "func AllResourceTypes() []string \x7b",
      "\treturn []string\x7b"] = ([.name "package" "AllResourceTypes"], .body) := by
    decide +kernel
  have htypes : scan step .body
      (index.registry.pairs.map fun pair => "\t\t" ++ quoted pair.2 ++ ",") =
        (index.registry.pairs.flatMap fun pair => [.literal (quoted pair.2)], .body) := by
    apply scan_map
    intro pair _
    exact step_listed (head?_quoted style pair.2.toList) (by decide)
  have hclosing : scan step .body ["\t\x7d", "\x7d"] = ([], .package) := by
    decide +kernel
  have hscan := scan_append (scan_append (scan_append (scan_append hopening hentries) hbetween)
    htypes) hclosing
  rw [index.registry.flatMap_pairs fun name => Item.literal (quoted name)] at hscan
  refine hscan.trans ?_
  simp only [List.append_nil, List.cons_append, List.nil_append]
  rfl

def outline (index : Index) (package : String) : List Item :=
  (scan step .package (lines index package)).1

theorem outline_eq (index : Index) (package : String) :
    outline index package =
      (ofNames "package" ["FeatureStatus", "Alpha", "Beta", "Stable"] ++
          ofTexts quoted ["Alpha", "Beta", "Stable", "Unknown"]) ++
        (ofNames "package" (["ResourceTypes", Registry.unknown] ++ index.registry.names) ++
          ofTexts quoted (index.registry.names ++ [Registry.unknown])) ++
        ofNames "package" ["Instance"] ++ ofEntries "package" quoted index.entries ++
        (ofNames "package"
            ["AllResource" ++ index.collection.titlePlural, "AllResourceTypes"] ++
          ofTexts quoted index.registry.names) := by
  have hheader : scan step .package [header, ""] = ([], .package) := by
    decide +kernel
  have hpackage : step .package ("package " ++ package).toList = ([], .package) :=
    step_package (head?_append rfl _) (by decide)
  have hopening : scan step .package [header, "", "package " ++ package] = ([], .package) :=
    scan_append hheader (scan_cons hpackage rfl)
  have hscan := scan_append (scan_append (scan_append (scan_append (scan_append hopening
    scan_maturityLines) (scan_resourceTypeLines index.registry))
    (scan_entryTypeLines index.collection)) (scan_variableLines index.entries))
    (scan_accessorLines index)
  exact congrArg Prod.fst hscan

/-- The names at package scope are the fixed ones, the tags and the identifiers. -/
theorem namesIn_outline (index : Index) (package : String) :
    namesIn "package" (outline index package) =
      ["FeatureStatus", "Alpha", "Beta", "Stable", "ResourceTypes", Registry.unknown] ++
        index.registry.names ++ ["Instance"] ++ index.entries.map (·.identifier) ++
        ["AllResource" ++ index.collection.titlePlural, "AllResourceTypes"] := by
  rw [outline_eq]
  simp only [namesIn_append, namesIn_ofNames, namesIn_ofTexts, namesIn_ofEntries,
    List.append_nil, List.append_assoc, List.cons_append, List.nil_append]

/-- Literals are written for the fixed names, the tags and the keys. -/
theorem literals_outline (index : Index) (package : String) :
    literals (outline index package) =
      (["Alpha", "Beta", "Stable", Registry.unknown] ++ index.registry.names ++
        [Registry.unknown] ++ index.entries.map (·.key.text) ++ index.registry.names).map
        quoted := by
  rw [outline_eq]
  simp only [literals_append, literals_ofNames, literals_ofTexts, literals_ofEntries,
    List.map_append, List.append_assoc, List.nil_append]
  rfl

end KeyCatalog.Outline.Go
