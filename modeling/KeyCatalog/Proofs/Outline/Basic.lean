import KeyCatalog.Listing.Language
import KeyCatalog.Proofs.Text
/-!
Outlines of listings: the names that a listing declares and the quoted literals that it writes,
found by scanning its lines one after the other. Names and literals are found whatever characters
they hold, since all of a line but these tells what it brings in, together with its block.

A name is the string between the fixed texts of its line, white space included. It is not a token of
Go or TypeScript, and names are compared as those strings.
-/
namespace KeyCatalog.Outline

/-- What a line brings in: a name, together with the scope that it is declared in, or a literal as
it is written. -/
inductive Item where
  | name (scope name : String)
  | literal (source : String)
deriving DecidableEq

def Item.nameIn? (scope : String) : Item → Option String
  | .name other found => if other = scope then some found else none
  | .literal _ => none

def Item.literal? : Item → Option String
  | .name .. => none
  | .literal source => some source

def namesIn (scope : String) (items : List Item) : List String :=
  items.filterMap (Item.nameIn? scope)

def literals (items : List Item) : List String :=
  items.filterMap Item.literal?

def ofNames (scope : String) (names : List String) : List Item :=
  names.map (.name scope)

def ofTexts (quoted : String → String) (texts : List String) : List Item :=
  texts.map fun text => .literal (quoted text)

/-- The identifiers of entries, each with the literal of its key behind it. -/
def ofEntries (scope : String) (quoted : String → String) (entries : List Entry) : List Item :=
  entries.flatMap fun entry => [.name scope entry.identifier, .literal (quoted entry.key.text)]

section Found

variable (scope : String) (quoted : String → String) (items others : List Item)
  (names texts : List String) (entries : List Entry)

@[simp]
theorem namesIn_append : namesIn scope (items ++ others) =
    namesIn scope items ++ namesIn scope others :=
  List.filterMap_append

@[simp]
theorem namesIn_ofNames : namesIn scope (ofNames scope names) = names := by
  simp [namesIn, ofNames, List.filterMap_map, Item.nameIn?, Function.comp_def]

@[simp]
theorem namesIn_ofTexts : namesIn scope (ofTexts quoted texts) = [] := by
  simp [namesIn, ofTexts, Item.nameIn?]

@[simp]
theorem namesIn_ofEntries :
    namesIn scope (ofEntries scope quoted entries) = entries.map (·.identifier) := by
  simp [namesIn, ofEntries, List.filterMap_flatMap, List.filterMap_cons, Item.nameIn?,
    List.map_eq_flatMap]

theorem namesIn_ofNames_of_ne {other : String} (h : other ≠ scope) :
    namesIn scope (ofNames other names) = [] := by
  simp [namesIn, ofNames, Item.nameIn?, h]

theorem namesIn_ofEntries_of_ne {other : String} (h : other ≠ scope) :
    namesIn scope (ofEntries other quoted entries) = [] := by
  simp [namesIn, ofEntries, List.filterMap_flatMap, List.filterMap_cons, Item.nameIn?, h]

@[simp]
theorem literals_append : literals (items ++ others) = literals items ++ literals others :=
  List.filterMap_append

@[simp]
theorem literals_ofNames : literals (ofNames scope names) = [] := by
  simp [literals, ofNames, Item.literal?]

@[simp]
theorem literals_ofTexts : literals (ofTexts quoted texts) = texts.map quoted := by
  simp [literals, ofTexts, List.filterMap_map, Item.literal?, Function.comp_def]

@[simp]
theorem literals_ofEntries :
    literals (ofEntries scope quoted entries) = (entries.map (·.key.text)).map quoted := by
  simp [literals, ofEntries, List.filterMap_flatMap, List.filterMap_cons, Item.literal?,
    List.map_eq_flatMap, List.flatMap_assoc]

end Found

def between? (before after : String) (line : Text) : Option String :=
  ((line.dropPrefix? before.toList).bind (·.dropSuffix? after.toList)).map String.ofList

def literal? (places : List (String × String)) (line : Text) : Option String :=
  places.findSome? fun place =>
    (between? place.1 place.2 line).filter fun found => found.toList.head? = some '"'

section Scan

variable {σ α : Type}

/-- Scans lines, given what a line brings in and where it leads. -/
def scan (step : σ → Text → List Item × σ) (block : σ) : List String → List Item × σ
  | [] => ([], block)
  | line :: rest =>
    ((step block line.toList).1 ++ (scan step (step block line.toList).2 rest).1,
      (scan step (step block line.toList).2 rest).2)

variable {step : σ → Text → List Item × σ} {block next last : σ} {line : String}
  {lines others : List String} {items found : List Item}

theorem scan_cons (hline : step block line.toList = (items, next))
    (hlines : scan step next lines = (found, last)) :
    scan step block (line :: lines) = (items ++ found, last) := by
  rw [scan, hline, hlines]

/-- Lines are scanned part by part, the second part in the block that the first one ends in. -/
theorem scan_append (hlines : scan step block lines = (items, next))
    (hothers : scan step next others = (found, last)) :
    scan step block (lines ++ others) = (items ++ found, last) := by
  induction lines generalizing block items with
  | nil =>
    cases hlines
    exact hothers
  | cons line lines ih =>
    rw [scan] at hlines
    obtain ⟨rfl, hnext⟩ := Prod.mk.inj hlines
    rw [List.cons_append, List.append_assoc]
    exact scan_cons rfl (ih (Prod.ext rfl hnext))

/-- Lines in pieces each of which leads back to the block that it stands in. -/
theorem scan_flatMap {write : α → List String} {brings : α → List Item} {as : List α}
    (h : ∀ a ∈ as, scan step block (write a) = (brings a, block)) :
    scan step block (as.flatMap write) = (as.flatMap brings, block) := by
  induction as with
  | nil => rfl
  | cons a as ih =>
    rw [List.flatMap_cons, List.flatMap_cons]
    exact scan_append (h a List.mem_cons_self) (ih fun b hb => h b (List.mem_cons_of_mem a hb))

theorem scan_map {write : α → String} {brings : α → List Item} {as : List α}
    (h : ∀ a ∈ as, step block (write a).toList = (brings a, block)) :
    scan step block (as.map write) = (as.flatMap brings, block) := by
  rw [List.map_eq_flatMap]
  apply scan_flatMap
  intro a ha
  rw [scan, h a ha]
  exact Prod.ext (List.append_nil _) rfl

theorem scan_map_nothing {write : α → String} {as : List α}
    (h : ∀ a ∈ as, step block (write a).toList = ([], block)) :
    scan step block (as.map write) = ([], block) := by
  have hscan := scan_map h
  rwa [List.flatMap_eq_nil_iff.mpr fun _ _ => rfl] at hscan

/-- Blocks of lines with an empty line between them, which brings in nothing. -/
theorem scan_separated {write : α → List String} {brings : α → List Item} {as : List α}
    (hempty : step block "".toList = ([], block))
    (h : ∀ a ∈ as, scan step block (write a) = (brings a, block)) :
    scan step block (Listing.separated (as.map write)) = (as.flatMap brings, block) := by
  induction as with
  | nil => rfl
  | cons a as ih =>
    have hrest := ih fun b hb => h b (List.mem_cons_of_mem a hb)
    rw [List.flatMap_cons]
    cases as with
    | nil =>
      have hone : Listing.separated ([a].map write) = write a ++ [] := rfl
      rw [hone]
      exact scan_append (h a List.mem_cons_self) rfl
    | cons b as =>
      have hmore : Listing.separated ((a :: b :: as).map write) =
          write a ++ "" :: Listing.separated ((b :: as).map write) := rfl
      have hnext := scan_cons hempty hrest
      rw [hmore]
      exact scan_append (h a List.mem_cons_self) hnext

end Scan

theorem head?_append {before : String} {c : Char} (h : before.toList.head? = some c)
    (text : String) : (before ++ text).toList.head? = some c := by
  rw [String.toList_append, List.head?_append, h, Option.some_or]

theorem append_ne {before : String} {line : Text} (h : ∀ rest, before.toList ++ rest ≠ line)
    (found after : String) : (before ++ found ++ after).toList ≠ line := by
  rw [String.toList_append, String.toList_append, List.append_assoc]
  exact h _

theorem between?_append (before found after : String) :
    between? before after (before ++ found ++ after).toList = some found := by
  have hline : (before ++ found ++ after).toList =
      before.toList ++ (found.toList ++ after.toList) := by
    simp only [String.toList_append, List.append_assoc]
  have hbefore : (before ++ found ++ after).toList.dropPrefix? before.toList =
      some (found.toList ++ after.toList) := by
    rw [hline]
    exact List.dropPrefix?_append_of_beq _ (beq_self_eq_true _)
  have hafter : (found.toList ++ after.toList).dropSuffix? after.toList = some found.toList :=
    List.dropSuffix?_eq_some_iff.mpr ⟨after.toList, rfl, beq_self_eq_true _⟩
  rw [between?, hbefore, Option.bind_some, hafter, Option.map_some, String.ofList_toList]

theorem between?_eq_none {before : String} {line : Text}
    (h : line.dropPrefix? before.toList = none) (after : String) :
    between? before after line = none := by
  rw [between?, h]
  rfl

section Literal

variable {before after found : String} {places : List (String × String)} {line : Text}

/-- The first pair of texts that fits a line with a quote behind it settles what the literal is. -/
theorem literal?_of_between? (h : between? before after line = some found)
    (hquote : found.toList.head? = some '"') :
    literal? ((before, after) :: places) line = some found := by
  rw [literal?, List.findSome?_cons, h, Option.filter_some, if_pos (decide_eq_true hquote)]

theorem literal?_skip (h : line.dropPrefix? before.toList = none) :
    literal? ((before, after) :: places) line = literal? places line := by
  rw [literal?, List.findSome?_cons, between?_eq_none h]
  rfl

/-- What is not quoted is passed over, even between texts that fit. -/
theorem literal?_skip_of_head? {rest : Text} (h : line.dropPrefix? before.toList = some rest)
    (hquote : rest.head? ≠ some '"') :
    literal? ((before, after) :: places) line = literal? places line := by
  have hnone : (between? before after line).filter (fun found => found.toList.head? = some '"') =
      none := by
    rw [between?, h, Option.bind_some, Option.filter_eq_none_iff]
    intro text htext hhead
    obtain ⟨found, hfound, rfl⟩ := Option.map_eq_some_iff.mp htext
    obtain ⟨tail, rfl, -⟩ := List.dropSuffix?_eq_some_iff.mp hfound
    rw [String.toList_ofList, decide_eq_true_iff] at hhead
    exact hquote (by rw [List.head?_append, hhead, Option.some_or])
  rw [literal?, List.findSome?_cons, hnone]
  rfl

end Literal

theorem head?_quoted (style : LiteralStyle) (text : Text) :
    (String.ofList (style.quoted text)).toList.head? = some style.quote := by
  rw [String.toList_ofList]
  rfl

end KeyCatalog.Outline
