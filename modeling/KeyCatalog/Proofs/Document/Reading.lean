import KeyCatalog.Proofs.Document.Form
import KeyCatalog.Proofs.Yaml
/-!
Which documents are read, and as which records. Every value that the schema accepts is decoded: a
list gives one record for each of its entries, which holds what is given and the default of what is
not.
-/
namespace KeyCatalog.Document

/-- The value of a field among the members of an object: the one given, or else a default. -/
inductive Holds (members : List (String × Json)) (field : String) (default : Json) : Json → Prop
  | given {value : Json} (h : (field, value) ∈ members) : Holds members field default value
  | missing (h : ∀ value, (field, value) ∉ members) : Holds members field default default

theorem holds_iff {members : List (String × Json)} {field : String} {default value : Json} :
    Holds members field default value ↔
      (field, value) ∈ members ∨ (∀ other, (field, other) ∉ members) ∧ value = default := by
  constructor
  · rintro (h | h)
    · exact .inl h
    · exact .inr ⟨h, rfl⟩
  · rintro (h | ⟨h, rfl⟩)
    · exact .given h
    · exact .missing h

def optionalText : Option String → Json
  | none => .null
  | some text => .string text

/-- A record holds what an entry gives, and the default of every field that is missing. -/
inductive Gives : Json → Record → Prop
  | object {members : List (String × Json)} {record : Record}
      (name : Holds members "name" (.string "") (.string record.name))
      (variableName : Holds members "variableName" .null (optionalText record.variableName))
      (featureStatus : Holds members "featureStatus" .null (optionalText record.featureStatus))
      (description : Holds members "description" (.string "") (.string record.description))
      (hidden : Holds members "hidden" (.bool false) (.bool record.hidden))
      (deprecated : Holds members "deprecated" (.bool false) (.bool record.deprecated))
      (resources : Holds members "resources" (.array []) (.array (record.resources.map .string))) :
      Gives (.object members) record

section Decode

theorem string?_eq_some_iff {value : Json} {text : String} :
    string? value = some text ↔ value = .string text := by
  cases value <;> simp [string?]

theorem bool?_eq_some_iff {value : Json} {truth : Bool} :
    bool? value = some truth ↔ value = .bool truth := by
  cases value <;> simp [bool?]

theorem optionalString?_eq_some_iff {value : Json} {text : Option String} :
    optionalString? value = some text ↔ value = optionalText text := by
  cases value <;> cases text <;> simp [optionalString?, optionalText]

/-- Texts are decoded from an array of them, all or none. -/
theorem strings?_eq_some_iff {value : Json} {texts : List String} :
    strings? value = some texts ↔ value = .array (texts.map .string) := by
  cases value with
  | array items =>
    have hitems : List.Forall₂ (fun item text => string? item = some text) items texts ↔
        items = texts.map .string := by
      simp only [string?_eq_some_iff]
      rw [← List.forall₂_map_right_iff (R := fun item value => item = value), List.forall₂_eq_eq_eq]
    rw [strings?, mapM_eq_some_iff, hitems, Json.array.injEq]
  | _ => simp [strings?]

variable {members : List (String × Json)}

/-- A field is decoded as what the members hold for it, given how its type is written. -/
theorem field?_eq_some_iff {α : Type} {decode : Json → Option α} {encode : α → Json}
    (h : (Json.object members).Ordered)
    (hdecode : ∀ value a, decode value = some a ↔ value = encode a) (name : String)
    (missing a : α) :
    field? members name decode missing = some a ↔
      Holds members name (encode missing) (encode a) := by
  rw [field?, holds_iff]
  split
  · next value hvalue =>
    have hmem := h.lookup_eq_some_iff.mp hvalue
    have hpresent : ¬∀ other, (name, other) ∉ members := fun hmissing => hmissing value hmem
    rw [hdecode, eq_false hpresent, false_and, or_false, ← h.lookup_eq_some_iff, hvalue,
      Option.some_inj]
  · next hnone =>
    have hmissing := lookup_eq_none_iff_not_mem.mp hnone
    -- what is decoded from a written default is the default
    have hdefault : decode (encode missing) = some missing := (hdecode _ _).mpr rfl
    rw [eq_false (hmissing _), eq_true hmissing, false_or, true_and, eq_comm (a := encode a),
      ← hdecode, hdefault]

/-- A record is decoded from an entry exactly if it holds what the entry gives. -/
theorem record?_eq_some_iff {record : Record} (h : (Json.object members).Ordered) :
    record? (.object members) = some record ↔ Gives (.object members) record := by
  have hname := field?_eq_some_iff h (fun _ _ => string?_eq_some_iff) "name" ""
  have hvariableName :=
    field?_eq_some_iff h (fun _ _ => optionalString?_eq_some_iff) "variableName" none
  have hfeatureStatus :=
    field?_eq_some_iff h (fun _ _ => optionalString?_eq_some_iff) "featureStatus" none
  have hdescription := field?_eq_some_iff h (fun _ _ => string?_eq_some_iff) "description" ""
  have hhidden := field?_eq_some_iff h (fun _ _ => bool?_eq_some_iff) "hidden" false
  have hdeprecated := field?_eq_some_iff h (fun _ _ => bool?_eq_some_iff) "deprecated" false
  have hresources := field?_eq_some_iff h (fun _ _ => strings?_eq_some_iff) "resources" []
  -- each field is decoded apart from the others
  simp only [record?, members?, Option.bind_eq_bind, Option.bind_some, Option.bind_eq_some_iff,
    hname, hvariableName, hfeatureStatus, hdescription, hhidden, hdeprecated, hresources]
  constructor
  · rintro ⟨name, hname, variableName, hvariableName, featureStatus, hfeatureStatus, description,
      hdescription, hidden, hhidden, deprecated, hdeprecated, resources, hresources, heq⟩
    cases heq
    exact .object hname hvariableName hfeatureStatus hdescription hhidden hdeprecated hresources
  · rintro ⟨hname, hvariableName, hfeatureStatus, hdescription, hhidden, hdeprecated, hresources⟩
    exact ⟨_, hname, _, hvariableName, _, hfeatureStatus, _, hdescription, _, hhidden, _,
      hdeprecated, _, hresources, rfl⟩

/-- A field of an entry is always decoded, whether it is given or missing. -/
theorem exists_field? {α : Type} {decode : Json → Option α} {name : String}
    (hfields : ∀ member ∈ members, IsField member)
    (hdecode : ∀ value, IsField (name, value) → ∃ a, decode value = some a) (missing : α) :
    ∃ a, field? members name decode missing = some a := by
  rw [field?]
  split
  · next value hvalue => exact hdecode value (hfields _ (mem_of_lookup_eq_some hvalue))
  · exact ⟨missing, rfl⟩

/-- Whatever the schema accepts as an entry is decoded. -/
theorem exists_record? {item : Json} (hentry : IsEntry item) :
    ∃ record, record? item = some record := by
  obtain @⟨members, -, -, hfields⟩ := hentry
  -- one fact for each type that fields have, and then one field after the other
  have hstring (name : String) (h : ∀ value, IsField (name, value) → ∃ text, value = .string text) :
      ∃ text, field? members name string? "" = some text :=
    exists_field? hfields (by simpa only [string?_eq_some_iff] using h) ""
  have hoptional (name : String)
      (h : ∀ value, IsField (name, value) → ∃ text, value = .string text) :
      ∃ text, field? members name optionalString? none = some text := by
    refine exists_field? hfields ?_ none
    intro value hvalue
    obtain ⟨text, rfl⟩ := h value hvalue
    exact ⟨some text, rfl⟩
  have hbool (name : String) (h : ∀ value, IsField (name, value) → ∃ truth, value = .bool truth) :
      ∃ truth, field? members name bool? false = some truth :=
    exists_field? hfields (by simpa only [bool?_eq_some_iff] using h) false
  obtain ⟨name, hname⟩ := hstring "name"
    (by simp [isField_iff, conforms_string_iff])
  obtain ⟨variableName, hvariableName⟩ := hoptional "variableName"
    (by simp [isField_iff, conforms_string_iff])
  obtain ⟨featureStatus, hfeatureStatus⟩ := hoptional "featureStatus"
    (by simp [isField_iff, conforms_string_iff])
  obtain ⟨description, hdescription⟩ := hstring "description"
    (by simp [isField_iff, conforms_string_iff])
  obtain ⟨hidden, hhidden⟩ := hbool "hidden"
    (by simp [isField_iff, conforms_boolean_iff])
  obtain ⟨deprecated, hdeprecated⟩ := hbool "deprecated"
    (by simp [isField_iff, conforms_boolean_iff])
  obtain ⟨resources, hresources⟩ : ∃ tags, field? members "resources" strings? [] = some tags := by
    refine exists_field? hfields ?_ []
    intro value hvalue
    obtain ⟨tags, -, rfl⟩ : ∃ tags : List String, "" ∉ tags ∧ value = .array (tags.map .string) := by
      simpa [isField_iff, conforms_tags_iff] using hvalue
    exact ⟨tags, strings?_eq_some_iff.mpr rfl⟩
  refine ⟨⟨name, variableName, featureStatus, description, hidden, deprecated, resources⟩, ?_⟩
  simp only [record?, members?, hname, hvariableName, hfeatureStatus, hdescription, hhidden,
    hdeprecated, hresources, Option.bind_eq_bind, Option.bind_some]

end Decode

def ofRecords (records : List Record) : Collection → Document
  | .annotations => ⟨some records, none⟩
  | .labels => ⟨none, some records⟩

/-- A document with one list has entries of that collection only. -/
theorem entries?_ofRecords_eq_some_iff {records others : List Record}
    {collection other : Collection} :
    (ofRecords records collection).entries? other = some others ↔
      other = collection ∧ others = records := by
  cases collection <;> cases other <;> simp [ofRecords, entries?, eq_comm]

/-- A list is decoded entry by entry. -/
theorem decode?_of_lists {collection : Collection} {value : Json} {items : List Json}
    (h : Lists collection value items) :
    decode? value = (items.mapM record?).map (ofRecords · collection) := by
  obtain ⟨list, rfl, hlist⟩ := lists_iff.mp h
  replace hlist : records? list = (items.mapM record?).map some := by
    rcases hlist with ⟨rfl, rfl⟩ | rfl
    · rfl
    · rfl
  -- the other collection has no member of its name
  cases collection with
  | annotations =>
    have hannotations : field? [("annotations", list)] "annotations" records? none =
        (items.mapM record?).map some := hlist
    have hlabels : field? [("annotations", list)] "labels" records? none = some none := rfl
    simp only [decode?, members?, Collection.nounPlural, Option.bind_eq_bind, Option.bind_some,
      hannotations, hlabels, Option.map_eq_bind, Option.bind_assoc, Function.comp_def, ofRecords]
  | labels =>
    have hannotations : field? [("labels", list)] "annotations" records? none = some none := rfl
    have hlabels : field? [("labels", list)] "labels" records? none =
        (items.mapM record?).map some := hlist
    simp only [decode?, members?, Collection.nounPlural, Option.bind_eq_bind, Option.bind_some,
      hannotations, hlabels, Option.map_eq_bind, Option.bind_assoc, Function.comp_def, ofRecords]

section Parse

variable {yaml origin : String} {value : Json} {collection : Collection}

/-- A text is read as the records that its value's list is decoded as. -/
theorem parse_eq_ok_iff (hvalue : Yaml.read? yaml = some value) {records : List Record} :
    parse yaml collection origin = .ok records ↔
      ∃ items, Lists collection value items ∧ (∀ item ∈ items, IsEntry item) ∧
        items.mapM record? = some records := by
  have hordered := Yaml.ordered_of_read? hvalue
  have hconforms : schema.violations "" value = [] ↔ _ :=
    (Schema.violations_eq_nil_iff schema "" value).trans (conforms_schema_iff hordered)
  rw [parse, hvalue]
  show ofJson value collection origin = .ok records ↔ _
  constructor
  · intro h
    rw [ofJson] at h
    split at h
    · next hvalid =>
      -- the list of the document need not be the one that is asked for
      obtain ⟨listed, items, hlists, hitems⟩ := hconforms.mp hvalid
      rw [decode?_of_lists hlists] at h
      cases hrecords : items.mapM record? with
      | none => simp [hrecords] at h
      | some decoded =>
        simp only [hrecords, Option.map_some] at h
        split at h
        · next hentries =>
          cases h
          obtain ⟨rfl, rfl⟩ := entries?_ofRecords_eq_some_iff.mp hentries
          exact ⟨items, hlists, hitems, hrecords⟩
        · cases h
    · cases h
  · rintro ⟨items, hlists, hitems, hrecords⟩
    rw [ofJson, hconforms.mpr ⟨collection, items, hlists, hitems⟩, decode?_of_lists hlists, hrecords]
    simp only [Option.map_some, entries?_ofRecords_eq_some_iff.mpr ⟨rfl, rfl⟩]

/-- A list of entries is decoded, to records that hold what the entries give. -/
theorem exists_records_of_entries {items : List Json} (hitems : ∀ item ∈ items, IsEntry item) :
    ∃ records, items.mapM record? = some records := by
  obtain ⟨records, hrecords⟩ := exists_related_iff.mpr fun item hitem =>
    exists_record? (hitems item hitem)
  exact ⟨records, mapM_eq_some_iff.mpr hrecords⟩

/-- No value is a list of both collections. -/
theorem Lists.collection_eq {other : Collection} {items others : List Json}
    (h : Lists collection value items) (hother : Lists other value others) : collection = other := by
  obtain ⟨list, rfl, -⟩ := lists_iff.mp h
  obtain ⟨otherList, heq, -⟩ := lists_iff.mp hother
  have hmember := List.head_eq_of_cons_eq (Json.object.inj heq)
  have hname : collection.nounPlural = other.nounPlural := congrArg Prod.fst hmember
  revert hname
  cases collection <;> cases other <;> decide

/-- What is decoded from the items of a list holds what they give. -/
theorem gives_of_lists {items : List Json} {records : List Record} (hvalue : value.Ordered)
    (h : Lists collection value items) (hitems : ∀ item ∈ items, IsEntry item)
    (hrecords : items.mapM record? = some records) : List.Forall₂ Gives items records := by
  have hordered : ∀ item ∈ items, item.Ordered := by
    obtain ⟨list, rfl, ⟨rfl, rfl⟩ | rfl⟩ := lists_iff.mp h
    · exact fun _ hitem => absurd hitem List.not_mem_nil
    · exact (hvalue.of_mem (List.mem_singleton_self _)).item
  have hentries : ∀ item ∈ items, item.Ordered ∧ IsEntry item := fun item hitem =>
    ⟨hordered item hitem, hitems item hitem⟩
  have hpairs := (List.forall₂_and_left items records).mpr
    ⟨hentries, mapM_eq_some_iff.mp hrecords⟩
  refine hpairs.imp ?_
  rintro item record ⟨⟨hitem, -, -⟩, hrecord⟩
  exact (record?_eq_some_iff hitem).mp hrecord

/-- The schema and the decoding of documents agree on every text that has a value. Exactly the
texts of lists of entries are read, entry by entry. Nothing that the schema accepts fails to be
decoded, and no text is read for both collections. -/
theorem reads_lists_of_entries (hvalue : Yaml.read? yaml = some value) (origin : String) :
    (∀ collection, (∃ records, parse yaml collection origin = .ok records) ↔
      ∃ items, Lists collection value items ∧ ∀ item ∈ items, IsEntry item) ∧
    (∀ collection records, parse yaml collection origin = .ok records →
      ∃ items, Lists collection value items ∧ List.Forall₂ Gives items records) ∧
    (schema.violations "" value = [] → ∃ document, decode? value = some document) ∧
    ∀ records others, parse yaml .annotations origin = .ok records →
      parse yaml .labels origin ≠ .ok others := by
  have hordered := Yaml.ordered_of_read? hvalue
  refine ⟨?_, ?_, ?_, ?_⟩
  · intro collection
    constructor
    · rintro ⟨records, hrecords⟩
      obtain ⟨items, hlists, hitems, -⟩ := (parse_eq_ok_iff hvalue).mp hrecords
      exact ⟨items, hlists, hitems⟩
    · rintro ⟨items, hlists, hitems⟩
      obtain ⟨records, hrecords⟩ := exists_records_of_entries hitems
      exact ⟨records, (parse_eq_ok_iff hvalue).mpr ⟨items, hlists, hitems, hrecords⟩⟩
  · intro collection records hparse
    obtain ⟨items, hlists, hitems, hrecords⟩ := (parse_eq_ok_iff hvalue).mp hparse
    exact ⟨items, hlists, gives_of_lists hordered hlists hitems hrecords⟩
  · intro hvalid
    obtain ⟨collection, items, hlists, hitems⟩ :=
      (conforms_schema_iff hordered).mp ((Schema.violations_eq_nil_iff _ _ _).mp hvalid)
    obtain ⟨records, hrecords⟩ := exists_records_of_entries hitems
    exact ⟨_, by rw [decode?_of_lists hlists, hrecords, Option.map_some]⟩
  -- a value lists one collection only
  · intro records others hrecords hothers
    obtain ⟨items, hlists, -⟩ := (parse_eq_ok_iff hvalue).mp hrecords
    obtain ⟨otherItems, hotherLists, -⟩ := (parse_eq_ok_iff hvalue).mp hothers
    cases hlists.collection_eq hotherLists

/-- A document with two labels, each with fields that the other leaves out. -/
def labelPair : String :=
  "labels:\n- name: d/y\n  deprecated: true\n  resources: [Pod, Node]\n" ++
    "- name: c/x\n  variableName: First\n  featureStatus: Beta\n  description: two words\n"

def labelPairItems : List Json :=
  [.object [("deprecated", .bool true), ("name", .string "d/y"),
      ("resources", .array [.string "Pod", .string "Node"])],
    .object [("description", .string "two words"), ("featureStatus", .string "Beta"),
      ("name", .string "c/x"), ("variableName", .string "First")]]

def labelPairRecords : List Record :=
  [{ name := "d/y", deprecated := true, resources := ["Pod", "Node"] },
    { name := "c/x", variableName := some "First", featureStatus := some "Beta",
      description := "two words" }]

/-- Two labels are read in the order of the document, and what one of them leaves out has its
default. -/
theorem reads_list_of_two_labels :
    Yaml.read? labelPair = some (.object [("labels", .array labelPairItems)]) ∧
    parse labelPair .labels "labels.yaml" = .ok labelPairRecords ∧
    (∀ item ∈ labelPairItems, IsEntry item) ∧ List.Forall₂ Gives labelPairItems labelPairRecords ∧
    ∀ records, parse labelPair .annotations "labels.yaml" ≠ .ok records := by
  have hvalue : Yaml.read? labelPair = some (.object [("labels", .array labelPairItems)]) := by
    decide +kernel
  have hparse : parse labelPair .labels "labels.yaml" = .ok labelPairRecords := by
    decide +kernel
  obtain ⟨hreads, hgives, -, hone⟩ := reads_lists_of_entries hvalue "labels.yaml"
  obtain ⟨items, hlists, hentries⟩ := (hreads .labels).mp ⟨_, hparse⟩
  obtain ⟨given, hgiven, hrecords⟩ := hgives .labels _ hparse
  cases hlists
  cases hgiven
  exact ⟨hvalue, hparse, hentries, hrecords, fun records hother => hone records _ hother hparse⟩

end Parse

end KeyCatalog.Document
