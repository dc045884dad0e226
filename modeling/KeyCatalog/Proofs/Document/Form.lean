import KeyCatalog.Document
import KeyCatalog.Proofs.Schema
/-!
The form of documents: what their schema asks, said of the values themselves. A document is a list of
entries under the name of its collection, and an entry is an object of known fields.
-/
namespace KeyCatalog.Document

inductive IsField : String × Json → Prop
  | name (text : String) : IsField ("name", .string text)
  | variableName (text : String) : IsField ("variableName", .string text)
  | featureStatus (text : String) : IsField ("featureStatus", .string text)
  | description (text : String) : IsField ("description", .string text)
  | hidden (value : Bool) : IsField ("hidden", .bool value)
  | deprecated (value : Bool) : IsField ("deprecated", .bool value)
  | resources {tags : List String} (h : "" ∉ tags) :
      IsField ("resources", .array (tags.map .string))

/-- An entry of a document: an object of fields, with a name among them. -/
inductive IsEntry : Json → Prop
  | object {members : List (String × Json)} {name : String} (hname : ("name", .string name) ∈ members)
      (hfields : ∀ member ∈ members, IsField member) : IsEntry (.object members)

/-- A document holds the list of a collection and nothing else. Null is a list without items. -/
inductive Lists (collection : Collection) : Json → List Json → Prop
  | null : Lists collection (.object [(collection.nounPlural, .null)]) []
  | array (items : List Json) :
      Lists collection (.object [(collection.nounPlural, .array items)]) items

theorem lists_iff {collection : Collection} {value : Json} {items : List Json} :
    Lists collection value items ↔ ∃ list, value = .object [(collection.nounPlural, list)] ∧
      (list = .null ∧ items = [] ∨ list = .array items) := by
  constructor
  · rintro (_ | _)
    · exact ⟨.null, rfl, .inl ⟨rfl, rfl⟩⟩
    · exact ⟨.array items, rfl, .inr rfl⟩
  · rintro ⟨list, rfl, ⟨rfl, rfl⟩ | rfl⟩
    · exact .null
    · exact .array items

section Schema

variable {value : Json}

theorem conforms_boolean_iff : Schema.Conforms .boolean value ↔ ∃ truth, value = .bool truth := by
  constructor
  · rintro ⟨truth⟩
    exact ⟨truth, rfl⟩
  · rintro ⟨truth, rfl⟩
    exact .boolean truth

theorem conforms_string_iff : Schema.Conforms (.string 0) value ↔ ∃ text, value = .string text := by
  constructor
  · rintro ⟨⟩
    exact ⟨_, rfl⟩
  · rintro ⟨text, rfl⟩
    exact .string (Nat.zero_le _)

/-- Exactly the arrays of texts that are not empty pass as resource tags. -/
theorem conforms_tags_iff : Schema.Conforms (.array false (.string 1)) value ↔
    ∃ tags : List String, "" ∉ tags ∧ value = .array (tags.map .string) := by
  have hlength (text : String) : 1 ≤ text.length ↔ "" ≠ text := by
    rw [Nat.one_le_iff_ne_zero, ne_eq, String.length_eq_zero_iff, ne_comm]
  constructor
  · intro h
    cases h with
    | @array _ _ values h =>
      -- the texts are collected from the first to the last
      induction values with
      | nil => exact ⟨[], List.not_mem_nil, rfl⟩
      | cons value rest ih =>
        obtain ⟨hvalue, hrest⟩ := List.forall_mem_cons.mp h
        obtain ⟨tags, hempty, htags⟩ := ih hrest
        cases hvalue with
        | @string _ text htext =>
          refine ⟨text :: tags, ?_, ?_⟩
          · rw [List.mem_cons, not_or]
            exact ⟨(hlength text).mp htext, hempty⟩
          · rw [List.map_cons, Json.array.inj htags]
  · rintro ⟨tags, hempty, rfl⟩
    apply Schema.Conforms.array
    intro value hvalue
    obtain ⟨tag, htag, rfl⟩ := List.mem_map.mp hvalue
    refine .string ((hlength tag).mpr ?_)
    rintro rfl
    exact hempty htag

/-- The schema of a field accepts the values of the field's type. -/
theorem isField_iff {member : String × Json} :
    IsField member ↔ ∃ property ∈ [("deprecated", Schema.boolean), ("description", .string 0),
      ("featureStatus", .string 0), ("hidden", .boolean), ("name", .string 0),
      ("resources", .array false (.string 1)), ("variableName", .string 0)],
      property.1 = member.1 ∧ property.2.Conforms member.2 := by
  obtain ⟨name, value⟩ := member
  simp only [List.mem_cons, List.not_mem_nil, or_false, exists_eq_or_imp, exists_eq_left,
    conforms_boolean_iff, conforms_string_iff, conforms_tags_iff]
  constructor
  · intro h
    cases h with
    -- a list of tags is the only field with a condition on its value
    | @resources tags hempty =>
      have htags : ∃ list : List String, "" ∉ list ∧
          Json.array (tags.map .string) = .array (list.map .string) := ⟨tags, hempty, rfl⟩
      simpa using htags
    | _ => simp
  · rintro (⟨rfl, truth, rfl⟩ | ⟨rfl, text, rfl⟩ | ⟨rfl, text, rfl⟩ | ⟨rfl, truth, rfl⟩ |
      ⟨rfl, text, rfl⟩ | ⟨rfl, tags, hempty, rfl⟩ | ⟨rfl, text, rfl⟩)
    · exact .deprecated truth
    · exact .description text
    · exact .featureStatus text
    · exact .hidden truth
    · exact .name text
    · exact .resources hempty
    · exact .variableName text

theorem isField_name_iff : IsField ("name", value) ↔ ∃ text, value = .string text := by
  simp [isField_iff, conforms_string_iff]

/-- The schema of an entry accepts exactly the entries. -/
theorem conforms_entrySchema_iff (h : value.Ordered) :
    entrySchema.Conforms value ↔ IsEntry value := by
  constructor
  · intro hconforms
    cases value with
    | object members =>
      obtain ⟨hmembers, hrequired, -⟩ :=
        (Schema.conforms_object_iff (by decide) h.ascending.nodup).mp hconforms
      have hfields : ∀ member ∈ members, IsField member := fun member hmember =>
        isField_iff.mpr (hmembers member hmember)
      -- the name is required, and so it is there
      obtain ⟨⟨field, value⟩, hmember, rfl⟩ :=
        List.mem_map.mp (hrequired "name" (List.mem_singleton_self _))
      obtain ⟨text, rfl⟩ := isField_name_iff.mp (hfields _ hmember)
      exact .object hmember hfields
    | _ => cases hconforms
  · rintro ⟨hname, hfields⟩
    apply (Schema.conforms_object_iff (by decide) h.ascending.nodup).mpr
    refine ⟨fun member hmember => isField_iff.mp (hfields member hmember), ?_, ?_, ?_⟩
    · intro required hrequired
      obtain rfl := List.mem_singleton.mp hrequired
      exact List.mem_map_of_mem hname
    · exact fun limit hlimit => nomatch hlimit
    · exact fun limit hlimit => nomatch hlimit

/-- The schema of a list of entries. -/
theorem conforms_entries_iff (h : value.Ordered) :
    Schema.Conforms (.array true entrySchema) value ↔
      value = .null ∨ ∃ items, value = .array items ∧ ∀ item ∈ items, IsEntry item := by
  constructor
  · intro hconforms
    cases hconforms with
    | null => exact .inl rfl
    | array hitems =>
      exact .inr ⟨_, rfl, fun item hitem =>
        (conforms_entrySchema_iff (h.item item hitem)).mp (hitems item hitem)⟩
  · rintro (rfl | ⟨items, rfl, hitems⟩)
    · exact .null _
    · exact .array fun item hitem =>
        (conforms_entrySchema_iff (h.item item hitem)).mpr (hitems item hitem)

/-- The schema accepts exactly the lists of entries. -/
theorem conforms_schema_iff (h : value.Ordered) :
    schema.Conforms value ↔
      ∃ collection items, Lists collection value items ∧ ∀ item ∈ items, IsEntry item := by
  constructor
  · intro hconforms
    cases value with
    | object members =>
      obtain ⟨hmembers, -, hmin, hmax⟩ :=
        (Schema.conforms_object_iff (by decide) h.ascending.nodup).mp hconforms
      have hlength : members.length = 1 := le_antisymm (hmax 1 rfl) (hmin 1 rfl)
      obtain ⟨⟨name, list⟩, rfl⟩ := List.length_eq_one_iff.mp hlength
      -- either list is named as its collection and has the schema of entries
      obtain ⟨collection, rfl, hlist⟩ : ∃ collection : Collection, collection.nounPlural = name ∧
          Schema.Conforms (.array true entrySchema) list := by
        obtain ⟨property, hproperty, hname, hlist⟩ := hmembers _ (List.mem_singleton_self _)
        rcases List.mem_pair.mp hproperty with rfl | rfl
        · exact ⟨.annotations, hname, hlist⟩
        · exact ⟨.labels, hname, hlist⟩
      rcases (conforms_entries_iff (h.of_mem (List.mem_singleton_self _))).mp hlist with
        rfl | ⟨items, rfl, hitems⟩
      · exact ⟨collection, [], .null, fun _ hitem => absurd hitem List.not_mem_nil⟩
      · exact ⟨collection, items, .array items, hitems⟩
    | _ => cases hconforms
  · rintro ⟨collection, items, hlists, hitems⟩
    obtain ⟨list, rfl, hlist⟩ := lists_iff.mp hlists
    have hconforms : Schema.Conforms (.array true entrySchema) list := by
      apply (conforms_entries_iff (h.of_mem (List.mem_singleton_self _))).mpr
      exact hlist.imp And.left fun hlist => ⟨items, hlist, hitems⟩
    apply (Schema.conforms_object_iff (by decide) h.ascending.nodup).mpr
    refine ⟨?_, ?_, ?_, ?_⟩
    · intro member hmember
      obtain rfl := List.mem_singleton.mp hmember
      cases collection with
      | annotations => exact ⟨_, List.mem_cons_self, rfl, hconforms⟩
      | labels => exact ⟨_, List.mem_cons_of_mem _ List.mem_cons_self, rfl, hconforms⟩
    · exact fun name hname => absurd hname List.not_mem_nil
    · rintro limit ⟨⟩
      exact le_rfl
    · rintro limit ⟨⟩
      exact le_rfl

end Schema

end KeyCatalog.Document
