import KeyCatalog.Schema
import KeyCatalog.Proofs.Json
/-!
What a schema asks of a value, said without a list of violations: a value has none if and only if
it conforms.
-/
namespace KeyCatalog.Schema

/-- A value is as a schema asks. Of an object the members are looked up by their names. -/
inductive Conforms : Schema → Json → Prop
  | boolean (value : Bool) : Conforms .boolean (.bool value)
  | string {minLength : Nat} {text : String} (h : minLength ≤ text.length) :
      Conforms (.string minLength) (.string text)
  | null (items : Schema) : Conforms (.array true items) .null
  | array {nullable : Bool} {items : Schema} {values : List Json}
      (h : ∀ value ∈ values, Conforms items value) : Conforms (.array nullable items) (.array values)
  | object {properties : List (String × Schema)} {required : List String}
      {minProperties maxProperties : Option Nat} {members : List (String × Json)}
      (hproperties : ∀ property ∈ properties, ∀ value, members.lookup property.1 = some value →
        Conforms property.2 value)
      (hnames : ∀ member ∈ members, member.1 ∈ properties.map Prod.fst)
      (hrequired : ∀ name ∈ required, name ∈ members.map Prod.fst)
      (hmin : ∀ limit ∈ minProperties, limit ≤ members.length)
      (hmax : ∀ limit ∈ maxProperties, members.length ≤ limit) :
      Conforms (.object properties required minProperties maxProperties) (.object members)

theorem itemViolations_eq_nil_iff {check : Pointer → Json → List Violation} {P : Json → Prop}
    (hcheck : ∀ pointer value, check pointer value = [] ↔ P value) (pointer : Pointer)
    (position : Nat) (values : List Json) :
    itemViolations check pointer position values = [] ↔ ∀ value ∈ values, P value := by
  induction values generalizing position with
  | nil => exact ⟨fun _ _ hvalue => absurd hvalue List.not_mem_nil, fun _ => rfl⟩
  | cons value rest ih =>
    rw [itemViolations, List.append_eq_nil_iff, hcheck, ih, List.forall_mem_cons]

/-- An object as a whole has no problem if its names are known, the required ones are there and its
size is within bounds. -/
theorem objectProblems_eq_nil_iff {names required : List String}
    {minProperties maxProperties : Option Nat} {members : List (String × Json)} :
    objectProblems names required minProperties maxProperties members = [] ↔
      (∀ member ∈ members, member.1 ∈ names) ∧
      (∀ name ∈ required, name ∈ members.map Prod.fst) ∧
      (∀ limit ∈ minProperties, limit ≤ members.length) ∧
      ∀ limit ∈ maxProperties, members.length ≤ limit := by
  -- one fact for each kind of problem
  have hunexpected : ((members.map Prod.fst).filter fun name => !names.contains name) = [] ↔
      ∀ member ∈ members, member.1 ∈ names := by
    simp [List.filter_eq_nil_iff]
  have hmissing : (required.filter fun name => !(members.map Prod.fst).contains name) = [] ↔
      ∀ name ∈ required, name ∈ members.map Prod.fst := by
    simp [List.filter_eq_nil_iff]
  have hfew : (minProperties.filter (members.length < ·)).toList = [] ↔
      ∀ limit ∈ minProperties, limit ≤ members.length := by
    simp [Option.filter_eq_none_iff]
  have hmany : (maxProperties.filter (· < members.length)).toList = [] ↔
      ∀ limit ∈ maxProperties, members.length ≤ limit := by
    simp [Option.filter_eq_none_iff]
  simp only [objectProblems, List.append_eq_nil_iff, List.map_eq_nil_iff, hmissing, hfew, hmany,
    ite_eq_left_iff, List.isEmpty_iff, hunexpected, reduceCtorEq, imp_false, not_not]
  exact ⟨fun ⟨⟨⟨h, hmax⟩, hmin⟩, h'⟩ => ⟨h, h', hmin, hmax⟩,
    fun ⟨h, h', hmin, hmax⟩ => ⟨⟨⟨h, hmax⟩, hmin⟩, h'⟩⟩

mutual

/-- A value has no violations exactly if it conforms. -/
theorem violations_eq_nil_iff : (schema : Schema) → (pointer : Pointer) → (value : Json) →
    (schema.violations pointer value = [] ↔ Conforms schema value)
  | .boolean, pointer, value => by
    constructor
    · intro h
      cases value with
      | bool value => exact .boolean value
      | _ => cases h
    · rintro ⟨⟩
      rfl
  | .string minLength, pointer, value => by
    constructor
    · intro h
      cases value with
      | string text =>
        rw [violations] at h
        split at h
        · cases h
        · next hlength => exact .string (Nat.le_of_not_lt hlength)
      | _ => cases h
    · intro h
      cases h with
      | string hlength => rw [violations, if_neg (Nat.not_lt_of_le hlength)]
  | .array nullable items, pointer, value => by
    -- the recursion on the schema of the items enters here, for items at any position
    have hitems (values : List Json) :
        (Schema.array nullable items).violations pointer (.array values) = [] ↔
          ∀ value ∈ values, Conforms items value := by
      rw [violations]
      exact itemViolations_eq_nil_iff (violations_eq_nil_iff items) pointer 0 values
    constructor
    · intro h
      cases value with
      | null =>
        cases nullable with
        | true => exact .null items
        | false => cases h
      | array values => exact .array ((hitems values).mp h)
      | _ => cases nullable <;> cases h
    · intro h
      cases h with
      | null => rfl
      | array h => exact (hitems _).mpr h
  | .object properties required minProperties maxProperties, pointer, value => by
    constructor
    · intro h
      cases value with
      | object members =>
        -- members are looked at one by one, and the object as a whole
        rw [violations, List.append_eq_nil_iff, List.map_eq_nil_iff] at h
        obtain ⟨hnames, hrequired, hmin, hmax⟩ := objectProblems_eq_nil_iff.mp h.2
        exact .object ((propertyViolations_eq_nil_iff properties pointer members).mp h.1) hnames
          hrequired hmin hmax
      | _ => cases h
    · intro h
      cases h with
      | object hproperties hnames hrequired hmin hmax =>
        rw [violations, List.append_eq_nil_iff, List.map_eq_nil_iff]
        exact ⟨(propertyViolations_eq_nil_iff properties pointer _).mpr hproperties,
          objectProblems_eq_nil_iff.mpr ⟨hnames, hrequired, hmin, hmax⟩⟩

theorem propertyViolations_eq_nil_iff : (properties : List (String × Schema)) →
    (pointer : Pointer) → (members : List (String × Json)) →
    (propertyViolations properties pointer members = [] ↔ ∀ property ∈ properties, ∀ value,
      members.lookup property.1 = some value → Conforms property.2 value)
  | [], _, _ => ⟨fun _ _ hproperty => absurd hproperty List.not_mem_nil, fun _ => rfl⟩
  | (name, schema) :: rest, pointer, members => by
    have hfirst : ((members.lookup name).toList.flatMap fun value =>
        schema.violations (pointer ++ "/" ++ name) value) = [] ↔
        ∀ value, members.lookup name = some value → Conforms schema value := by
      simp only [List.flatMap_eq_nil_iff, Option.mem_toList,
        violations_eq_nil_iff schema (pointer ++ "/" ++ name)]
    rw [propertyViolations, List.append_eq_nil_iff, hfirst,
      propertyViolations_eq_nil_iff rest pointer members, List.forall_mem_cons]

end

/-- Where no name stands twice, each member is as the property of its name asks. -/
theorem conforms_object_iff {properties : List (String × Schema)} {required : List String}
    {minProperties maxProperties : Option Nat} {members : List (String × Json)}
    (hproperties : (properties.map Prod.fst).Nodup) (hmembers : (members.map Prod.fst).Nodup) :
    Conforms (.object properties required minProperties maxProperties) (.object members) ↔
      (∀ member ∈ members, ∃ property ∈ properties, property.1 = member.1 ∧
        Conforms property.2 member.2) ∧
      (∀ name ∈ required, name ∈ members.map Prod.fst) ∧
      (∀ limit ∈ minProperties, limit ≤ members.length) ∧
      ∀ limit ∈ maxProperties, members.length ≤ limit := by
  constructor
  · intro h
    cases h with
    | object hconforms hnames hrequired hmin hmax =>
      refine ⟨?_, hrequired, hmin, hmax⟩
      intro member hmember
      obtain ⟨property, hproperty, hname⟩ := List.mem_map.mp (hnames member hmember)
      refine ⟨property, hproperty, hname, hconforms property hproperty _ ?_⟩
      rw [lookup_eq_some_iff_mem hmembers, hname]
      exact hmember
  · rintro ⟨hconforms, hrequired, hmin, hmax⟩
    refine .object ?_ ?_ hrequired hmin hmax
    · intro property hproperty value hvalue
      obtain ⟨other, hother, hname, hvalue⟩ := hconforms _ (mem_of_lookup_eq_some hvalue)
      -- the two properties have the same name
      obtain rfl := List.inj_on_of_nodup_map hproperties hother hproperty hname
      exact hvalue
    · intro member hmember
      obtain ⟨property, hproperty, hname, -⟩ := hconforms member hmember
      exact List.mem_map.mpr ⟨property, hproperty, hname⟩

end KeyCatalog.Schema
