import KeyCatalog.Json
/-!
Schemas for JSON values and the list of a value's violations. A value of a wrong type has that
violation only; otherwise the parts come before the whole, members in the order of the schema and
items by position, and then what is wrong with the value itself.
-/
namespace KeyCatalog

/-- A schema. The properties of an object are listed in ascending order of their names, and no
others may be present. -/
inductive Schema where
  | boolean
  | string (minLength : Nat)
  | array (nullable : Bool) (items : Schema)
  | object (properties : List (String × Schema)) (required : List String)
      (minProperties maxProperties : Option Nat)

/-- A position in a document, as a JSON pointer. -/
abbrev Pointer := String

/-- What is wrong with a value. -/
inductive Problem where
  | wrongType (value : Json) (types : List String)
  | unexpected (names : List String)
  | missing (name : String)
  | tooMany (value : Json) (limit : Nat)
  | tooFew (value : Json) (limit : Nat)
  | tooShort (value : Json) (limit : Nat)
deriving DecidableEq, Repr

structure Violation where
  pointer : Pointer
  problem : Problem
deriving DecidableEq, Repr

namespace Problem

def counted (count : Nat) (one many : String) : String :=
  toString count ++ " " ++ (if count = 1 then one else many)

def message : Problem → String
  | .wrongType value [type] => value.compact ++ " is not of type \"" ++ type ++ "\""
  | .wrongType value types =>
    value.compact ++ " is not of types " ++
      ", ".intercalate (types.map fun type => "\"" ++ type ++ "\"")
  | .unexpected names =>
    "Additional properties are not allowed (" ++
      ", ".intercalate (names.map fun name => "'" ++ name ++ "'") ++
      (if names.length = 1 then " was" else " were") ++ " unexpected)"
  | .missing name => Json.quote name ++ " is a required property"
  | .tooMany value limit =>
    value.compact ++ " has more than " ++ counted limit "property" "properties"
  | .tooFew value limit =>
    value.compact ++ " has less than " ++ counted limit "property" "properties"
  | .tooShort value limit =>
    value.compact ++ " is shorter than " ++ counted limit "character" "characters"

end Problem

/-- A line of a report; the document itself is written as a slash. -/
def Violation.message (violation : Violation) : String :=
  (if violation.pointer = "" then "/" else violation.pointer) ++ ": " ++
    violation.problem.message

namespace Schema

def types : Schema → List String
  | .boolean => ["boolean"]
  | .string _ => ["string"]
  | .array true _ => ["array", "null"]
  | .array false _ => ["array"]
  | .object _ _ _ _ => ["object"]

def itemViolations (check : Pointer → Json → List Violation) (pointer : Pointer) :
    (position : Nat) → List Json → List Violation
  | _, [] => []
  | position, item :: rest =>
    check (pointer ++ "/" ++ toString position) item ++
      itemViolations check pointer (position + 1) rest

def objectProblems (names required : List String) (minProperties maxProperties : Option Nat)
    (members : List (String × Json)) : List Problem :=
  let unexpected := (members.map Prod.fst).filter fun name => !names.contains name
  let missing := required.filter fun name => !(members.map Prod.fst).contains name
  let tooMany := maxProperties.filter (· < members.length)
  let tooFew := minProperties.filter (members.length < ·)
  (if unexpected.isEmpty then [] else [.unexpected unexpected]) ++
    tooMany.toList.map (Problem.tooMany (.object members)) ++
    tooFew.toList.map (Problem.tooFew (.object members)) ++
    missing.map Problem.missing

mutual

def violations : Schema → Pointer → Json → List Violation
  | .boolean, _, .bool _ => []
  | .string minLength, pointer, .string text =>
    if text.length < minLength then [⟨pointer, .tooShort (.string text) minLength⟩] else []
  | .array true _, _, .null => []
  | .array _ items, pointer, .array values =>
    itemViolations (fun pointer value => items.violations pointer value) pointer 0 values
  | .object properties required minProperties maxProperties, pointer, .object members =>
    propertyViolations properties pointer members ++
      (objectProblems (properties.map Prod.fst) required minProperties maxProperties
        members).map (Violation.mk pointer)
  | schema, pointer, value => [⟨pointer, .wrongType value schema.types⟩]

/-- The violations of the members that have a schema, in the order of the schemas. -/
def propertyViolations : List (String × Schema) → Pointer → List (String × Json) → List Violation
  | [], _, _ => []
  | (name, schema) :: rest, pointer, members =>
    ((members.lookup name).toList.flatMap fun value =>
      schema.violations (pointer ++ "/" ++ name) value) ++
      propertyViolations rest pointer members

end

end Schema
end KeyCatalog
