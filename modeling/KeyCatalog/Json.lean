import KeyCatalog.Binary64
/-!
JSON values as catalog documents are checked and decoded, and their compact text. The members of
an object are kept in ascending order of their names, and a name set twice keeps its last value.
-/
namespace KeyCatalog

/-- A JSON value; numbers are whole or finite doubles. -/
inductive Json where
  | null
  | bool (value : Bool)
  | integer (value : Int)
  | float (value : Binary64)
  | string (value : String)
  | array (items : List Json)
  | object (members : List (String × Json))
deriving Repr, Inhabited

namespace Json

mutual

def same : Json → Json → Bool
  | .null, .null => true
  | .bool value, .bool other => value = other
  | .integer value, .integer other => value = other
  | .float value, .float other => value = other
  | .string value, .string other => value = other
  | .array items, .array others => sameItems items others
  | .object members, .object others => sameMembers members others
  | _, _ => false

def sameItems : List Json → List Json → Bool
  | [], [] => true
  | item :: rest, other :: others => item.same other && sameItems rest others
  | _, _ => false

def sameMembers : List (String × Json) → List (String × Json) → Bool
  | [], [] => true
  | (name, value) :: rest, (other, otherValue) :: others =>
    name = other && value.same otherValue && sameMembers rest others
  | _, _ => false

end

mutual

/-- The comparison tells values apart. -/
theorem same_iff (value other : Json) : value.same other = true ↔ value = other := by
  match value with
  | .array items =>
    cases other with
    | array others => simp [same, sameItems_iff items others]
    | _ => simp [same]
  | .object members =>
    cases other with
    | object others => simp [same, sameMembers_iff members others]
    | _ => simp [same]
  | .null | .bool _ | .integer _ | .float _ | .string _ => cases other <;> simp [same]

theorem sameItems_iff (items others : List Json) :
    sameItems items others = true ↔ items = others := by
  match items, others with
  | [], [] | [], _ :: _ | _ :: _, [] => simp [sameItems]
  | item :: rest, other :: others =>
    simp [sameItems, same_iff item other, sameItems_iff rest others]

theorem sameMembers_iff (members others : List (String × Json)) :
    sameMembers members others = true ↔ members = others := by
  match members, others with
  | [], [] | [], _ :: _ | _ :: _, [] => simp [sameMembers]
  | (name, value) :: rest, (other, otherValue) :: others =>
    simp [sameMembers, same_iff value otherValue, sameMembers_iff rest others]

end

instance : DecidableEq Json := fun value other => decidable_of_iff _ (same_iff value other)

/-- Sets a member, in the place that its name has in ascending order. -/
def insertMember (name : String) (value : Json) : List (String × Json) → List (String × Json)
  | [] => [(name, value)]
  | (other, old) :: rest =>
    if name = other then (name, value) :: rest
    else if name < other then (name, value) :: (other, old) :: rest
    else (other, old) :: insertMember name value rest

def ofMembers (members : List (String × Json)) : Json :=
  .object (members.foldl (fun set member => insertMember member.1 member.2 set) [])

/-- A character of a string as JSON writes it: the quote, the backslash and control characters
are escaped, with short forms where JSON has them. -/
def escapeChar (c : Char) : List Char :=
  if c = '"' then ['\\', '"']
  else if c = '\\' then ['\\', '\\']
  else if c = '\n' then ['\\', 'n']
  else if c = '\r' then ['\\', 'r']
  else if c = '\t' then ['\\', 't']
  else if c = '\x08' then ['\\', 'b']
  else if c = '\x0c' then ['\\', 'f']
  else if c.toNat < 0x20 then
    ['\\', 'u', '0', '0', Nat.digitChar (c.toNat / 16), Nat.digitChar (c.toNat % 16)]
  else [c]

def quote (text : String) : String :=
  String.ofList ('"' :: text.toList.flatMap escapeChar ++ ['"'])

/-- Doubles have at least one digit after the point. They are positional from `1e-5` up to, and
not including, `1e16`; otherwise the exponent has its sign. -/
def floatText (x : Binary64) : String :=
  let sign := if x.negative then ['-'] else []
  if x.significand = 0 then String.ofList (sign ++ ['0', '.', '0'])
  else
    let decimal := x.shortest
    let digits := Nat.toDigits 10 decimal.digits
    let leading : Int := digits.length - 1 + decimal.exponent
    let magnitude :=
      if -5 ≤ leading ∧ leading < 16 then
        if 0 ≤ decimal.exponent then
          digits ++ List.replicate decimal.exponent.toNat '0' ++ ['.', '0']
        else if 0 ≤ leading then
          digits.take (leading.toNat + 1) ++ '.' :: digits.drop (leading.toNat + 1)
        else
          '0' :: '.' :: List.replicate (-leading - 1).toNat '0' ++ digits
      else
        digits.take 1 ++ (if digits.length = 1 then [] else '.' :: digits.drop 1) ++
          'e' :: (if leading < 0 then '-' else '+') :: Nat.toDigits 10 leading.natAbs
    String.ofList (sign ++ magnitude)

mutual

def compact : Json → String
  | .null => "null"
  | .bool value => if value then "true" else "false"
  | .integer value => toString value
  | .float value => floatText value
  | .string value => quote value
  | .array items => "[" ++ ",".intercalate (compactItems items) ++ "]"
  | .object members => "\x7b" ++ ",".intercalate (compactMembers members) ++ "\x7d"

def compactItems : List Json → List String
  | [] => []
  | item :: rest => item.compact :: compactItems rest

def compactMembers : List (String × Json) → List String
  | [] => []
  | (name, value) :: rest => (quote name ++ ":" ++ value.compact) :: compactMembers rest

end

example : (Json.float ⟨false, 1, 0⟩).compact = "1.0" := by decide +kernel

example : (Json.float ⟨true, 0, -1074⟩).compact = "-0.0" := by decide +kernel

example : ((Binary64.ofDecimal? false ⟨15, 15⟩).map floatText) = some "1.5e+16" := by
  decide +kernel

example : ((Binary64.ofDecimal? true ⟨1, -6⟩).map floatText) = some "-1e-6" := by
  decide +kernel

example : ((Binary64.ofDecimal? false ⟨1, -5⟩).map floatText) = some "0.00001" := by
  decide +kernel

example : (Json.ofMembers [("b", .integer 1), ("a", .null), ("b", .string "\n")]).compact =
    "\x7b\"a\":null,\"b\":\"\\n\"\x7d" := by
  decide +kernel

end Json
end KeyCatalog
