import KeyCatalog.Json
import KeyCatalog.Yaml.Property
/-!
The values of scalars. A plain scalar without a tag is null, a boolean, an integer or a float if
it is written like one, and a string otherwise; a tag asks for one of them.
-/
namespace KeyCatalog.Yaml

namespace Scalar

def isNull (text : List Char) : Bool :=
  ["~", "null", "Null", "NULL"].contains (String.ofList text)

def bool? (text : List Char) : Option Bool :=
  if ["true", "True", "TRUE"].contains (String.ofList text) then some true
  else if ["false", "False", "FALSE"].contains (String.ofList text) then some false
  else none

def unsigned : List Char → List Char
  | '+' :: rest | '-' :: rest => rest
  | text => text

def digit? (base : Nat) (c : Char) : Option Nat :=
  (hexDigit? c).filter (· < base)

def digits? (base : Nat) (text : List Char) : Option Nat :=
  if text.isEmpty then none
  else text.foldlM (fun value c => (digit? base c).map (value * base + ·)) 0

/-- More than one decimal digit with a leading zero, which is no number. -/
def isZeroLed (text : List Char) : Bool :=
  match unsigned text with
  | '0' :: rest => !rest.isEmpty && rest.all Char.isDigit
  | _ => false

def magnitude? : List Char → Option Nat
  | '0' :: 'x' :: rest => digits? 16 rest
  | '0' :: 'o' :: rest => digits? 8 rest
  | '0' :: 'b' :: rest => digits? 2 rest
  | text => if isZeroLed text then none else digits? 10 text

/-- How an integer is read: not at all, as a value, or as one of more than 64 bits, which has no
value. -/
inductive IntegerText where
  | other
  | value (integer : Int)
  | tooWide
deriving DecidableEq, Repr

/-- An integer. Beyond 128 bits a text is no integer. -/
def integer (text : List Char) : IntegerText :=
  match text with
  | '-' :: rest =>
    match magnitude? rest with
    | some n =>
      if n ≤ twoTo 63 then .value (-n) else if n ≤ twoTo 127 then .tooWide else .other
    | none => .other
  | text =>
    match magnitude? (if text.head? = some '+' then text.drop 1 else text) with
    | some n => if n < twoTo 64 then .value n else if n < twoTo 128 then .tooWide else .other
    | none => .other

def exponent? : List Char → Option Int
  | [] => some 0
  | c :: rest =>
    if c ≠ 'e' && c ≠ 'E' then none
    else (digits? 10 (unsigned rest)).map fun n => if rest.head? = some '-' then -(n : Int) else n

/-- A decimal: digits with at most one point among them, at least one digit, and perhaps an
exponent. -/
def decimal? (text : List Char) : Option Decimal := do
  let whole := text.takeWhile Char.isDigit
  let rest := text.dropWhile Char.isDigit
  let (fraction, rest) :=
    match rest with
    | '.' :: rest => (rest.takeWhile Char.isDigit, rest.dropWhile Char.isDigit)
    | rest => ([], rest)
  let digits ← digits? 10 (whole ++ fraction)
  some ⟨digits, (← exponent? rest) - fraction.length⟩

/-- A float. Infinities and not-a-number have no value in JSON and become null; a decimal that is
too large for a double is no float. -/
def float? (text : List Char) : Option Json :=
  if [".inf", ".Inf", ".INF", "+.inf", "+.Inf", "+.INF", "-.inf", "-.Inf", "-.INF", ".nan",
      ".NaN", ".NAN"].contains (String.ofList text) then some .null
  else do
    (← Binary64.ofDecimal? (text.head? = some '-') (← decimal? (unsigned text)) |>.map Json.float)

def plain? (text : List Char) : Option Json :=
  if text.isEmpty || isNull text then some .null
  else
    match bool? text, integer text with
    | some value, _ => some (.bool value)
    | none, .value n => some (.integer n)
    | none, .tooWide => none
    | none, .other =>
      if isZeroLed text then some (.string (String.ofList text))
      else some ((float? text).getD (.string (String.ofList text)))

inductive Kind where
  | null
  | bool
  | integer
  | float
deriving DecidableEq, Repr

def Kind.ofTag? (tag : Tag) : Option Kind :=
  let kinds : List (String × Kind) :=
    [("null", .null), ("bool", .bool), ("int", .integer), ("float", .float)]
  (kinds.map fun (name, kind) => (Tag.ofText ("tag:yaml.org,2002:" ++ name).toList, kind)).lookup tag

def ofKind? (kind : Kind) (text : List Char) : Option Json :=
  match kind with
  | .null => if isNull text then some .null else none
  | .bool => (bool? text).map .bool
  | .integer =>
    match integer text with
    | .value n => some (.integer n)
    | _ => none
  | .float => float? text

end Scalar

/-- A local tag, which no value has. A tag that is not text is not local. -/
def Tag.isLocal (tag : Tag) : Bool :=
  tag.head? = some '!'.toUInt8 && (tag.drop 1).toByteArray.validateUTF8

def scalarValue? (tag : Option Tag) (text : String) (plain : Bool) : Option Json :=
  match tag with
  | none => if plain then Scalar.plain? text.toList else some (.string text)
  | some tag =>
    if tag.isLocal then none
    else
      match Scalar.Kind.ofTag? tag with
      | some kind => Scalar.ofKind? kind text.toList
      | none =>
        if tag.head? = some '!'.toUInt8 && plain then Scalar.plain? text.toList
        else some (.string text)

end KeyCatalog.Yaml
