import KeyCatalog.Key
/-!
The maturity of a catalog entry: what an author states, or else what the key says. The first label
of a key may name a maturity, as in `beta.example.io/flag`; every other key is alpha.
-/
namespace KeyCatalog

/-- The maturity of an entry, from least to most stable. -/
inductive Maturity where
  | alpha
  | beta
  | stable
deriving DecidableEq, Repr

namespace Maturity

def all : List Maturity := [.alpha, .beta, .stable]

def name : Maturity → String
  | .alpha => "Alpha"
  | .beta => "Beta"
  | .stable => "Stable"

def ofName? (text : Text) : Option Maturity :=
  all.find? fun maturity => Text.equalUpToCase maturity.name.toList text

/-- A stated maturity that is none. -/
structure Unrecognized where
  value : String
deriving DecidableEq, Repr

def Unrecognized.message (error : Unrecognized) : String :=
  "unrecognized feature status '" ++ error.value ++ "' (expected alpha|beta|stable)"

/-- The maturity that a key names in its text up to the first dot. -/
def ofKey (key : Key) : Maturity :=
  (ofName? (key.text.toList.takeWhile (· ≠ '.'))).getD .alpha

/-- A stated maturity counts unless it is empty; otherwise the key decides. -/
def resolve (key : Key) (stated : Option String) : Except Unrecognized Maturity :=
  match stated.filter (· ≠ "") with
  | some value =>
    match ofName? value.toList with
    | some maturity => .ok maturity
    | none => .error ⟨value⟩
  | none => .ok (ofKey key)

end Maturity
end KeyCatalog
