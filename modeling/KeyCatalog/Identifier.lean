import KeyCatalog.Key
/-!
Identifiers that stand for keys in generated code. The words of the namespace are reversed, so an
identifier reads from the most general domain label to the most specific one, and the words of the
name follow in order: `cdi.kubevirt.io/storage.bind` gives `IoKubevirtCdiStorageBind`.
-/
namespace KeyCatalog.Identifier

def endsDomainWord (c : Char) : Bool :=
  c = '.' || c = '-'

def endsNameWord (c : Char) : Bool :=
  c = '.' || c = '_' || c = '-'

/-- The namespace part of an identifier: its words capitalized, the last one first. -/
def ofDomain (domain : Text) : Text :=
  ((Text.words endsDomainWord domain).reverse.map Text.capitalize).flatten

/-- The name part of an identifier: its words capitalized, in order. -/
def ofName (name : Text) : Text :=
  ((Text.words endsNameWord name).map Text.capitalize).flatten

/-- The identifier of a key. One copy of the suffix is first dropped from the namespace. -/
def derive (key : Key) (suffix : String) : String :=
  String.ofList
    (ofDomain (Text.dropSuffix key.domain.toList suffix.toList) ++ ofName key.name.toList)

/-- A stated identifier counts as it is unless it is empty; otherwise one is derived. -/
def resolve (key : Key) (stated : Option String) (suffix : String) : String :=
  (stated.filter (· ≠ "")).getD (derive key suffix)

end KeyCatalog.Identifier
