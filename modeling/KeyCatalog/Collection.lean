/-!
The two collections of metadata keys. They differ in the list of a catalog document that holds
them and in the words and links of a listing.
-/
namespace KeyCatalog

/-- The kind of metadata that a catalog describes. -/
inductive Collection where
  | annotations
  | labels
deriving DecidableEq, Repr

namespace Collection

def all : List Collection := [.annotations, .labels]

def title : Collection → String
  | .annotations => "Annotation"
  | .labels => "Label"

def titlePlural : Collection → String
  | .annotations => "Annotations"
  | .labels => "Labels"

def noun : Collection → String
  | .annotations => "annotation"
  | .labels => "label"

/-- What the members are called; a catalog document holds them under this name. -/
def nounPlural : Collection → String
  | .annotations => "annotations"
  | .labels => "labels"

def reference : Collection → String
  | .annotations => "https://github.com/kubevm-io/vink/docs/reference/config/annotations/"
  | .labels => "https://github.com/kubevm-io/vink/docs/reference/config/labels/"

def concept : Collection → String
  | .annotations =>
    "https://kubernetes.io/docs/concepts/overview/working-with-objects/annotations/"
  | .labels => "https://kubernetes.io/docs/concepts/overview/working-with-objects/labels/"

structure Unrecognized where
  value : String
deriving DecidableEq, Repr

def Unrecognized.message (error : Unrecognized) : String :=
  "unrecognized collection_type '" ++ error.value ++ "' (expected annotations|labels)"

/-- The collection of a name, in the singular or in the plural. -/
def parse (value : String) : Except Unrecognized Collection :=
  match all.find? fun collection => value = collection.nounPlural || value = collection.noun with
  | some collection => .ok collection
  | none => .error ⟨value⟩

end Collection
end KeyCatalog
