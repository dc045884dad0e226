import KeyCatalog.Proofs.Document.Reading
import KeyCatalog.Proofs.Generation
import KeyCatalog.Proofs.Index.Distinctive
/-!
The bundled catalogs. Their records are told apart by their names alone, so they are resolved with
every suffix, and what they are resolved as is the same whether they come from the repository, from
their text, or from a file with that text.
-/
namespace KeyCatalog

namespace Document

/-- Messages name the origin of a text, but what is read from it does not depend on the origin. -/
theorem parse_of_origin {yaml origin : String} {collection : Collection} {records : List Record}
    (h : parse yaml collection origin = .ok records) (other : String) :
    parse yaml collection other = .ok records := by
  cases hvalue : Yaml.read? yaml with
  | none =>
    rw [parse, hvalue] at h
    cases h
  | some value => exact (parse_eq_ok_iff hvalue).mpr ((parse_eq_ok_iff hvalue).mp h)

def readsDistinctive (collection : Collection) (text : Text) : Bool :=
  match Yaml.ofText? text with
  | none => false
  | some value =>
    match ofJson value collection "" with
    | .error _ => false
    | .ok records => decide (Distinctive collection records)

/-- Reading a text from its characters is enough to know its records, under any name for the
text. -/
theorem exists_distinctive {yaml : String} {collection : Collection} {text : Text}
    (htext : yaml = String.ofList text) (h : readsDistinctive collection text = true) :
    ∃ records, Distinctive collection records ∧
      ∀ origin, parse yaml collection origin = .ok records := by
  rw [readsDistinctive] at h
  split at h
  · cases h
  next value hvalue =>
  split at h
  · cases h
  next records hrecords =>
  have hparse : parse yaml collection "" = .ok records := by
    rw [parse, Yaml.read?, htext, String.toList_ofList, hvalue]
    exact hrecords
  exact ⟨records, of_decide_eq_true h, parse_of_origin hparse⟩

end Document

namespace Bundled

set_option maxRecDepth 100000 in
/-- Both bundled documents have distinctive records. -/
theorem exists_distinctive (collection : Collection) :
    ∃ records, Distinctive collection records ∧
      ∀ origin, Document.parse (source collection) collection origin = .ok records := by
  -- the characters are read off the text as it stands; evaluating `toList` on it would be slow
  cases collection with
  | annotations =>
    have htext : annotations = String.ofList _ := rfl
    exact Document.exists_distinctive htext (by decide +kernel)
  | labels =>
    have htext : labels = String.ofList _ := rfl
    exact Document.exists_distinctive htext (by decide +kernel)

/-- A bundled catalog is resolved with every suffix, whatever its text is said to come from. -/
theorem exists_index (collection : Collection) (suffix : String) :
    ∃ index, ∀ origin, Index.ofYaml (source collection) collection suffix origin = .ok index := by
  obtain ⟨records, hdistinctive, hparse⟩ := exists_distinctive collection
  obtain ⟨index, hindex⟩ := Index.exists_build_of_distinctive hdistinctive suffix
  exact ⟨index, fun origin => Index.ofYaml_eq_ok_iff.mpr ⟨records, hparse origin, hindex⟩⟩

/-- The bundled catalogs are resolved. -/
theorem exists_repository : ∃ repository, Bundled.repository = .ok repository := by
  obtain ⟨annotations, hannotations⟩ := exists_index .annotations defaultSuffix
  obtain ⟨labels, hlabels⟩ := exists_index .labels defaultSuffix
  exact ⟨_, repositoryOf_eq_ok_iff.mpr ⟨annotations, labels, hannotations _, hlabels _, rfl⟩⟩

end Bundled

namespace Generation

variable {tree : FileTree} {collection : Collection} {suffix path : String} {index : Index}

theorem loadBundled_of_repository {repository : Repository}
    (h : Bundled.repository = .ok repository) (hindex : Bundled.index collection suffix = .ok index) :
    loadBundled collection suffix = .ok index := by
  -- the repository was resolved with the default suffix, so it holds the same catalog
  by_cases hsuffix : suffix = defaultSuffix
  · obtain ⟨other, hother, hget⟩ := Bundled.exists_index_of_repository h collection
    rw [hsuffix] at hindex
    cases hindex.symm.trans hother
    simp only [loadBundled, if_pos hsuffix, h, hget]
  · rw [loadBundled, if_neg hsuffix, hindex]
    rfl

/-- The input counts for the catalog only. -/
theorem run_congr_index {request : Request} {input other : Option String}
    (h : Generation.index { request with input } (input.bind tree.readText?) =
      Generation.index { request with input := other } (other.bind tree.readText?)) :
    (run tree { request with input }).result = (run tree { request with input := other }).result ∧
    (run tree { request with input }).tree = (run tree { request with input := other }).tree := by
  -- an input matters to a run only through the catalog
  have hplan : plan tree.workingDirectory { request with input } (input.bind tree.readText?) =
      plan tree.workingDirectory { request with input := other }
        (other.bind tree.readText?) := by
    rw [plan, plan, h]
    rfl
  simp only [run, hplan]
  cases plan tree.workingDirectory { request with input := other } (other.bind tree.readText?) with
  | error error => exact ⟨rfl, rfl⟩
  | ok planned =>
    cases hwritten : (Output.writeAll tree planned.outputs).result with
    | error error => simp only [hwritten, and_self]
    | ok _ => simp only [hwritten, and_self]

/-- Whatever suffix is dropped, a bundled catalog is resolved. It is the same one whether it is
taken from the repository, resolved from its text, or read from a file with that text, and so a run
without an input ends like a run with that file as its input. -/
theorem bundled_equals_file (collection : Collection) (suffix : String) :
    ∃ index, loadBundled collection suffix = .ok index ∧
      Bundled.index collection suffix = .ok index ∧
      (∃ repository, Bundled.repository = .ok repository ∧
        (suffix = defaultSuffix → repository.get? collection = some index)) ∧
      ∀ tree path, tree.readText? path = some (Bundled.source collection) →
        load tree path collection suffix = .ok index ∧
        ∀ request : Request, request.collection = collection → request.domainSuffix = suffix →
          (run tree { request with input := none }).result =
            (run tree { request with input := some path }).result ∧
          (run tree { request with input := none }).tree =
            (run tree { request with input := some path }).tree := by
  obtain ⟨index, hindex⟩ := Bundled.exists_index collection suffix
  obtain ⟨repository, hrepository⟩ := Bundled.exists_repository
  have hbundled : Bundled.index collection suffix = .ok index := hindex _
  have hload : loadBundled collection suffix = .ok index :=
    loadBundled_of_repository hrepository hbundled
  refine ⟨index, hload, hbundled, ⟨repository, hrepository, ?_⟩, ?_⟩
  · rintro rfl
    obtain ⟨other, hother, hget⟩ := Bundled.exists_index_of_repository hrepository collection
    -- the repository resolved the same text with the same suffix
    cases hbundled.symm.trans hother
    exact hget
  · intro tree path htext
    have hfile : load tree path collection suffix = .ok index := by
      rw [load, htext, loadText, hindex path]
      rfl
    refine ⟨hfile, ?_⟩
    rintro request rfl rfl
    exact run_congr_index (hload.trans hfile.symm)

/-- A tree with the text of the bundled labels on file. -/
def labelShelf : FileTree :=
  (FileTree.fresh ["work"]).set ["work", "labels.yaml"]
    (.file 0o644 (Bytes.ofText (Bundled.source .labels)))

theorem readText?_labelShelf :
    labelShelf.readText? "labels.yaml" = some (Bundled.source .labels) := by
  have hplace : labelShelf.locate? "labels.yaml" = some ["work", "labels.yaml"] := by
    decide +kernel
  have hnode : labelShelf.node? ["work", "labels.yaml"] =
      some (.file 0o644 (Bytes.ofText (Bundled.source .labels))) :=
    FileTree.node?_set_self _ _ (by decide)
  have hread : labelShelf.read? "labels.yaml" = some (Bytes.ofText (Bundled.source .labels)) := by
    rw [FileTree.read?, hplace, Option.bind_some, hnode]
  rw [FileTree.readText?, hread, Option.bind_some, Bytes.text?_ofText]

/-- The suffix is the whole namespace of every bundled label. -/
def labelShelfRequest : Request where
  collection := .labels
  outputGo := "keys.go"
  outputTypeScript := "keys.ts"
  package := some "keys"
  domainSuffix := "vink.kubevm.io"

/-- The bundled labels on file, with their whole namespace for a suffix. -/
theorem bundled_equals_file_labelShelf :
    labelShelf.readText? "labels.yaml" = some (Bundled.source .labels) ∧
    (∃ index, loadBundled .labels "vink.kubevm.io" = .ok index ∧
      load labelShelf "labels.yaml" .labels "vink.kubevm.io" = .ok index) ∧
    (run labelShelf labelShelfRequest).result =
      (run labelShelf { labelShelfRequest with input := some "labels.yaml" }).result ∧
    (run labelShelf labelShelfRequest).tree =
      (run labelShelf { labelShelfRequest with input := some "labels.yaml" }).tree := by
  obtain ⟨index, hload, -, -, hfile⟩ := bundled_equals_file .labels "vink.kubevm.io"
  obtain ⟨hindex, hrun⟩ := hfile labelShelf "labels.yaml" readText?_labelShelf
  exact ⟨readText?_labelShelf, ⟨index, hload, hindex⟩, hrun labelShelfRequest rfl rfl⟩

end Generation
end KeyCatalog
