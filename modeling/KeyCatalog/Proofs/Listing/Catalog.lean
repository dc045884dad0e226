import KeyCatalog.Proofs.Index.Resolution
import KeyCatalog.Proofs.Listing.Go
import KeyCatalog.Proofs.Listing.TypeScript
/-!
A listing determines its catalog, up to the normal forms of descriptions: it can be read, and what
it says depends on nothing else. So two catalogs have one listing in a language if and only if they
have one in the other language.
-/
namespace KeyCatalog
open Listing

def Language.contents (language : Language) (collection : Collection) (package : String) :
    Reader Contents :=
  match language with
  | .go => Go.contents collection package
  | .typeScript => TypeScript.contents collection

/-- The contents of a listing, which is read to its end. -/
def Language.read? (language : Language) (collection : Collection) (package listing : String) :
    Option Contents :=
  match language.contents collection package listing.toList with
  | some (contents, []) => some contents
  | _ => none

namespace Index

variable {collection : Collection} {suffix : String} {records : List Record} {index : Index}

/-- The tags of a registry are identifiers if those of the entries are. -/
theorem isIdentifier_of_mem_registry (h : build collection suffix records = .ok index)
    (hnames : index.HasIdentifiers) :
    ∀ name ∈ index.registry.names, Package.isIdentifier name = true := by
  intro name hname
  obtain ⟨entry, hentry, htag⟩ := (mem_registry_of_build h).mp hname
  exact hnames.tag entry hentry name htag

/-- The listing of a catalog is read as the contents of the catalog, in both languages. -/
theorem read?_listing (h : build collection suffix records = .ok index)
    (hnames : index.HasIdentifiers) (language : Language) (package : String) :
    language.read? collection package (language.listing index package) = some (.ofIndex index) := by
  have hregistry := isIdentifier_of_mem_registry h hnames
  have hreads : Reads (language.contents index.collection package)
      (language.listing index package).toList (.ofIndex index) := by
    cases language with
    | go => exact Go.reads_contents hnames hregistry package
    | typeScript => exact TypeScript.reads_contents hnames hregistry
  have hread := hreads []
  rw [List.append_nil, collection_of_build h] at hread
  rw [Language.read?, hread]

/-- A listing shows the normal form of a description only. -/
theorem listing_normal (index : Index) (language : Language) (package : String) :
    language.listing index.normal package = language.listing index package := by
  cases language with
  | go => exact congrArg ofLines (Go.lines_normal index package)
  | typeScript => exact congrArg ofLines (TypeScript.lines_normal index)

/-- Two catalogs have the same listing, in one language or in the other, if and only if they have
the same registry and the same entries up to the normal forms of descriptions. -/
theorem listing_eq_iff {suffix' : String} {records' : List Record} {other : Index}
    (h : build collection suffix records = .ok index)
    (h' : build collection suffix' records' = .ok other) (hnames : index.HasIdentifiers)
    (hnames' : other.HasIdentifiers) (package : String) :
    (∀ language : Language,
      language.listing index package = language.listing other package ↔
        index.registry.names = other.registry.names ∧
          index.entries.map Entry.normal = other.entries.map Entry.normal) ∧
    (Language.go.listing index package = Language.go.listing other package ↔
      Language.typeScript.listing index package = Language.typeScript.listing other package) := by
  have hiff (language : Language) :
      language.listing index package = language.listing other package ↔
        index.registry.names = other.registry.names ∧
          index.entries.map Entry.normal = other.entries.map Entry.normal := by
    constructor
    -- one text is read in one way only
    · intro hlisting
      have hread := read?_listing h hnames language package
      rw [hlisting, read?_listing h' hnames' language package] at hread
      have hcontents : Contents.ofIndex other = Contents.ofIndex index := Option.some.inj hread
      exact ⟨(congrArg (·.accessors.typeNames) hcontents).symm,
        (congrArg (·.entries) hcontents).symm⟩
    -- the writer sees the normal forms of descriptions only
    · rintro ⟨hregistry, hentries⟩
      have hcollection := (collection_of_build h).trans (collection_of_build h').symm
      have hsame : index.registry = other.registry := congrArg Registry.mk hregistry
      have hnormal : index.normal = other.normal := by
        rw [normal, normal, hcollection, hsame, hentries]
      rw [← listing_normal index, hnormal, listing_normal]
  exact ⟨hiff, (hiff .go).trans (hiff .typeScript).symm⟩

/-- The records of two labels that share a tag, one of them with a description. -/
def labelRecords (description : String) : List Record :=
  [{ name := "s.kubevm.io/t", deprecated := true, resources := ["Node"] },
    { name := "a/b", featureStatus := some "Beta", description, resources := ["Pod", "Node"] }]

def labelIndex (description : String) : Index where
  collection := .labels
  entries :=
    [⟨⟨"a", "b", by decide, by decide, by decide, by decide⟩, "AB", .beta, description, false,
        false, ["Pod", "Node"]⟩,
      ⟨⟨"s.kubevm.io", "t", by decide, by decide, by decide, by decide⟩, "ST", .alpha, "", false,
        true, ["Node"]⟩]
  registry := ⟨["Node", "Pod"]⟩

/-- Only the description varies, which is no name. -/
theorem hasIdentifiers_labelIndex (description : String) :
    (labelIndex description).HasIdentifiers := by
  have hidentifiers : ∀ name ∈ (labelIndex description).entries.map (·.identifier),
      Package.isIdentifier name = true := by
    change ∀ name ∈ ["AB", "ST"], Package.isIdentifier name = true
    decide +kernel
  have htags : ∀ tag ∈ (labelIndex description).entries.flatMap (·.resources),
      Package.isIdentifier tag = true := by
    change ∀ tag ∈ ["Pod", "Node", "Node"], Package.isIdentifier tag = true
    decide +kernel
  exact ⟨List.forall_mem_map.mp hidentifiers, List.forall_mem_flatMap.mp htags⟩

/-- A quote and a backtick in a line give the same listings, in both languages, and without them
both listings are others. -/
theorem listing_eq_iff_labels :
    build .labels defaultSuffix (labelRecords "a \"b\"") = .ok (labelIndex "a \"b\"") ∧
    build .labels defaultSuffix (labelRecords "a \x60b\x60") = .ok (labelIndex "a \x60b\x60") ∧
    build .labels defaultSuffix (labelRecords "a b") = .ok (labelIndex "a b") ∧
    (labelIndex "a \"b\"").HasIdentifiers ∧ (labelIndex "a \x60b\x60").HasIdentifiers ∧
    (labelIndex "a b").HasIdentifiers ∧
    ∀ language : Language,
      language.listing (labelIndex "a \"b\"") "keys" =
        language.listing (labelIndex "a \x60b\x60") "keys" ∧
      language.listing (labelIndex "a \"b\"") "keys" ≠
        language.listing (labelIndex "a b") "keys" := by
  have hquote : build .labels defaultSuffix (labelRecords "a \"b\"") =
      .ok (labelIndex "a \"b\"") := by
    decide +kernel
  have hbacktick : build .labels defaultSuffix (labelRecords "a \x60b\x60") =
      .ok (labelIndex "a \x60b\x60") := by
    decide +kernel
  have hplain : build .labels defaultSuffix (labelRecords "a b") = .ok (labelIndex "a b") := by
    decide +kernel
  have hnames := hasIdentifiers_labelIndex
  obtain ⟨hsame, -⟩ := listing_eq_iff hquote hbacktick (hnames _) (hnames _) "keys"
  obtain ⟨hother, -⟩ := listing_eq_iff hquote hplain (hnames _) (hnames _) "keys"
  refine ⟨hquote, hbacktick, hplain, hnames _, hnames _, hnames _, fun language => ⟨?_, ?_⟩⟩
  -- both descriptions have one normal form
  · exact (hsame language).mpr ⟨rfl, by decide +kernel⟩
  · intro hlisting
    have hnormal := ((hother language).mp hlisting).2
    revert hnormal
    decide +kernel

end Index
end KeyCatalog
