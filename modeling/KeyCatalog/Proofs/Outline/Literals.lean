import KeyCatalog.Proofs.Index.Acceptance
import KeyCatalog.Proofs.Literal.SingleLine
import KeyCatalog.Proofs.Outline.Names
/-!
The quoted literals of a listing. A literal of a name, a tag or a key is always read to its end as
the text that it was written for, but a line feed in that text is written as it is, and then the
literal does not stay on its line.
-/
namespace KeyCatalog

namespace Source
open LiteralStyle

/-- A quoted literal with its body, which ends at the first quote that nothing escapes, holds no
carriage return, and stands for a text. -/
structure Quotes (source body value : Text) : Prop where
  read : quoted? source = some (body, [])
  quote : ¬Unescaped ['"'] body
  carriage : '\r' ∉ body
  value : unescape? quotedMeanings body = some value

def IsLiteral (source value : Text) : Prop :=
  ∃ body, Quotes source body value ∧ '\n' ∉ body

/-- Escaping keeps line feeds and makes none. -/
theorem feed_mem_escape_iff (language : Language) {text : Text} :
    '\n' ∈ escape language.style.quotedEscapes text ↔ '\n' ∈ text := by
  constructor
  · intro hfeed
    exact (lineBreak_of_mem_quoted language hfeed (Or.inr rfl)).2
  · intro hfeed
    rw [escape_quotedEscapes, List.mem_flatMap]
    exact ⟨'\n', hfeed, by decide⟩

/-- Whatever a text holds, its literal ends where it should and stands for the text. -/
theorem quotes_quoted (language : Language) (text : Text) :
    Quotes (language.style.quoted text) (escape language.style.quotedEscapes text) text where
  read := by
    have hread := quoted?_quoted language text []
    rwa [List.append_nil] at hread
  quote := (writes_quoted language text).not_unescaped (by decide)
  carriage := by
    intro hmem
    have hfeed := (lineBreak_of_mem_quoted language hmem (Or.inl rfl)).1
    cases hfeed
  value := (writes_quoted language text).unescape?_eq

/-- The literal of a text stays on one line if the text does. -/
theorem isLiteral_quoted_iff (language : Language) {text : Text} :
    IsLiteral (language.style.quoted text) text ↔ '\n' ∉ text := by
  rw [← feed_mem_escape_iff language]
  constructor
  -- there is only one way to read the literal
  · rintro ⟨body, hbody, hfeed⟩
    have hread := (quotes_quoted language text).read
    cases hread.symm.trans hbody.read
    exact hfeed
  · intro hfeed
    exact ⟨_, quotes_quoted language text, hfeed⟩

end Source

namespace Language
open Outline

def quoted (language : Language) (text : String) : String :=
  String.ofList (language.style.quoted text.toList)

theorem quotes_quoted (language : Language) (text : String) :
    ∃ body, Source.Quotes (language.quoted text).toList body text.toList := by
  rw [quoted, String.toList_ofList]
  exact ⟨_, Source.quotes_quoted language text.toList⟩

theorem isLiteral_quoted_iff (language : Language) (text : String) :
    Source.IsLiteral (language.quoted text).toList text.toList ↔ '\n' ∉ text.toList := by
  rw [quoted, String.toList_ofList, Source.isLiteral_quoted_iff]

def outline (index : Index) (package : String) : Language → List Item
  | .go => Go.outline index package
  | .typeScript => TypeScript.outline index

/-- Both listings write the literals of the same texts. -/
theorem literals_outline (language : Language) (index : Index) (package : String) :
    literals (language.outline index package) =
      (["Alpha", "Beta", "Stable", Registry.unknown] ++ index.registry.names ++
        [Registry.unknown] ++ index.entries.map (·.key.text) ++ index.registry.names).map
        language.quoted := by
  cases language with
  | go => exact Go.literals_outline index package
  | typeScript => exact TypeScript.literals_outline index

end Language

namespace Index
open Outline Source

variable {collection : Collection} {suffix : String} {records : List Record} {index : Index}

/-- The literals of a listing are those of its fixed names, the tags and the keys. The literal of a
tag or a key is always read as that tag or key, and all of these literals stay on their lines if and
only if no name and no tag of a record holds a line feed. -/
theorem literals_legal_iff (h : build collection suffix records = .ok index)
    (language : Language) (package : String) :
    literals (language.outline index package) =
      (["Alpha", "Beta", "Stable", "Unknown"] ++ index.registry.names ++ ["Unknown"] ++
        index.entries.map (·.key.text) ++ index.registry.names).map language.quoted ∧
    (∀ text ∈ index.registry.names ++ index.entries.map (·.key.text),
      ∃ body, Quotes (language.quoted text).toList body text.toList) ∧
    ((∀ text ∈ index.registry.names ++ index.entries.map (·.key.text),
        IsLiteral (language.quoted text).toList text.toList) ↔
      ∀ record ∈ records,
        '\n' ∉ record.name.toList ∧ ∀ tag ∈ record.resources, '\n' ∉ tag.toList) := by
  refine ⟨language.literals_outline index package, fun text _ => language.quotes_quoted text, ?_⟩
  simp only [language.isLiteral_quoted_iff]
  rw [forall_tags_and_texts_iff_of_build h]
  apply forall_entries_iff_of_build h
  intro record entry hentry
  simp only [hentry.key_text, hentry.mem_resources]

/-- Two labels without a line feed in their keys. -/
theorem literals_legal_iff_ascending :
    build .labels defaultSuffix descendingRecords = .ok ascendingLabels ∧
    literals (Language.typeScript.outline ascendingLabels "") =
      ["Alpha", "Beta", "Stable", "Unknown", "Node", "Pod", "Unknown", "c/x", "d/y", "Node",
        "Pod"].map Language.typeScript.quoted ∧
    (∀ text ∈ ["Node", "Pod", "c/x", "d/y"],
      ∃ body, Quotes (Language.typeScript.quoted text).toList body text.toList) ∧
    ((∀ text ∈ ["Node", "Pod", "c/x", "d/y"],
        IsLiteral (Language.typeScript.quoted text).toList text.toList) ↔
      ∀ record ∈ descendingRecords,
        '\n' ∉ record.name.toList ∧ ∀ tag ∈ record.resources, '\n' ∉ tag.toList) := by
  have hbuild : build .labels defaultSuffix descendingRecords = .ok ascendingLabels := by
    decide +kernel
  exact ⟨hbuild, literals_legal_iff hbuild .typeScript ""⟩

/-- A record whose key has a line feed in its namespace. -/
def brokenRecord : Record :=
  { name := "e\nf/g", variableName := some "A" }

def brokenAnnotations : Index where
  collection := .annotations
  entries :=
    [⟨⟨"e\nf", "g", by decide, by decide, by decide, by decide⟩, "A", .alpha, "", false, false, []⟩]
  registry := ⟨[]⟩

/-- A key may break the line that its literal stands on, in both languages. -/
theorem build_accepts_broken_literal :
    build .annotations defaultSuffix [brokenRecord] = .ok brokenAnnotations ∧
    ∀ language : Language,
      language.quoted "e\nf/g" = "\"e\nf/g\"" ∧
      "\"e\nf/g\"" ∈ literals (language.outline brokenAnnotations "keys") ∧
      ¬IsLiteral "\"e\nf/g\"".toList "e\nf/g".toList := by
  refine ⟨by decide +kernel, ?_⟩
  intro language
  have hquoted : language.quoted "e\nf/g" = "\"e\nf/g\"" := by
    cases language <;> decide +kernel
  have hmem : "\"e\nf/g\"" ∈ literals (language.outline brokenAnnotations "keys") := by
    rw [language.literals_outline, ← hquoted]
    exact List.mem_map_of_mem (by decide +kernel)
  -- a line feed is not escaped, so it breaks the literal
  have hbroken : ¬IsLiteral (language.quoted "e\nf/g").toList "e\nf/g".toList := by
    rw [language.isLiteral_quoted_iff]
    decide
  rw [hquoted] at hbroken
  exact ⟨hquoted, hmem, hbroken⟩

end Index
end KeyCatalog
