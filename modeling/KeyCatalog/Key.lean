import KeyCatalog.Text
/-!
Metadata keys of the form `namespace/name`. Parsing splits at the only slash, so both parts of a
key are non-empty and free of slashes, and a key is determined by its text and by its two parts.
-/
namespace KeyCatalog

/-- A metadata key; `domain` is its namespace. -/
structure Key where
  domain : String
  name : String
  domain_ne_empty : domain ≠ ""
  name_ne_empty : name ≠ ""
  slash_not_mem_domain : '/' ∉ domain.toList
  slash_not_mem_name : '/' ∉ name.toList
deriving DecidableEq, Repr

namespace Key

def text (key : Key) : String :=
  key.domain ++ "/" ++ key.name

inductive ParseError where
  | empty
  | separators (text : String) (found : Nat)
  | unseparated (text : String)
  | emptyDomain (text : String)
  | emptyName (text : String)
deriving DecidableEq, Repr

def ParseError.message : ParseError → String
  | .empty => "key must not be empty"
  | .separators text found =>
    "key '" ++ text ++ "' must contain exactly one '/' separating namespace and name (found " ++
      toString found ++ ")"
  | .unseparated text => "key '" ++ text ++ "' is missing its namespace separator"
  | .emptyDomain text => "key '" ++ text ++ "' has an empty namespace"
  | .emptyName text => "key '" ++ text ++ "' has an empty name"

/-- Where a text is split to give a key: the offset in bytes of its only slash, which is neither at
the start nor at the end. -/
structure Split (text : String) where
  offset : Nat
  found : Text.offset? '/' text.toList = some offset
  only : text.toList.count '/' = 1
  not_first : offset ≠ 0
  not_last : offset + 1 ≠ text.utf8ByteSize

namespace Split

variable {text : String}

/-- A split text has two sides, and both cuts that reading the key makes are whole: in front of the
slash and behind it. -/
theorem exists_sides (split : Split text) :
    ∃ domain name, text.toList = domain ++ '/' :: name ∧
      split.offset = (String.ofList domain).utf8ByteSize ∧
      Text.cut? text.toList split.offset = some (domain, '/' :: name) ∧
      Text.cut? text.toList (split.offset + 1) = some (domain ++ ['/'], name) := by
  obtain ⟨domain, name, htext, -, hoffset⟩ := Text.exists_append_of_offset? split.found
  -- the slash is one byte
  have hnext : (String.ofList (domain ++ ['/'])).utf8ByteSize = split.offset + 1 := by
    rw [String.ofList_append, String.utf8ByteSize_append, hoffset]
    rfl
  refine ⟨domain, name, htext, hoffset, ?_, ?_⟩
  · rw [htext, hoffset, Text.cut?_append]
  · rw [htext, ← hnext, List.append_cons, Text.cut?_append]

theorem isSome_cut?_offset (split : Split text) :
    (Text.cut? text.toList split.offset).isSome := by
  obtain ⟨domain, name, -, -, hdomain, -⟩ := split.exists_sides
  rw [hdomain]
  rfl

theorem isSome_cut?_next (split : Split text) :
    (Text.cut? text.toList (split.offset + 1)).isSome := by
  obtain ⟨domain, name, -, -, -, hname⟩ := split.exists_sides
  rw [hname]
  rfl

def domain (split : Split text) : Text :=
  ((Text.cut? text.toList split.offset).get split.isSome_cut?_offset).1

def name (split : Split text) : Text :=
  ((Text.cut? text.toList (split.offset + 1)).get split.isSome_cut?_next).2

/-- The text is put together again from the two sides. -/
theorem toList_eq (split : Split text) : text.toList = split.domain ++ '/' :: split.name := by
  obtain ⟨domain, name, htext, -, hdomain, hname⟩ := split.exists_sides
  simp only [Split.domain, Split.name, hdomain, hname, Option.get_some]
  exact htext

theorem offset_eq (split : Split text) :
    split.offset = (String.ofList split.domain).utf8ByteSize := by
  obtain ⟨domain, name, -, hoffset, hdomain, -⟩ := split.exists_sides
  simp only [Split.domain, hdomain, Option.get_some]
  exact hoffset

theorem slash_not_mem (split : Split text) : '/' ∉ split.domain ∧ '/' ∉ split.name := by
  have honly := split.only
  rw [split.toList_eq, List.count_append, List.count_cons_self] at honly
  exact ⟨List.count_eq_zero.mp (by omega), List.count_eq_zero.mp (by omega)⟩

theorem domain_ne_empty (split : Split text) : String.ofList split.domain ≠ "" := by
  intro h
  apply split.not_first
  rw [split.offset_eq, h]
  rfl

theorem name_ne_empty (split : Split text) : String.ofList split.name ≠ "" := by
  intro h
  apply split.not_last
  have hname : split.name = [] := String.ofList_eq_empty_iff.mp h
  have hsize : text.utf8ByteSize =
      (String.ofList (split.domain ++ '/' :: split.name)).utf8ByteSize := by
    rw [← split.toList_eq, String.ofList_toList]
  rw [hsize, hname, split.offset_eq, String.ofList_append, String.utf8ByteSize_append]
  rfl

def key (split : Split text) : Key where
  domain := String.ofList split.domain
  name := String.ofList split.name
  domain_ne_empty := split.domain_ne_empty
  name_ne_empty := split.name_ne_empty
  slash_not_mem_domain := by
    rw [String.toList_ofList]
    exact split.slash_not_mem.1
  slash_not_mem_name := by
    rw [String.toList_ofList]
    exact split.slash_not_mem.2

end Split

/-- Reads a key. The slashes are counted before the only one is looked for, and what stands on both
sides of it is checked by its offset. -/
def parse (text : String) : Except ParseError Key :=
  if text = "" then .error .empty
  else if hcount : text.toList.count '/' = 1 then
    match hfound : Text.offset? '/' text.toList with
    | none => .error (.unseparated text)
    | some offset =>
      if hfirst : offset = 0 then .error (.emptyDomain text)
      else if hlast : offset + 1 = text.utf8ByteSize then .error (.emptyName text)
      else .ok (Split.key ⟨offset, hfound, hcount, hfirst, hlast⟩)
  else .error (.separators text (text.toList.count '/'))

instance : ToString Key := ⟨text⟩

end Key
end KeyCatalog
