import KeyCatalog.Package
import KeyCatalog.Proofs.Key
import KeyCatalog.Proofs.Listing.Reader
import KeyCatalog.Proofs.Literal.Description
/-!
What lines of a listing hold: names, numbers, truth values, and literals of keys and descriptions.
A name or a number ends where its characters do, and a description where no joint follows, so those
readers need to know what comes next. The lines of a block are read one after the other, up to the
lines that close it.
-/
namespace KeyCatalog.Listing
open LiteralStyle Source

def isNameChar (c : Char) : Bool :=
  c = '_' || Letter.isAlphanumeric c

/-- Reads an identifier: all of the name characters at the start. -/
def name : Reader String :=
  fun text =>
    let found := String.ofList (text.takeWhile isNameChar)
    if Package.isIdentifier found then some (found, text.dropWhile isNameChar) else none

/-- Reads a decimal number: all of the digits at the start. -/
def number : Reader Nat :=
  fun text =>
    match text.takeWhile Char.isDigit with
    | [] => none
    | digits => some (Nat.ofDigitChars 10 digits 0, text.dropWhile Char.isDigit)

def truthValue : Reader Bool :=
  name.meaning fun found => [true, false].find? (truth · = found)

def maturity : Reader Maturity :=
  name.meaning fun found => Maturity.all.find? (·.name = found)

def string : Reader String :=
  Reader.meaning quoted? fun body => (unescape? quotedMeanings body).map String.ofList

def key : Reader Key :=
  string.meaning fun text => (Key.parse text).toOption

def description (language : Language) : Reader String :=
  Reader.meaning (description? language descriptionIndent) fun text => some (String.ofList text)

theorem isNameChar_of_isIdentifier {text : String} (h : Package.isIdentifier text = true) :
    ∀ c ∈ text.toList, isNameChar c = true := by
  intro c hc
  rw [Package.isIdentifier] at h
  cases htext : text.toList with
  | nil =>
    rw [htext] at hc
    cases hc
  | cons first rest =>
    rw [htext] at h hc
    simp only [Bool.and_eq_true, Bool.or_eq_true, List.all_eq_true] at h
    -- the first character is a letter or an underscore, so it may stand anywhere in a name
    obtain ⟨⟨hfirst, hrest⟩, -⟩ := h
    rw [isNameChar, Bool.or_eq_true]
    rcases List.mem_cons.mp hc with rfl | hc
    · rw [Letter.isAlphanumeric, Bool.or_eq_true]
      exact hfirst.imp_right Or.inl
    · exact hrest c hc

/-- A run of characters ends where what follows starts with another one. -/
theorem takeWhile_run {p : Char → Bool} {text next : Text} (htext : ∀ c ∈ text, p c = true)
    (hnext : next.head?.all p = false) (rest : Text) :
    (text ++ (next ++ rest)).takeWhile p = text ∧
      (text ++ (next ++ rest)).dropWhile p = next ++ rest := by
  cases next with
  | nil => cases hnext
  | cons c next =>
    have hc : ¬p c = true := Bool.not_eq_true _ ▸ hnext
    constructor
    · rw [List.takeWhile_append_of_pos htext, List.cons_append, List.takeWhile_cons_of_neg hc,
        List.append_nil]
    · rw [List.dropWhile_append_of_pos htext, List.cons_append, List.dropWhile_cons_of_neg hc]

/-- A name is read to its end if no name character follows. -/
theorem reads_name {text : String} (htext : Package.isIdentifier text = true) {next : Text}
    (hnext : next.head?.all isNameChar = false) : ReadsBefore next name text.toList text := by
  intro rest
  obtain ⟨htake, hdrop⟩ := takeWhile_run (isNameChar_of_isIdentifier htext) hnext rest
  simp only [name, htake, hdrop, String.ofList_toList, htext, if_true]

theorem reads_number (n : Nat) {next : Text} (hnext : next.head?.all Char.isDigit = false) :
    ReadsBefore next number (toString n).toList n := by
  intro rest
  have hdigits : (toString n).toList = Nat.toDigits 10 n := by
    rw [Nat.toString_eq_repr, Nat.toList_repr]
  have hall : ∀ c ∈ Nat.toDigits 10 n, c.isDigit = true :=
    fun c hc => Nat.isDigit_of_mem_toDigits (by decide) (by decide) hc
  obtain ⟨htake, hdrop⟩ := takeWhile_run hall hnext rest
  rw [hdigits, number, htake, hdrop]
  split
  · next hnil => exact absurd hnil Nat.toDigits_ne_nil
  · rw [Nat.ofDigitChars_ten_toDigits]

theorem reads_truthValue (value : Bool) {next : Text} (hnext : next.head?.all isNameChar = false) :
    ReadsBefore next truthValue (truth value).toList value := by
  have hname : Package.isIdentifier (truth value) = true := by
    cases value <;> decide +kernel
  have hvalue : [true, false].find? (truth · = truth value) = some value := by
    cases value <;> decide
  exact (reads_name hname hnext).meaning hvalue

theorem reads_maturity (value : Maturity) {next : Text}
    (hnext : next.head?.all isNameChar = false) :
    ReadsBefore next maturity value.name.toList value := by
  have hname : Package.isIdentifier value.name = true := by
    cases value <;> decide +kernel
  have hvalue : Maturity.all.find? (·.name = value.name) = some value := by
    cases value <;> decide
  exact (reads_name hname hnext).meaning hvalue

/-- A quoted literal is read as its text, whatever follows. -/
theorem reads_string (language : Language) (text : String) :
    Reads string (String.ofList (language.style.quoted text.toList)).toList text := by
  intro rest
  have hbody := quoted?_quoted language text.toList rest
  have hvalue := (writes_quoted language text.toList).unescape?_eq
  rw [String.toList_ofList]
  simp only [string, Reader.meaning, hbody, hvalue, Option.map_some, String.ofList_toList]

theorem reads_key (language : Language) (value : Key) :
    Reads key (String.ofList (language.style.quoted value.text.toList)).toList value := by
  have hkey : (Key.parse value.text).toOption = some value := by
    rw [Key.parse_text]
    rfl
  exact ((reads_string language value.text).before []).meaning hkey

/-- A description is read as its normal form if no further literal is joined to it. -/
theorem reads_description (language : Language) (text : String) {next : Text}
    (hnext : ∀ rest, (next ++ rest).dropPrefix? (joint descriptionIndent) = none) :
    ReadsBefore next (description language)
      (String.ofList (language.style.description descriptionIndent text.toList)).toList
      (String.ofList (normalText text.toList)) := by
  intro rest
  have hread := description?_description language descriptionIndent text.toList (hnext rest)
  rw [String.toList_ofList]
  simp only [description, Reader.meaning, hread, Option.map_some]

def written (lines : List String) : Text :=
  (ofLines lines).toList

theorem written_nil : written [] = [] :=
  rfl

theorem written_cons (line : String) (lines : List String) :
    written (line :: lines) = line.toList ++ '\n' :: written lines := by
  simp only [written, ofLines, List.map_cons, String.join_cons, String.toList_append,
    List.append_assoc]
  rfl

theorem written_append (first second : List String) :
    written (first ++ second) = written first ++ written second := by
  induction first with
  | nil => rfl
  | cons line lines ih =>
    rw [List.cons_append, written_cons, written_cons, ih, List.append_assoc, List.cons_append]

theorem written_flatMap {α : Type} (f : α → List String) (as : List α) :
    written (as.flatMap f) = as.flatMap fun a => written (f a) := by
  induction as with
  | nil => rfl
  | cons a as ih => rw [List.flatMap_cons, List.flatMap_cons, written_append, ih]

theorem written_ne_nil (line : String) (lines : List String) : written (line :: lines) ≠ [] := by
  rw [written_cons]
  exact List.append_ne_nil_of_right_ne_nil _ (List.cons_ne_nil _ _)

/-- A line is read if what it has between its fixed texts is read before the rest of it. -/
theorem reads_line {α : Type} {reader : Reader α} {before found after : String} {a : α}
    (h : ReadsBefore (after.toList ++ ['\n']) reader found.toList a) :
    Reads (reader.line before after) (written [before ++ found ++ after]) a := by
  have hline : written [before ++ found ++ after] =
      before.toList ++ (found.toList ++ (after.toList ++ ['\n'])) := by
    simp only [written_cons, written_nil, String.toList_append, List.append_assoc]
  rw [hline]
  exact (Reads.expect before.toList).bind h.followedBy

theorem reads_line_end {α : Type} {reader : Reader α} {before found : String} {a : α}
    (h : ReadsBefore ['\n'] reader found.toList a) :
    Reads (reader.line before "") (written [before ++ found]) a := by
  have hline : before ++ found ++ "" = before ++ found := String.append_empty
  rw [← hline]
  exact reads_line h

/-- Lines are read part by part. -/
theorem reads_append {α β : Type} {reader : Reader α} {next : α → Reader β}
    {first second : List String} {a : α} {b : β} (h : Reads reader (written first) a)
    (hnext : Reads (next a) (written second) b) :
    Reads (reader >>= next) (written (first ++ second)) b := by
  rw [written_append]
  exact h.bind hnext

theorem reads_cons {α β : Type} {reader : Reader α} {next : α → Reader β} {line : String}
    {lines : List String} {a : α} {b : β} (h : Reads reader (written [line]) a)
    (hnext : Reads (next a) (written lines) b) :
    Reads (reader >>= next) (written (line :: lines)) b := by
  have happend := reads_append h hnext
  exact happend

/-- Items of several lines are read up to closing lines at which no further item starts. -/
theorem reads_block {α γ : Type} {reader : Reader α} {write : γ → List String} {value : γ → α}
    {items : List γ} {closing : List String}
    (hstop : ∀ rest, reader (written closing ++ rest) = none)
    (hitem : ∀ item ∈ items,
      written (write item) ≠ [] ∧ Reads reader (written (write item)) (value item)) :
    Reads (reader.many.followedBy (written closing)) (written (items.flatMap write ++ closing))
      (items.map value) := by
  rw [written_append, written_flatMap]
  exact (ReadsBefore.many_flatMap hstop hitem).followedBy

theorem reads_lines {α γ : Type} {reader : Reader α} {write : γ → String} {value : γ → α}
    {items : List γ} {closing : List String}
    (hstop : ∀ rest, reader (written closing ++ rest) = none)
    (hitem : ∀ item ∈ items, Reads reader (written [write item]) (value item)) :
    Reads (reader.many.followedBy (written closing)) (written (items.map write ++ closing))
      (items.map value) := by
  rw [List.map_eq_flatMap]
  exact reads_block hstop fun item hmem => ⟨written_ne_nil _ _, hitem item hmem⟩

/-- No line is read where another one starts with something else. -/
theorem line_stops {α : Type} {before closing : String}
    (h : ∀ tail, (closing.toList ++ '\n' :: tail).dropPrefix? before.toList = none)
    (reader : Reader α) (after : String) (others : List String) (rest : Text) :
    reader.line before after (written (closing :: others) ++ rest) = none := by
  apply Reads.bind_eq_none
  rw [written_cons, List.append_assoc, List.cons_append, Reader.expect, h]
  rfl

theorem written_separated (blocks : List (List String)) :
    written (separated blocks) = ['\n'].intercalate (blocks.map written) := by
  induction blocks with
  | nil => rfl
  | cons block blocks ih =>
    cases blocks with
    | nil =>
      have hone : separated [block] = block := List.append_nil block
      rw [hone, List.map_singleton, List.intercalate_singleton]
    | cons next blocks =>
      have hmore : separated (block :: next :: blocks) =
          block ++ "" :: separated (next :: blocks) := rfl
      rw [hmore, written_append, written_cons, ih]
      simp only [List.map_cons, List.intercalate_cons_cons, List.append_assoc]
      rfl

end KeyCatalog.Listing
