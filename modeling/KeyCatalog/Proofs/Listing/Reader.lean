import KeyCatalog.Listing.Basic
import KeyCatalog.Proofs.Text
/-!
Readers of generated code. A reader takes something off the start of a text. What a writer puts out
is read back if every piece of it is: pieces that stand one after the other, and blocks of items up
to a text at which no item starts.
-/
namespace KeyCatalog

/-- Takes something off the start of a text, and leaves what follows it. -/
def Reader (α : Type) : Type :=
  Text → Option (α × Text)

namespace Reader

variable {α β : Type}

instance : Monad Reader where
  pure a text := some (a, text)
  bind reader next text :=
    match reader text with
    | none => none
    | some (a, rest) => next a rest

def expect (expected : Text) : Reader Unit :=
  fun text => (text.dropPrefix? expected).map fun rest => ((), rest)

def meaning (reader : Reader α) (f : α → Option β) : Reader β :=
  fun text =>
    match reader text with
    | none => none
    | some (a, rest) => (f a).map fun b => (b, rest)

/-- Reads items as long as there are any. An item that takes nothing would be read for ever. -/
def many (item : Reader α) : Reader (List α) := fun text =>
  match item text with
  | none => some ([], text)
  | some (a, rest) =>
    if rest.length < text.length then
      (many item rest).map fun (as, after) => (a :: as, after)
    else none
termination_by text => text.length

def sepBy (item : Reader α) (separator : Text) : Reader (List α) :=
  fun text =>
    match item text with
    | none => some ([], text)
    | some (a, rest) =>
      (many (do expect separator; item) rest).map fun (as, after) => (a :: as, after)

def followedBy (reader : Reader α) (next : Text) : Reader α := do
  let a ← reader
  expect next
  return a

def line (reader : Reader α) (before after : String) : Reader α := do
  expect before.toList
  reader.followedBy (after.toList ++ ['\n'])

end Reader

/-- The reader takes exactly this source for the value, provided that `next` follows. -/
def ReadsBefore {α : Type} (next : Text) (reader : Reader α) (source : Text) (a : α) : Prop :=
  ∀ rest, reader (source ++ (next ++ rest)) = some (a, next ++ rest)

/-- The reader takes exactly this source for the value, whatever follows. -/
def Reads {α : Type} (reader : Reader α) (source : Text) (a : α) : Prop :=
  ∀ rest, reader (source ++ rest) = some (a, rest)

namespace Reads
open Reader

variable {α β : Type} {reader : Reader α} {source : Text} {a : α}

theorem before (h : Reads reader source a) (next : Text) : ReadsBefore next reader source a :=
  fun rest => h (next ++ rest)

theorem pure (a : α) : Reads (Pure.pure a) [] a :=
  fun _ => rfl

theorem expect (expected : Text) : Reads (Reader.expect expected) expected () := by
  intro rest
  have hdrop : (expected ++ rest).dropPrefix? expected = some rest :=
    List.dropPrefix?_append_of_beq rest (beq_self_eq_true _)
  rw [Reader.expect, hdrop]
  rfl

theorem bind_eq_none {next : α → Reader β} {text : Text} (h : reader text = none) :
    (reader >>= next) text = none := by
  simp only [Bind.bind, h]

/-- What is read first does not depend on what is read next. -/
theorem bind {next : α → Reader β} {following : Text} {b : β} (h : Reads reader source a)
    (hnext : Reads (next a) following b) : Reads (reader >>= next) (source ++ following) b := by
  intro rest
  have hfirst := h (following ++ rest)
  simp only [List.append_assoc, Bind.bind, hfirst]
  exact hnext rest

theorem bind_pure (f : α → β) (h : Reads reader source a) :
    Reads (reader >>= fun a => Pure.pure (f a)) source (f a) := by
  have hread : Reads (reader >>= fun a => Pure.pure (f a)) (source ++ []) (f a) :=
    h.bind (pure (f a))
  rwa [List.append_nil] at hread

end Reads

namespace ReadsBefore
open Reader

variable {α β : Type} {next : Text} {reader : Reader α} {source : Text} {a : α}

theorem meaning {f : α → Option β} {b : β} (h : ReadsBefore next reader source a)
    (hf : f a = some b) : ReadsBefore next (reader.meaning f) source b := by
  intro rest
  have hread := h rest
  simp only [Reader.meaning, hread, hf, Option.map_some]

/-- With its end behind it, what is read no longer depends on what follows. -/
theorem followedBy (h : ReadsBefore next reader source a) :
    Reads (reader.followedBy next) (source ++ next) a := by
  intro rest
  have hread := h rest
  have hnext := Reads.expect next rest
  simp only [Reader.followedBy, List.append_assoc, Bind.bind, hread, hnext]
  rfl

/-- No item is read where none starts. -/
theorem many_nil (hstop : ∀ rest, reader (next ++ rest) = none) :
    ReadsBefore next reader.many [] [] := by
  intro rest
  rw [many, List.nil_append, hstop rest]

/-- An item is read in front of others if it takes something. -/
theorem many_cons {following : Text} {as : List α} (h : Reads reader source a)
    (hsource : source ≠ []) (hrest : ReadsBefore next reader.many following as) :
    ReadsBefore next reader.many (source ++ following) (a :: as) := by
  intro rest
  have hfirst := h (following ++ (next ++ rest))
  -- the item is not empty, so the reader may go on
  have hothers := hrest rest
  have hlength : (following ++ (next ++ rest)).length <
      (source ++ (following ++ (next ++ rest))).length := by
    have hpos := List.length_pos_iff.mpr hsource
    simp only [List.length_append]
    omega
  rw [many, List.append_assoc, hfirst]
  simp only [if_pos hlength, hothers, Option.map_some]

/-- Items are all read as long as each one is and none starts behind them. -/
theorem many_flatMap {γ : Type} {write : γ → Text} {value : γ → α} {items : List γ}
    (hstop : ∀ rest, reader (next ++ rest) = none)
    (hitem : ∀ item ∈ items, write item ≠ [] ∧ Reads reader (write item) (value item)) :
    ReadsBefore next reader.many (items.flatMap write) (items.map value) := by
  -- induction on the items; the text behind the last one stops the reader
  induction items with
  | nil => exact many_nil hstop
  | cons item items ih =>
    obtain ⟨hsource, hread⟩ := hitem item List.mem_cons_self
    have hrest := ih fun other hother => hitem other (List.mem_cons_of_mem item hother)
    exact many_cons hread hsource hrest

theorem sepBy {γ : Type} {separator : Text} {write : γ → Text} {value : γ → α} {items : List γ}
    (hseparator : separator ≠ []) (hstop : ∀ rest, reader (next ++ rest) = none)
    (hend : ∀ rest, (next ++ rest).dropPrefix? separator = none)
    (hitem : ∀ item ∈ items, Reads reader (write item) (value item)) :
    ReadsBefore next (reader.sepBy separator) (separator.intercalate (items.map write))
      (items.map value) := by
  intro rest
  cases items with
  | nil =>
    have hnone := hstop rest
    simp only [Reader.sepBy, List.map_nil, List.intercalate_nil, List.nil_append, hnone]
  | cons first others =>
    have hflat : separator.intercalate ((first :: others).map write) =
        write first ++ others.flatMap (fun item => separator ++ write item) := by
      rw [List.map_cons, Text.intercalate_cons, List.flatMap_map]
    -- behind the first item, each one comes together with the separator before it
    have hothers : ReadsBefore next (many (do Reader.expect separator; reader))
        (others.flatMap fun item => separator ++ write item) (others.map value) := by
      apply many_flatMap
      · intro rest
        simp only [Bind.bind, Reader.expect, hend rest, Option.map_none]
      · intro item hmem
        have hread := hitem item (List.mem_cons_of_mem first hmem)
        exact ⟨List.append_ne_nil_of_left_ne_nil hseparator _, (Reads.expect separator).bind hread⟩
    have hfirst := hitem first List.mem_cons_self
      (others.flatMap (fun item => separator ++ write item) ++ (next ++ rest))
    rw [hflat, List.append_assoc, Reader.sepBy, hfirst]
    simp only [hothers rest, Option.map_some, List.map_cons]

end ReadsBefore
end KeyCatalog
