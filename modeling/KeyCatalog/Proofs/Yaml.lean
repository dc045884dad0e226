import KeyCatalog.Proofs.Json
import KeyCatalog.Yaml.Document
/-!
The values that YAML texts are read as. Only mappings become objects, and their members are set one
after the other, so the members of every object in such a value are in strictly ascending order.
-/
namespace KeyCatalog.Yaml

variable {text : List Char} {value : Json}

theorem Scalar.ordered_of_float? (h : Scalar.float? text = some value) : value.Ordered := by
  rw [Scalar.float?] at h
  split at h
  · cases h
    exact .null
  · simp only [Option.bind_eq_bind, Option.bind_eq_some_iff, Option.map_eq_some_iff] at h
    obtain ⟨decimal, -, found, ⟨float, -, rfl⟩, h⟩ := h
    cases h
    exact .float float

theorem Scalar.ordered_of_plain? (h : Scalar.plain? text = some value) : value.Ordered := by
  rw [Scalar.plain?] at h
  split at h
  · cases h
    exact .null
  -- one case for each way to read the text: a boolean, an integer, or neither
  split at h
  · cases h
    exact .bool _
  · cases h
    exact .integer _
  · cases h
  · split at h
    · cases h
      exact .string _
    · cases hfloat : Scalar.float? text with
      | none =>
        rw [hfloat] at h
        cases h
        exact .string _
      | some float =>
        rw [hfloat] at h
        cases h
        exact ordered_of_float? hfloat

theorem Scalar.ordered_of_ofKind? {kind : Scalar.Kind} (h : Scalar.ofKind? kind text = some value) :
    value.Ordered := by
  cases kind with
  | null =>
    rw [Scalar.ofKind?] at h
    split at h
    · cases h
      exact .null
    · cases h
  | bool =>
    obtain ⟨truth, -, rfl⟩ := Option.map_eq_some_iff.mp h
    exact .bool truth
  | integer =>
    rw [Scalar.ofKind?] at h
    split at h
    · cases h
      exact .integer _
    · cases h
  | float => exact ordered_of_float? h

theorem ordered_of_scalarValue? {tag : Option Tag} {text : String} {plain : Bool}
    (h : scalarValue? tag text plain = some value) : value.Ordered := by
  cases tag with
  | none =>
    rw [scalarValue?] at h
    split at h
    · exact Scalar.ordered_of_plain? h
    · cases h
      exact .string text
  | some tag =>
    simp only [scalarValue?] at h
    split at h
    · cases h
    split at h
    · exact Scalar.ordered_of_ofKind? h
    split at h
    · exact Scalar.ordered_of_plain? h
    · cases h
      exact .string text

namespace Document

/-- Whatever a reading gives has a property, however many aliases were followed before. -/
def Yields {α : Type} (reading : Reading α) (P : α → Prop) : Prop :=
  ∀ followed a last, reading.run followed = some (a, last) → P a

section Yields

variable {α β : Type} {P : α → Prop} {Q : β → Prop}

theorem Yields.pure {a : α} (h : P a) : Yields (pure a) P := by
  intro followed b last hrun
  cases hrun
  exact h

theorem Yields.none : Yields (liftM (Option.none : Option α) : Reading α) P := by
  intro followed b last hrun
  cases hrun

/-- What one step yields is what the next step may rely on. -/
theorem Yields.bind {reading : Reading α} {next : α → Reading β} (h : Yields reading P)
    (hnext : ∀ a, P a → Yields (next a) Q) : Yields (reading >>= next) Q := by
  intro followed b last hrun
  rw [StateT.run_bind] at hrun
  obtain ⟨⟨a, between⟩, hfirst, hrest⟩ := Option.bind_eq_some_iff.mp hrun
  exact hnext a (h followed a between hfirst) between b last hrest

theorem Yields.trivial (reading : Reading α) : Yields reading fun _ => True :=
  fun _ _ _ _ => True.intro

theorem Yields.mapM {read : α → Reading β} (h : ∀ a, Yields (read a) Q) (as : List α) :
    Yields (as.mapM read) fun bs => ∀ b ∈ bs, Q b := by
  induction as with
  | nil =>
    rw [List.mapM_nil]
    exact .pure fun _ hb => absurd hb List.not_mem_nil
  | cons a as ih =>
    rw [List.mapM_cons]
    refine (h a).bind ?_
    intro b hb
    refine ih.bind ?_
    intro bs hbs
    exact .pure (List.forall_mem_cons.mpr ⟨hb, hbs⟩)

end Yields

variable {document : Document}

theorem yields_ordered_valueWith {inner : Option (Node Nat → Reading Json)}
    (h : ∀ read ∈ inner, ∀ node, Yields (read node) Json.Ordered) (node : Node Nat) :
    Yields (document.valueWith inner node) Json.Ordered := by
  rw [valueWith]
  refine (Yields.trivial (document.follow node)).bind ?_
  intro followed _
  -- one case for each kind of node that a node may stand for
  split
  · next properties text plain =>
    intro _ value _ hrun
    obtain ⟨found, hfound, hvalue⟩ := Option.bind_eq_some_iff.mp hrun
    cases hvalue
    exact ordered_of_scalarValue? hfound
  · next properties items read =>
    split
    · exact .none
    · refine (Yields.mapM (h read rfl) items).bind ?_
      intro values hvalues
      exact .pure (.array hvalues)
  · next properties members read =>
    split
    · exact .none
    · have hmember (member : Node Nat × Node Nat) :
          Yields (do
            let name ← document.name member.1
            let value ← read member.2
            pure (name, value)) fun member => member.2.Ordered := by
        refine (Yields.trivial (document.name member.1)).bind ?_
        intro name _
        refine (h read rfl member.2).bind ?_
        intro value hvalue
        exact .pure hvalue
      refine (Yields.mapM hmember members).bind ?_
      intro pairs hpairs
      exact .pure (Json.ordered_ofMembers hpairs)
  · exact .none

/-- Every value that is read off a node is ordered, at any depth. -/
theorem yields_ordered_value (depth : Nat) (node : Node Nat) :
    Yields (document.value depth node) Json.Ordered := by
  induction depth generalizing node with
  | zero => exact yields_ordered_valueWith (fun _ hread => absurd hread (Option.not_mem_none _)) node
  | succ depth ih =>
    apply yields_ordered_valueWith
    intro read hread
    cases hread
    exact ih

end Document

/-- The value of a text is ordered. -/
theorem ordered_of_read? {text : String} (h : read? text = some value) : value.Ordered := by
  rw [read?, ofText?] at h
  obtain ⟨tokens, -, h⟩ := Option.bind_eq_some_iff.mp h
  obtain ⟨stream, -, h⟩ := Option.bind_eq_some_iff.mp h
  split at h
  · cases h
    exact .null
  · obtain ⟨⟨root, anchors⟩, -, h⟩ := Option.bind_eq_some_iff.mp h
    obtain ⟨⟨found, last⟩, hfound, h⟩ := Option.bind_eq_some_iff.mp h
    cases h
    exact Document.yields_ordered_value _ _ _ _ _ hfound

end KeyCatalog.Yaml
