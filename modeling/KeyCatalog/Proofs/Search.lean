import Mathlib.Data.List.Basic
/-!
What a search through a list finds: the first item with a property, with the place where it stands,
or the only position of one.
-/
namespace KeyCatalog

variable {α β : Type} {P : α → Prop} {as : List α} {a : α} {position : Nat}

/-- An item is the first one of a list with a property. -/
inductive IsFirst (P : α → Prop) : List α → α → Prop
  | here {a : α} {rest : List α} (h : P a) : IsFirst P (a :: rest) a
  | later {other : α} {rest : List α} {a : α} (hother : ¬P other) (h : IsFirst P rest a) :
      IsFirst P (other :: rest) a

/-- A position is the only one at which an item with a property stands. -/
def OnlyAt (P : α → Prop) (as : List α) (position : Nat) : Prop :=
  ∀ other, (∃ a, as[other]? = some a ∧ P a) ↔ other = position

theorem isFirst_cons_iff {other : α} {rest : List α} :
    IsFirst P (other :: rest) a ↔ P other ∧ a = other ∨ ¬P other ∧ IsFirst P rest a := by
  constructor
  · rintro (h | ⟨hother, h⟩)
    · exact .inl ⟨h, rfl⟩
    · exact .inr ⟨hother, h⟩
  · rintro (⟨h, rfl⟩ | ⟨hother, h⟩)
    · exact .here h
    · exact .later hother h

theorem not_isFirst_nil : ¬IsFirst P [] a := nofun

/-- Searching a list finds the first item with the property. -/
theorem find?_eq_some_iff_isFirst [DecidablePred P] :
    as.find? (decide <| P ·) = some a ↔ IsFirst P as a := by
  induction as with
  | nil => exact iff_of_false nofun not_isFirst_nil
  | cons first rest ih =>
    rw [List.find?_cons, isFirst_cons_iff, ← ih]
    by_cases hfirst : P first
    · simp [hfirst, eq_comm]
    · simp [hfirst]

/-- Items without the property may be left out. -/
theorem isFirst_filter_iff {keep : α → Bool} (hkeep : ∀ a, P a → keep a = true) :
    IsFirst P (as.filter keep) a ↔ IsFirst P as a := by
  induction as with
  | nil => rfl
  | cons first rest ih =>
    rw [isFirst_cons_iff, List.filter_cons]
    split
    · rw [isFirst_cons_iff, ih]
    · next hdrop =>
      have hfirst : ¬P first := fun h => hdrop (hkeep first h)
      rw [ih, eq_false hfirst, false_and, false_or, not_false_eq_true, true_and]

theorem findSome?_eq_some_iff_isFirst {f : α → Option β} {b : β} (hP : ∀ a, f a = none ↔ ¬P a) :
    as.findSome? f = some b ↔ ∃ a, IsFirst P as a ∧ f a = some b := by
  induction as with
  | nil => exact iff_of_false nofun fun ⟨_, h, _⟩ => not_isFirst_nil h
  | cons first rest ih =>
    rw [List.findSome?_cons]
    split
    · next found hfound =>
      -- something is found only where the property holds
      have hfirst : P first := by
        by_contra hnot
        rw [(hP first).mpr hnot] at hfound
        cases hfound
      constructor
      · intro h
        exact ⟨first, .here hfirst, hfound.trans h⟩
      · rintro ⟨a, h | ⟨hother, -⟩, ha⟩
        · exact hfound.symm.trans ha
        · exact absurd hfirst hother
    · next hnone =>
      have hfirst := (hP first).mp hnone
      rw [ih]
      constructor
      · rintro ⟨a, h, ha⟩
        exact ⟨a, .later hfirst h, ha⟩
      · rintro ⟨a, h | ⟨-, h⟩, ha⟩
        · exact absurd h hfirst
        · exact ⟨a, h, ha⟩

/-- A search through items with their positions passes over those that it gives nothing for. -/
theorem findSome?_zipIdx_eq_some_iff {f : α × Nat → Option β} {b : β} {start : Nat}
    (hP : ∀ a position, f (a, position) = none ↔ P a) :
    (as.zipIdx start).findSome? f = some b ↔
      ∃ before a after, as = before ++ a :: after ∧ (∀ other ∈ before, P other) ∧
        f (a, start + before.length) = some b := by
  induction as generalizing start with
  | nil => simp
  | cons first rest ih =>
    -- positions in the rest count from the next number on
    have hposition (before : List α) :
        start + 1 + before.length = start + (first :: before).length := by
      rw [List.length_cons]
      omega
    rw [List.zipIdx_cons, List.findSome?_cons]
    constructor
    · intro h
      split at h
      · next found hfound =>
        cases h
        exact ⟨[], first, rest, rfl, fun _ hother => absurd hother List.not_mem_nil, hfound⟩
      · next hnone =>
        obtain ⟨before, a, after, rfl, hbefore, ha⟩ := ih.mp h
        refine ⟨first :: before, a, after, rfl, ?_, hposition before ▸ ha⟩
        exact List.forall_mem_cons.mpr ⟨(hP first start).mp hnone, hbefore⟩
    · rintro ⟨before, a, after, heq, hbefore, ha⟩
      cases before with
      | nil =>
        cases heq
        have hfound : f (first, start) = some b := ha
        rw [hfound]
      | cons other before =>
        cases heq
        obtain ⟨hfirst, hbefore⟩ := List.forall_mem_cons.mp hbefore
        rw [(hP first start).mpr hfirst]
        exact ih.mpr ⟨before, a, after, rfl, hbefore, (hposition before).symm ▸ ha⟩

/-- Where two items do not have a property both, a search finds the only position. -/
theorem findIdx?_eq_some_iff_onlyAt [DecidablePred P] (h : as.Pairwise fun a b => ¬(P a ∧ P b)) :
    as.findIdx? (decide <| P ·) = some position ↔ OnlyAt P as position := by
  rw [List.findIdx?_eq_some_iff_getElem]
  constructor
  · rintro ⟨hlt, hp, hfirst⟩ other
    constructor
    · rintro ⟨a, ha, hPa⟩
      obtain ⟨hother, rfl⟩ := List.getElem?_eq_some_iff.mp ha
      -- no other position has it: none in front, and none behind since two would not be apart
      rcases Nat.lt_trichotomy other position with hless | rfl | hgreater
      · exact absurd (decide_eq_true hPa) (hfirst other hless)
      · rfl
      · exact absurd ⟨of_decide_eq_true hp, hPa⟩
          (List.pairwise_iff_getElem.mp h position other hlt hother hgreater)
    · rintro rfl
      exact ⟨_, List.getElem?_eq_getElem hlt, of_decide_eq_true hp⟩
  · intro honly
    obtain ⟨a, ha, hPa⟩ := (honly position).mpr rfl
    obtain ⟨hlt, rfl⟩ := List.getElem?_eq_some_iff.mp ha
    refine ⟨hlt, decide_eq_true hPa, ?_⟩
    intro other hother hp
    have hsame := (honly other).mp ⟨_, List.getElem?_eq_getElem _, of_decide_eq_true hp⟩
    omega

end KeyCatalog
