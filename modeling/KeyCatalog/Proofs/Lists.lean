import Mathlib.Data.List.Forall2
import Mathlib.Data.List.Nodup
/-!
Lists that are related item by item, where what is true of one list is true of the other, and lists
of pairs, where a look-up finds the pair of a name if no name is there twice.
-/
namespace KeyCatalog

section Related

variable {α β : Type} {R : α → β → Prop} {as : List α} {bs : List β}

/-- Items are related one by one exactly if each of them is related to something. -/
theorem exists_related_iff : (∃ bs, List.Forall₂ R as bs) ↔ ∀ a ∈ as, ∃ b, R a b := by
  induction as with
  | nil => exact ⟨fun _ _ ha => absurd ha List.not_mem_nil, fun _ => ⟨[], .nil⟩⟩
  | cons a as ih =>
    simp only [List.forall₂_cons_left_iff, List.forall_mem_cons, ← ih]
    constructor
    · rintro ⟨_, b, bs, hb, hbs, -⟩
      exact ⟨⟨b, hb⟩, bs, hbs⟩
    · rintro ⟨⟨b, hb⟩, bs, hbs⟩
      exact ⟨b :: bs, b, bs, hb, hbs, rfl⟩

theorem forall_mem_iff_of_related {P : α → Prop} {Q : β → Prop} (h : List.Forall₂ R as bs)
    (hPQ : ∀ a b, R a b → (P a ↔ Q b)) : (∀ a ∈ as, P a) ↔ ∀ b ∈ bs, Q b := by
  induction h with
  | nil =>
    exact ⟨fun _ _ hb => absurd hb List.not_mem_nil, fun _ _ ha => absurd ha List.not_mem_nil⟩
  | cons hab _ ih => rw [List.forall_mem_cons, List.forall_mem_cons, hPQ _ _ hab, ih]

theorem pairwise_iff_of_related {P : α → α → Prop} {Q : β → β → Prop} (h : List.Forall₂ R as bs)
    (hPQ : ∀ a b, R a b → ∀ a' b', R a' b' → (P a a' ↔ Q b b')) :
    as.Pairwise P ↔ bs.Pairwise Q := by
  induction h with
  | nil => exact ⟨fun _ => .nil, fun _ => .nil⟩
  | cons hab hrest ih =>
    rw [List.pairwise_cons, List.pairwise_cons, ih, forall_mem_iff_of_related hrest (hPQ _ _ hab)]

theorem exists_getElem?_iff_of_related {P : α → Prop} {Q : β → Prop} (h : List.Forall₂ R as bs)
    (hPQ : ∀ a b, R a b → (P a ↔ Q b)) (position : Nat) :
    (∃ a, as[position]? = some a ∧ P a) ↔ ∃ b, bs[position]? = some b ∧ Q b := by
  induction h generalizing position with
  | nil => simp only [List.getElem?_nil, reduceCtorEq, false_and, exists_false]
  | cons hab _ ih =>
    cases position with
    | zero => simp only [List.getElem?_cons_zero, Option.some_inj, exists_eq_left', hPQ _ _ hab]
    | succ position => simpa only [List.getElem?_cons_succ] using ih position

/-- Where one list is taken apart at an item, the other one is too. -/
theorem related_append_cons_iff {before after : List α} {a : α} :
    List.Forall₂ R (before ++ a :: after) bs ↔
      ∃ before' b after', bs = before' ++ b :: after' ∧ List.Forall₂ R before before' ∧ R a b ∧
        List.Forall₂ R after after' := by
  induction before generalizing bs with
  | nil =>
    simp only [List.nil_append, List.forall₂_cons_left_iff, List.forall₂_nil_left_iff]
    constructor
    · rintro ⟨b, rest, hab, hrest, rfl⟩
      exact ⟨[], b, rest, rfl, rfl, hab, hrest⟩
    · rintro ⟨_, b, rest, rfl, rfl, hab, hrest⟩
      exact ⟨b, rest, hab, hrest, rfl⟩
  | cons first before ih =>
    simp only [List.cons_append, List.forall₂_cons_left_iff, ih]
    constructor
    · rintro ⟨other, _, hother, ⟨before', b, after', rfl, hbefore, hab, hafter⟩, rfl⟩
      exact ⟨other :: before', b, after', rfl, ⟨other, before', hother, hbefore, rfl⟩, hab, hafter⟩
    · rintro ⟨_, b, after', rfl, ⟨other, before', hother, hbefore, rfl⟩, hab, hafter⟩
      exact ⟨other, _, hother, ⟨before', b, after', rfl, hbefore, hab, hafter⟩, rfl⟩

/-- Where items are dropped from one list, the related ones can be dropped from the other. -/
theorem exists_related_of_sublist {kept : List α} (h : List.Forall₂ R as bs)
    (hkept : kept.Sublist as) : ∃ rest, rest.Sublist bs ∧ List.Forall₂ R kept rest := by
  induction hkept generalizing bs with
  | slnil => exact ⟨[], List.nil_sublist bs, .nil⟩
  | cons a _ ih =>
    obtain ⟨b, others, -, hothers, rfl⟩ := List.forall₂_cons_left_iff.mp h
    obtain ⟨rest, hsublist, hrest⟩ := ih hothers
    exact ⟨rest, hsublist.cons b, hrest⟩
  | cons_cons a _ ih =>
    obtain ⟨b, others, hab, hothers, rfl⟩ := List.forall₂_cons_left_iff.mp h
    obtain ⟨rest, hsublist, hrest⟩ := ih hothers
    exact ⟨b :: rest, hsublist.cons_cons b, .cons hab hrest⟩

/-- A map that may fail gives a list exactly if it gives each item of it. -/
theorem mapM_eq_some_iff {f : α → Option β} :
    as.mapM f = some bs ↔ List.Forall₂ (fun a b => f a = some b) as bs := by
  induction as generalizing bs with
  | nil =>
    rw [List.mapM_nil, List.forall₂_nil_left_iff]
    exact ⟨fun h => (Option.some.inj h).symm, fun h => congrArg some h.symm⟩
  | cons a as ih =>
    rw [List.mapM_cons, List.forall₂_cons_left_iff]
    constructor
    · intro h
      obtain ⟨b, hb, h⟩ := Option.bind_eq_some_iff.mp h
      obtain ⟨rest, hrest, h⟩ := Option.bind_eq_some_iff.mp h
      cases h
      exact ⟨b, rest, hb, ih.mp hrest, rfl⟩
    · rintro ⟨b, rest, hb, hrest, rfl⟩
      rw [hb, ih.mpr hrest]
      rfl

end Related

section Lookup

variable {α β : Type} [BEq α] [LawfulBEq α] {pairs : List (α × β)} {a : α} {b : β}

theorem mem_of_lookup_eq_some (h : pairs.lookup a = some b) : (a, b) ∈ pairs := by
  obtain ⟨before, after, rfl, -⟩ := List.lookup_eq_some_iff.mp h
  simp only [List.mem_append, List.mem_cons, true_or, or_true]

/-- Without repeated names, looking one up finds whatever pair has it. -/
theorem lookup_eq_some_iff_mem (hnodup : (pairs.map Prod.fst).Nodup) :
    pairs.lookup a = some b ↔ (a, b) ∈ pairs := by
  refine ⟨mem_of_lookup_eq_some, ?_⟩
  intro hmem
  obtain ⟨before, after, rfl⟩ := List.append_of_mem hmem
  apply List.lookup_eq_some_iff.mpr
  refine ⟨before, after, rfl, ?_⟩
  intro pair hpair
  rw [List.map_append, List.map_cons] at hnodup
  -- a pair in front with the same name would be a second one
  have hapart := (List.nodup_append.mp hnodup).2.2
  have hne : pair.1 ≠ a := hapart _ (List.mem_map_of_mem hpair) _ List.mem_cons_self
  exact bne_iff_ne.mpr hne.symm

theorem lookup_eq_none_iff_not_mem : pairs.lookup a = none ↔ ∀ b, (a, b) ∉ pairs := by
  rw [List.lookup_eq_none_iff]
  constructor
  · intro h b hmem
    simpa using h _ hmem
  · intro h pair hpair
    apply bne_iff_ne.mpr
    rintro rfl
    exact h pair.2 hpair

end Lookup

end KeyCatalog
