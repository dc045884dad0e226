import KeyCatalog.Json
import KeyCatalog.Proofs.Lists
import Mathlib.Data.String.Basic
/-!
Objects whose members are in strictly ascending order of their names, as setting members one after
the other makes them. No name is there twice, so looking a name up finds the only member of that
name.
-/
namespace KeyCatalog

namespace Json

def Ascending (members : List (String × Json)) : Prop :=
  members.Pairwise fun member later => member.1 < later.1

/-- Every object that a value is made of has its members in strictly ascending order. -/
inductive Ordered : Json → Prop
  | null : Ordered .null
  | bool (value : Bool) : Ordered (.bool value)
  | integer (value : Int) : Ordered (.integer value)
  | float (value : Binary64) : Ordered (.float value)
  | string (value : String) : Ordered (.string value)
  | array {items : List Json} (h : ∀ item ∈ items, Ordered item) : Ordered (.array items)
  | object {members : List (String × Json)} (hascending : Ascending members)
      (h : ∀ member ∈ members, Ordered member.2) : Ordered (.object members)

variable {name : String} {value : Json} {members : List (String × Json)}

theorem Ascending.nodup (h : Ascending members) : (members.map Prod.fst).Nodup := by
  apply List.pairwise_map.mpr
  exact h.imp fun hlt => ne_of_lt hlt

theorem mem_of_mem_insertMember {member : String × Json}
    (h : member ∈ insertMember name value members) : member = (name, value) ∨ member ∈ members := by
  induction members with
  | nil => exact .inl (List.mem_singleton.mp h)
  | cons other rest ih =>
    rw [insertMember] at h
    -- the member replaces one of its name, stands in front, or goes further on
    split at h
    · rcases List.mem_cons.mp h with rfl | h
      · exact .inl rfl
      · exact .inr (List.mem_cons_of_mem _ h)
    split at h
    · rcases List.mem_cons.mp h with rfl | h
      · exact .inl rfl
      · exact .inr h
    · rcases List.mem_cons.mp h with rfl | h
      · exact .inr List.mem_cons_self
      · exact (ih h).imp_right (List.mem_cons_of_mem _)

/-- Setting a member keeps the order of names. -/
theorem ascending_insertMember (h : Ascending members) :
    Ascending (insertMember name value members) := by
  induction members with
  | nil => exact List.pairwise_singleton _ _
  | cons other rest ih =>
    obtain ⟨hother, hrest⟩ := List.pairwise_cons.mp h
    rw [insertMember]
    split
    · next heq =>
      subst heq
      exact List.pairwise_cons.mpr ⟨hother, hrest⟩
    -- either the member goes here, or further on
    next hne =>
    split
    · next hlt =>
      apply List.pairwise_cons.mpr
      refine ⟨?_, h⟩
      intro later hlater
      rcases List.mem_cons.mp hlater with rfl | hlater
      · exact hlt
      · exact lt_trans hlt (hother later hlater)
    · next hnot =>
      have hlt : other.1 < name := lt_of_le_of_ne (not_lt.mp hnot) (Ne.symm hne)
      apply List.pairwise_cons.mpr
      refine ⟨?_, ih hrest⟩
      intro later hlater
      rcases mem_of_mem_insertMember hlater with rfl | hlater
      · exact hlt
      · exact hother later hlater

/-- An object that is put together from ordered values is ordered. -/
theorem ordered_ofMembers (h : ∀ member ∈ members, member.2.Ordered) :
    (ofMembers members).Ordered := by
  -- what has been set is ascending and made of ordered values, and stays so
  suffices hset : ∀ set, Ascending set → (∀ member ∈ set, member.2.Ordered) →
      (Json.object (members.foldl (fun set member => insertMember member.1 member.2 set)
        set)).Ordered from
    hset [] .nil fun _ hmember => absurd hmember List.not_mem_nil
  induction members with
  | nil => exact fun set hascending hset => .object hascending hset
  | cons member rest ih =>
    obtain ⟨hmember, hrest⟩ := List.forall_mem_cons.mp h
    intro set hascending hset
    apply ih hrest _ (ascending_insertMember hascending)
    intro other hother
    rcases mem_of_mem_insertMember hother with rfl | hother
    · exact hmember
    · exact hset other hother

theorem Ordered.ascending (h : (Json.object members).Ordered) : Ascending members := by
  cases h with
  | object hascending _ => exact hascending

theorem Ordered.of_mem (h : (Json.object members).Ordered) (hmem : (name, value) ∈ members) :
    value.Ordered := by
  cases h with
  | object _ h => exact h _ hmem

theorem Ordered.item {items : List Json} (h : (Json.array items).Ordered) :
    ∀ item ∈ items, item.Ordered := by
  cases h with
  | array h => exact h

/-- In an ordered object, looking a name up finds the member of that name. -/
theorem Ordered.lookup_eq_some_iff (h : (Json.object members).Ordered) :
    members.lookup name = some value ↔ (name, value) ∈ members :=
  lookup_eq_some_iff_mem h.ascending.nodup

end Json
end KeyCatalog
