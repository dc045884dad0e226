import KeyCatalog.Maturity
import KeyCatalog.Proofs.Key
import KeyCatalog.Proofs.Text.Case
import Mathlib.Data.List.TakeWhile
/-!
The maturity of an entry. Of the stated maturities the three names are accepted, in any case of
their letters. If none is stated, the key decides by its text up to the first dot. A name has no
slash in it, so a key that names a maturity does so in its namespace.
-/
namespace KeyCatalog.Maturity
open Text (Alike Begins)

/-- Holds for a name of a maturity, in any case of its ASCII letters. -/
def IsName (value : String) : Prop :=
  value.toList.map Char.toLower ∈ ["alpha".toList, "beta".toList, "stable".toList]

instance (value : String) : Decidable (IsName value) :=
  inferInstanceAs (Decidable (_ ∈ _))

variable {key : Key} {stated : Option String} {value : String} {maturity : Maturity}

/-- A maturity is found exactly for the names of maturities. -/
theorem isSome_ofName? (value : String) : (ofName? value.toList).isSome ↔ IsName value := by
  have hnames : ["alpha".toList, "beta".toList, "stable".toList] =
      all.map fun maturity => maturity.name.toList.map Char.toLower := by
    decide
  rw [ofName?, List.find?_isSome, IsName, hnames, List.mem_map]
  simp only [Text.equalUpToCase, beq_iff_eq]

theorem resolve_unstated (h : stated.getD "" = "") : resolve key stated = .ok (ofKey key) := by
  cases stated with
  | none => rfl
  | some value =>
    subst h
    rfl

theorem resolve_stated (hne : value ≠ "") :
    resolve key (some value) =
      match ofName? value.toList with
      | some maturity => .ok maturity
      | none => .error ⟨value⟩ := by
  have hfilter : (some value).filter (· ≠ "") = some value := by
    simp only [Option.filter_some, hne, ne_eq, not_false_eq_true, decide_true, if_true]
  cases hfound : ofName? value.toList with
  | none => simp only [resolve, hfilter, hfound]
  | some maturity => simp only [resolve, hfilter, hfound]

/-- A stated maturity is refused only if it is neither empty nor a name. -/
theorem exists_resolve_eq_ok_iff :
    (∃ maturity, resolve key stated = .ok maturity) ↔
      ∀ value, stated = some value → value ≠ "" → IsName value := by
  constructor
  · rintro ⟨maturity, hmaturity⟩ value rfl hne
    rw [resolve_stated hne] at hmaturity
    rw [← isSome_ofName?]
    split at hmaturity
    · next hfound => rw [hfound, Option.isSome_some]
    · cases hmaturity
  · intro h
    by_cases hempty : stated.getD "" = ""
    · exact ⟨ofKey key, resolve_unstated hempty⟩
    · cases stated with
      | none => exact absurd rfl hempty
      | some value =>
        have hne : value ≠ "" := hempty
        have hname := (isSome_ofName? value).mpr (h value rfl hne)
        obtain ⟨maturity, hfound⟩ := Option.isSome_iff_exists.mp hname
        exact ⟨maturity, by rw [resolve_stated hne, hfound]⟩

/-- No text is the name of two maturities. -/
theorem eq_of_alike_name {text : Text} {other : Maturity} (h : Alike text maturity.name.toList)
    (hother : Alike text other.name.toList) : maturity = other := by
  have hnames := Text.alike_iff.mp (h.symm.trans hother)
  revert hnames
  cases maturity <;> cases other <;> decide

/-- A maturity is found by its name, up to case. -/
theorem ofName?_eq_some_iff {text : Text} :
    ofName? text = some maturity ↔ Alike text maturity.name.toList := by
  have hfound {other : Maturity} (h : ofName? text = some other) :
      Alike text other.name.toList := by
    have hequal := List.find?_some h
    exact (Text.equalUpToCase_iff.mp hequal).symm
  refine ⟨hfound, ?_⟩
  intro h
  have hsome : (ofName? text).isSome := by
    rw [ofName?, List.find?_isSome]
    exact ⟨maturity, by cases maturity <;> decide, Text.equalUpToCase_iff.mpr h.symm⟩
  -- a text is alike to one name only, so the one found is the maturity
  obtain ⟨other, hother⟩ := Option.isSome_iff_exists.mp hsome
  rw [hother, eq_of_alike_name h (hfound hother)]

/-- Up to its first dot a key is a name if its namespace begins with that name and a dot. -/
theorem ofName?_label_eq_some_iff :
    ofName? (key.text.toList.takeWhile (· ≠ '.')) = some maturity ↔
      Begins key.domain.toList (maturity.name.toList ++ ['.']) := by
  have hdot : '.' ∉ maturity.name.toList := by cases maturity <;> decide
  have hslash : '/' ∉ maturity.name.toList := by cases maturity <;> decide
  have hword : '/' ∉ maturity.name.toList ++ ['.'] := by cases maturity <;> decide
  have htext := (Key.Halves.of_key key).toList_eq
  rw [ofName?_eq_some_iff, ← Text.begins_append_cons_iff (by decide) hword, ← htext,
    Text.begins_append_singleton_iff (by decide) hdot, iff_and_self]
  -- without a dot the name would be the whole key, with its slash
  intro hname
  by_contra hnone
  have hwhole : key.text.toList.takeWhile (· ≠ '.') = key.text.toList := by
    apply List.takeWhile_eq_self_iff.mpr
    intro c hc
    apply decide_eq_true
    rintro rfl
    exact hnone hc
  rw [hwhole] at hname
  exact hslash (hname.mem_of_mem (by decide) (by rw [htext]; simp))

/-- The maturity that a key names depends on its namespace alone. -/
theorem ofKey_eq_of_domain_eq {other : Key} (h : other.domain = key.domain) :
    ofKey other = ofKey key := by
  rw [ofKey, ofKey]
  congr 1
  apply Option.ext
  intro maturity
  rw [ofName?_label_eq_some_iff, ofName?_label_eq_some_iff, h]

/-- A key that begins with a name and a dot gives that maturity, and every other key gives alpha. -/
theorem ofKey_eq_iff {word : Text} (hmaturity : maturity ≠ .alpha)
    (hword : Alike (maturity.name.toList ++ ['.']) word) :
    ofKey key = maturity ↔ Begins key.text.toList word := by
  have hslash : '/' ∉ maturity.name.toList ++ ['.'] := by cases maturity <;> decide
  rw [← Text.begins_congr hword, (Key.Halves.of_key key).toList_eq,
    Text.begins_append_cons_iff (by decide) hslash, ← ofName?_label_eq_some_iff, ofKey]
  cases ofName? (key.text.toList.takeWhile (· ≠ '.')) with
  | none => simp [hmaturity.symm]
  | some found => simp

/-- A stated maturity is accepted exactly if it is a name, up to case. -/
theorem resolve_stated_eq_ok_iff (hne : value ≠ "") :
    resolve key (some value) = .ok maturity ↔ Alike value.toList maturity.name.toList := by
  rw [resolve_stated hne, ← ofName?_eq_some_iff]
  cases ofName? value.toList with
  | none => simp
  | some found => simp

/-- A stated maturity that is no name is an error that repeats it. -/
theorem resolve_stated_eq_error_iff {error : Unrecognized} (hne : value ≠ "") :
    resolve key (some value) = .error error ↔
      (∀ maturity : Maturity, ¬Alike value.toList maturity.name.toList) ∧ error = ⟨value⟩ := by
  rw [resolve_stated hne]
  simp only [← ofName?_eq_some_iff]
  cases ofName? value.toList with
  | none => simp [eq_comm]
  | some found => simp

/-- A stated maturity is the one that it names, and one that names none is refused with its value.
If none is stated, the maturity is what the key begins with, or else alpha, and so it is the same
for all keys of one namespace. -/
theorem resolve_stated_or_begun (key : Key) (stated : Option String) :
    (∀ value, stated = some value → value ≠ "" →
      (∀ maturity, resolve key stated = .ok maturity ↔
        Alike value.toList maturity.name.toList) ∧
      ∀ error, resolve key stated = .error error ↔
        (∀ maturity : Maturity, ¬Alike value.toList maturity.name.toList) ∧ error = ⟨value⟩ ∧
          error.message =
            "unrecognized feature status '" ++ value ++ "' (expected alpha|beta|stable)") ∧
    (stated = none ∨ stated = some "" → ∃ maturity, resolve key stated = .ok maturity ∧
      (maturity = .beta ↔ Begins key.text.toList "beta.".toList) ∧
      (maturity = .stable ↔ Begins key.text.toList "stable.".toList) ∧
      (maturity = .alpha ↔ ¬Begins key.text.toList "beta.".toList ∧
        ¬Begins key.text.toList "stable.".toList) ∧
      ∀ other : Key, other.domain = key.domain → resolve other stated = .ok maturity) := by
  constructor
  · rintro value rfl hne
    refine ⟨fun maturity => resolve_stated_eq_ok_iff hne, fun error => ?_⟩
    -- the message is a matter of the error alone
    rw [resolve_stated_eq_error_iff hne, and_congr_right_iff]
    intro _
    constructor
    · rintro rfl
      exact ⟨rfl, rfl⟩
    · exact And.left
  · intro hunstated
    -- an empty statement counts as none
    have hresolve (other : Key) : resolve other stated = .ok (ofKey other) := by
      rcases hunstated with rfl | rfl <;> exact resolve_unstated rfl
    have hbeta : ofKey key = .beta ↔ Begins key.text.toList "beta.".toList :=
      ofKey_eq_iff (by decide) (by decide)
    have hstable : ofKey key = .stable ↔ Begins key.text.toList "stable.".toList :=
      ofKey_eq_iff (by decide) (by decide)
    refine ⟨ofKey key, hresolve key, hbeta, hstable, ?_, ?_⟩
    · rw [← hbeta, ← hstable]
      cases ofKey key <;> decide
    · intro other hdomain
      rw [hresolve other, ofKey_eq_of_domain_eq hdomain]

/-- A key that begins with a name in capitals, with a dot in its name too. -/
def capitals : Key :=
  ⟨"BETA.w", "stable.z", by decide, by decide, by decide, by decide⟩

/-- A long s is alike to no other letter, so a status with it is refused. -/
theorem resolve_stated_or_begun_capitals :
    resolve capitals (some "ſtable") = .error ⟨"ſtable"⟩ ∧
    resolve capitals (some "sTABLE") = .ok .stable ∧
    resolve capitals none = .ok .beta := by
  have hlong := ((resolve_stated_or_begun capitals (some "ſtable")).1 _ rfl (by decide)).2
  have hmixed := ((resolve_stated_or_begun capitals (some "sTABLE")).1 _ rfl (by decide)).1
  obtain ⟨maturity, hresolve, hbeta, -⟩ :=
    (resolve_stated_or_begun capitals none).2 (Or.inl rfl)
  have hbegins : Begins capitals.text.toList "beta.".toList :=
    ⟨"BETA.".toList, "w/stable.z".toList, by decide, by decide⟩
  refine ⟨(hlong _).mpr ⟨?_, rfl, rfl⟩, (hmixed _).mpr (by decide), ?_⟩
  · intro maturity
    cases maturity <;> decide
  · rw [hresolve, hbeta.mpr hbegins]

end KeyCatalog.Maturity
