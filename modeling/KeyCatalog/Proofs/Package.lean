import KeyCatalog.Proofs.Identifier
import KeyCatalog.Proofs.Letter
/-!
Which package names are legal in Go, and which of them are accepted. All legal names are, and so are
some others: the blank identifier, and names with alphanumeric characters that are neither letters
nor decimal digits.
-/
namespace KeyCatalog.Package

structure IsPackageName (name : String) : Prop where
  first : ∃ c, name.toList.head? = some c ∧ (c = '_' ∨ Letter.isLetter c = true)
  rest : ∀ c ∈ name.toList.tail,
    c = '_' ∨ Letter.isLetter c = true ∨ Letter.isDecimalDigit c = true
  not_keyword : name ∉ keywords
  not_blank : name ≠ "_"

/-- The name that is checked: a stated one, or else the one that the path of the listing gives. -/
inductive Proposes (workingDirectory : Place) (path : String) : Option String → String → Prop
  | stated (name : String) : Proposes workingDirectory path (some name) name
  | derived {name : String} (h : ofPath workingDirectory path = .ok name) :
    Proposes workingDirectory path none name

variable {workingDirectory : Place} {path name : String} {stated : Option String}

theorem check_eq_ok_iff {accepted : String} :
    check name = .ok accepted ↔ accepted = name ∧ isIdentifier name = true := by
  rw [check]
  split
  · next h => exact ⟨fun heq => ⟨(Except.ok.inj heq).symm, h⟩, fun heq => heq.1 ▸ rfl⟩
  · next h => exact ⟨fun heq => (by cases heq), fun heq => absurd heq.2 h⟩

/-- A package is accepted exactly if its name is proposed and passes the check. -/
theorem resolve_eq_ok_iff :
    resolve workingDirectory path stated = .ok name ↔
      Proposes workingDirectory path stated name ∧ isIdentifier name = true := by
  cases stated with
  | some proposed =>
    rw [resolve, check_eq_ok_iff]
    constructor
    · rintro ⟨rfl, h⟩
      exact ⟨.stated name, h⟩
    · rintro ⟨hproposes, h⟩
      cases hproposes
      exact ⟨rfl, h⟩
  -- without a stated name the path is asked first
  | none =>
    rw [resolve]
    constructor
    · intro h
      split at h
      · cases h
      · next proposed hproposed =>
        obtain ⟨rfl, hname⟩ := check_eq_ok_iff.mp h
        exact ⟨.derived hproposed, hname⟩
    · rintro ⟨hproposes, h⟩
      cases hproposes with
      | derived hproposed =>
        rw [hproposed]
        exact check_eq_ok_iff.mpr ⟨rfl, h⟩

section Legal

variable {c : Char}

theorem isNameChar_of_legal
    (h : c = '_' ∨ Letter.isLetter c = true ∨ Letter.isDecimalDigit c = true) :
    Listing.isNameChar c = true := by
  rw [Listing.isNameChar, Letter.isAlphanumeric, Bool.or_eq_true, Bool.or_eq_true,
    decide_eq_true_iff]
  rcases h with h | h | h
  · exact Or.inl h
  · exact Or.inr (Or.inl (Letter.isAlphabetic_of_isLetter h))
  · exact Or.inr (Or.inr (Letter.isNumber_of_isDecimalDigit h))

/-- A name character is legal unless it is a stray one. -/
theorem legal_iff_not_stray (h : Listing.isNameChar c = true) :
    (c = '_' ∨ Letter.isLetter c = true ∨ Letter.isDecimalDigit c = true) ↔
      Letter.isStray c = false := by
  by_cases hunderscore : c = '_'
  · subst hunderscore
    exact iff_of_true (Or.inl rfl) (by decide +kernel)
  · have halphanumeric : Letter.isAlphanumeric c = true := by
      simpa only [Listing.isNameChar, hunderscore, decide_false, Bool.false_or] using h
    rw [Letter.isStray, halphanumeric, Bool.true_and, Bool.and_eq_false_iff, Bool.not_eq_false',
      Bool.not_eq_false', or_iff_right hunderscore]

theorem IsPackageName.legal (h : IsPackageName name) (hc : c ∈ name.toList) :
    c = '_' ∨ Letter.isLetter c = true ∨ Letter.isDecimalDigit c = true := by
  obtain ⟨first, hhead, hfirst⟩ := h.first
  obtain ⟨rest, hname⟩ := List.head?_eq_some_iff.mp hhead
  rw [hname] at hc
  rcases List.mem_cons.mp hc with rfl | hc
  · exact hfirst.imp_right Or.inl
  · apply h.rest
    rwa [hname]

/-- The check refuses no name that a package can have. -/
theorem IsPackageName.isIdentifier (h : IsPackageName name) : isIdentifier name = true := by
  apply isIdentifier_iff.mpr
  refine ⟨?_, fun c hc => isNameChar_of_legal (h.legal hc), h.not_keyword⟩
  obtain ⟨first, hhead, hfirst⟩ := h.first
  rw [hhead, Option.any_some, isFirstChar, Bool.or_eq_true, decide_eq_true_iff]
  exact hfirst.imp_right Letter.isAlphabetic_of_isLetter

/-- Of an identifier the start and the keywords are settled. A digit is not alphabetic, so a legal
character at the start is a letter or an underscore. -/
theorem isPackageName_iff (h : isIdentifier name = true) :
    IsPackageName name ↔ name ≠ "_" ∧ ∀ c ∈ name.toList, Letter.isStray c = false := by
  obtain ⟨hstart, hchars, hkeyword⟩ := isIdentifier_iff.mp h
  constructor
  · intro hlegal
    refine ⟨hlegal.not_blank, ?_⟩
    intro c hc
    exact (legal_iff_not_stray (hchars c hc)).mp (hlegal.legal hc)
  · rintro ⟨hblank, hstray⟩
    have hlegal : ∀ c ∈ name.toList,
        c = '_' ∨ Letter.isLetter c = true ∨ Letter.isDecimalDigit c = true :=
      fun c hc => (legal_iff_not_stray (hchars c hc)).mpr (hstray c hc)
    refine ⟨?_, fun c hc => hlegal c (List.mem_of_mem_tail hc), hkeyword, hblank⟩
    -- the first character is no digit, since it is alphabetic
    obtain ⟨first, hhead, hfirst⟩ := (Option.any_eq_true ..).mp hstart
    refine ⟨first, hhead, ?_⟩
    rw [isFirstChar, Bool.or_eq_true, decide_eq_true_iff] at hfirst
    rcases hlegal first (List.mem_of_head? hhead) with hunderscore | hletter | hdigit
    · exact Or.inl hunderscore
    · exact Or.inr hletter
    · exact hfirst.imp_right fun halphabetic =>
        absurd halphabetic (Letter.not_isAlphabetic_of_isDecimalDigit hdigit)

end Legal

/-- An accepted name is legal unless it is the blank identifier or has a stray character, and a
proposed name that is legal is accepted. -/
theorem resolve_legal_iff (workingDirectory : Place) (path : String) (stated : Option String) :
    (∀ name, resolve workingDirectory path stated = .ok name →
      (IsPackageName name ↔ name ≠ "_" ∧ ∀ c ∈ name.toList, Letter.isStray c = false)) ∧
    ∀ name, Proposes workingDirectory path stated name → IsPackageName name →
      resolve workingDirectory path stated = .ok name := by
  constructor
  · intro name h
    exact isPackageName_iff (resolve_eq_ok_iff.mp h).2
  · intro name hproposes hlegal
    exact resolve_eq_ok_iff.mpr ⟨hproposes, hlegal.isIdentifier⟩

theorem resolve_legal_iff_labels :
    resolve ["outer", "work"] "labels/keys.go" none = .ok "labels" ∧
    (IsPackageName "labels" ↔
      "labels" ≠ "_" ∧ ∀ c ∈ "labels".toList, Letter.isStray c = false) ∧
    IsPackageName "labels" := by
  have hresolve : resolve ["outer", "work"] "labels/keys.go" none = .ok "labels" := by
    decide +kernel
  have hstray : "labels".toList.any Letter.isStray = false := by decide +kernel
  have hkept : ∀ c ∈ "labels".toList, Letter.isStray c = false := fun c hc =>
    Bool.eq_false_iff.mpr (List.any_eq_false.mp hstray c hc)
  have hlegal := (resolve_legal_iff ["outer", "work"] "labels/keys.go" none).1 "labels" hresolve
  exact ⟨hresolve, hlegal, hlegal.mpr ⟨by decide, hkept⟩⟩

/-- A number that is no decimal digit is accepted in a name, and so is the name of a directory that
is a single underscore. -/
theorem resolve_accepts_illegal_names :
    resolve ["outer", "work"] "keys.go" (some "x½") = .ok "x½" ∧ ¬IsPackageName "x½" ∧
    resolve ["outer", "work"] "_/keys.go" none = .ok "_" ∧ ¬IsPackageName "_" := by
  refine ⟨by decide +kernel, ?_, by decide +kernel, fun h => h.not_blank rfl⟩
  intro h
  have hillegal : ¬('½' = '_' ∨ Letter.isLetter '½' = true ∨ Letter.isDecimalDigit '½' = true) := by
    decide +kernel
  exact hillegal (h.legal (by decide))

end KeyCatalog.Package
