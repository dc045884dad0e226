import KeyCatalog.Proofs.Text
/-!
How the literals of source code are read. A body ends at the first delimiter that no backslash
escapes, and stands for the text in which every escape is exchanged for its meaning. The relation
`Writes` says which bodies a writer may produce for a text; each of them is read back as that text.
-/
namespace KeyCatalog.Source

/-- The number of backslashes at the end of a text, counted on from those before it. Any other
character starts the count anew. -/
def backslashesFrom (run : Nat) (text : Text) : Nat :=
  text.foldl (fun run c => if c = '\\' then run + 1 else 0) run

def backslashes (text : Text) : Nat :=
  backslashesFrom 0 text

/-- A pattern stands somewhere behind an even number of backslashes, so that none escapes it. -/
def Unescaped (pattern text : Text) : Prop :=
  ∃ before after, text = before ++ pattern ++ after ∧ backslashes before % 2 = 0

/-- The body up to the first delimiter that no backslash escapes, and what follows that delimiter. -/
def close? (delimiter : Char) : Text → Option (Text × Text)
  | [] => none
  | '\\' :: c :: rest =>
    (close? delimiter rest).map fun (body, after) => ('\\' :: c :: body, after)
  | c :: rest =>
    if c = delimiter then some ([], rest)
    else (close? delimiter rest).map fun (body, after) => (c :: body, after)

/-- The body up to the first delimiter, and what follows it, where nothing is escaped. -/
def closeRaw? (delimiter : Char) : Text → Option (Text × Text)
  | [] => none
  | c :: rest =>
    if c = delimiter then some ([], rest)
    else (closeRaw? delimiter rest).map fun (body, after) => (c :: body, after)

/-- The text that a body stands for, given what the character behind a backslash means. -/
def unescape? (meanings : List (Char × Char)) : Text → Option Text
  | [] => some []
  | '\\' :: c :: rest =>
    match meanings.lookup c with
    | none => none
    | some d => (unescape? meanings rest).map (d :: ·)
  | c :: rest => if c = '\\' then none else (unescape? meanings rest).map (c :: ·)

def quotedMeanings : List (Char × Char) :=
  [('\\', '\\'), ('"', '"'), ('r', '\r')]

def templateMeanings : List (Char × Char) :=
  [('\\', '\\'), ('$', '$')]

def quoted? : Text → Option (Text × Text)
  | [] => none
  | c :: rest => if c = '"' then close? '"' rest else none

def raw? : Text → Option (Text × Text)
  | [] => none
  | c :: rest => if c = '\x60' then closeRaw? '\x60' rest else none

def template? : Text → Option (Text × Text)
  | [] => none
  | c :: rest => if c = '\x60' then close? '\x60' rest else none

/-- Bodies with the texts that they are written for: a character stands for itself, or a backslash
and a character stand for what they mean. -/
inductive Writes (delimiter : Char) (meanings : List (Char × Char)) : Text → Text → Prop
  | nil : Writes delimiter meanings [] []
  | plain {c : Char} {body value : Text} (hbackslash : c ≠ '\\') (hdelimiter : c ≠ delimiter) :
    Writes delimiter meanings body value → Writes delimiter meanings (c :: body) (c :: value)
  | escape {c d : Char} {body value : Text} (hmeaning : meanings.lookup c = some d) :
    Writes delimiter meanings body value →
      Writes delimiter meanings ('\\' :: c :: body) (d :: value)

theorem close?_cons {delimiter c : Char} (hbackslash : c ≠ '\\') (hdelimiter : c ≠ delimiter)
    (rest : Text) :
    close? delimiter (c :: rest) =
      (close? delimiter rest).map fun (body, after) => (c :: body, after) := by
  rw [close?, if_neg hdelimiter]
  intro d others h
  exact absurd h hbackslash

theorem close?_delimiter {delimiter : Char} (hbackslash : delimiter ≠ '\\') (rest : Text) :
    close? delimiter (delimiter :: rest) = some ([], rest) := by
  rw [close?, if_pos rfl]
  intro d others h
  exact absurd h hbackslash

theorem closeRaw?_append {delimiter : Char} {body : Text} (hbody : delimiter ∉ body)
    (rest : Text) : closeRaw? delimiter (body ++ delimiter :: rest) = some (body, rest) := by
  induction body with
  | nil => exact if_pos rfl
  | cons c body ih =>
    have hc : c ≠ delimiter := fun h => hbody (h ▸ List.mem_cons_self)
    have hrest := ih fun hmem => hbody (List.mem_cons_of_mem c hmem)
    rw [List.cons_append, closeRaw?, if_neg hc, hrest]
    rfl

theorem unescape?_cons {c : Char} (hbackslash : c ≠ '\\') (meanings : List (Char × Char))
    (rest : Text) :
    unescape? meanings (c :: rest) = (unescape? meanings rest).map (c :: ·) := by
  rw [unescape?, if_neg hbackslash]
  intro d others h
  exact absurd h hbackslash

/-- Reading up to a delimiter takes at least one character. -/
theorem close?_length {delimiter : Char} {text body rest : Text}
    (h : close? delimiter text = some (body, rest)) : rest.length < text.length := by
  fun_induction close? delimiter text generalizing body rest with
  | case1 => cases h
  | case2 c text ih =>
    obtain ⟨⟨inner, after⟩, hread, heq⟩ := Option.map_eq_some_iff.mp h
    cases heq
    have hlength := ih hread
    simp only [List.length_cons]
    omega
  | case3 text =>
    cases h
    exact Nat.lt_succ_self _
  | case4 c text _ _ ih =>
    obtain ⟨⟨inner, after⟩, hread, heq⟩ := Option.map_eq_some_iff.mp h
    cases heq
    exact Nat.lt_succ_of_lt (ih hread)

theorem quoted?_length {text body rest : Text} (h : quoted? text = some (body, rest)) :
    rest.length < text.length := by
  cases text with
  | nil => cases h
  | cons c text =>
    by_cases hc : c = '"'
    · rw [quoted?, if_pos hc] at h
      exact Nat.lt_succ_of_lt (close?_length h)
    · rw [quoted?, if_neg hc] at h
      cases h

/-- What stands between two literals of an expression: the operator and a line break, and then
the indentation of the next line. -/
def joint (indent : Nat) : Text :=
  '+' :: '\n' :: List.replicate indent ' '

/-- The bodies of the quoted literals of an expression, and what follows the expression. -/
def expression? (indent : Nat) (text : Text) : Option (List Text × Text) :=
  match _hbody : quoted? text with
  | none => none
  | some (body, rest) =>
    match _hnext : rest.dropPrefix? (joint indent) with
    | none => some ([body], rest)
    | some next =>
      (expression? indent next).map fun (bodies, after) => (body :: bodies, after)
termination_by text.length
decreasing_by
  -- the literal alone makes the text shorter; the joint may only take more
  obtain ⟨before, hrest, -⟩ := List.dropPrefix?_eq_some_iff.mp _hnext
  have hlength := quoted?_length _hbody
  rw [hrest, List.length_append] at hlength
  omega

/-- A source text is an expression for a value: it is read to its end, no literal holds a line break
or an unescaped quote, and the literals together stand for the value. -/
def Denotes (indent : Nat) (source value : Text) : Prop :=
  ∃ bodies : List Text, expression? indent source = some (bodies, []) ∧
    (∀ body ∈ bodies, '\r' ∉ body ∧ '\n' ∉ body ∧ ¬Unescaped ['"'] body) ∧
    (bodies.mapM (unescape? quotedMeanings)).map List.flatten = some value

def value? (indent : Nat) (text : Text) : Option Text :=
  match expression? indent text with
  | some (bodies, []) => (bodies.mapM (unescape? quotedMeanings)).map List.flatten
  | _ => none

/-- A source that denotes a value evaluates to it. -/
theorem Denotes.value?_eq {indent : Nat} {source value : Text} (h : Denotes indent source value) :
    value? indent source = some value := by
  obtain ⟨bodies, hread, -, hvalue⟩ := h
  rw [value?, hread]
  exact hvalue

theorem expression?_last {indent : Nat} {text body rest : Text}
    (hbody : quoted? text = some (body, rest)) (hrest : rest.dropPrefix? (joint indent) = none) :
    expression? indent text = some ([body], rest) := by
  rw [expression?]
  split
  · next hnone => cases hbody.symm.trans hnone
  · next hread =>
    cases hbody.symm.trans hread
    split
    · rfl
    · next hnext => cases hrest.symm.trans hnext

theorem expression?_joint {indent : Nat} {text body next : Text}
    (hbody : quoted? text = some (body, joint indent ++ next)) :
    expression? indent text =
      (expression? indent next).map fun (bodies, after) => (body :: bodies, after) := by
  -- the joint is taken off, and the reading goes on behind it
  have hdrop : (joint indent ++ next).dropPrefix? (joint indent) = some next :=
    List.dropPrefix?_append_of_beq next (beq_self_eq_true _)
  rw [expression?]
  split
  · next hnone => cases hbody.symm.trans hnone
  · next hread =>
    cases hbody.symm.trans hread
    split
    · next hnone => cases hdrop.symm.trans hnone
    · next hnext =>
      cases hdrop.symm.trans hnext
      rfl

theorem backslashesFrom_add_two (run : Nat) (text : Text) :
    backslashesFrom (run + 2) text % 2 = backslashesFrom run text % 2 := by
  induction text generalizing run with
  | nil => exact Nat.add_mod_right run 2
  | cons c text ih =>
    by_cases hc : c = '\\'
    · simpa only [backslashesFrom, List.foldl_cons, if_pos hc, Nat.add_right_comm run 2 1]
        using ih (run + 1)
    · simp only [backslashesFrom, List.foldl_cons, if_neg hc]

theorem backslashes_cons {c : Char} (hc : c ≠ '\\') (text : Text) :
    backslashes (c :: text) = backslashes text := by
  simp only [backslashes, backslashesFrom, List.foldl_cons, if_neg hc]

/-- An escape at the start does not change whether the end of a text is escaped. -/
theorem backslashes_escape (c : Char) (text : Text) :
    backslashes ('\\' :: c :: text) % 2 = backslashes text % 2 := by
  by_cases hc : c = '\\'
  · subst hc
    exact backslashesFrom_add_two 0 text
  · simp only [backslashes, backslashesFrom, List.foldl_cons, if_neg hc]

namespace Writes

variable {delimiter : Char} {meanings : List (Char × Char)} {body value : Text}

/-- A body is closed by the delimiter right behind it and not by one inside. -/
theorem close?_eq (h : Writes delimiter meanings body value) (hdelimiter : delimiter ≠ '\\')
    (rest : Text) : close? delimiter (body ++ delimiter :: rest) = some (body, rest) := by
  induction h with
  | nil => exact close?_delimiter hdelimiter rest
  | plain hbackslash hne _ ih =>
    rw [List.cons_append, close?_cons hbackslash hne, ih]
    rfl
  | escape _ _ ih =>
    rw [List.cons_append, List.cons_append, close?, ih]
    rfl

/-- A body is unescaped to the text that it stands for. -/
theorem unescape?_eq (h : Writes delimiter meanings body value) :
    unescape? meanings body = some value := by
  induction h with
  | nil => rfl
  | plain hbackslash _ _ ih =>
    rw [unescape?_cons hbackslash, ih]
    rfl
  | escape hmeaning _ ih =>
    simp only [unescape?, hmeaning, ih, Option.map_some]

/-- No delimiter stands unescaped in a body. -/
theorem not_unescaped (h : Writes delimiter meanings body value) (hdelimiter : delimiter ≠ '\\') :
    ¬Unescaped [delimiter] body := by
  rintro ⟨before, after, hbody, heven⟩
  rw [List.append_assoc] at hbody
  -- induction on the body: what stands before the delimiter loses one character or one escape
  induction h generalizing before with
  | nil => simp at hbody
  | plain hbackslash hne _ ih =>
    cases before with
    | nil => exact hne (List.cons.inj hbody).1
    | cons b before =>
      obtain ⟨rfl, hrest⟩ := List.cons.inj hbody
      rw [backslashes_cons hbackslash] at heven
      exact ih before hrest heven
  | escape _ _ ih =>
    cases before with
    | nil => exact hdelimiter (List.cons.inj hbody).1.symm
    | cons b before =>
      obtain ⟨rfl, hrest⟩ := List.cons.inj hbody
      cases before with
      -- one backslash stands before the delimiter, and one is odd
      | nil => cases heven
      | cons d before =>
        obtain ⟨rfl, hinner⟩ := List.cons.inj hrest
        rw [backslashes_escape] at heven
        exact ih before hinner heven

/-- A body is written out at its end: no backslash is left to escape what comes next. -/
theorem backslashes_even (h : Writes delimiter meanings body value) : backslashes body % 2 = 0 := by
  induction h with
  | nil => rfl
  | plain hbackslash _ _ ih => rwa [backslashes_cons hbackslash]
  | escape _ _ ih => rwa [backslashes_escape]

/-- A delimiter in a body has an odd number of backslashes in front. -/
theorem backslashes_odd (h : Writes delimiter meanings body value) (hdelimiter : delimiter ≠ '\\')
    {before after : Text} (hbody : body = before ++ delimiter :: after) :
    backslashes before % 2 = 1 := by
  have hnot : ¬backslashes before % 2 = 0 := by
    intro heven
    apply h.not_unescaped hdelimiter
    exact ⟨before, after, by rw [hbody, List.append_assoc, List.singleton_append], heven⟩
  omega

end Writes
end KeyCatalog.Source
