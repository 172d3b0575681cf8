import LabMatch.Connection.Expression
import Mathlib.Data.List.TakeWhile

/-!
# Tokens of connection expressions

A text is a sequence of tokens with white space between them, and a name is read as
far as it goes.  `Spells` relates a text to its tokens.  The readers of single tokens
look no further than the first token ahead: they accept it if it is the one they are
for, and leave what spells the others.
-/

namespace LabMatch.Expression

inductive Token
  | mark (character : Char)
  | name (text : String)
deriving DecidableEq

/-- The characters that are tokens of their own. -/
def marks : List Char := ['(', ')', '&', '|', '+']

/-- The characters spell the tokens, with any white space around them. -/
inductive Spells : List Token → List Char → Prop
  | nil : Spells [] []
  | blank {tokens : List Token} {blank : Char} {rest : List Char}
      (hblank : Unicode.isWhiteSpace blank = true) (hrest : Spells tokens rest) :
      Spells tokens (blank :: rest)
  | mark {tokens : List Token} {mark : Char} {rest : List Char}
      (hmark : mark ∈ marks) (hrest : Spells tokens rest) :
      Spells (.mark mark :: tokens) (mark :: rest)
  /-- A name does not end before its last character. -/
  | name {tokens : List Token} {characters rest : List Char} (hne : characters ≠ [])
      (hname : ∀ character ∈ characters, isNameCharacter character = true)
      (hend : ∀ character ∈ rest.head?, isNameCharacter character = false)
      (hrest : Spells tokens rest) :
      Spells (.name (String.ofList characters) :: tokens) (characters ++ rest)

/-! ## Characters -/

/-- No white space occurs in a name. -/
theorem isNameCharacter_of_isWhiteSpace {character : Char}
    (hblank : Unicode.isWhiteSpace character = true) : isNameCharacter character = false := by
  have hlisted : character.toNat ∈ Unicode.whiteSpaceRanges.flatMap fun range =>
      List.range' range.1 (range.2 + 1 - range.1) := by
    obtain ⟨range, hrange, hwithin⟩ := List.any_eq_true.mp hblank
    simp only [Bool.and_eq_true, decide_eq_true_eq] at hwithin
    rw [List.mem_flatMap]
    refine ⟨range, hrange, List.mem_range'_1.mpr ⟨hwithin.1, ?_⟩⟩
    omega
  have hnone : ∀ point ∈ Unicode.whiteSpaceRanges.flatMap fun range =>
      List.range' range.1 (range.2 + 1 - range.1),
      isNameCharacter (Char.ofNat point) = false := by
    decide +kernel
  exact Char.ofNat_toNat character ▸ hnone _ hlisted

theorem isWhiteSpace_of_isNameCharacter {character : Char}
    (hname : isNameCharacter character = true) : Unicode.isWhiteSpace character = false := by
  apply eq_false_of_ne_true
  intro hblank
  rw [isNameCharacter_of_isWhiteSpace hblank] at hname
  cases hname

theorem isWhiteSpace_of_mem_marks {mark : Char} (hmark : mark ∈ marks) :
    Unicode.isWhiteSpace mark = false := by
  have hall : (marks.all fun mark => !Unicode.isWhiteSpace mark) = true := by decide
  simpa using List.all_eq_true.mp hall mark hmark

theorem isNameCharacter_of_mem_marks {mark : Char} (hmark : mark ∈ marks) :
    isNameCharacter mark = false := by
  have hall : (marks.all fun mark => !isNameCharacter mark) = true := by decide
  simpa using List.all_eq_true.mp hall mark hmark

/-! ## Single tokens -/

section Tokens

variable {input : List Char} {tokens : List Token} {expected : Char} {text : String}

theorem mark?_eq_some_iff {rest : Shorter input} :
    mark? expected input = some rest ↔ input = expected :: rest.val := by
  cases input with
  | nil => simp [mark?]
  | cons first others =>
    obtain ⟨rest, hrest⟩ := rest
    by_cases hfirst : first = expected
    · simp [mark?, hfirst, afterFirst]
    · simp [mark?, hfirst]

theorem mark?_eq_none_iff : mark? expected input = none ↔ input.head? ≠ some expected := by
  cases input with
  | nil => simp [mark?]
  | cons first others => by_cases hfirst : first = expected <;> simp [mark?, hfirst]

theorem token?_eq_some_iff {rest : Shorter input} :
    token? expected input = some rest ↔ (skipBlanks input).val = expected :: rest.val := by
  constructor
  · intro htoken
    obtain ⟨marked, hmarked, rfl⟩ := Option.map_eq_some_iff.mp htoken
    exact mark?_eq_some_iff.mp hmarked
  · intro hinput
    have hshorter : rest.val.length < (skipBlanks input).val.length := by simp [hinput]
    have hmarked : mark? expected (skipBlanks input).val = some ⟨rest.val, hshorter⟩ :=
      mark?_eq_some_iff.mpr hinput
    rw [token?, hmarked]
    rfl

theorem token?_eq_none_iff :
    token? expected input = none ↔ (skipBlanks input).val.head? ≠ some expected := by
  rw [token?, Option.map_eq_none_iff, mark?_eq_none_iff]

theorem word?_eq_some_iff {accepted : Char → Bool} {word : List Char} {rest : Shorter input} :
    word? accepted input = some (word, rest) ↔
      word ≠ [] ∧ input.takeWhile accepted = word ∧ input.dropWhile accepted = rest.val := by
  obtain ⟨rest, hrest⟩ := rest
  cases input with
  | nil =>
    simp only [word?, List.takeWhile_nil]
    constructor
    · intro hnone
      cases hnone
    · intro hsome
      exact absurd hsome.2.1.symm hsome.1
  | cons first others =>
    by_cases hfirst : accepted first
    · simp only [word?, if_pos hfirst, List.takeWhile_cons_of_pos hfirst,
        List.dropWhile_cons_of_pos hfirst, Option.some.injEq, Prod.mk.injEq]
      constructor
      · rintro ⟨rfl, hrest⟩
        exact ⟨List.cons_ne_nil _ _, rfl, congrArg Subtype.val hrest⟩
      · intro hword
        exact ⟨hword.2.1, Subtype.ext hword.2.2⟩
    · simp only [word?, if_neg hfirst, List.takeWhile_cons_of_neg hfirst]
      constructor
      · intro hnone
        cases hnone
      · intro hsome
        exact absurd hsome.2.1.symm hsome.1

theorem word?_eq_none_iff {accepted : Char → Bool} :
    word? accepted input = none ↔ input.takeWhile accepted = [] := by
  cases input with
  | nil => simp [word?]
  | cons first rest => by_cases hfirst : accepted first <;> simp [word?, hfirst]

/-- What is read as a name is the longest run of name characters after the white space. -/
theorem name_eq_ok {rest : Shorter input} (hread : name input = .ok (text, rest)) :
    ∃ characters, characters ≠ [] ∧ text = String.ofList characters ∧
      (skipBlanks input).val.takeWhile isNameCharacter = characters ∧
      (skipBlanks input).val.dropWhile isNameCharacter = rest.val := by
  rw [name] at hread
  split at hread
  · cases hread
  · rename_i characters after hword
    cases hread
    obtain ⟨hne, htake, hdrop⟩ := word?_eq_some_iff.mp hword
    exact ⟨characters, hne, rfl, htake, hdrop⟩

/-- Reading a name only fails where none starts, and reports that place. -/
theorem name_eq_error_iff {failure : Failure} :
    name input = .error failure ↔
      failure = ⟨.expectedName, (skipBlanks input).val⟩ ∧
        (skipBlanks input).val.takeWhile isNameCharacter = [] := by
  rw [name, ← word?_eq_none_iff]
  split
  · rename_i hword
    simp [hword, eq_comm]
  · rename_i hword
    simp [hword]

theorem exists_name_eq_ok {characters after : List Char} (hne : characters ≠ [])
    (htake : (skipBlanks input).val.takeWhile isNameCharacter = characters)
    (hdrop : (skipBlanks input).val.dropWhile isNameCharacter = after) :
    ∃ rest, name input = .ok (String.ofList characters, rest) ∧ rest.val = after := by
  have hlength := congrArg List.length
    (List.takeWhile_append_dropWhile (p := isNameCharacter) (l := (skipBlanks input).val))
  have hpositive := List.length_pos_iff.mpr hne
  have hshorter : after.length < (skipBlanks input).val.length := by
    rw [List.length_append, htake, hdrop] at hlength
    omega
  have hword : word? isNameCharacter (skipBlanks input).val =
      some (characters, ⟨after, hshorter⟩) := word?_eq_some_iff.mpr ⟨hne, htake, hdrop⟩
  rw [name, hword]
  exact ⟨_, rfl, rfl⟩

/-- `Spells`, without white space in front of the first token. -/
inductive Starts : List Token → List Char → Prop
  | nil : Starts [] []
  | mark {tokens : List Token} {mark : Char} {rest : List Char}
      (hmark : mark ∈ marks) (hrest : Spells tokens rest) :
      Starts (.mark mark :: tokens) (mark :: rest)
  | name {tokens : List Token} {characters rest : List Char} (hne : characters ≠ [])
      (hname : ∀ character ∈ characters, isNameCharacter character = true)
      (hend : ∀ character ∈ rest.head?, isNameCharacter character = false)
      (hrest : Spells tokens rest) :
      Starts (.name (String.ofList characters) :: tokens) (characters ++ rest)

theorem Starts.spells (hstarts : Starts tokens input) : Spells tokens input := by
  cases hstarts with
  | nil => exact .nil
  | mark hmark hrest => exact .mark hmark hrest
  | name hne hname hend hrest => exact .name hne hname hend hrest

theorem skipBlanks_cons_of_pos {first : Char} {rest : List Char}
    (hfirst : Unicode.isWhiteSpace first = true) :
    (skipBlanks (first :: rest)).val = (skipBlanks rest).val :=
  List.dropWhile_cons_of_pos hfirst

theorem skipBlanks_cons_of_neg {first : Char} {rest : List Char}
    (hfirst : Unicode.isWhiteSpace first = false) :
    (skipBlanks (first :: rest)).val = first :: rest :=
  List.dropWhile_cons_of_neg (by simp [hfirst])

/-- No token starts with white space, so leaving out the blanks leads to the first one. -/
theorem Spells.starts (hspells : Spells tokens input) :
    Starts tokens (skipBlanks input).val := by
  induction hspells with
  | nil => exact .nil
  | blank hblank hrest ih =>
    rw [skipBlanks_cons_of_pos hblank]
    exact ih
  | mark hmark hrest ih =>
    rw [skipBlanks_cons_of_neg (isWhiteSpace_of_mem_marks hmark)]
    exact .mark hmark hrest
  | @name tokens characters rest hne hname hend hrest ih =>
    obtain ⟨first, others, rfl⟩ := List.exists_cons_of_ne_nil hne
    rw [List.cons_append, skipBlanks_cons_of_neg
      (isWhiteSpace_of_isNameCharacter (hname first List.mem_cons_self))]
    exact .name hne hname hend hrest

theorem spells_append_of_isWhiteSpace {blanks rest : List Char}
    (hblanks : ∀ blank ∈ blanks, Unicode.isWhiteSpace blank = true) (hrest : Spells tokens rest) :
    Spells tokens (blanks ++ rest) := by
  induction blanks with
  | nil => exact hrest
  | cons blank others ih =>
    rw [List.forall_mem_cons] at hblanks
    exact .blank hblanks.1 (ih hblanks.2)

theorem spells_skipBlanks_iff : Spells tokens (skipBlanks input).val ↔ Spells tokens input := by
  constructor
  · intro hspells
    rw [← List.takeWhile_append_dropWhile (p := Unicode.isWhiteSpace) (l := input)]
    apply spells_append_of_isWhiteSpace _ hspells
    intro blank hblank
    exact List.mem_takeWhile_imp hblank
  · intro hspells
    exact hspells.starts.spells

/-- A mark that comes next is read. -/
theorem Spells.exists_token? (hspells : Spells (.mark expected :: tokens) input) :
    ∃ rest, token? expected input = some rest ∧ Spells tokens rest.val := by
  have hstarts := hspells.starts
  generalize hinput : (skipBlanks input).val = start at hstarts
  cases hstarts with
  | @mark _ _ rest hmark hrest =>
    have hshorter : rest.length < input.length := by
      have hlength := (skipBlanks input).property
      rw [hinput, List.length_cons] at hlength
      omega
    exact ⟨⟨rest, hshorter⟩, token?_eq_some_iff.mpr hinput, hrest⟩

/-- A mark is not read in front of any other token. -/
theorem Spells.token?_eq_none (hspells : Spells tokens input) (hexpected : expected ∈ marks)
    (hhead : tokens.head? ≠ some (.mark expected)) : token? expected input = none := by
  rw [token?_eq_none_iff]
  have hstarts := hspells.starts
  generalize (skipBlanks input).val = start at hstarts
  intro hfirst
  cases hstarts with
  | nil => cases hfirst
  | mark hmark hrest =>
    cases hfirst
    exact hhead rfl
  | @name tokens characters rest hne hname hend hrest =>
    obtain ⟨first, others, rfl⟩ := List.exists_cons_of_ne_nil hne
    cases hfirst
    have hnone := isNameCharacter_of_mem_marks hexpected
    rw [hname expected List.mem_cons_self] at hnone
    cases hnone

/-- A mark that was read came next. -/
theorem spells_of_token? {rest : Shorter input} (htoken : token? expected input = some rest)
    (hexpected : expected ∈ marks) (hrest : Spells tokens rest.val) :
    Spells (.mark expected :: tokens) input := by
  rw [← spells_skipBlanks_iff, token?_eq_some_iff.mp htoken]
  exact .mark hexpected hrest

/-- A name that comes next is read as a whole. -/
theorem Spells.exists_name (hspells : Spells (.name text :: tokens) input) :
    ∃ rest, Expression.name input = .ok (text, rest) ∧ Spells tokens rest.val := by
  have hstarts := hspells.starts
  generalize hinput : (skipBlanks input).val = start at hstarts
  cases hstarts with
  | @name _ characters rest hne hname hend hrest =>
    have htake : (skipBlanks input).val.takeWhile isNameCharacter = characters := by
      rw [hinput, List.takeWhile_append_of_pos hname]
      cases rest with
      | nil => simp
      | cons next others => simp [hend next rfl]
    have hdrop : (skipBlanks input).val.dropWhile isNameCharacter = rest := by
      rw [hinput, List.dropWhile_append_of_pos hname]
      cases rest with
      | nil => simp
      | cons next others => simp [hend next rfl]
    obtain ⟨left, hread, hleft⟩ := exists_name_eq_ok hne htake hdrop
    exact ⟨left, hread, hleft ▸ hrest⟩

/-- A name that was read came next. -/
theorem spells_of_name {rest : Shorter input} (hread : name input = .ok (text, rest))
    (hrest : Spells tokens rest.val) : Spells (.name text :: tokens) input := by
  obtain ⟨characters, hne, rfl, htake, hdrop⟩ := name_eq_ok hread
  rw [← spells_skipBlanks_iff,
    ← List.takeWhile_append_dropWhile (p := isNameCharacter) (l := (skipBlanks input).val), htake,
    hdrop]
  apply Spells.name hne _ _ hrest
  · intro character hcharacter
    rw [← htake] at hcharacter
    exact List.mem_takeWhile_imp hcharacter
  · intro character hcharacter
    rw [← hdrop] at hcharacter
    have hhead := List.head?_dropWhile_not isNameCharacter (skipBlanks input).val
    rw [Option.mem_def.mp hcharacter] at hhead
    simpa using hhead

end Tokens

/-! ## Texts in a row -/

/-- Texts may be put together where the second one starts with no character of a name. -/
theorem Spells.append {first second : List Token} {front back : List Char}
    (hfirst : Spells first front) (hsecond : Spells second back)
    (hend : ∀ character ∈ back.head?, isNameCharacter character = false) :
    Spells (first ++ second) (front ++ back) := by
  induction hfirst with
  | nil => exact hsecond
  | blank hblank hrest ih => exact .blank hblank ih
  | mark hmark hrest ih => exact .mark hmark ih
  | @name tokens characters rest hne hname hstop hrest ih =>
    rw [List.append_assoc, List.cons_append]
    apply Spells.name hne hname _ ih
    cases rest with
    | nil => exact hend
    | cons next others => exact hstop

/-- Texts may be put together around a mark with blanks on both sides. -/
theorem Spells.append_spaced {first second : List Token} {front back : List Char} {mark : Char}
    (hmark : mark ∈ marks) (hfirst : Spells first front) (hsecond : Spells second back) :
    Spells (first ++ .mark mark :: second) (front ++ ' ' :: mark :: ' ' :: back) := by
  apply hfirst.append (.blank (by decide) (.mark hmark (.blank (by decide) hsecond)))
  intro character hcharacter
  cases hcharacter
  decide

end LabMatch.Expression
