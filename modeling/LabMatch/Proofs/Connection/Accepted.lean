import LabMatch.Proofs.Connection.Position
import LabMatch.Proofs.Connection.Reading

/-!
# Which texts are connection expressions

A text is accepted exactly if it spells a phrase that keeps the limits.  Whatever
phrase it spells, the connection has the alternatives of that phrase and no anchor.
-/

namespace LabMatch

namespace Expression

variable {input : List Char}

theorem spells_nil_iff : Spells [] input ↔ (skipBlanks input).val = [] := by
  constructor
  · intro hspells
    have hstarts := hspells.starts
    generalize (skipBlanks input).val = start at hstarts
    cases hstarts
    rfl
  · intro hblank
    rw [← spells_skipBlanks_iff, hblank]
    exact .nil

theorem stops_nil (marks : List Char) : Stops marks [] := by
  intro mark hmark hhead
  cases hhead

variable {phrase : Phrase}

/-- A phrase within the limits is read as its shape. -/
theorem shape_eq_ok_of_fits (hfits : (phrases maximalNesting).Fits phrase)
    (hspells : Spells phrase.tokens input) : Expression.shape input = .ok phrase.shape := by
  rw [← List.append_nil phrase.tokens] at hspells
  obtain ⟨rest, hread, hrest⟩ :=
    (reads_expression maximalNesting).accepts phrase [] input hfits (stops_nil _) hspells
  rw [Expression.shape, hread]
  dsimp only
  rw [spells_nil_iff.mp hrest]
  rfl

/-- A phrase beyond the limits is refused for one of them. -/
theorem shape_eq_error_of_not_fits (hfits : ¬ (phrases maximalNesting).Fits phrase)
    (hspells : Spells phrase.tokens input) :
    ∃ failure, Expression.shape input = .error failure ∧ failure.fault ∈ limitFaults := by
  rw [← List.append_nil phrase.tokens] at hspells
  obtain ⟨failure, hfails, hlimit⟩ :=
    (reads_expression maximalNesting).refuses phrase [] input hfits (stops_nil _) hspells
  rw [Expression.shape, hfails]
  exact ⟨failure, rfl, hlimit⟩

/-- What is read was spelled by a phrase within the limits. -/
theorem exists_phrase_of_shape_eq_ok {shape : Shape} (hread : Expression.shape input = .ok shape) :
    ∃ phrase, (phrases maximalNesting).Fits phrase ∧ phrase.shape = shape ∧
      Spells phrase.tokens input := by
  rw [Expression.shape] at hread
  split at hread
  · cases hread
  · rename_i read rest hexpression
    split at hread
    · rename_i hblank
      cases hread
      obtain ⟨phrase, hfits, hshape, hspells⟩ :=
        (reads_expression maximalNesting).sound input _ rest hexpression
      have hphrase := hspells [] (spells_nil_iff.mpr hblank)
      rw [List.append_nil] at hphrase
      exact ⟨phrase, hfits, hshape, hphrase⟩
    · cases hread

/-- An error is reported at a position in the text. -/
theorem position_of_shape_eq_error {failure : Failure}
    (hfails : Expression.shape input = .error failure) : Position input failure.rest := by
  have hends := moves_expression maximalNesting input .start
  rw [Expression.shape] at hfails
  split at hfails
  · rename_i hexpression
    cases hfails
    exact hends.of_error hexpression
  · rename_i read rest hexpression
    split at hfails
    · cases hfails
    · cases hfails
      exact (hends.of_ok hexpression).blanks

end Expression

open Expression

variable {text : String} {phrase : Phrase}

theorem parse_eq_ok_of_fits (hfits : (phrases maximalNesting).Fits phrase)
    (hspells : Spells phrase.tokens text.toList) :
    Connection.parse text = .ok ⟨phrase.shape, none⟩ := by
  rw [Connection.parse, shape_eq_ok_of_fits hfits hspells]

theorem parse_eq_error_of_not_fits (hfits : ¬ (phrases maximalNesting).Fits phrase)
    (hspells : Spells phrase.tokens text.toList) :
    ∃ offset, ∃ fault ∈ limitFaults,
      Connection.parse text = .error (.malformed text offset fault) := by
  obtain ⟨failure, hfails, hlimit⟩ := shape_eq_error_of_not_fits hfits hspells
  rw [Connection.parse, hfails]
  exact ⟨_, failure.fault, hlimit, rfl⟩

theorem exists_phrase_of_parse_eq_ok {connection : Connection}
    (hparse : Connection.parse text = .ok connection) :
    ∃ phrase, (phrases maximalNesting).Fits phrase ∧ Spells phrase.tokens text.toList := by
  rw [Connection.parse] at hparse
  split at hparse
  · rename_i hshape
    obtain ⟨phrase, hfits, -, hspells⟩ := exists_phrase_of_shape_eq_ok hshape
    exact ⟨phrase, hfits, hspells⟩
  · cases hparse

/-- The connection of a phrase has its alternatives. -/
theorem parse_eq_ok_of_spells {connection : Connection}
    (hparse : Connection.parse text = .ok connection)
    (hspells : Spells phrase.tokens text.toList) : connection = ⟨phrase.shape, none⟩ := by
  by_cases hfits : (phrases maximalNesting).Fits phrase
  · rw [parse_eq_ok_of_fits hfits hspells] at hparse
    cases hparse
    rfl
  · obtain ⟨offset, fault, -, hfails⟩ := parse_eq_error_of_not_fits hfits hspells
    rw [hfails] at hparse
    cases hparse

/-- What is seen of a connection that was read can be computed. -/
theorem exists_parse_eq_ok_of_map {Seen : Type} {see : Connection → Seen} {seen : Seen}
    (hseen : (Connection.parse text).map see = .ok seen) :
    ∃ connection, Connection.parse text = .ok connection ∧ see connection = seen := by
  cases hparse : Connection.parse text with
  | error error =>
    rw [hparse] at hseen
    cases hseen
  | ok connection =>
    rw [hparse] at hseen
    exact ⟨connection, rfl, Except.ok.inj hseen⟩

theorem parse_eq_error_of_map {Seen : Type} {see : Connection → Seen} {error : ConnectionError}
    (hfails : (Connection.parse text).map see = .error error) :
    Connection.parse text = .error error := by
  cases hparse : Connection.parse text with
  | error other =>
    rw [hparse] at hfails
    exact congrArg Except.error (Except.error.inj hfails)
  | ok connection =>
    rw [hparse] at hfails
    cases hfails

theorem exists_offset_of_parse_eq_error {error : ConnectionError}
    (hparse : Connection.parse text = .error error) :
    ∃ rest fault, Position text.toList rest ∧
      error = .malformed text (byteLength text.toList - byteLength rest) fault := by
  rw [Connection.parse] at hparse
  split at hparse
  · cases hparse
  · rename_i failure hfails
    cases hparse
    exact ⟨failure.rest, failure.fault, position_of_shape_eq_error hfails, rfl⟩

/-- A text is accepted exactly if it spells a phrase of the grammar within the limits on
nesting and on the numbers of alternatives.  Its connection is not anchored and has the
alternatives of the phrase.  Every text is either accepted or found malformed at a
boundary between characters, and readers stop nowhere else on the way. -/
theorem parse_acceptsGrammar (text : String) :
    ((∃ connection, Connection.parse text = .ok connection) ↔
      ∃ phrase : Phrase, Spells phrase.tokens text.toList ∧
        phrase.nesting ≤ maximalNesting ∧ phrase.IsBounded) ∧
    (∀ connection phrase, Connection.parse text = .ok connection →
      Spells (Phrase.tokens phrase) text.toList →
        connection.anchor = none ∧ ∀ tags, tags ∈ connection.alternatives ↔ tags ∈ phrase.offers) ∧
    (∀ error, Connection.parse text = .error error →
      ∃ offset fault, error = .malformed text offset fault ∧
        String.Pos.Raw.IsValid text ⟨offset⟩) ∧
    ∀ rest, Position text.toList rest →
      String.Pos.Raw.IsValid text ⟨byteLength text.toList - byteLength rest⟩ ∧
        ∀ depth, EndsIn text.toList (expression depth rest) := by
  refine ⟨⟨?_, ?_⟩, ?_, ?_, ?_⟩
  · intro haccepted
    obtain ⟨connection, hparse⟩ := haccepted
    obtain ⟨phrase, hfits, hspells⟩ := exists_phrase_of_parse_eq_ok hparse
    exact ⟨phrase, hspells, hfits⟩
  · intro hphrase
    obtain ⟨phrase, hspells, hfits⟩ := hphrase
    exact ⟨_, parse_eq_ok_of_fits hfits hspells⟩
  · intro connection phrase hparse hspells
    have hconnection := parse_eq_ok_of_spells hparse hspells
    subst hconnection
    refine ⟨rfl, fun tags => ?_⟩
    rw [← phrase.choices_shape, ← Shape.setOf_mem_alternatives]
    rfl
  · intro error hparse
    obtain ⟨rest, fault, hposition, herror⟩ := exists_offset_of_parse_eq_error hparse
    exact ⟨_, fault, herror, isValid_of_isSuffix hposition.isSuffix⟩
  · intro rest hposition
    exact ⟨isValid_of_isSuffix hposition.isSuffix,
      fun depth => moves_expression depth rest hposition⟩

def usbOrCan : Phrase :=
  .of (.of (.chain ⟨"usb", by decide⟩ []) []) [.of (.chain ⟨"can", by decide⟩ []) []]

theorem spells_usbOrCan : Spells usbOrCan.tokens "usb | can".toList := by
  have hcan : Spells [.name "can"] ['c', 'a', 'n'] :=
    @Spells.name _ ['c', 'a', 'n'] [] (by decide) (List.all_eq_true.mp (by decide))
      (fun _ hnone => by cases hnone) .nil
  have hrest : Spells [.mark '|', .name "can"] [' ', '|', ' ', 'c', 'a', 'n'] :=
    .blank (by decide) (.mark (by decide) (.blank (by decide) hcan))
  have husb : Spells [.name "usb", .mark '|', .name "can"]
      ['u', 's', 'b', ' ', '|', ' ', 'c', 'a', 'n'] :=
    @Spells.name _ ['u', 's', 'b'] _ (by decide) (List.all_eq_true.mp (by decide))
      (fun _ hblank => by cases hblank; decide) hrest
  simpa [usbOrCan, Phrase.tokens, Term.tokens, Factor.tokens, chainTokens] using husb

theorem fits_usbOrCan : (phrases maximalNesting).Fits usbOrCan := by
  simp [phrases, usbOrCan, Phrase.nesting, Term.nesting, Factor.nesting, Phrase.IsBounded,
    Term.IsBounded, Factor.IsBounded, Term.offers, Factor.offers, allTogether,
    maximalAlternatives]

/-- The text of the choice is read, with the two names as its alternatives. -/
theorem parse_acceptsGrammar_usbOrCan :
    ∃ connection, Connection.parse "usb | can" = .ok connection ∧ connection.anchor = none ∧
      ∀ tags, tags ∈ connection.alternatives ↔ tags ∈ usbOrCan.offers := by
  obtain ⟨connection, hparse⟩ :=
    (parse_acceptsGrammar "usb | can").1.mpr ⟨usbOrCan, spells_usbOrCan, fits_usbOrCan⟩
  exact ⟨connection, hparse,
    (parse_acceptsGrammar "usb | can").2.1 connection usbOrCan hparse spells_usbOrCan⟩

end LabMatch
