import LabMatch.Connection.Text
import LabMatch.Proofs.Connection.Accepted
import LabMatch.Proofs.Connection.Signature

/-!
# Written connections read back

The written form of a connection is flat: an `every` directly inside an `every` and an
`either` directly inside an `either` leave no trace, so reading it back gives another
tree in general.  But it always spells a phrase, with the same alternatives and the
same written form.  Only the limits of the grammar can stand in the way.
-/

namespace LabMatch

namespace Expression

theorem spells_name_toList {tag : String} (htag : IsTag tag) : Spells [.name tag] tag.toList := by
  have hne : tag.toList ≠ [] := by
    rw [ne_eq, String.toList_eq_nil_iff]
    exact htag.nonempty
  have hspells := Spells.name hne htag.characters (fun _ hnone => by cases hnone) .nil
  rwa [String.ofList_toList, List.append_nil] at hspells

/-! ## Joined phrases -/

def Term.and : Term → Term → Term
  | .of first others, .of second more => .of first (others ++ second :: more)

def Phrase.or : Phrase → Phrase → Phrase
  | .of first others, .of second more => .of first (others ++ second :: more)

def Term.text : Term → String
  | .of first others => first.shape.factorText ++ Shape.moreFactors (others.map Factor.shape)

theorem tokens_and (term other : Term) :
    (term.and other).tokens = term.tokens ++ .mark '&' :: other.tokens := by
  obtain ⟨first, others⟩ := term
  obtain ⟨second, more⟩ := other
  simp only [Term.and, Term.tokens, List.flatMap_append, List.flatMap_cons, List.append_assoc,
    List.cons_append]

theorem tokens_or (phrase other : Phrase) :
    (phrase.or other).tokens = phrase.tokens ++ .mark '|' :: other.tokens := by
  obtain ⟨first, others⟩ := phrase
  obtain ⟨second, more⟩ := other
  simp only [Phrase.or, Phrase.tokens, List.flatMap_append, List.flatMap_cons, List.append_assoc,
    List.cons_append]

theorem offers_eq_jointChoices (first : Factor) (others : List Factor) :
    (Term.of first others).offers = Shape.jointChoices ((first :: others).map Factor.shape) := by
  rw [← Term.choices_shape, Term.shape, Shape.choices_allOf, List.map_cons]

/-- Joined terms offer one choice of either, taken together. -/
theorem offers_and (term other : Term) :
    (term.and other).offers = Set.image2 TagSet.union term.offers other.offers := by
  obtain ⟨first, others⟩ := term
  obtain ⟨second, more⟩ := other
  rw [Term.and, offers_eq_jointChoices, offers_eq_jointChoices, offers_eq_jointChoices,
    ← Shape.jointChoices_append, ← List.map_append, List.cons_append]

theorem offers_or (phrase other : Phrase) :
    (phrase.or other).offers = phrase.offers ∪ other.offers := by
  obtain ⟨first, others⟩ := phrase
  obtain ⟨second, more⟩ := other
  ext tags
  simp [Phrase.or, Phrase.offers, or_and_right, exists_or, or_assoc]

theorem offers_of_term (term : Term) : (Phrase.of term []).offers = term.offers := by
  rw [← Phrase.choices_shape, Phrase.shape, ← Term.choices_shape]
  rfl

theorem offers_of_factor (factor : Factor) : (Term.of factor []).offers = factor.offers := by
  rw [← Term.choices_shape, Term.shape, ← Factor.choices_shape]
  rfl

theorem moreFactors_append (shapes others : List Shape) :
    Shape.moreFactors (shapes ++ others) =
      Shape.moreFactors shapes ++ Shape.moreFactors others := by
  induction shapes with
  | nil => rw [List.nil_append, Shape.moreFactors, String.empty_append]
  | cons first rest ih =>
    simp only [List.cons_append, Shape.moreFactors, ih, String.append_assoc]

theorem moreBranches_append (shapes others : List Shape) :
    Shape.moreBranches (shapes ++ others) =
      Shape.moreBranches shapes ++ Shape.moreBranches others := by
  induction shapes with
  | nil => rw [List.nil_append, Shape.moreBranches, String.empty_append]
  | cons first rest ih =>
    simp only [List.cons_append, Shape.moreBranches, ih, String.append_assoc]

theorem text_and (term other : Term) :
    (term.and other).text = term.text ++ " & " ++ other.text := by
  obtain ⟨first, others⟩ := term
  obtain ⟨second, more⟩ := other
  simp only [Term.and, Term.text, List.map_append, List.map_cons, moreFactors_append,
    Shape.moreFactors, String.append_assoc]

theorem text_anyOf (first : Shape) (others : List Shape) :
    (Shape.anyOf first others).text = first.text ++ Shape.moreBranches others := by
  cases others with
  | nil => rw [Shape.anyOf, Shape.moreBranches, String.append_empty]
  | cons second rest =>
    simp only [Shape.anyOf, Shape.text, Shape.moreBranches, String.append_assoc]

theorem text_or (phrase other : Phrase) :
    (phrase.or other).shape.text = phrase.shape.text ++ " | " ++ other.shape.text := by
  obtain ⟨first, others⟩ := phrase
  obtain ⟨second, more⟩ := other
  simp only [Phrase.or, Phrase.shape, text_anyOf, List.map_append, List.map_cons,
    moreBranches_append, Shape.moreBranches, String.append_assoc]

/-- Several factors need no parentheses around them. -/
theorem text_shape_and (term other : Term) :
    (term.and other).shape.text = (term.and other).text := by
  obtain ⟨first, others⟩ := term
  obtain ⟨second, more⟩ := other
  cases others with
  | nil =>
    simp only [Term.and, Term.shape, Term.text, List.nil_append, List.map_cons, Shape.allOf,
      Shape.text, Shape.moreFactors, String.append_assoc]
  | cons third rest =>
    simp only [Term.and, Term.shape, Term.text, List.cons_append, List.map_cons, Shape.allOf,
      Shape.text, Shape.moreFactors, String.append_assoc]

/-- Several terms stand in parentheses inside an `every`. -/
theorem factorText_shape_or (phrase other : Phrase) :
    (phrase.or other).shape.factorText = "(" ++ (phrase.or other).shape.text ++ ")" := by
  obtain ⟨first, others⟩ := phrase
  obtain ⟨second, more⟩ := other
  cases others with
  | nil =>
    simp only [Phrase.or, Phrase.shape, List.nil_append, List.map_cons, Shape.anyOf,
      Shape.factorText, Shape.text]
  | cons third rest =>
    simp only [Phrase.or, Phrase.shape, List.cons_append, List.map_cons, Shape.anyOf,
      Shape.factorText, Shape.text]

/-! ## Phrases of written forms -/

/-- The term is what a text spells, its written form is the text again, and it means the
choices. -/
structure Term.Prints (term : Term) (text : String) (choices : Set TagSet) : Prop where
  spells : Spells term.tokens text.toList
  text_eq : term.text = text
  offers_eq : term.offers = choices

/-- The phrase is what a text spells, its written form is the text again, and it means
the choices. -/
structure Phrase.Prints (phrase : Phrase) (text : String) (choices : Set TagSet) : Prop where
  spells : Spells phrase.tokens text.toList
  text_eq : phrase.shape.text = text
  offers_eq : phrase.offers = choices

section Prints

variable {term other : Term} {phrase more : Phrase} {text otherText : String}
  {choices otherChoices : Set TagSet}

/-- Terms that print can be joined by `&`. -/
theorem Term.Prints.and (hterm : term.Prints text choices)
    (hother : other.Prints otherText otherChoices) :
    (term.and other).Prints (text ++ " & " ++ otherText)
      (Set.image2 TagSet.union choices otherChoices) where
  spells := by
    rw [tokens_and, String.toList_append, String.toList_append, List.append_assoc]
    exact hterm.spells.append_spaced (by decide) hother.spells
  text_eq := by rw [text_and, hterm.text_eq, hother.text_eq]
  offers_eq := by rw [offers_and, hterm.offers_eq, hother.offers_eq]

theorem Phrase.Prints.or (hphrase : phrase.Prints text choices)
    (hmore : more.Prints otherText otherChoices) :
    (phrase.or more).Prints (text ++ " | " ++ otherText) (choices ∪ otherChoices) where
  spells := by
    rw [tokens_or, String.toList_append, String.toList_append, List.append_assoc]
    exact hphrase.spells.append_spaced (by decide) hmore.spells
  text_eq := by rw [text_or, hphrase.text_eq, hmore.text_eq]
  offers_eq := by rw [offers_or, hphrase.offers_eq, hmore.offers_eq]

/-- Several terms in parentheses are a term. -/
theorem prints_parenthesised (hphrase : (phrase.or more).Prints text choices) :
    (Term.of (.parenthesised (phrase.or more)) []).Prints ("(" ++ text ++ ")") choices where
  spells := by
    have hclosing : Spells [.mark ')'] [')'] := .mark (by decide) .nil
    have hinside := hphrase.spells.append hclosing fun _ hmark => by cases hmark; decide
    rw [String.toList_append, String.toList_append, Term.tokens, Factor.tokens]
    simpa using Spells.mark (by decide) hinside
  text_eq := by
    rw [Term.text, Factor.shape, factorText_shape_or, hphrase.text_eq, List.map_nil,
      Shape.moreFactors, String.append_empty]
  offers_eq := by rw [offers_of_factor, Factor.offers, hphrase.offers_eq]

/-- A term is a phrase, and keeps its written form if it is not a phrase in parentheses. -/
theorem Term.Prints.alone (hterm : term.Prints text choices) (htext : term.shape.text = term.text) :
    (Phrase.of term []).Prints text choices where
  spells := by
    rw [Phrase.tokens, List.flatMap_nil, List.append_nil]
    exact hterm.spells
  text_eq := by rw [Phrase.shape, List.map_nil, Shape.anyOf, htext, hterm.text_eq]
  offers_eq := by rw [offers_of_term, hterm.offers_eq]

end Prints

theorem spells_chain {first : Word} {others : List Word}
    (htags : ∀ word ∈ first :: others, IsTag word.text) :
    Spells (Factor.chain first others).tokens
      ("+".intercalate ((first :: others).map Word.text)).toList := by
  induction others generalizing first with
  | nil =>
    simpa [Factor.tokens, chainTokens] using spells_name_toList (htags first List.mem_cons_self)
  | cons second rest ih =>
    rw [List.forall_mem_cons] at htags
    have hrest := ih htags.2
    have hplus : Spells (.mark '+' :: (Factor.chain second rest).tokens) _ :=
      .mark (by decide) hrest
    have hspells := (spells_name_toList htags.1).append hplus (by simp; decide)
    simpa [Factor.tokens, chainTokens, String.intercalate_cons_cons] using hspells

theorem exists_map_text_eq {tags : List String} (htags : ∀ tag ∈ tags, IsTag tag) :
    ∃ words : List Word, words.map Word.text = tags := by
  induction tags with
  | nil => exact ⟨[], rfl⟩
  | cons first others ih =>
    rw [List.forall_mem_cons] at htags
    obtain ⟨words, rfl⟩ := ih htags.2
    exact ⟨⟨first, htags.1.noBareWord⟩ :: words, rfl⟩

/-- The written form of a set of tags spells a factor for the set. -/
theorem exists_factor_of_isTag {set : TagSet} (htags : ∀ tag ∈ set.tags, IsTag tag) :
    ∃ factor : Factor, factor.shape = .link set ∧ factor.nesting = 0 ∧
      Spells factor.tokens set.text.toList := by
  by_cases hbare : set.tags = []
  · have hset : set = TagSet.bare := TagSet.ext hbare
    subst hset
    refine ⟨.bare, Factor.shape.eq_2, Factor.nesting.eq_2, ?_⟩
    rw [Factor.tokens]
    exact @Spells.name _ ['a', 'n', 'y'] [] (by decide) (List.all_eq_true.mp (by decide))
      (fun _ hnone => by cases hnone) .nil
  · obtain ⟨words, hwords⟩ := exists_map_text_eq htags
    rw [← hwords, List.map_eq_nil_iff] at hbare
    obtain ⟨first, others, rfl⟩ := List.exists_cons_of_ne_nil hbare
    have hset : TagSet.ofList ((first :: others).map Word.text) = set := by
      rw [hwords]
      exact TagSet.eq_of_mem_iff fun tag => TagSet.mem_tags_ofList
    have htext : set.text = "+".intercalate ((first :: others).map Word.text) := by
      rw [TagSet.text, if_neg (by simp [TagSet.isBare, ← hwords]), hwords]
    refine ⟨.chain first others, by rw [Factor.shape, hset], by rw [Factor.nesting], ?_⟩
    rw [htext]
    apply spells_chain
    intro word hword
    exact htags word.text (hwords ▸ List.mem_map_of_mem hword)

theorem exists_prints_link {set : TagSet} (htags : ∀ tag ∈ set.tags, IsTag tag) :
    ∃ term : Term, term.Prints set.text {set} ∧ term.shape.text = term.text := by
  obtain ⟨factor, hshape, -, hspells⟩ := exists_factor_of_isTag htags
  refine ⟨.of factor [], ⟨?_, ?_, ?_⟩, ?_⟩
  · rw [Term.tokens, List.flatMap_nil, List.append_nil]
    exact hspells
  · rw [Term.text, hshape, Shape.factorText, List.map_nil, Shape.moreFactors, String.append_empty]
  · rw [offers_of_factor, ← factor.choices_shape, hshape, Shape.choices_link]
  · rw [Term.shape, Term.text, hshape, List.map_nil, Shape.allOf, Shape.text, Shape.factorText,
      Shape.moreFactors, String.append_empty]

/-- A conjunction prints as a term if its branches do. -/
theorem exists_prints_conjunction {first : Shape} {others : List Shape}
    (hterms : ∀ shape ∈ first :: others,
      ∃ term : Term, term.Prints shape.factorText shape.choices) :
    ∃ term : Term, term.Prints (first.factorText ++ Shape.moreFactors others)
      (Shape.jointChoices (first :: others)) := by
  induction others generalizing first with
  | nil =>
    obtain ⟨term, hterm⟩ := hterms first List.mem_cons_self
    refine ⟨term, ?_⟩
    rw [Shape.moreFactors, String.append_empty, Shape.jointChoices_cons, Shape.jointChoices_nil]
    simpa using hterm
  | cons second rest ih =>
    rw [List.forall_mem_cons] at hterms
    obtain ⟨term, hterm⟩ := hterms.1
    obtain ⟨more, hmore⟩ := ih hterms.2
    refine ⟨term.and more, ?_⟩
    rw [Shape.jointChoices_cons, Shape.moreFactors]
    simpa only [String.append_assoc] using hterm.and hmore

theorem choices_anyOf_cons (first second : Shape) (others : List Shape) :
    (Shape.anyOf first (second :: others)).choices =
      first.choices ∪ (Shape.anyOf second others).choices := by
  ext tags
  simp [Shape.mem_choices_anyOf]

theorem exists_prints_disjunction {first : Shape} {others : List Shape}
    (hphrases : ∀ shape ∈ first :: others,
      ∃ phrase : Phrase, phrase.Prints shape.text shape.choices) :
    ∃ phrase : Phrase, phrase.Prints (first.text ++ Shape.moreBranches others)
      (Shape.anyOf first others).choices := by
  induction others generalizing first with
  | nil =>
    obtain ⟨phrase, hphrase⟩ := hphrases first List.mem_cons_self
    refine ⟨phrase, ?_⟩
    rwa [Shape.moreBranches, String.append_empty]
  | cons second rest ih =>
    rw [List.forall_mem_cons] at hphrases
    obtain ⟨phrase, hphrase⟩ := hphrases.1
    obtain ⟨more, hmore⟩ := ih hphrases.2
    refine ⟨phrase.or more, ?_⟩
    rw [choices_anyOf_cons, Shape.moreBranches]
    simpa only [String.append_assoc] using hphrase.or hmore

theorem mem_pooledTags {shapes : List Shape} {tag : String} :
    tag ∈ Shape.pooledTags shapes ↔ ∃ shape ∈ shapes, tag ∈ shape.tags := by
  induction shapes with
  | nil => simp [Shape.pooledTags]
  | cons first others ih => simp [Shape.pooledTags, ih]

/-- The written form of a shape spells a phrase, and what is written for it inside an
`every` spells a term. -/
theorem exists_prints : (shape : Shape) → (∀ tag ∈ shape.tags, IsTag tag) →
    (∃ phrase : Phrase, phrase.Prints shape.text shape.choices) ∧
      ∃ term : Term, term.Prints shape.factorText shape.choices
  | .link tags, htags => by
    rw [Shape.tags] at htags
    obtain ⟨term, hterm, htext⟩ := exists_prints_link htags
    rw [Shape.text, Shape.factorText, Shape.choices_link]
    exact ⟨⟨_, hterm.alone htext⟩, term, hterm⟩
  | .every first second others, htags => by
    simp only [Shape.tags, List.forall_mem_append] at htags
    obtain ⟨term, hterm⟩ := (exists_prints first htags.1.1).2
    have hothers : ∀ shape ∈ second :: others,
        ∃ term : Term, term.Prints shape.factorText shape.choices := by
      rw [List.forall_mem_cons]
      refine ⟨(exists_prints second htags.1.2).2, ?_⟩
      intro other hother
      exact (exists_prints other fun tag htag =>
        htags.2 tag (mem_pooledTags.mpr ⟨other, hother, htag⟩)).2
    obtain ⟨more, hmore⟩ := exists_prints_conjunction hothers
    have hprints := hterm.and hmore
    rw [← Shape.jointChoices_cons, ← Shape.choices_allOf, ← String.append_assoc] at hprints
    rw [Shape.text, Shape.factorText]
    exact ⟨⟨_, hprints.alone (text_shape_and term more)⟩, _, hprints⟩
  | .either first second others, htags => by
    simp only [Shape.tags, List.forall_mem_append] at htags
    obtain ⟨phrase, hphrase⟩ := (exists_prints first htags.1.1).1
    have hothers : ∀ shape ∈ second :: others,
        ∃ phrase : Phrase, phrase.Prints shape.text shape.choices := by
      rw [List.forall_mem_cons]
      refine ⟨(exists_prints second htags.1.2).1, ?_⟩
      intro other hother
      exact (exists_prints other fun tag htag =>
        htags.2 tag (mem_pooledTags.mpr ⟨other, hother, htag⟩)).1
    obtain ⟨more, hmore⟩ := exists_prints_disjunction hothers
    have hprints := hphrase.or hmore
    rw [← choices_anyOf_cons, ← String.append_assoc] at hprints
    rw [Shape.text, Shape.factorText]
    exact ⟨⟨_, hprints⟩, _, prints_parenthesised hprints⟩

end Expression

open Expression

/-- A legible connection reads back from its written form, unless a limit of the grammar
stands in the way: with the same alternatives and the same written form. -/
theorem Connection.parse_text_preservesMeaning {connection : Connection}
    (hlegible : connection.Legible) :
    (∀ parsed, Connection.parse connection.text = .ok parsed →
      parsed.alternatives = connection.alternatives ∧ parsed.text = connection.text) ∧
    ∀ error, Connection.parse connection.text = .error error →
      ∃ offset fault, error = .malformed connection.text offset fault ∧
        (fault = .nestedTooDeeply ∨
          fault = .tooManyAlternatives Expression.maximalAlternatives) := by
  obtain ⟨phrase, hprints⟩ :
      ∃ phrase : Phrase, phrase.Prints connection.text connection.shape.choices :=
    (exists_prints connection.shape hlegible).1
  constructor
  · intro parsed hparse
    have hparsed := parse_eq_ok_of_spells hparse hprints.spells
    subst hparsed
    refine ⟨?_, hprints.text_eq⟩
    apply Ascending.eq_of_mem_iff phrase.shape.isAscending_alternatives
      connection.shape.isAscending_alternatives
    intro tags
    have hchoices : phrase.shape.choices = connection.shape.choices := by
      rw [phrase.choices_shape, hprints.offers_eq]
    rw [← Shape.setOf_mem_alternatives, ← Shape.setOf_mem_alternatives] at hchoices
    exact Set.ext_iff.mp hchoices tags
  · intro error herror
    have hfits : ¬ (phrases maximalNesting).Fits phrase := by
      intro hfits
      rw [parse_eq_ok_of_fits hfits hprints.spells] at herror
      cases herror
    obtain ⟨offset, fault, hlimit, hfails⟩ := parse_eq_error_of_not_fits hfits hprints.spells
    rw [hfails] at herror
    cases herror
    simp only [limitFaults, List.mem_cons, List.not_mem_nil, or_false] at hlimit
    exact ⟨offset, fault, rfl, hlimit⟩

/-- The choice between two names is printed and read back. -/
theorem Connection.parse_text_preservesMeaning_usbOrCan :
    Connection.Legible ⟨usbOrCan.shape, none⟩ ∧
      ∃ parsed, Connection.parse (Connection.text ⟨usbOrCan.shape, none⟩) = .ok parsed ∧
        parsed.alternatives = Connection.alternatives ⟨usbOrCan.shape, none⟩ ∧
        parsed.text = Connection.text ⟨usbOrCan.shape, none⟩ := by
  have hlegible : Connection.Legible ⟨usbOrCan.shape, none⟩ := by
    have husb : IsTag "usb" := ⟨by decide, by decide, List.all_eq_true.mp (by decide)⟩
    have hcan : IsTag "can" := ⟨by decide, by decide, List.all_eq_true.mp (by decide)⟩
    simpa [Connection.Legible, usbOrCan, Phrase.shape, Term.shape, Factor.shape, Shape.anyOf,
      Shape.allOf, Shape.tags, Shape.pooledTags] using ⟨husb, hcan⟩
  have htext : Connection.text ⟨usbOrCan.shape, none⟩ = "usb | can" := by
    simp [Connection.text, usbOrCan, Phrase.shape, Term.shape, Factor.shape, Shape.anyOf,
      Shape.allOf, Shape.text, Shape.moreBranches]
    decide
  have hparse := parse_eq_ok_of_fits fits_usbOrCan spells_usbOrCan
  rw [← htext] at hparse
  exact ⟨hlegible, _, hparse, (parse_text_preservesMeaning hlegible).1 _ hparse⟩

end LabMatch
