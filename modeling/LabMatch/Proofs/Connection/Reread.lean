import LabMatch.Proofs.Connection.Bounded
import LabMatch.Proofs.Connection.Dissolved
import LabMatch.Proofs.Connection.Printed

/-!
# Connections written and read again

A written form has no trace of an `every` inside an `every`, so it stands for the
dissolved shape.  Parentheses that it does without nest no deeper than those of the
source, and alternatives stay the same, but the limit on alternatives is another one:
it counts every branch of a composition on its own, and dissolving puts more branches
into one composition.  So a connection that was read can be read again exactly if its
dissolved shape is bounded, and there are connections for which it is not.
-/

namespace LabMatch

namespace Shape

mutual

def nesting : Shape → Nat
  | link _ => 0
  | every first second others =>
    (others.map factorNesting).foldr max (max first.factorNesting second.factorNesting)
  | either first second others =>
    (others.map nesting).foldr max (max first.nesting second.nesting)

/-- How deep parentheses nest in the written form inside an `every`. -/
def factorNesting : Shape → Nat
  | link _ => 0
  | every first second others =>
    (others.map factorNesting).foldr max (max first.factorNesting second.factorNesting)
  | either first second others =>
    (others.map nesting).foldr max (max first.nesting second.nesting) + 1

end

section Nesting

variable {first second : Shape} {others : List Shape} {depth : Nat}

theorem nesting_every_le_iff : (every first second others).nesting ≤ depth ↔
    ∀ branch ∈ first :: second :: others, branch.factorNesting ≤ depth := by
  rw [nesting, Expression.foldr_max_le_iff, Nat.max_le, List.forall_mem_map,
    List.forall_mem_cons, List.forall_mem_cons, and_assoc]

theorem nesting_either_le_iff : (either first second others).nesting ≤ depth ↔
    ∀ branch ∈ first :: second :: others, branch.nesting ≤ depth := by
  rw [nesting, Expression.foldr_max_le_iff, Nat.max_le, List.forall_mem_map,
    List.forall_mem_cons, List.forall_mem_cons, and_assoc]

theorem factorNesting_every : (every first second others).factorNesting =
    (every first second others).nesting := by
  rw [factorNesting, nesting]

theorem factorNesting_either : (either first second others).factorNesting =
    (either first second others).nesting + 1 := by
  rw [factorNesting, nesting]

theorem factorNesting_le (shape : Shape) : shape.factorNesting ≤ shape.nesting + 1 := by
  cases shape with
  | link tags => rw [factorNesting]; exact Nat.zero_le _
  | every first second others => exact factorNesting_every.trans_le (Nat.le_succ _)
  | either first second others => exact factorNesting_either.le

end Nesting

end Shape

namespace Expression

/-! ## Nesting of phrases and of their written forms -/

mutual

theorem Factor.nesting_shape_le : (factor : Factor) →
    factor.shape.nesting ≤ factor.nesting ∧ factor.shape.factorNesting ≤ factor.nesting
  | .parenthesised inner => by
    rw [Factor.shape, Factor.nesting]
    have hinner := inner.nesting_shape_le
    exact ⟨hinner.trans (Nat.le_succ _),
      inner.shape.factorNesting_le.trans (Nat.succ_le_succ hinner)⟩
  | .bare => by
    rw [Factor.shape, Shape.nesting, Shape.factorNesting]
    exact ⟨Nat.zero_le _, Nat.zero_le _⟩
  | .chain first others => by
    rw [Factor.shape, Shape.nesting, Shape.factorNesting]
    exact ⟨Nat.zero_le _, Nat.zero_le _⟩

theorem Term.nesting_shape_le : (term : Term) → term.shape.nesting ≤ term.nesting
  | .of first [] => by
    rw [Term.shape, Term.nesting]
    exact first.nesting_shape_le.1
  | .of first (second :: others) => by
    have hbound := foldr_max_le_iff.mp
      (Nat.le_refl (((second :: others).map Factor.nesting).foldr max first.nesting))
    rw [List.forall_mem_map] at hbound
    rw [Term.shape, Term.nesting, List.map_cons, Shape.allOf, Shape.nesting_every_le_iff,
      List.forall_mem_cons, ← List.map_cons, List.forall_mem_map]
    exact ⟨first.nesting_shape_le.2.trans hbound.1,
      fun other hother => other.nesting_shape_le.2.trans (hbound.2 other hother)⟩

/-- Parentheses that a phrase does without nest no deeper. -/
theorem Phrase.nesting_shape_le : (phrase : Phrase) → phrase.shape.nesting ≤ phrase.nesting
  | .of first [] => by
    rw [Phrase.shape, Phrase.nesting]
    exact first.nesting_shape_le
  | .of first (second :: others) => by
    have hbound := foldr_max_le_iff.mp
      (Nat.le_refl (((second :: others).map Term.nesting).foldr max first.nesting))
    rw [List.forall_mem_map] at hbound
    rw [Phrase.shape, Phrase.nesting, List.map_cons, Shape.anyOf, Shape.nesting_either_le_iff,
      List.forall_mem_cons, ← List.map_cons, List.forall_mem_map]
    exact ⟨first.nesting_shape_le.trans hbound.1,
      fun other hother => other.nesting_shape_le.trans (hbound.2 other hother)⟩

end

/-! ## What a written form spells -/

def Term.factorShapes : Term → List Shape
  | .of first others => (first :: others).map Factor.shape

def Phrase.termShapes : Phrase → List Shape
  | .of first others => (first :: others).map Term.shape

/-- The text spells the term, whose factors have the shapes and do not nest deeper. -/
structure Term.Writes (term : Term) (text : String) (shapes : List Shape) (depth : Nat) :
    Prop where
  spells : Spells term.tokens text.toList
  factorShapes_eq : term.factorShapes = shapes
  nesting_le : term.nesting ≤ depth

structure Phrase.Writes (phrase : Phrase) (text : String) (shapes : List Shape) (depth : Nat) :
    Prop where
  spells : Spells phrase.tokens text.toList
  termShapes_eq : phrase.termShapes = shapes
  nesting_le : phrase.nesting ≤ depth

section Writes

variable {term other : Term} {phrase more : Phrase} {text otherText : String}
  {shapes otherShapes : List Shape} {depth : Nat}

/-- A term has the shape that its factors make together. -/
theorem Term.Writes.shape_eq (hterm : term.Writes text shapes depth) :
    term.shape = Shape.conjunction shapes := by
  obtain ⟨first, others⟩ := term
  rw [Term.shape, ← hterm.factorShapes_eq]
  rfl

theorem Phrase.Writes.shape_eq (hphrase : phrase.Writes text shapes depth) :
    phrase.shape = Shape.disjunction shapes := by
  obtain ⟨first, others⟩ := phrase
  rw [Phrase.shape, ← hphrase.termShapes_eq]
  rfl

theorem Term.Writes.and (hterm : term.Writes text shapes depth)
    (hother : other.Writes otherText otherShapes depth) :
    (term.and other).Writes (text ++ " & " ++ otherText) (shapes ++ otherShapes) depth where
  spells := by
    rw [tokens_and, String.toList_append, String.toList_append, List.append_assoc]
    exact hterm.spells.append_spaced (by decide) hother.spells
  factorShapes_eq := by
    rw [← hterm.factorShapes_eq, ← hother.factorShapes_eq]
    obtain ⟨first, others⟩ := term
    obtain ⟨second, more⟩ := other
    simp only [Term.and, Term.factorShapes, List.map_cons, List.map_append, List.cons_append]
  nesting_le := by
    have hterm := hterm.nesting_le
    have hother := hother.nesting_le
    obtain ⟨first, others⟩ := term
    obtain ⟨second, more⟩ := other
    rw [Term.nesting, foldr_max_le_iff] at hterm hother
    rw [Term.and, Term.nesting, foldr_max_le_iff, List.map_append, List.map_cons,
      List.forall_mem_append, List.forall_mem_cons]
    exact ⟨hterm.1, hterm.2, hother⟩

theorem Phrase.Writes.or (hphrase : phrase.Writes text shapes depth)
    (hmore : more.Writes otherText otherShapes depth) :
    (phrase.or more).Writes (text ++ " | " ++ otherText) (shapes ++ otherShapes) depth where
  spells := by
    rw [tokens_or, String.toList_append, String.toList_append, List.append_assoc]
    exact hphrase.spells.append_spaced (by decide) hmore.spells
  termShapes_eq := by
    rw [← hphrase.termShapes_eq, ← hmore.termShapes_eq]
    obtain ⟨first, others⟩ := phrase
    obtain ⟨second, rest⟩ := more
    simp only [Phrase.or, Phrase.termShapes, List.map_cons, List.map_append, List.cons_append]
  nesting_le := by
    have hphrase := hphrase.nesting_le
    have hmore := hmore.nesting_le
    obtain ⟨first, others⟩ := phrase
    obtain ⟨second, rest⟩ := more
    rw [Phrase.nesting, foldr_max_le_iff] at hphrase hmore
    rw [Phrase.or, Phrase.nesting, foldr_max_le_iff, List.map_append, List.map_cons,
      List.forall_mem_append, List.forall_mem_cons]
    exact ⟨hphrase.1, hphrase.2, hmore⟩

/-- A phrase in parentheses is a term of one factor, one level deeper. -/
theorem Phrase.Writes.parenthesised (hphrase : phrase.Writes text shapes depth) :
    (Term.of (.parenthesised phrase) []).Writes ("(" ++ text ++ ")")
      [Shape.disjunction shapes] (depth + 1) where
  spells := by
    have hclosing : Spells [.mark ')'] [')'] := .mark (by decide) .nil
    have hinside := hphrase.spells.append hclosing fun _ hmark => by cases hmark; decide
    rw [String.toList_append, String.toList_append, Term.tokens, Factor.tokens]
    simpa using Spells.mark (by decide) hinside
  factorShapes_eq := by
    rw [Term.factorShapes, List.map_singleton, Factor.shape, hphrase.shape_eq]
  nesting_le := by
    rw [Term.nesting, List.map_nil, List.foldr_nil, Factor.nesting]
    exact Nat.succ_le_succ hphrase.nesting_le

theorem Term.Writes.alone (hterm : term.Writes text shapes depth) :
    (Phrase.of term []).Writes text [Shape.conjunction shapes] depth where
  spells := by
    rw [Phrase.tokens, List.flatMap_nil, List.append_nil]
    exact hterm.spells
  termShapes_eq := by rw [Phrase.termShapes, List.map_singleton, hterm.shape_eq]
  nesting_le := by
    rw [Phrase.nesting, List.map_nil, List.foldr_nil]
    exact hterm.nesting_le

theorem exists_writes_link {set : TagSet} (htags : ∀ tag ∈ set.tags, IsTag tag) :
    ∃ term : Term, term.Writes set.text [.link set] depth := by
  obtain ⟨factor, hshape, hnesting, hspells⟩ := exists_factor_of_isTag htags
  refine ⟨.of factor [], ?_, ?_, ?_⟩
  · rw [Term.tokens, List.flatMap_nil, List.append_nil]
    exact hspells
  · rw [Term.factorShapes, List.map_singleton, hshape]
  · rw [Term.nesting, List.map_nil, List.foldr_nil, hnesting]
    exact Nat.zero_le depth

/-- The factors of a written conjunction are those of its dissolved branches. -/
theorem exists_writes_conjunction {first : Shape} {others : List Shape}
    (hterms : ∀ shape ∈ first :: others,
      ∃ term : Term, term.Writes shape.factorText shape.dissolved.factors depth) :
    ∃ term : Term, term.Writes (first.factorText ++ Shape.moreFactors others)
      ((first :: others).flatMap fun shape => shape.dissolved.factors) depth := by
  induction others generalizing first with
  | nil =>
    obtain ⟨term, hterm⟩ := hterms first List.mem_cons_self
    refine ⟨term, ?_⟩
    rwa [Shape.moreFactors, String.append_empty, List.flatMap_singleton]
  | cons second rest ih =>
    rw [List.forall_mem_cons] at hterms
    obtain ⟨term, hterm⟩ := hterms.1
    obtain ⟨more, hmore⟩ := ih hterms.2
    refine ⟨term.and more, ?_⟩
    rw [Shape.moreFactors, List.flatMap_cons]
    simpa only [String.append_assoc] using hterm.and hmore

theorem exists_writes_disjunction {first : Shape} {others : List Shape}
    (hphrases : ∀ shape ∈ first :: others,
      ∃ phrase : Phrase, phrase.Writes shape.text shape.dissolved.branches depth) :
    ∃ phrase : Phrase, phrase.Writes (first.text ++ Shape.moreBranches others)
      ((first :: others).flatMap fun shape => shape.dissolved.branches) depth := by
  induction others generalizing first with
  | nil =>
    obtain ⟨phrase, hphrase⟩ := hphrases first List.mem_cons_self
    refine ⟨phrase, ?_⟩
    rwa [Shape.moreBranches, String.append_empty, List.flatMap_singleton]
  | cons second rest ih =>
    rw [List.forall_mem_cons] at hphrases
    obtain ⟨phrase, hphrase⟩ := hphrases.1
    obtain ⟨more, hmore⟩ := ih hphrases.2
    refine ⟨phrase.or more, ?_⟩
    rw [Shape.moreBranches, List.flatMap_cons]
    simpa only [String.append_assoc] using hphrase.or hmore

end Writes

theorem forall_branches_isTag {first second : Shape} {others : List Shape}
    (htags : ∀ tag ∈ first.tags ++ second.tags ++ Shape.pooledTags others, IsTag tag) :
    ∀ branch ∈ first :: second :: others, ∀ tag ∈ branch.tags, IsTag tag := by
  simp only [List.forall_mem_append] at htags
  rw [List.forall_mem_cons, List.forall_mem_cons]
  refine ⟨htags.1.1, htags.1.2, ?_⟩
  intro other hother tag htag
  exact htags.2 tag (mem_pooledTags.mpr ⟨other, hother, htag⟩)

/-- The written form of a shape spells a phrase that stands for the dissolved shape, and
what is written for it inside an `every` a term that does. -/
theorem exists_writes : (shape : Shape) → (∀ tag ∈ shape.tags, IsTag tag) → (depth : Nat) →
    (shape.nesting ≤ depth →
      ∃ phrase : Phrase, phrase.Writes shape.text shape.dissolved.branches depth) ∧
    (shape.factorNesting ≤ depth →
      ∃ term : Term, term.Writes shape.factorText shape.dissolved.factors depth)
  | .link set, htags, depth => by
    rw [Shape.tags] at htags
    obtain ⟨term, hterm⟩ : ∃ term : Term, term.Writes set.text [.link set] depth :=
      exists_writes_link htags
    rw [Shape.text, Shape.factorText, Shape.dissolved]
    exact ⟨fun _ => ⟨_, hterm.alone⟩, fun _ => ⟨term, hterm⟩⟩
  | .every first second others, htags, depth => by
    have hbranches := forall_branches_isTag (Shape.tags.eq_2 first second others ▸ htags)
    have hterm : (Shape.every first second others).nesting ≤ depth →
        ∃ term : Term, term.Writes (Shape.every first second others).factorText
          ((first :: second :: others).flatMap fun branch => branch.dissolved.factors) depth := by
      intro hnesting
      rw [Shape.nesting_every_le_iff] at hnesting
      have hterms : ∀ branch ∈ first :: second :: others,
          ∃ term : Term, term.Writes branch.factorText branch.dissolved.factors depth := by
        rw [List.forall_mem_cons, List.forall_mem_cons] at hbranches hnesting ⊢
        exact ⟨(exists_writes first hbranches.1 depth).2 hnesting.1,
          (exists_writes second hbranches.2.1 depth).2 hnesting.2.1, fun other hother =>
          (exists_writes other (hbranches.2.2 other hother) depth).2 (hnesting.2.2 other hother)⟩
      obtain ⟨term, hterm⟩ := exists_writes_conjunction hterms
      refine ⟨term, ?_⟩
      rw [Shape.factorText]
      simpa only [Shape.moreFactors, String.append_assoc] using hterm
    have hseveral := Shape.conjunction_of_two_le (Shape.two_le_length_flatMap
      (fun branch => branch.dissolved.factors_ne_nil) first second others)
    rw [Shape.dissolved_every, hseveral.1, hseveral.2, Shape.factorNesting_every]
    refine ⟨?_, hterm⟩
    intro hnesting
    obtain ⟨term, hterm⟩ := hterm hnesting
    exact ⟨_, hterm.alone⟩
  | .either first second others, htags, depth => by
    have hbranches := forall_branches_isTag (Shape.tags.eq_3 first second others ▸ htags)
    have hphrase : ∀ depth, (Shape.either first second others).nesting ≤ depth →
        ∃ phrase : Phrase, phrase.Writes (Shape.either first second others).text
          ((first :: second :: others).flatMap fun branch => branch.dissolved.branches) depth := by
      intro depth hnesting
      rw [Shape.nesting_either_le_iff] at hnesting
      have hphrases : ∀ branch ∈ first :: second :: others,
          ∃ phrase : Phrase, phrase.Writes branch.text branch.dissolved.branches depth := by
        rw [List.forall_mem_cons, List.forall_mem_cons] at hbranches hnesting ⊢
        exact ⟨(exists_writes first hbranches.1 depth).1 hnesting.1,
          (exists_writes second hbranches.2.1 depth).1 hnesting.2.1, fun other hother =>
          (exists_writes other (hbranches.2.2 other hother) depth).1 (hnesting.2.2 other hother)⟩
      obtain ⟨phrase, hphrase⟩ := exists_writes_disjunction hphrases
      refine ⟨phrase, ?_⟩
      rw [Shape.text]
      simpa only [Shape.moreBranches, String.append_assoc] using hphrase
    have hseveral := Shape.disjunction_of_two_le (Shape.two_le_length_flatMap
      (fun branch => branch.dissolved.branches_ne_nil) first second others)
    rw [Shape.dissolved_either, hseveral.1, hseveral.2, Shape.factorNesting_either]
    refine ⟨hphrase depth, ?_⟩
    intro hnesting
    obtain ⟨outer, rfl⟩ := Nat.exists_eq_succ_of_ne_zero (Nat.ne_zero_of_lt hnesting)
    obtain ⟨phrase, hphrase⟩ := hphrase outer (Nat.le_of_succ_le_succ hnesting)
    exact ⟨_, hphrase.parenthesised⟩

/-! ## Tags of texts that were read -/

/-- A name in a text is a tag, unless it is the word for the bare link. -/
theorem isTag_of_mem_tokens {tokens : List Token} {input : List Char} {tag : String}
    (hspells : Spells tokens input) (hname : .name tag ∈ tokens) (hne : tag ≠ TagSet.bareWord) :
    IsTag tag := by
  induction hspells with
  | nil => cases hname
  | blank hblank hrest ih => exact ih hname
  | mark hmark hrest ih =>
    cases hname with
    | tail _ hname => exact ih hname
  | @name tokens characters rest hcharacters hall hend hrest ih =>
    cases hname with
    | head =>
      refine ⟨?_, hne, ?_⟩
      · rwa [ne_eq, ← String.toList_eq_nil_iff, String.toList_ofList]
      · rwa [String.toList_ofList]
    | tail _ hname => exact ih hname

theorem mem_tags_allOf {first : Shape} {others : List Shape} {tag : String} :
    tag ∈ (Shape.allOf first others).tags ↔ ∃ shape ∈ first :: others, tag ∈ shape.tags := by
  cases others with
  | nil => simp [Shape.allOf]
  | cons second rest => simp [Shape.allOf, Shape.tags, mem_pooledTags]

theorem mem_tags_anyOf {first : Shape} {others : List Shape} {tag : String} :
    tag ∈ (Shape.anyOf first others).tags ↔ ∃ shape ∈ first :: others, tag ∈ shape.tags := by
  cases others with
  | nil => simp [Shape.anyOf]
  | cons second rest => simp [Shape.anyOf, Shape.tags, mem_pooledTags]

theorem name_mem_chainTokens {word : Word} {others : List Word} (hword : word ∈ others) :
    .name word.text ∈ chainTokens others :=
  List.mem_flatMap.mpr ⟨word, hword, by simp⟩

mutual

/-- Every tag of the shape of a factor is one of its names. -/
theorem Factor.name_mem_tokens : (factor : Factor) → {tag : String} → tag ∈ factor.shape.tags →
    .name tag ∈ factor.tokens ∧ tag ≠ TagSet.bareWord
  | .parenthesised inner, tag, htag => by
    rw [Factor.shape] at htag
    rw [Factor.tokens]
    obtain ⟨hname, hne⟩ := inner.name_mem_tokens htag
    exact ⟨List.mem_cons_of_mem _ (List.mem_append_left _ hname), hne⟩
  | .bare, tag, htag => by
    rw [Factor.shape, Shape.tags, TagSet.tags_bare] at htag
    cases htag
  | .chain first others, tag, htag => by
    rw [Factor.shape, Shape.tags, TagSet.mem_tags_ofList, List.mem_map] at htag
    rw [Factor.tokens]
    obtain ⟨word, hword, rfl⟩ := htag
    refine ⟨?_, word.noBareWord⟩
    cases hword with
    | head => exact List.mem_cons_self
    | tail _ hword => exact List.mem_cons_of_mem _ (name_mem_chainTokens hword)

theorem Term.name_mem_tokens : (term : Term) → {tag : String} → tag ∈ term.shape.tags →
    .name tag ∈ term.tokens ∧ tag ≠ TagSet.bareWord
  | .of first others, tag, htag => by
    rw [Term.shape, mem_tags_allOf, List.exists_mem_cons_iff] at htag
    rw [Term.tokens]
    cases htag with
    | inl hfirst =>
      obtain ⟨hname, hne⟩ := first.name_mem_tokens hfirst
      exact ⟨List.mem_append_left _ hname, hne⟩
    | inr hothers =>
      obtain ⟨shape, hshape, htag⟩ := hothers
      obtain ⟨other, hother, rfl⟩ := List.mem_map.mp hshape
      obtain ⟨hname, hne⟩ := other.name_mem_tokens htag
      exact ⟨List.mem_append_right _
        (List.mem_flatMap.mpr ⟨other, hother, List.mem_cons_of_mem _ hname⟩), hne⟩

theorem Phrase.name_mem_tokens : (phrase : Phrase) → {tag : String} → tag ∈ phrase.shape.tags →
    .name tag ∈ phrase.tokens ∧ tag ≠ TagSet.bareWord
  | .of first others, tag, htag => by
    rw [Phrase.shape, mem_tags_anyOf, List.exists_mem_cons_iff] at htag
    rw [Phrase.tokens]
    cases htag with
    | inl hfirst =>
      obtain ⟨hname, hne⟩ := first.name_mem_tokens hfirst
      exact ⟨List.mem_append_left _ hname, hne⟩
    | inr hothers =>
      obtain ⟨shape, hshape, htag⟩ := hothers
      obtain ⟨other, hother, rfl⟩ := List.mem_map.mp hshape
      obtain ⟨hname, hne⟩ := other.name_mem_tokens htag
      exact ⟨List.mem_append_right _
        (List.mem_flatMap.mpr ⟨other, hother, List.mem_cons_of_mem _ hname⟩), hne⟩

end

end Expression

open Expression

variable {text : String} {connection : Connection}

/-- The tags of a connection that was read can be written. -/
theorem legible_of_parse_eq_ok (hparse : Connection.parse text = .ok connection) :
    connection.Legible := by
  obtain ⟨phrase, -, hspells⟩ := exists_phrase_of_parse_eq_ok hparse
  have hconnection := parse_eq_ok_of_spells hparse hspells
  subst hconnection
  intro tag htag
  obtain ⟨hname, hne⟩ := phrase.name_mem_tokens htag
  exact isTag_of_mem_tokens hspells hname hne

/-- The written form of a connection that was read is a phrase for the dissolved shape
that nests parentheses no deeper than allowed. -/
theorem exists_phrase_of_text (hparse : Connection.parse text = .ok connection) :
    ∃ phrase : Phrase, Spells phrase.tokens connection.text.toList ∧
      phrase.shape = connection.shape.dissolved ∧ phrase.nesting ≤ maximalNesting := by
  obtain ⟨source, hfits, hspells⟩ := exists_phrase_of_parse_eq_ok hparse
  have hconnection := parse_eq_ok_of_spells hparse hspells
  have hnesting : connection.shape.nesting ≤ maximalNesting := by
    rw [hconnection]
    exact source.nesting_shape_le.trans hfits.1
  obtain ⟨phrase, hwrites⟩ :=
    (exists_writes connection.shape (legible_of_parse_eq_ok hparse) maximalNesting).1 hnesting
  refine ⟨phrase, hwrites.spells, ?_, hwrites.nesting_le⟩
  rw [hwrites.shape_eq, Shape.disjunction_branches]

/-- A connection that was read can be read back from its written form exactly if its
dissolved shape keeps the limit on alternatives.  Then the result is the dissolved shape,
with the same alternatives; otherwise only a limit is exceeded. -/
theorem Connection.parse_text_iff_isBounded_dissolved
    (hparse : Connection.parse text = .ok connection) :
    ((∃ again, Connection.parse connection.text = .ok again) ↔
      connection.shape.dissolved.IsBounded) ∧
    (∀ again, Connection.parse connection.text = .ok again →
      again = ⟨connection.shape.dissolved, none⟩ ∧
        again.alternatives = connection.alternatives) ∧
    ∀ error, Connection.parse connection.text = .error error →
      ∃ offset, ∃ fault ∈ limitFaults, error = .malformed connection.text offset fault := by
  obtain ⟨phrase, hspells, hshape, hnesting⟩ := exists_phrase_of_text hparse
  have hfits : (phrases maximalNesting).Fits phrase ↔ connection.shape.dissolved.IsBounded := by
    rw [← hshape, phrase.isBounded_shape]
    exact and_iff_right hnesting
  refine ⟨⟨?_, ?_⟩, ?_, ?_⟩
  · intro hagain
    obtain ⟨again, hagain⟩ := hagain
    have hbounded := isBounded_of_parse_eq_ok hagain
    rw [parse_eq_ok_of_spells hagain hspells] at hbounded
    exact hshape ▸ hbounded
  · intro hbounded
    exact ⟨_, parse_eq_ok_of_fits (hfits.mpr hbounded) hspells⟩
  · intro again hagain
    have hread := parse_eq_ok_of_spells hagain hspells
    rw [hshape] at hread
    refine ⟨hread, ?_⟩
    rw [hread]
    exact connection.shape.alternatives_dissolved
  · intro error herror
    have hrefused : ¬ (phrases maximalNesting).Fits phrase := by
      intro hfits
      rw [parse_eq_ok_of_fits hfits hspells] at herror
      cases herror
    obtain ⟨offset, fault, hlimit, hfails⟩ := parse_eq_error_of_not_fits hrefused hspells
    rw [hfails] at herror
    cases herror
    exact ⟨offset, fault, hlimit, rfl⟩

/-- A conjunction inside a conjunction is printed without parentheses, and still read back. -/
theorem Connection.parse_text_iff_isBounded_dissolved_nestedEvery :
    ∃ connection again, Connection.parse "(lan & usb) & (can | tcp)" = .ok connection ∧
      connection.text = "lan & usb & (can | tcp)" ∧
      Connection.parse connection.text = .ok again ∧
      again = ⟨connection.shape.dissolved, none⟩ ∧
      again.alternatives = connection.alternatives := by
  have hread : (Connection.parse "(lan & usb) & (can | tcp)").map Connection.text =
      .ok "lan & usb & (can | tcp)" := by decide +kernel
  have hreadAgain : (Connection.parse "lan & usb & (can | tcp)").map (fun _ => ()) = .ok () := by
    decide +kernel
  obtain ⟨connection, hparse, htext⟩ := exists_parse_eq_ok_of_map hread
  obtain ⟨again, hagain, -⟩ := exists_parse_eq_ok_of_map hreadAgain
  rw [← htext] at hagain
  have hmeaning := (parse_text_iff_isBounded_dissolved hparse).2.1 again hagain
  exact ⟨connection, again, hparse, htext, hagain, hmeaning⟩

/-- Eleven times the same choice, one `every` inside the other.  Each of them has three
alternatives. -/
def nestedChoices : String :=
  "((((((((((a | b) & (a | b)) & (a | b)) & (a | b)) & (a | b)) & (a | b)) & (a | b)) & " ++
    "(a | b)) & (a | b)) & (a | b)) & (a | b)"

/-- Eleven times the same choice in one `every`.  Counted one by one, they might have
two thousand alternatives. -/
def joinedChoices : String :=
  "(a | b) & (a | b) & (a | b) & (a | b) & (a | b) & (a | b) & (a | b) & (a | b) & " ++
    "(a | b) & (a | b) & (a | b)"

/-- A connection of three alternatives was read, and is refused when it is written. -/
theorem Connection.parse_text_refuses_nestedChoices :
    ∃ connection, Connection.parse nestedChoices = .ok connection ∧
      connection.alternatives.length = 3 ∧ connection.text = joinedChoices ∧
      Connection.parse connection.text =
        .error (.malformed connection.text 107 (.tooManyAlternatives 1024)) := by
  have hread : (Connection.parse nestedChoices).map (fun connection =>
      (connection.alternatives.length, connection.text)) = .ok (3, joinedChoices) := by
    decide +kernel
  have hreadAgain : (Connection.parse joinedChoices).map Connection.text =
      .error (.malformed joinedChoices 107 (.tooManyAlternatives 1024)) := by
    decide +kernel
  obtain ⟨connection, hparse, hseen⟩ := exists_parse_eq_ok_of_map hread
  obtain ⟨hcount, htext⟩ := Prod.mk.inj hseen
  refine ⟨connection, hparse, hcount, htext, ?_⟩
  rw [htext]
  exact parse_eq_error_of_map hreadAgain

end LabMatch
