import LabMatch.Proofs.Connection.Choice
import LabMatch.Proofs.Connection.Tokens
import Mathlib.Data.Set.Card

/-!
# Grammar of connection expressions

A phrase is a derivation of the grammar

    expression := term ('|' term)*
    term       := factor ('&' factor)*
    factor     := '(' expression ')' | 'any' | name ('+' name)*

where no name of a chain is the word for the bare link.  A phrase has its tokens,
its alternatives, and the shape that it stands for.  Whether it keeps the limits on
nesting and on the number of alternatives is a question of its own, so a text can be
well-formed and still be refused.
-/

namespace LabMatch.Expression

/-! ## Phrases -/

/-- A name that is not the word for the bare link. -/
structure Word where
  text : String
  noBareWord : text ≠ TagSet.bareWord

mutual

inductive Factor
  | parenthesised (inner : Phrase)
  | bare
  | chain (first : Word) (others : List Word)

inductive Term
  | of (first : Factor) (others : List Factor)

/-- A derivation of the grammar. -/
inductive Phrase
  | of (first : Term) (others : List Term)

end

def chainTokens (others : List Word) : List Token :=
  others.flatMap fun other => [.mark '+', .name other.text]

mutual

def Factor.tokens : Factor → List Token
  | .parenthesised inner => .mark '(' :: (inner.tokens ++ [.mark ')'])
  | .bare => [.name TagSet.bareWord]
  | .chain first others => .name first.text :: chainTokens others

def Term.tokens : Term → List Token
  | .of first others => first.tokens ++ others.flatMap fun other => .mark '&' :: other.tokens

def Phrase.tokens : Phrase → List Token
  | .of first others => first.tokens ++ others.flatMap fun other => .mark '|' :: other.tokens

end

/-- What results from taking one set out of each of the collections, all of them
together. -/
def allTogether (collections : List (Set TagSet)) : Set TagSet :=
  collections.foldr (Set.image2 TagSet.union) {TagSet.bare}

mutual

def Factor.offers : Factor → Set TagSet
  | .parenthesised inner => inner.offers
  | .bare => {TagSet.bare}
  | .chain first others => {TagSet.ofList ((first :: others).map Word.text)}

/-- The alternatives of a term: one of each factor, taken together. -/
def Term.offers : Term → Set TagSet
  | .of first others => allTogether (first.offers :: others.map Factor.offers)

/-- The alternatives of a phrase: those of its terms. -/
def Phrase.offers : Phrase → Set TagSet
  | .of first others => {tags | ∃ offers ∈ first.offers :: others.map Term.offers, tags ∈ offers}

end

mutual

def Factor.nesting : Factor → Nat
  | .parenthesised inner => inner.nesting + 1
  | .bare | .chain _ _ => 0

def Term.nesting : Term → Nat
  | .of first others => (others.map Factor.nesting).foldr max first.nesting

def Phrase.nesting : Phrase → Nat
  | .of first others => (others.map Term.nesting).foldr max first.nesting

end

mutual

def Factor.IsBounded : Factor → Prop
  | .parenthesised inner => inner.IsBounded
  | .bare | .chain _ _ => True

/-- The numbers of alternatives of several factors multiply to a bounded number, here
and below. -/
def Term.IsBounded : Term → Prop
  | .of first others =>
    first.IsBounded ∧ (∀ other ∈ others, other.IsBounded) ∧ (others ≠ [] →
      (first.offers.ncard :: others.map fun other => other.offers.ncard).prod ≤
        maximalAlternatives)

/-- The numbers of alternatives of several terms add up to a bounded number, here and
below. -/
def Phrase.IsBounded : Phrase → Prop
  | .of first others =>
    first.IsBounded ∧ (∀ other ∈ others, other.IsBounded) ∧ (others ≠ [] →
      (first.offers.ncard :: others.map fun other => other.offers.ncard).sum ≤
        maximalAlternatives)

end

mutual

def Factor.shape : Factor → Shape
  | .parenthesised inner => inner.shape
  | .bare => .link .bare
  | .chain first others => .link (TagSet.ofList ((first :: others).map Word.text))

def Term.shape : Term → Shape
  | .of first others => Shape.allOf first.shape (others.map Factor.shape)

def Phrase.shape : Phrase → Shape
  | .of first others => Shape.anyOf first.shape (others.map Term.shape)

end

/-! ## What a phrase offers -/

theorem jointChoices_eq_allTogether (shapes : List Shape) :
    Shape.jointChoices shapes = allTogether (shapes.map Shape.choices) := by
  induction shapes with
  | nil => exact Shape.jointChoices_nil
  | cons first others ih => rw [Shape.jointChoices_cons, ih]; rfl

mutual

/-- The choices of the shape of a phrase are its alternatives. -/
theorem Factor.choices_shape : (factor : Factor) → factor.shape.choices = factor.offers
  | .parenthesised inner => by rw [Factor.shape, Factor.offers, inner.choices_shape]
  | .bare => by rw [Factor.shape, Factor.offers, Shape.choices_link]
  | .chain first others => by rw [Factor.shape, Factor.offers, Shape.choices_link]

theorem Term.choices_shape : (term : Term) → term.shape.choices = term.offers
  | .of first others => by
    have hothers : ∀ other ∈ others, other.shape.choices = other.offers :=
      fun other hother => other.choices_shape
    have hmapped : (others.map Factor.shape).map Shape.choices = others.map Factor.offers := by
      rw [List.map_map]
      exact List.map_congr_left hothers
    rw [Term.shape, Term.offers, Shape.choices_allOf, jointChoices_eq_allTogether, List.map_cons,
      hmapped, first.choices_shape]

/-- What a phrase offers is what can be picked from its shape. -/
theorem Phrase.choices_shape : (phrase : Phrase) → phrase.shape.choices = phrase.offers
  | .of first others => by
    have hothers : ∀ other ∈ others, other.shape.choices = other.offers :=
      fun other hother => other.choices_shape
    have hmapped : (first.shape :: others.map Term.shape).map Shape.choices =
        first.offers :: others.map Term.offers := by
      rw [List.map_cons, List.map_map, first.choices_shape]
      exact congrArg _ (List.map_congr_left hothers)
    ext tags
    rw [Phrase.shape, Phrase.offers, Shape.mem_choices_anyOf, ← hmapped]
    simp

end

/-- The alternatives of a shape are as many as its choices. -/
theorem ncard_choices (shape : Shape) : shape.choices.ncard = shape.alternatives.length := by
  have hnodup : shape.alternatives.Nodup :=
    shape.isAscending_alternatives.imp KeyOrder.ne_of_lt
  rw [← shape.setOf_mem_alternatives, ← List.coe_toFinset, Set.ncard_coe_finset,
    List.toFinset_card_of_nodup hnodup]

end LabMatch.Expression
