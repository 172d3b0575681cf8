import LabMatch.Proofs.Connection.Accepted

/-!
# Bounded shapes

The reader counts alternatives member by member, while it composes.  What it guards is a
property of the finished shape: at every `every` the numbers of alternatives of the
branches multiply to a bounded number, and at every `either` they add up to one.  A
phrase keeps the limit on alternatives exactly if its shape is bounded, so every shape
that any of the readers returns is.
-/

namespace LabMatch

open Expression (maximalAlternatives)

namespace Shape

abbrev count (shape : Shape) : Nat := shape.alternatives.length

/-- Every composition in the shape keeps the limit on the number of alternatives. -/
def IsBounded : Shape → Prop
  | link _ => True
  | every first second others =>
    first.IsBounded ∧ second.IsBounded ∧ (∀ other ∈ others, other.IsBounded) ∧
      ((first :: second :: others).map count).prod ≤ maximalAlternatives
  | either first second others =>
    first.IsBounded ∧ second.IsBounded ∧ (∀ other ∈ others, other.IsBounded) ∧
      ((first :: second :: others).map count).sum ≤ maximalAlternatives

variable {first : Shape} {others : List Shape}

theorem count_pos (shape : Shape) : 0 < shape.count :=
  List.length_pos_of_ne_nil shape.alternatives_ne_nil

theorem isBounded_allOf_iff :
    (allOf first others).IsBounded ↔ first.IsBounded ∧ (∀ other ∈ others, other.IsBounded) ∧
      (others ≠ [] → ((first :: others).map count).prod ≤ maximalAlternatives) := by
  cases others with
  | nil => simp [allOf]
  | cons second rest => simp [allOf, IsBounded, and_assoc]

theorem isBounded_anyOf_iff :
    (anyOf first others).IsBounded ↔ first.IsBounded ∧ (∀ other ∈ others, other.IsBounded) ∧
      (others ≠ [] → ((first :: others).map count).sum ≤ maximalAlternatives) := by
  cases others with
  | nil => simp [anyOf]
  | cons second rest => simp [anyOf, IsBounded, and_assoc]

end Shape

namespace Expression

/-! ## Shapes of phrases -/

mutual

/-- A factor keeps the limit on alternatives exactly if its shape is bounded. -/
theorem Factor.isBounded_shape : (factor : Factor) → (factor.shape.IsBounded ↔ factor.IsBounded)
  | .parenthesised inner => by rw [Factor.shape, Factor.IsBounded, inner.isBounded_shape]
  | .bare => by simp [Factor.shape, Factor.IsBounded, Shape.IsBounded]
  | .chain first others => by simp [Factor.shape, Factor.IsBounded, Shape.IsBounded]

theorem Term.isBounded_shape : (term : Term) → (term.shape.IsBounded ↔ term.IsBounded)
  | .of first others => by
    have hothers : (∀ other ∈ others, other.shape.IsBounded) ↔ ∀ other ∈ others, other.IsBounded :=
      forall₂_congr fun other hother => other.isBounded_shape
    have hcounts : (first.shape :: others.map Factor.shape).map Shape.count =
        first.offers.ncard :: others.map fun other => other.offers.ncard := by
      simp [Shape.count, Factor.count_shape]
    rw [Term.shape, Term.IsBounded, Shape.isBounded_allOf_iff, first.isBounded_shape,
      List.forall_mem_map, hothers, hcounts, ne_eq, List.map_eq_nil_iff]

/-- The limits on a phrase are those on its shape. -/
theorem Phrase.isBounded_shape : (phrase : Phrase) → (phrase.shape.IsBounded ↔ phrase.IsBounded)
  | .of first others => by
    have hothers : (∀ other ∈ others, other.shape.IsBounded) ↔ ∀ other ∈ others, other.IsBounded :=
      forall₂_congr fun other hother => other.isBounded_shape
    have hcounts : (first.shape :: others.map Term.shape).map Shape.count =
        first.offers.ncard :: others.map fun other => other.offers.ncard := by
      simp [Shape.count, Term.count_shape]
    rw [Phrase.shape, Phrase.IsBounded, Shape.isBounded_anyOf_iff, first.isBounded_shape,
      List.forall_mem_map, hothers, hcounts, ne_eq, List.map_eq_nil_iff]

end

/-! ## Shapes that were read -/

def ReadsBounded (reader : Reader) : Prop :=
  ∀ input shape rest, reader input = .ok (shape, rest) → shape.IsBounded

theorem Reads.readsBounded {Item : Type} {construct : Construct Item} {reader : Reader}
    {continuing : List Char} (hreads : Reads reader continuing construct)
    (hbounded : ∀ item, construct.Fits item → (construct.shape item).IsBounded) :
    ReadsBounded reader := by
  intro input shape rest hread
  obtain ⟨item, hfits, rfl, -⟩ := hreads.sound input shape rest hread
  exact hbounded item hfits

theorem ReadsInside.readsBounded_factor {inside : Option Reader} {depth : Nat}
    (hinside : ReadsInside inside depth) : ReadsBounded (Expression.factor inside) :=
  hinside.factor.readsBounded fun item hfits => item.isBounded_shape.mpr hfits.2

theorem ReadsInside.readsBounded_term {inside : Option Reader} {depth : Nat}
    (hinside : ReadsInside inside depth) : ReadsBounded (Expression.term inside) :=
  hinside.term.readsBounded fun item hfits => item.isBounded_shape.mpr hfits.2

end Expression

/-- Whatever is parsed keeps the limit on alternatives, in all of its parts. -/
theorem isBounded_of_parse_eq_ok {text : String} {connection : Connection}
    (hparse : Connection.parse text = .ok connection) : connection.shape.IsBounded := by
  obtain ⟨phrase, hfits, hspells⟩ := exists_phrase_of_parse_eq_ok hparse
  rw [parse_eq_ok_of_spells hparse hspells]
  exact phrase.isBounded_shape.mpr hfits.2

end LabMatch
