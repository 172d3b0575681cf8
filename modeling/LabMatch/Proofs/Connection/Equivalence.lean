import LabMatch.Proofs.Connection.Offered

/-!
# Equivalence is mutual containment

Lying within is a preorder of connections, and connections are equivalent exactly
when each lies within the other.  Covered alternatives make no difference: two lists
of maximal alternatives that cover each other are one and the same list.

Both statements stay true when the anchors have to agree as well, since describing
the same link is an equivalence of anchors.
-/

namespace LabMatch

/-! ## Agreement of anchors -/

theorem Anchor.sameLink_trans {first second third : Anchor}
    (hfirst : first.sameLink second = true) (hsecond : second.sameLink third = true) :
    first.sameLink third = true := by
  rw [sameLink_iff] at hfirst hsecond ⊢
  rcases hfirst with rfl | ⟨hforth, hmiddle, rfl⟩
  · exact hsecond
  · rcases hsecond with rfl | ⟨-, hback, rfl⟩
    · exact Or.inr ⟨hforth, hmiddle, rfl⟩
    · exact Or.inl first.flip_flip.symm

theorem Anchor.sameLink_equivalence :
    Equivalence fun anchor other : Anchor => anchor.sameLink other = true where
  refl := sameLink_refl
  symm := sameLink_symm
  trans := sameLink_trans

theorem anchorsAgree_equivalence :
    Equivalence fun anchor other => anchorsAgree anchor other = true where
  refl anchor := by
    cases anchor with
    | none => rfl
    | some anchor => exact anchor.sameLink_refl
  symm {anchor other} hagree := by
    cases anchor with
    | none => cases other with
      | none => rfl
      | some other => cases hagree
    | some anchor => cases other with
      | none => cases hagree
      | some other => exact Anchor.sameLink_symm hagree
  trans {first second third} hfirst hsecond := by
    cases second with
    | none =>
      cases first with
      | none => exact hsecond
      | some first => cases hfirst
    | some second =>
      cases first with
      | none => cases hfirst
      | some first =>
        cases third with
        | none => cases hsecond
        | some third => exact Anchor.sameLink_trans hfirst hsecond

namespace Connection

/-! ## Mutual relations -/

/-- One relation is a preorder, and the other one is this preorder both ways. -/
structure IsMutual (inside same : Connection → Connection → Bool) : Prop where
  refl : ∀ connection, inside connection connection = true
  trans : ∀ first second third, inside first second = true → inside second third = true →
    inside first third = true
  same_iff : ∀ first second, same first second = true ↔
    inside first second = true ∧ inside second first = true

variable {inside same : Connection → Connection → Bool}

theorem IsMutual.equivalence (hmutual : IsMutual inside same) :
    Equivalence fun first second => same first second = true where
  refl connection :=
    (hmutual.same_iff _ _).mpr ⟨hmutual.refl connection, hmutual.refl connection⟩
  symm {first second} hsame :=
    (hmutual.same_iff second first).mpr ((hmutual.same_iff first second).mp hsame).symm
  trans {first second third} hfirst hsecond := by
    rw [hmutual.same_iff] at hfirst hsecond ⊢
    exact ⟨hmutual.trans _ _ _ hfirst.1 hsecond.1, hmutual.trans _ _ _ hsecond.2 hfirst.2⟩

/-- Both relations may ask for the same equivalence besides. -/
theorem IsMutual.and (hmutual : IsMutual inside same)
    {agree : Connection → Connection → Bool}
    (hagree : Equivalence fun first second => agree first second = true) :
    IsMutual (fun first second => agree first second && inside first second)
      (fun first second => agree first second && same first second) where
  refl connection := by
    rw [Bool.and_eq_true]
    exact ⟨hagree.refl connection, hmutual.refl connection⟩
  trans first second third hfirst hsecond := by
    rw [Bool.and_eq_true] at hfirst hsecond ⊢
    exact ⟨hagree.trans hfirst.1 hsecond.1, hmutual.trans _ _ _ hfirst.2 hsecond.2⟩
  same_iff first second := by
    rw [Bool.and_eq_true, Bool.and_eq_true, Bool.and_eq_true, hmutual.same_iff]
    constructor
    · rintro ⟨hsame, hforth, hback⟩
      exact ⟨⟨hsame, hforth⟩, hagree.symm hsame, hback⟩
    · rintro ⟨⟨hsame, hforth⟩, -, hback⟩
      exact ⟨hsame, hforth, hback⟩

/-- Equivalence is containment both ways. -/
theorem isMutual_equivalent : IsMutual within equivalent where
  refl connection := within_iff.mpr Set.Subset.rfl
  trans first second third hfirst hsecond := by
    rw [within_iff] at hfirst hsecond ⊢
    exact hfirst.trans hsecond
  same_iff first second := by
    rw [equivalent_iff, within_iff, within_iff]
    exact Set.Subset.antisymm_iff

/-- Anchored equivalence is anchored containment both ways. -/
theorem isMutual_equivalentAnchored : IsMutual withinAnchored equivalentAnchored :=
  isMutual_equivalent.and
    ⟨fun connection => anchorsAgree_equivalence.refl connection.anchor,
      anchorsAgree_equivalence.symm, anchorsAgree_equivalence.trans⟩

/-- With and without regard to anchors, lying within is a preorder and equivalence is
lying within both ways.  Connections that lie within each other have one list of
maximal alternatives.  So both equivalences are equivalence relations, like the
description of one link on which the anchored one rests. -/
theorem equivalences_are_mutual_containment :
    IsMutual within equivalent ∧ IsMutual withinAnchored equivalentAnchored ∧
      (∀ connection other : Connection, connection.within other = true →
        other.within connection = true →
          connection.maximalAlternatives = other.maximalAlternatives) ∧
      (Equivalence fun connection other : Connection => connection.equivalent other = true) ∧
      (Equivalence fun connection other : Connection =>
        connection.equivalentAnchored other = true) ∧
      Equivalence fun anchor other : Anchor => anchor.sameLink other = true := by
  refine ⟨isMutual_equivalent, isMutual_equivalentAnchored, ?_, isMutual_equivalent.equivalence,
    isMutual_equivalentAnchored.equivalence, Anchor.sameLink_equivalence⟩
  intro connection other hforth hback
  have hequivalent : connection.equivalent other = true :=
    (isMutual_equivalent.same_iff connection other).mpr ⟨hforth, hback⟩
  exact eq_of_beq hequivalent

/-- A choice that a covered alternative takes part in, and the link that covers it, seen
from the other end. -/
theorem equivalences_are_mutual_containment_lan :
    let span : Span := ⟨⟨⟨0⟩, "n0"⟩, ⟨⟨1⟩, "n0"⟩⟩
    let lan := Shape.link (TagSet.ofList ["lan"])
    let fast := Shape.link (TagSet.ofList ["fast", "lan"])
    let choice : Connection := ⟨.either lan fast [], some ⟨span, false⟩⟩
    let link : Connection := ⟨fast, some ⟨span.flip, false⟩⟩
    (choice.withinAnchored link = true ∧ link.withinAnchored choice = true) ∧
      choice.equivalentAnchored link = true ∧
      choice.maximalAlternatives = link.maximalAlternatives := by
  intro span lan fast choice link
  obtain ⟨-, hanchored, hmaximal, -⟩ := equivalences_are_mutual_containment
  have hmutual : choice.withinAnchored link = true ∧ link.withinAnchored choice = true := by decide
  exact ⟨hmutual, (hanchored.same_iff choice link).mpr hmutual,
    hmaximal choice link (by decide) (by decide)⟩

end Connection

end LabMatch
