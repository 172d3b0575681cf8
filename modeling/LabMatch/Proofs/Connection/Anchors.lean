import LabMatch.Connection.Relations

/-!
# Anchors of composed connections

Two optional anchors match unless they describe different links.  Connections
whose anchors match pairwise can always be composed, and the composition is
anchored like the first of them that is anchored at all.
-/

namespace LabMatch

/-- Two anchors describe the same link if they are the same one, or each other's flips and both
ways. -/
theorem Anchor.sameLink_iff {anchor other : Anchor} :
    anchor.sameLink other = true ↔
      anchor = other ∨ anchor.oneWay = false ∧ other.oneWay = false ∧ anchor.flip = other := by
  simp [Anchor.sameLink, and_assoc]

@[simp]
theorem Anchor.sameLink_refl (anchor : Anchor) : anchor.sameLink anchor = true :=
  sameLink_iff.mpr (Or.inl rfl)

theorem Anchor.sameLink_symm {anchor other : Anchor} (hsame : anchor.sameLink other = true) :
    other.sameLink anchor = true := by
  rw [sameLink_iff] at hsame ⊢
  cases hsame with
  | inl heq => exact Or.inl heq.symm
  | inr hflip =>
    obtain ⟨hanchor, hother, rfl⟩ := hflip
    exact Or.inr ⟨hother, hanchor, rfl⟩

/-- The anchors do not describe different links. -/
def AnchorsMatch (left right : Option Anchor) : Prop :=
  ∀ mine ∈ left, ∀ theirs ∈ right, mine.sameLink theirs = true

instance (left right : Option Anchor) : Decidable (AnchorsMatch left right) :=
  inferInstanceAs (Decidable (∀ mine ∈ left, ∀ theirs ∈ right, mine.sameLink theirs = true))

namespace AnchorsMatch

variable {left right other : Option Anchor}

@[simp]
theorem refl (anchor : Option Anchor) : AnchorsMatch anchor anchor := by
  intro mine hmine theirs htheirs
  obtain rfl : mine = theirs := Option.mem_unique hmine htheirs
  exact mine.sameLink_refl

theorem symm (hmatch : AnchorsMatch left right) : AnchorsMatch right left :=
  fun mine hmine theirs htheirs => Anchor.sameLink_symm (hmatch theirs htheirs mine hmine)

@[simp]
theorem none_left (anchor : Option Anchor) : AnchorsMatch none anchor := by
  intro mine hmine
  cases hmine

/-- What matches both anchors matches the one that stands for them. -/
theorem or_left (hleft : AnchorsMatch left other) (hright : AnchorsMatch right other) :
    AnchorsMatch (left.or right) other := by
  cases left with
  | none => exact hright
  | some anchor => exact hleft

theorem or_right (hleft : AnchorsMatch other left) (hright : AnchorsMatch other right) :
    AnchorsMatch other (left.or right) :=
  (hleft.symm.or_left hright.symm).symm

end AnchorsMatch

/-- Anchors that match are merged, and the first one present stays. -/
theorem mergeAnchors_eq_ok {left right : Option Anchor} (hmatch : AnchorsMatch left right) :
    mergeAnchors left right = .ok (left.or right) := by
  cases left with
  | none => rfl
  | some mine =>
    cases right with
    | none => rfl
    | some theirs => exact if_pos (hmatch mine rfl theirs rfl)

namespace Connection

/-- No two of the connections are anchored at different links. -/
def MatchPairwise (items : List Connection) : Prop :=
  items.Pairwise fun item other => AnchorsMatch item.anchor other.anchor

def firstAnchor? (items : List Connection) : Option Anchor := items.findSome? Connection.anchor

theorem firstAnchor?_cons (item : Connection) (others : List Connection) :
    firstAnchor? (item :: others) = item.anchor.or (firstAnchor? others) := by
  rw [firstAnchor?, firstAnchor?, List.findSome?_cons]
  cases item.anchor <;> rfl

/-- Anchors that match pairwise are merged to the first one. -/
theorem foldlM_mergeAnchors_eq_ok {items : List Connection} {merged : Option Anchor}
    (hmerged : ∀ item ∈ items, AnchorsMatch merged item.anchor) (hitems : MatchPairwise items) :
    items.foldlM (fun merged item => mergeAnchors merged item.anchor) merged =
      .ok (merged.or (firstAnchor? items)) := by
  induction items generalizing merged with
  | nil =>
    rw [firstAnchor?, List.findSome?_nil, Option.or_none]
    rfl
  | cons item others ih =>
    obtain ⟨hitem, hothers⟩ := List.pairwise_cons.mp hitems
    obtain ⟨hfirst, hrest⟩ := List.forall_mem_cons.mp hmerged
    have hstep : ∀ next ∈ others, AnchorsMatch (merged.or item.anchor) next.anchor :=
      fun next hnext => (hrest next hnext).or_left (hitem next hnext)
    rw [List.foldlM_cons, mergeAnchors_eq_ok hfirst]
    change others.foldlM _ (merged.or item.anchor) = _
    rw [ih hstep hothers, Option.or_assoc, firstAnchor?_cons]

/-- Connections that match pairwise are composed, at the anchor of the first one that has any. -/
theorem compose_eq_ok (combine : Shape → List Shape → Shape) {first : Connection}
    {others : List Connection} (hmatch : MatchPairwise (first :: others)) :
    compose combine (first :: others) =
      .ok ⟨combine first.shape (others.map (·.shape)), firstAnchor? (first :: others)⟩ := by
  obtain ⟨hfirst, hothers⟩ := List.pairwise_cons.mp hmatch
  rw [compose, foldlM_mergeAnchors_eq_ok hfirst hothers, firstAnchor?_cons]
  rfl

end Connection

end LabMatch
