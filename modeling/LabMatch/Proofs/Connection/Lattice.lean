import LabMatch.Proofs.Connection.Offered
import Mathlib.Data.Set.Lattice

/-!
# The lattice of connections

A meet offers the intersection of what its operands offer and a join the union, so
connections that are not anchored at different links obey the laws of a
distributive lattice, up to equivalence.  Equivalence is a congruence: an
equivalent connection may take the place of another one in every operation and in
every relation, except as the requirement of `satisfies`.

Every law is stated about computations that could be refused, and says that they
are not.
-/

namespace LabMatch

namespace Connection

variable {connection other : Connection}

/-! ## What operations make of offers -/

/-- The computation succeeds with a connection at the anchor that offers the tag sets. -/
def Yields (outcome : Except ConnectionError Connection) (anchor : Option Anchor)
    (offered : Set TagSet) : Prop :=
  ∃ result, outcome = .ok result ∧ result.anchor = anchor ∧ result.offered = offered

def SameOutcome (left right : Except ConnectionError Connection) : Prop :=
  ∃ mine theirs, left = .ok mine ∧ right = .ok theirs ∧ mine.equivalent theirs = true

section Yields

variable {outcome outcome' : Except ConnectionError Connection} {anchor anchor' : Option Anchor}
  {offered offered' : Set TagSet}

theorem Yields.sameOutcome (hleft : Yields outcome anchor offered)
    (hright : Yields outcome' anchor' offered) : SameOutcome outcome outcome' := by
  obtain ⟨mine, hmine, -, hoffers⟩ := hleft
  obtain ⟨theirs, htheirs, -, hoffers'⟩ := hright
  exact ⟨mine, theirs, hmine, htheirs, equivalent_iff.mpr (hoffers.trans hoffers'.symm)⟩

theorem Yields.bind {next : Connection → Except ConnectionError Connection}
    (hfirst : Yields outcome anchor offered)
    (hnext : ∀ result, result.anchor = anchor → result.offered = offered →
      Yields (next result) anchor' offered') : Yields (outcome >>= next) anchor' offered' := by
  obtain ⟨result, rfl, hanchor, hoffers⟩ := hfirst
  exact hnext result hanchor hoffers

theorem yields_ok (connection : Connection) :
    Yields (.ok connection) connection.anchor connection.offered :=
  ⟨connection, rfl, rfl, rfl⟩

/-- A meet offers what both connections offer. -/
theorem yields_meet (hmatch : AnchorsMatch connection.anchor other.anchor) :
    Yields (connection.meet other) (connection.anchor.or other.anchor)
      (connection.offered ∩ other.offered) := by
  obtain ⟨common, hcommon, hanchor, hoffers⟩ :=
    meet_eq_ok_of_mergeAnchors (mergeAnchors_eq_ok hmatch)
  exact ⟨common, hcommon, hanchor, Set.ext hoffers⟩

/-- A choice offers what any of its members offers. -/
theorem yields_anyOf {items : List Connection} (hne : items ≠ []) (hmatch : MatchPairwise items) :
    Yields (anyOf items) (firstAnchor? items) {tags | ∃ item ∈ items, tags ∈ item.offered} := by
  obtain ⟨choice, hchoice, hanchor, hmem⟩ := anyOf_eq_ok_of_matchPairwise hne hmatch
  refine ⟨choice, hchoice, hanchor, ?_⟩
  ext tags
  constructor
  · rintro ⟨alternative, halternative, hcovered⟩
    obtain ⟨item, hitem, hoffered⟩ := (hmem alternative).mp halternative
    exact ⟨item, hitem, alternative, hoffered, hcovered⟩
  · rintro ⟨item, hitem, alternative, hoffered, hcovered⟩
    exact ⟨alternative, (hmem alternative).mpr ⟨item, hitem, hoffered⟩, hcovered⟩

/-- A join offers what either connection offers. -/
theorem yields_join (hmatch : AnchorsMatch connection.anchor other.anchor) :
    Yields (connection.join other) (connection.anchor.or other.anchor)
      (connection.offered ∪ other.offered) := by
  have hpair : MatchPairwise [connection, other] := List.pairwise_pair.mpr hmatch
  have hanchor : firstAnchor? [connection, other] = connection.anchor.or other.anchor := by
    rw [firstAnchor?_cons, firstAnchor?_cons, firstAnchor?, List.findSome?_nil, Option.or_none]
  have hoffered : {tags | ∃ item ∈ [connection, other], tags ∈ item.offered} =
      connection.offered ∪ other.offered := by
    ext tags
    simp
  rw [← hanchor, ← hoffered]
  exact yields_anyOf (List.cons_ne_nil _ _) hpair

end Yields

/-! ## Laws -/

/-- The connection lies within both others, and everything else that does lies
within it. -/
structure IsGreatestWithin (common left right : Connection) : Prop where
  within_left : common.within left = true
  within_right : common.within right = true
  greatest : ∀ lower : Connection, lower.within left = true → lower.within right = true →
    lower.within common = true

/-- Both others lie within the connection, and it lies within everything else that
they lie within. -/
structure IsLeastAround (both left right : Connection) : Prop where
  left_within : left.within both = true
  right_within : right.within both = true
  least : ∀ upper : Connection, left.within upper = true → right.within upper = true →
    both.within upper = true

/-- The laws of a distributive lattice, up to equivalence. -/
structure LatticeLaws (first second third : Connection) : Prop where
  meet_isGreatest : ∃ common, first.meet second = .ok common ∧
    common.IsGreatestWithin first second
  join_isLeast : ∃ both, first.join second = .ok both ∧ both.IsLeastAround first second
  meet_comm : SameOutcome (first.meet second) (second.meet first)
  join_comm : SameOutcome (first.join second) (second.join first)
  meet_assoc : SameOutcome (first.meet second >>= fun common => common.meet third)
    (second.meet third >>= first.meet)
  join_assoc : SameOutcome (first.join second >>= fun both => both.join third)
    (second.join third >>= first.join)
  meet_self : SameOutcome (first.meet first) (.ok first)
  join_self : SameOutcome (first.join first) (.ok first)
  meet_join_self : SameOutcome (first.join second >>= first.meet) (.ok first)
  join_meet_self : SameOutcome (first.meet second >>= first.join) (.ok first)
  meet_join : SameOutcome (second.join third >>= first.meet)
    (first.meet second >>= fun left => first.meet third >>= left.join)
  join_meet : SameOutcome (second.meet third >>= first.join)
    (first.join second >>= fun left => first.join third >>= left.meet)

/-- Equivalent connections may take each other's place, as long as nothing is
anchored at different links. -/
structure EquivalenceIsCongruence : Prop where
  meet : ∀ {left left' right right' : Connection}, left.equivalent left' = true →
    right.equivalent right' = true → AnchorsMatch left.anchor right.anchor →
      AnchorsMatch left'.anchor right'.anchor →
        SameOutcome (left.meet right) (left'.meet right')
  join : ∀ {left left' right right' : Connection}, left.equivalent left' = true →
    right.equivalent right' = true → AnchorsMatch left.anchor right.anchor →
      AnchorsMatch left'.anchor right'.anchor →
        SameOutcome (left.join right) (left'.join right')
  allOf : ∀ {items items' : List Connection}, items ≠ [] →
    List.Forall₂ (fun item item' => item.equivalent item' = true) items items' →
      MatchPairwise items → MatchPairwise items' → SameOutcome (allOf items) (allOf items')
  anyOf : ∀ {items items' : List Connection}, items ≠ [] →
    List.Forall₂ (fun item item' => item.equivalent item' = true) items items' →
      MatchPairwise items → MatchPairwise items' → SameOutcome (anyOf items) (anyOf items')
  compatible : ∀ {left left' right right' : Connection}, left.equivalent left' = true →
    right.equivalent right' = true → left.compatible right = left'.compatible right'
  satisfies : ∀ {left left' : Connection}, left.equivalent left' = true →
    ∀ requirement, left.satisfies requirement = left'.satisfies requirement

/-- What offers exactly what both offer is their greatest lower bound. -/
theorem isGreatestWithin_of_offered {common : Connection}
    (hoffered : common.offered = connection.offered ∩ other.offered) :
    common.IsGreatestWithin connection other := by
  constructor
  · rw [within_iff, hoffered]
    exact Set.inter_subset_left
  · rw [within_iff, hoffered]
    exact Set.inter_subset_right
  · intro lower hleft hright
    rw [within_iff] at hleft hright ⊢
    rw [hoffered]
    exact Set.subset_inter hleft hright

/-- What offers exactly what either offers is their least upper bound. -/
theorem isLeastAround_of_offered {both : Connection}
    (hoffered : both.offered = connection.offered ∪ other.offered) :
    both.IsLeastAround connection other := by
  constructor
  · rw [within_iff, hoffered]
    exact Set.subset_union_left
  · rw [within_iff, hoffered]
    exact Set.subset_union_right
  · intro upper hleft hright
    rw [within_iff] at hleft hright ⊢
    rw [hoffered]
    exact Set.union_subset hleft hright

section Nested

variable {outcome outcome' : Except ConnectionError Connection} {anchor anchor' : Option Anchor}
  {offered offered' : Set TagSet}

theorem Yields.meet (hleft : Yields outcome anchor offered)
    (hright : Yields outcome' anchor' offered') (hmatch : AnchorsMatch anchor anchor') :
    Yields (outcome >>= fun left => outcome' >>= left.meet) (anchor.or anchor')
      (offered ∩ offered') := by
  apply hleft.bind
  rintro left rfl rfl
  apply hright.bind
  rintro right rfl rfl
  exact yields_meet hmatch

theorem Yields.join (hleft : Yields outcome anchor offered)
    (hright : Yields outcome' anchor' offered') (hmatch : AnchorsMatch anchor anchor') :
    Yields (outcome >>= fun left => outcome' >>= left.join) (anchor.or anchor')
      (offered ∪ offered') := by
  apply hleft.bind
  rintro left rfl rfl
  apply hright.bind
  rintro right rfl rfl
  exact yields_join hmatch

end Nested

/-- Meet and join make a distributive lattice of connections that match in their anchors. -/
theorem latticeLaws {first second third : Connection}
    (hsecond : AnchorsMatch first.anchor second.anchor)
    (hthird : AnchorsMatch first.anchor third.anchor)
    (hothers : AnchorsMatch second.anchor third.anchor) : LatticeLaws first second third where
  meet_isGreatest := by
    obtain ⟨common, hcommon, -, hoffered⟩ := yields_meet hsecond
    exact ⟨common, hcommon, isGreatestWithin_of_offered hoffered⟩
  join_isLeast := by
    obtain ⟨both, hboth, -, hoffered⟩ := yields_join hsecond
    exact ⟨both, hboth, isLeastAround_of_offered hoffered⟩
  meet_comm := by
    have hflipped := yields_meet hsecond.symm
    rw [Set.inter_comm] at hflipped
    exact (yields_meet hsecond).sameOutcome hflipped
  join_comm := by
    have hflipped := yields_join hsecond.symm
    rw [Set.union_comm] at hflipped
    exact (yields_join hsecond).sameOutcome hflipped
  meet_assoc := by
    have hleft := (yields_meet hsecond).meet (yields_ok third) (hthird.or_left hothers)
    have hright := (yields_ok first).meet (yields_meet hothers) (hsecond.or_right hthird)
    rw [Set.inter_assoc] at hleft
    exact hleft.sameOutcome hright
  join_assoc := by
    have hleft := (yields_join hsecond).join (yields_ok third) (hthird.or_left hothers)
    have hright := (yields_ok first).join (yields_join hothers) (hsecond.or_right hthird)
    rw [Set.union_assoc] at hleft
    exact hleft.sameOutcome hright
  meet_self := by
    have hself := yields_meet (AnchorsMatch.refl first.anchor)
    rw [Set.inter_self] at hself
    exact hself.sameOutcome (yields_ok first)
  join_self := by
    have hself := yields_join (AnchorsMatch.refl first.anchor)
    rw [Set.union_self] at hself
    exact hself.sameOutcome (yields_ok first)
  meet_join_self := by
    have habsorbed := (yields_ok first).meet (yields_join hsecond)
      ((AnchorsMatch.refl _).or_right hsecond)
    rw [Set.inter_eq_left.mpr Set.subset_union_left] at habsorbed
    exact habsorbed.sameOutcome (yields_ok first)
  join_meet_self := by
    have habsorbed := (yields_ok first).join (yields_meet hsecond)
      ((AnchorsMatch.refl _).or_right hsecond)
    rw [Set.union_eq_left.mpr Set.inter_subset_left] at habsorbed
    exact habsorbed.sameOutcome (yields_ok first)
  meet_join := by
    have hleft := (yields_ok first).meet (yields_join hothers) (hsecond.or_right hthird)
    have hright := (yields_meet hsecond).join (yields_meet hthird)
      (((AnchorsMatch.refl _).or_right hthird).or_left (hsecond.symm.or_right hothers))
    rw [Set.inter_union_distrib_left] at hleft
    exact hleft.sameOutcome hright
  join_meet := by
    have hleft := (yields_ok first).join (yields_meet hothers) (hsecond.or_right hthird)
    have hright := (yields_join hsecond).meet (yields_join hthird)
      (((AnchorsMatch.refl _).or_right hthird).or_left (hsecond.symm.or_right hothers))
    rw [Set.union_inter_distrib_left] at hleft
    exact hleft.sameOutcome hright

/-! ## Congruence -/

section Congruence

variable {items items' : List Connection}

/-- A conjunction offers what all of the connections offer. -/
theorem yields_allOf {first : Connection} {others : List Connection}
    (hmatch : MatchPairwise (first :: others)) :
    Yields (allOf (first :: others)) (firstAnchor? (first :: others))
      (offeredBy (Shape.allOf first.shape (others.map (·.shape))).alternatives) :=
  ⟨_, compose_eq_ok Shape.allOf hmatch, rfl, rfl⟩

theorem forall₂_offersAlike
    (hsame : List.Forall₂ (fun item item' => item.equivalent item' = true) items items') :
    List.Forall₂ Shape.OffersAlike (items.map (·.shape)) (items'.map (·.shape)) := by
  rw [List.forall₂_map_left_iff, List.forall₂_map_right_iff]
  exact hsame.imp fun _ _ hitem => equivalent_iff.mp hitem

theorem exists_mem_offered_congr
    (hsame : List.Forall₂ (fun item item' => item.equivalent item' = true) items items')
    (tags : TagSet) :
    (∃ item ∈ items, tags ∈ item.offered) ↔ ∃ item ∈ items', tags ∈ item.offered := by
  induction hsame with
  | nil => rfl
  | cons hitem hothers ih => simp [equivalent_iff.mp hitem, ih]

theorem sameOutcome_allOf (hne : items ≠ [])
    (hsame : List.Forall₂ (fun item item' => item.equivalent item' = true) items items')
    (hmatch : MatchPairwise items) (hmatch' : MatchPairwise items') :
    SameOutcome (allOf items) (allOf items') := by
  cases hsame with
  | nil => exact absurd rfl hne
  | cons hfirst hothers =>
    have hall := yields_allOf hmatch
    have hshapes : Shape.OffersAlike _ _ :=
      Shape.offersAlike_allOf (equivalent_iff.mp hfirst) (forall₂_offersAlike hothers)
    rw [hshapes] at hall
    exact hall.sameOutcome (yields_allOf hmatch')

theorem sameOutcome_anyOf (hne : items ≠ [])
    (hsame : List.Forall₂ (fun item item' => item.equivalent item' = true) items items')
    (hmatch : MatchPairwise items) (hmatch' : MatchPairwise items') :
    SameOutcome (anyOf items) (anyOf items') := by
  have hne' : items' ≠ [] := by
    rintro rfl
    exact hne (List.forall₂_nil_right_iff.mp hsame)
  have hany := yields_anyOf hne hmatch
  rw [Set.ext (exists_mem_offered_congr hsame)] at hany
  exact hany.sameOutcome (yields_anyOf hne' hmatch')

/-- Equivalent connections may be exchanged under every operation. -/
theorem equivalence_isCongruence : EquivalenceIsCongruence where
  meet hleft hright hmatch hmatch' := by
    have hmeet := yields_meet hmatch
    rw [equivalent_iff.mp hleft, equivalent_iff.mp hright] at hmeet
    exact hmeet.sameOutcome (yields_meet hmatch')
  join hleft hright hmatch hmatch' := by
    have hjoin := yields_join hmatch
    rw [equivalent_iff.mp hleft, equivalent_iff.mp hright] at hjoin
    exact hjoin.sameOutcome (yields_join hmatch')
  allOf := sameOutcome_allOf
  anyOf := sameOutcome_anyOf
  compatible hleft hright := compatible_congr (equivalent_iff.mp hleft) (equivalent_iff.mp hright)
  satisfies hleft := satisfies_congr (equivalent_iff.mp hleft)

end Congruence

/-- Connections that are not anchored at different links form a distributive
lattice up to equivalence, and equivalence is a congruence. -/
theorem latticeLaws_and_congruence {first second third : Connection}
    (hsecond : AnchorsMatch first.anchor second.anchor)
    (hthird : AnchorsMatch first.anchor third.anchor)
    (hothers : AnchorsMatch second.anchor third.anchor) :
    LatticeLaws first second third ∧ EquivalenceIsCongruence :=
  ⟨latticeLaws hsecond hthird hothers, equivalence_isCongruence⟩

/-- A link between two devices, seen from its first and from its second end, and a
choice that is anchored nowhere. -/
theorem latticeLaws_bothEnds :
    let lan := TagSet.ofList ["lan"]
    let uart := TagSet.ofList ["uart"]
    let span : Span := ⟨⟨⟨0⟩, "n0"⟩, ⟨⟨1⟩, "n1"⟩⟩
    let near : Connection := ⟨.link lan, some ⟨span, false⟩⟩
    let far : Connection := ⟨.every (.link lan) (.link uart) [], some ⟨span.flip, false⟩⟩
    let choice : Connection := ⟨.either (.link lan) (.link uart) [], none⟩
    AnchorsMatch near.anchor far.anchor ∧ LatticeLaws near far choice ∧
      EquivalenceIsCongruence := by
  intro lan uart span near far choice
  have hfar : AnchorsMatch near.anchor far.anchor := by decide
  exact ⟨hfar, latticeLaws_and_congruence hfar (AnchorsMatch.none_left _).symm
    (AnchorsMatch.none_left _).symm⟩

end Connection

end LabMatch
