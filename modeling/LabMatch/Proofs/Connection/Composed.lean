import LabMatch.Proofs.Connection.Choice
import LabMatch.Proofs.Connection.Equivalence

/-!
# Composing in any order

A composition only ever compares the next connection with the anchor gathered so far.
Describing the same link is an equivalence of anchors, so this refuses exactly the lists
in which two connections are anchored at different links, wherever in the list they are.
Neither the order of a list nor composing some of its neighbours first makes a
difference to success or to the alternatives.
-/

namespace LabMatch

namespace AnchorsMatch

variable {left right other : Option Anchor} {middle : Anchor}

/-- Anchors that match one and the same anchor match each other. -/
theorem trans (hleft : AnchorsMatch left (some middle))
    (hright : AnchorsMatch (some middle) right) :
    AnchorsMatch left right := by
  intro mine hmine theirs htheirs
  exact Anchor.sameLink_trans (hleft mine hmine middle rfl) (hright middle rfl theirs htheirs)

/-- What matches the anchor that stands for two matching ones matches both of them. -/
theorem or_left_iff (hmatch : AnchorsMatch left right) :
    AnchorsMatch (left.or right) other ↔ AnchorsMatch left other ∧ AnchorsMatch right other := by
  constructor
  · intro hother
    cases left with
    | none => exact ⟨none_left other, hother⟩
    | some mine => exact ⟨hother, hmatch.symm.trans hother⟩
  · intro hboth
    exact hboth.1.or_left hboth.2

end AnchorsMatch

/-- Anchors are not merged exactly if they describe different links. -/
theorem mergeAnchors_eq_error_iff {left right : Option Anchor} {reason : ConnectionError} :
    mergeAnchors left right = .error reason ↔ ∃ mine theirs, left = some mine ∧
      right = some theirs ∧ mine.sameLink theirs = false ∧
        reason = .differentLinks mine theirs := by
  cases left with
  | none => simp [mergeAnchors]
  | some mine =>
    cases right with
    | none => simp [mergeAnchors]
    | some theirs =>
      cases hsame : mine.sameLink theirs with
      | true => simp [mergeAnchors, hsame]
      | false =>
        rw [mergeAnchors, if_neg (hsame ▸ Bool.false_ne_true), Except.error.injEq]
        constructor
        · rintro rfl
          exact ⟨mine, theirs, rfl, rfl, hsame, rfl⟩
        · rintro ⟨_, _, ⟨⟩, ⟨⟩, -, rfl⟩
          rfl

theorem mergeAnchors_eq_ok_iff {left right merged : Option Anchor} :
    mergeAnchors left right = .ok merged ↔ AnchorsMatch left right ∧ left.or right = merged := by
  constructor
  · intro hmerged
    have hmatch : AnchorsMatch left right := by
      rintro mine rfl theirs rfl
      by_contra hdiffers
      have hrefused := mergeAnchors_eq_error_iff.mpr
        ⟨mine, theirs, rfl, rfl, Bool.eq_false_of_not_eq_true hdiffers, rfl⟩
      rw [hmerged] at hrefused
      cases hrefused
    rw [mergeAnchors_eq_ok hmatch] at hmerged
    exact ⟨hmatch, Except.ok.inj hmerged⟩
  · rintro ⟨hmatch, rfl⟩
    exact mergeAnchors_eq_ok hmatch

namespace Connection

variable {items : List Connection}

/-! ## Which lists can be composed -/

theorem matchPairwise_iff :
    MatchPairwise items ↔
      ∀ item ∈ items, ∀ other ∈ items, AnchorsMatch item.anchor other.anchor := by
  constructor
  · intro hmatch item hitem other hother
    exact hmatch.forall_of_forall_of_flip (fun item _ => AnchorsMatch.refl item.anchor)
      (hmatch.imp AnchorsMatch.symm) hitem hother
  · intro hall
    exact List.pairwise_of_forall_mem_list hall

/-- Comparing with the anchor gathered so far is comparing every two connections. -/
theorem foldlM_mergeAnchors_eq_ok_iff {merged result : Option Anchor} :
    items.foldlM (fun merged item => mergeAnchors merged item.anchor) merged = .ok result ↔
      (∀ item ∈ items, AnchorsMatch merged item.anchor) ∧ MatchPairwise items ∧
        merged.or (firstAnchor? items) = result := by
  constructor
  · intro hfolded
    have hmatch : (∀ item ∈ items, AnchorsMatch merged item.anchor) ∧ MatchPairwise items := by
      induction items generalizing merged with
      | nil => exact ⟨List.forall_mem_nil _, List.Pairwise.nil⟩
      | cons first others ih =>
        rw [List.foldlM_cons] at hfolded
        cases hfirst : mergeAnchors merged first.anchor with
        | error reason =>
          rw [hfirst] at hfolded
          cases hfolded
        | ok next =>
          rw [hfirst] at hfolded
          obtain ⟨hsame, rfl⟩ := mergeAnchors_eq_ok_iff.mp hfirst
          obtain ⟨hnext, hothers⟩ := ih hfolded
          have hboth := fun other hother => (AnchorsMatch.or_left_iff hsame).mp (hnext other hother)
          exact ⟨List.forall_mem_cons.mpr ⟨hsame, fun other hother => (hboth other hother).1⟩,
            List.pairwise_cons.mpr ⟨fun other hother => (hboth other hother).2, hothers⟩⟩
    rw [foldlM_mergeAnchors_eq_ok hmatch.1 hmatch.2] at hfolded
    exact ⟨hmatch.1, hmatch.2, Except.ok.inj hfolded⟩
  · rintro ⟨hmerged, hitems, rfl⟩
    exact foldlM_mergeAnchors_eq_ok hmerged hitems

/-- The connection that composing makes, when it is not refused. -/
theorem compose_cons_eq_ok_iff (combine : Shape → List Shape → Shape) {first : Connection}
    {others : List Connection} {composed : Connection} :
    compose combine (first :: others) = .ok composed ↔ MatchPairwise (first :: others) ∧
      composed = ⟨combine first.shape (others.map (·.shape)), firstAnchor? (first :: others)⟩ := by
  constructor
  · intro hcomposed
    have hmatch : MatchPairwise (first :: others) := by
      cases hfolded : others.foldlM (fun merged item => mergeAnchors merged item.anchor)
          first.anchor with
      | error reason =>
        rw [compose, hfolded] at hcomposed
        cases hcomposed
      | ok anchor =>
        obtain ⟨hfirst, hothers, -⟩ := foldlM_mergeAnchors_eq_ok_iff.mp hfolded
        exact List.pairwise_cons.mpr ⟨hfirst, hothers⟩
    rw [compose_eq_ok combine hmatch] at hcomposed
    exact ⟨hmatch, (Except.ok.inj hcomposed).symm⟩
  · rintro ⟨hmatch, rfl⟩
    exact compose_eq_ok combine hmatch

/-- Connections are composed exactly if there are any and no two are anchored at different links. -/
theorem exists_compose_eq_ok_iff (combine : Shape → List Shape → Shape) :
    (∃ composed, compose combine items = .ok composed) ↔ items ≠ [] ∧ MatchPairwise items := by
  cases items with
  | nil => simp [compose]
  | cons first others => simp [compose_cons_eq_ok_iff]

/-! ## Order and groups -/

/-- The first anchor stands for the anchors of all of the connections. -/
theorem MatchPairwise.firstAnchor?_match_iff (hitems : MatchPairwise items)
    {other : Option Anchor} :
    AnchorsMatch (firstAnchor? items) other ↔ ∀ item ∈ items, AnchorsMatch item.anchor other := by
  induction items generalizing other with
  | nil => simp [firstAnchor?]
  | cons first others ih =>
    obtain ⟨hfirst, hothers⟩ := List.pairwise_cons.mp hitems
    have hrest : AnchorsMatch (firstAnchor? others) first.anchor :=
      (ih hothers).mpr fun item hitem => (hfirst item hitem).symm
    rw [firstAnchor?_cons, AnchorsMatch.or_left_iff hrest.symm, ih hothers, List.forall_mem_cons]

theorem matchPairwise_perm {items' : List Connection} (hperm : items.Perm items') :
    MatchPairwise items ↔ MatchPairwise items' := by
  simp only [matchPairwise_iff, hperm.mem_iff]

/-- A connection with the first anchor of a group may take the place of the group. -/
theorem matchPairwise_group_iff {group rest : List Connection} {grouped : Connection}
    (hgroup : MatchPairwise group) (hgrouped : grouped.anchor = firstAnchor? group) :
    MatchPairwise (grouped :: rest) ↔ MatchPairwise (group ++ rest) := by
  have hstands : (∀ item ∈ rest, AnchorsMatch grouped.anchor item.anchor) ↔
      ∀ member ∈ group, ∀ item ∈ rest, AnchorsMatch member.anchor item.anchor := by
    simp only [hgrouped, hgroup.firstAnchor?_match_iff]
    exact ⟨fun hall member hmember item hitem => hall item hitem member hmember,
      fun hall item hitem member hmember => hall member hmember item hitem⟩
  rw [MatchPairwise, List.pairwise_cons, hstands, MatchPairwise, List.pairwise_append]
  exact ⟨fun hrest => ⟨hgroup, hrest.2, hrest.1⟩, fun hall => ⟨hall.2.2, hall.2.1⟩⟩

/-- Both computations are refused, or both succeed with the same alternatives. -/
def SameAlternatives (outcome other : Except ConnectionError Connection) : Prop :=
  outcome.toOption.map alternatives = other.toOption.map alternatives

/-- Shapes may be combined in any order, and some of them first. -/
structure CombinesFreely (combine : Shape → List Shape → Shape) : Prop where
  permuted : ∀ {first first' : Shape} {others others' : List Shape},
    (first :: others).Perm (first' :: others') →
      (combine first others).alternatives = (combine first' others').alternatives
  grouped : ∀ (first : Shape) (others rest : List Shape),
    (combine (combine first others) rest).alternatives =
      (combine first (others ++ rest)).alternatives

/-- Conjunctions may be regrouped and reordered. -/
theorem combinesFreely_allOf : CombinesFreely Shape.allOf where
  permuted hperm := Shape.alternatives_eq_of_rewrites (.permuteEvery hperm)
  grouped first others rest :=
    Shape.alternatives_eq_of_rewrites (.flattenEvery first others rest)

theorem combinesFreely_anyOf : CombinesFreely Shape.anyOf where
  permuted hperm := Shape.alternatives_eq_of_rewrites (.permuteEither hperm)
  grouped first others rest :=
    Shape.alternatives_eq_of_rewrites (.flattenEither first others rest)

section Composition

variable {combine : Shape → List Shape → Shape}

theorem toOption_compose_of_not_match (hitems : ¬ MatchPairwise items) :
    (compose combine items).toOption = none := by
  cases hcomposed : compose combine items with
  | error reason => rfl
  | ok composed =>
    exact absurd ((exists_compose_eq_ok_iff combine).mp ⟨composed, hcomposed⟩).2 hitems

theorem sameAlternatives_of_perm (hcombine : CombinesFreely combine) {items' : List Connection}
    (hperm : items.Perm items') :
    SameAlternatives (compose combine items) (compose combine items') := by
  rw [SameAlternatives]
  by_cases hmatch : MatchPairwise items
  · have hmatch' := (matchPairwise_perm hperm).mp hmatch
    cases items with
    | nil => rw [hperm.nil_eq]
    | cons first others =>
      cases items' with
      | nil => cases hperm.eq_nil
      | cons first' others' =>
        rw [compose_eq_ok combine hmatch, compose_eq_ok combine hmatch']
        exact congrArg some (hcombine.permuted (hperm.map Connection.shape))
  · rw [toOption_compose_of_not_match hmatch,
      toOption_compose_of_not_match (mt (matchPairwise_perm hperm).mpr hmatch)]

/-- Composing the first connections of a list first makes no difference. -/
theorem sameAlternatives_of_group (hcombine : CombinesFreely combine) {group : List Connection}
    (hgroup : group ≠ []) (rest : List Connection) :
    SameAlternatives (compose combine group >>= fun grouped => compose combine (grouped :: rest))
      (compose combine (group ++ rest)) := by
  rw [SameAlternatives]
  by_cases hmatch : MatchPairwise group
  · obtain ⟨first, others, rfl⟩ := List.exists_cons_of_ne_nil hgroup
    let grouped : Connection :=
      ⟨combine first.shape (others.map (·.shape)), firstAnchor? (first :: others)⟩
    have hrest : MatchPairwise (grouped :: rest) ↔ MatchPairwise (first :: others ++ rest) :=
      matchPairwise_group_iff hmatch rfl
    rw [compose_eq_ok combine hmatch]
    change (compose combine (grouped :: rest)).toOption.map alternatives = _
    by_cases hall : MatchPairwise (first :: others ++ rest)
    · rw [compose_eq_ok combine (hrest.mpr hall)]
      rw [List.cons_append] at hall ⊢
      rw [compose_eq_ok combine hall, List.map_append]
      exact congrArg some (hcombine.grouped _ _ _)
    · rw [toOption_compose_of_not_match (mt hrest.mp hall), toOption_compose_of_not_match hall]
  · have hall : ¬ MatchPairwise (group ++ rest) :=
      fun hall => hmatch (List.pairwise_append.mp hall).1
    rw [toOption_compose_of_not_match hall]
    cases hcomposed : compose combine group with
    | error reason => rfl
    | ok grouped =>
      exact absurd ((exists_compose_eq_ok_iff combine).mp ⟨grouped, hcomposed⟩).2 hmatch

end Composition

/-! ## The discipline -/

/-- A composition is refused exactly for an empty list and for connections anchored at
different links.  What it makes is anchored like the first connection that is anchored.
Neither the order of the list nor composing a part of it first makes a difference. -/
structure Disciplined (composition : List Connection → Except ConnectionError Connection) :
    Prop where
  succeeds_iff : ∀ items, (∃ composed, composition items = .ok composed) ↔
    items ≠ [] ∧ ∀ item ∈ items, ∀ other ∈ items, AnchorsMatch item.anchor other.anchor
  anchor : ∀ items composed, composition items = .ok composed →
    composed.anchor = firstAnchor? items
  permuted : ∀ items items', items.Perm items' →
    SameAlternatives (composition items) (composition items')
  grouped : ∀ before group after, group ≠ [] →
    SameAlternatives
      (composition group >>= fun grouped => composition (before ++ grouped :: after))
      (composition (before ++ group ++ after))

/-- Composing is disciplined, however the shapes are combined freely. -/
theorem CombinesFreely.disciplined {combine : Shape → List Shape → Shape}
    (hcombine : CombinesFreely combine) : Disciplined (compose combine) where
  succeeds_iff items := by rw [exists_compose_eq_ok_iff, matchPairwise_iff]
  anchor items composed hcomposed := by
    cases items with
    | nil => cases hcomposed
    | cons first others => rw [((compose_cons_eq_ok_iff combine).mp hcomposed).2]
  permuted items items' hperm := sameAlternatives_of_perm hcombine hperm
  grouped before group after hgroup := by
    have hmoved : SameAlternatives
        (compose combine group >>= fun grouped => compose combine (before ++ grouped :: after))
        (compose combine group >>= fun grouped =>
          compose combine (grouped :: (before ++ after))) := by
      cases compose combine group with
      | error reason => rfl
      | ok grouped => exact sameAlternatives_of_perm hcombine List.perm_middle
    have hback : (group ++ (before ++ after)).Perm (before ++ group ++ after) := by
      rw [← List.append_assoc]
      exact List.perm_append_comm.append_right after
    exact (hmoved.trans (sameAlternatives_of_group hcombine hgroup _)).trans
      (sameAlternatives_of_perm hcombine hback)

def RefusesDifferentLinks
    (operation : Connection → Connection → Except ConnectionError Connection) : Prop :=
  ∀ connection other reason, operation connection other = .error reason ↔
    ∃ mine theirs, connection.anchor = some mine ∧ other.anchor = some theirs ∧
      mine.sameLink theirs = false ∧ reason = .differentLinks mine theirs

theorem refusesDifferentLinks_meet : RefusesDifferentLinks meet := by
  intro connection other reason
  rw [← mergeAnchors_eq_error_iff]
  cases hmerged : mergeAnchors connection.anchor other.anchor with
  | error failure => simp [meet, hmerged, bind, Except.bind]
  | ok anchor =>
    obtain ⟨common, hcommon, -⟩ := meet_eq_ok_of_mergeAnchors hmerged
    simp [hcommon]

theorem refusesDifferentLinks_join : RefusesDifferentLinks join := by
  intro connection other reason
  rw [← mergeAnchors_eq_error_iff, join, anyOf, compose, List.foldlM_cons]
  cases mergeAnchors connection.anchor other.anchor with
  | error failure => simp [bind, Except.bind]
  | ok anchor => simp [bind, Except.bind, pure, Except.pure]

/-- Both compositions keep the discipline, and meets and joins are refused exactly where
both connections are anchored, at different links. -/
theorem compositions_disciplined :
    Disciplined allOf ∧ Disciplined anyOf ∧
      RefusesDifferentLinks meet ∧ RefusesDifferentLinks join :=
  ⟨combinesFreely_allOf.disciplined, combinesFreely_anyOf.disciplined,
    refusesDifferentLinks_meet, refusesDifferentLinks_join⟩

end Connection

end LabMatch
