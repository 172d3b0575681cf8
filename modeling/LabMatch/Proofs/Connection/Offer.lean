import LabMatch.Proofs.Connection.Anchors
import Mathlib.Data.Finset.Max
import Mathlib.Data.List.Perm.Subperm

/-!
# What a connection offers

A connection offers a tag set when one of its alternatives covers it.  Every
relation between connections only depends on what they offer: the alternatives
of a composition are those of its members, and a meet offers exactly what both
of its operands offer, although it only keeps its maximal alternatives.

No connection is without alternatives, so the compositions of unanchored
connections never fail.
-/

namespace LabMatch

namespace TagSet

theorem coveredBy_refl (tags : TagSet) : tags.coveredBy tags = true :=
  coveredBy_iff.mpr fun _ hmem => hmem

theorem coveredBy_trans {first second third : TagSet}
    (hfirst : first.coveredBy second = true)
    (hsecond : second.coveredBy third = true) :
    first.coveredBy third = true := by
  rw [coveredBy_iff] at hfirst hsecond ⊢
  intro tag hmem
  exact hsecond tag (hfirst tag hmem)

/-- Covering a common part is covering by both sets. -/
theorem coveredBy_inter {tags left right : TagSet} :
    tags.coveredBy (left.inter right) = true ↔
      tags.coveredBy left = true ∧ tags.coveredBy right = true := by
  simp only [coveredBy_iff, mem_tags_inter]
  exact forall₂_and

private theorem nodup_tags (tags : TagSet) : tags.tags.Nodup :=
  tags.ascending.imp KeyOrder.ne_of_lt

/-- A covered set is not larger, and the same set if it is not smaller. -/
theorem eq_of_coveredBy_of_length_le {left right : TagSet}
    (hcovered : left.coveredBy right = true)
    (hlength : right.tags.length ≤ left.tags.length) : left = right := by
  have hsubperm : left.tags.Subperm right.tags :=
    (nodup_tags left).subperm (coveredBy_iff.mp hcovered)
  have hperm : left.tags.Perm right.tags := hsubperm.perm_of_length_le hlength
  exact eq_of_mem_iff fun _ => hperm.mem_iff

end TagSet

/-- Every tag set of a list lies within one that no other covers. -/
theorem exists_maximalAmong_coveredBy {alternatives : List TagSet} {tags : TagSet}
    (hmem : tags ∈ alternatives) :
    ∃ maximal ∈ maximalAmong alternatives, tags.coveredBy maximal = true := by
  let covering := alternatives.toFinset.filter fun other => tags.coveredBy other = true
  have hnonempty : covering.Nonempty :=
    ⟨tags, by simpa [covering] using ⟨hmem, tags.coveredBy_refl⟩⟩
  obtain ⟨largest, hlargest, hbound⟩ :=
    covering.exists_max_image (fun other => other.tags.length) hnonempty
  simp only [covering, Finset.mem_filter, List.mem_toFinset] at hlargest hbound
  refine ⟨largest, List.mem_filter.mpr ⟨hlargest.1, ?_⟩, hlargest.2⟩
  simp only [Bool.not_eq_true', List.any_eq_false, Bool.and_eq_true, bne_iff_ne, not_and]
  intro other hother hne hcovered
  have hlength := hbound other ⟨hother, TagSet.coveredBy_trans hlargest.2 hcovered⟩
  exact hne (TagSet.eq_of_coveredBy_of_length_le hcovered hlength).symm

theorem mem_of_mem_maximalAmong {alternatives : List TagSet} {tags : TagSet}
    (hmem : tags ∈ maximalAmong alternatives) : tags ∈ alternatives :=
  (List.mem_filter.mp hmem).1

/-- A cross union is made of one set from either side. -/
@[simp]
theorem mem_crossUnion {mine theirs : List TagSet} {tags : TagSet} :
    tags ∈ crossUnion mine theirs ↔
      ∃ left ∈ mine, ∃ right ∈ theirs, left.union right = tags := by
  simp [crossUnion]

theorem crossUnion_ne_nil {mine theirs : List TagSet} (hmine : mine ≠ [])
    (htheirs : theirs ≠ []) : crossUnion mine theirs ≠ [] := by
  obtain ⟨left, hleft⟩ := List.exists_mem_of_ne_nil _ hmine
  obtain ⟨right, hright⟩ := List.exists_mem_of_ne_nil _ htheirs
  exact List.ne_nil_of_mem (mem_crossUnion.mpr ⟨left, hleft, right, hright, rfl⟩)

theorem mem_pooledAlternatives {shapes : List Shape} {tags : TagSet} :
    tags ∈ pooledAlternatives shapes ↔ ∃ shape ∈ shapes, tags ∈ shape.alternatives := by
  induction shapes with
  | nil => simp [pooledAlternatives]
  | cons first others ih => simp [pooledAlternatives, ih]

mutual

/-- Every shape offers something. -/
theorem Shape.alternatives_ne_nil : (shape : Shape) → shape.alternatives ≠ []
  | .link tags => by simp [Shape.alternatives]
  | .every first second others => by
    rw [Shape.alternatives]
    refine crossAlternatives_ne_nil others (crossUnion_ne_nil (crossUnion_ne_nil ?_ ?_) ?_)
    · simp
    · exact first.alternatives_ne_nil
    · exact second.alternatives_ne_nil
  | .either first second others => by
    obtain ⟨tags, hmem⟩ := List.exists_mem_of_ne_nil _ first.alternatives_ne_nil
    rw [Shape.alternatives]
    exact List.ne_nil_of_mem (Ascending.mem_ofList.mpr (List.mem_append_left _ hmem))

private theorem crossAlternatives_ne_nil : (shapes : List Shape) → {gathered : List TagSet} →
    gathered ≠ [] → crossAlternatives gathered shapes ≠ []
  | [], _, hgathered => by rwa [crossAlternatives]
  | first :: others, _, hgathered => by
    rw [crossAlternatives]
    exact crossAlternatives_ne_nil others (crossUnion_ne_nil hgathered first.alternatives_ne_nil)

end

/-- The alternatives of a choice are those of its branches. -/
@[simp]
theorem Shape.mem_alternatives_anyOf {first : Shape} {others : List Shape} {tags : TagSet} :
    tags ∈ (Shape.anyOf first others).alternatives ↔
      ∃ shape ∈ first :: others, tags ∈ shape.alternatives := by
  cases others with
  | nil => simp [Shape.anyOf]
  | cons second rest => simp [Shape.anyOf, Shape.alternatives, mem_pooledAlternatives]

namespace Connection

variable {connection other : Connection} {tags : TagSet}

/-- Some alternative of the connection guarantees at least the tags. -/
def Offers (connection : Connection) (tags : TagSet) : Prop :=
  ∃ alternative ∈ connection.alternatives, tags.coveredBy alternative = true

theorem alternatives_ne_nil (connection : Connection) : connection.alternatives ≠ [] :=
  connection.shape.alternatives_ne_nil

@[simp]
theorem alternatives_ofTags (tags : TagSet) : (ofTags tags).alternatives = [tags] := rfl

@[simp]
theorem alternatives_unanchored (connection : Connection) :
    connection.unanchored.alternatives = connection.alternatives := rfl

@[simp]
theorem anchor_unanchored (connection : Connection) : connection.unanchored.anchor = none := rfl

@[simp]
theorem offers_unanchored : connection.unanchored.Offers tags ↔ connection.Offers tags := Iff.rfl

/-- A connection satisfies a requirement when it offers one of its alternatives. -/
theorem satisfies_iff {requirement : Connection} :
    connection.satisfies requirement = true ↔
      ∃ tags ∈ requirement.alternatives, connection.Offers tags := by
  simp [satisfies, Offers]

/-- A choice among connections of one link is made, and offers their alternatives. -/
theorem anyOf_eq_ok_of_matchPairwise {items : List Connection} (hne : items ≠ [])
    (hmatch : MatchPairwise items) :
    ∃ choice, anyOf items = .ok choice ∧ choice.anchor = firstAnchor? items ∧
      ∀ tags, tags ∈ choice.alternatives ↔ ∃ item ∈ items, tags ∈ item.alternatives := by
  cases items with
  | nil => exact absurd rfl hne
  | cons first others =>
    refine ⟨_, compose_eq_ok Shape.anyOf hmatch, rfl, fun tags => ?_⟩
    simp [alternatives]

/-- A choice among unanchored connections is made, and offers their alternatives. -/
theorem anyOf_eq_ok {items : List Connection} (hne : items ≠ [])
    (hitems : ∀ item ∈ items, item.anchor = none) :
    ∃ choice, anyOf items = .ok choice ∧ choice.anchor = none ∧
      ∀ tags, tags ∈ choice.alternatives ↔ ∃ item ∈ items, tags ∈ item.alternatives := by
  have hmatch : MatchPairwise items := by
    apply List.pairwise_iff_getElem.mpr
    intro position other hposition hother _
    rw [hitems _ (List.getElem_mem hposition)]
    exact AnchorsMatch.none_left _
  have hnone : firstAnchor? items = none := List.findSome?_eq_none_iff.mpr hitems
  rw [← hnone]
  exact anyOf_eq_ok_of_matchPairwise hne hmatch

/-- The given links, at the given anchor. -/
theorem ofAlternatives_eq_ok {offered : List TagSet} (hne : offered ≠ [])
    (anchor : Option Anchor) :
    ∃ choice, ofAlternatives offered anchor = .ok choice ∧ choice.anchor = anchor ∧
      ∀ tags, tags ∈ choice.alternatives ↔ tags ∈ offered := by
  have hlinks : offered.map ofTags ≠ [] := by simpa using hne
  obtain ⟨choice, hchoice, -, hmem⟩ := anyOf_eq_ok hlinks (by simp [ofTags])
  refine ⟨{ choice with anchor }, ?_, rfl, fun tags => ?_⟩
  · rw [ofAlternatives, hchoice]
    rfl
  · change tags ∈ choice.alternatives ↔ tags ∈ offered
    simpa using hmem tags

/-- The meet of connections whose anchors can be merged is made, and offers what both
offer. -/
theorem meet_eq_ok_of_mergeAnchors {anchor : Option Anchor}
    (hmerged : mergeAnchors connection.anchor other.anchor = .ok anchor) :
    ∃ common, connection.meet other = .ok common ∧ common.anchor = anchor ∧
      ∀ tags, common.Offers tags ↔ connection.Offers tags ∧ other.Offers tags := by
  let shared := Ascending.ofList
    (connection.alternatives.flatMap fun tags => other.alternatives.map tags.inter)
  have hshared : ∀ tags, tags ∈ shared ↔
      ∃ left ∈ connection.alternatives, ∃ right ∈ other.alternatives,
        left.inter right = tags := by
    simp [shared]
  obtain ⟨left, hleft⟩ := List.exists_mem_of_ne_nil _ connection.alternatives_ne_nil
  obtain ⟨right, hright⟩ := List.exists_mem_of_ne_nil _ other.alternatives_ne_nil
  obtain ⟨maximal, hmaximal, -⟩ := exists_maximalAmong_coveredBy
    ((hshared _).mpr ⟨left, hleft, right, hright, rfl⟩)
  obtain ⟨common, hcommon, hanchor, hmem⟩ :=
    ofAlternatives_eq_ok (List.ne_nil_of_mem hmaximal) anchor
  refine ⟨common, ?_, hanchor, fun tags => ⟨?_, ?_⟩⟩
  · rw [meet, hmerged]
    exact hcommon
  · rintro ⟨alternative, halternative, hcovered⟩
    obtain ⟨mine, hmine, theirs, htheirs, rfl⟩ :=
      (hshared _).mp (mem_of_mem_maximalAmong ((hmem _).mp halternative))
    rw [TagSet.coveredBy_inter] at hcovered
    exact ⟨⟨mine, hmine, hcovered.1⟩, ⟨theirs, htheirs, hcovered.2⟩⟩
  · rintro ⟨⟨mine, hmine, hmineCovers⟩, ⟨theirs, htheirs, htheirsCovers⟩⟩
    obtain ⟨largest, hlargest, hcovers⟩ := exists_maximalAmong_coveredBy
      ((hshared _).mpr ⟨mine, hmine, theirs, htheirs, rfl⟩)
    refine ⟨largest, (hmem _).mpr hlargest, TagSet.coveredBy_trans ?_ hcovers⟩
    exact TagSet.coveredBy_inter.mpr ⟨hmineCovers, htheirsCovers⟩

/-- The meet of unanchored connections is made, and offers what both offer. -/
theorem meet_eq_ok (hanchor : connection.anchor = none) (hother : other.anchor = none) :
    ∃ common, connection.meet other = .ok common ∧ common.anchor = none ∧
      ∀ tags, common.Offers tags ↔ connection.Offers tags ∧ other.Offers tags := by
  apply meet_eq_ok_of_mergeAnchors
  rw [hanchor, hother]
  rfl

end Connection

end LabMatch
