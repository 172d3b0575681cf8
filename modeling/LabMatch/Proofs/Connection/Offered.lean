import LabMatch.Proofs.Connection.Offer
import Mathlib.Data.Set.Basic

/-!
# Relations between connections by what they offer

What a connection offers is a set of tag sets.  One connection lies within another
one when it offers no more, and two connections are equivalent when they offer the
same, although they may list different alternatives.  The largest tag sets that
are offered are the maximal alternatives.

What all of several shapes offer together only depends on what each of them
offers.  So do all relations, except for the requirement of `satisfies`: there the
alternatives that others cover count as well.
-/

namespace LabMatch

namespace TagSet

theorem coveredBy_antisymm {left right : TagSet} (hleft : left.coveredBy right = true)
    (hright : right.coveredBy left = true) : left = right := by
  rw [coveredBy_iff] at hleft hright
  exact eq_of_mem_iff fun tag => ⟨hleft tag, hright tag⟩

theorem union_coveredBy_union {left right left' right' : TagSet}
    (hleft : left.coveredBy left' = true) (hright : right.coveredBy right' = true) :
    (left.union right).coveredBy (left'.union right') = true := by
  simp only [coveredBy_iff, mem_tags_union] at hleft hright ⊢
  exact fun tag hmem => hmem.imp (hleft tag) (hright tag)

end TagSet

/-! ## Lists of alternatives -/

/-- The tag sets that some alternative of the list covers. -/
def offeredBy (alternatives : List TagSet) : Set TagSet :=
  {tags | ∃ alternative ∈ alternatives, tags.coveredBy alternative = true}

/-- Tag sets taken together are offered if both parts are. -/
theorem mem_offeredBy_crossUnion {mine theirs : List TagSet} {tags : TagSet} :
    tags ∈ offeredBy (crossUnion mine theirs) ↔
      ∃ left ∈ offeredBy mine, ∃ right ∈ offeredBy theirs,
        tags.coveredBy (left.union right) = true := by
  constructor
  · rintro ⟨alternative, hmem, hcovered⟩
    obtain ⟨left, hleft, right, hright, rfl⟩ := mem_crossUnion.mp hmem
    exact ⟨left, ⟨left, hleft, left.coveredBy_refl⟩, right, ⟨right, hright, right.coveredBy_refl⟩,
      hcovered⟩
  · rintro ⟨left, ⟨left', hleft, hleftCovers⟩, right, ⟨right', hright, hrightCovers⟩, hcovered⟩
    exact ⟨left'.union right', mem_crossUnion.mpr ⟨left', hleft, right', hright, rfl⟩,
      TagSet.coveredBy_trans hcovered (TagSet.union_coveredBy_union hleftCovers hrightCovers)⟩

theorem offeredBy_crossUnion_congr {mine mine' theirs theirs' : List TagSet}
    (hmine : offeredBy mine = offeredBy mine') (htheirs : offeredBy theirs = offeredBy theirs') :
    offeredBy (crossUnion mine theirs) = offeredBy (crossUnion mine' theirs') := by
  ext tags
  rw [mem_offeredBy_crossUnion, mem_offeredBy_crossUnion, hmine, htheirs]

theorem isAscending_crossAlternatives {gathered : List TagSet}
    (hgathered : Ascending.IsAscending gathered) (shapes : List Shape) :
    Ascending.IsAscending (crossAlternatives gathered shapes) := by
  induction shapes generalizing gathered with
  | nil => rwa [crossAlternatives]
  | cons first others ih =>
    rw [crossAlternatives]
    exact ih (Ascending.isAscending_ofList _)

namespace Shape

theorem isAscending_alternatives (shape : Shape) : Ascending.IsAscending shape.alternatives := by
  cases shape with
  | link tags =>
    rw [alternatives]
    exact List.pairwise_singleton _ _
  | every first second others =>
    rw [alternatives]
    exact isAscending_crossAlternatives (Ascending.isAscending_ofList _) others
  | either first second others =>
    rw [alternatives]
    exact Ascending.isAscending_ofList _

def OffersAlike (shape other : Shape) : Prop :=
  offeredBy shape.alternatives = offeredBy other.alternatives

theorem offeredBy_crossAlternatives_congr {shapes shapes' : List Shape}
    (hshapes : List.Forall₂ OffersAlike shapes shapes') {gathered gathered' : List TagSet}
    (hgathered : offeredBy gathered = offeredBy gathered') :
    offeredBy (crossAlternatives gathered shapes) =
      offeredBy (crossAlternatives gathered' shapes') := by
  induction hshapes generalizing gathered gathered' with
  | nil => rwa [crossAlternatives, crossAlternatives]
  | cons hfirst hothers ih =>
    rw [crossAlternatives, crossAlternatives]
    exact ih (offeredBy_crossUnion_congr hgathered hfirst)

/-- What all of the shapes offer together depends on what each of them offers. -/
theorem offersAlike_allOf {first first' : Shape} {others others' : List Shape}
    (hfirst : OffersAlike first first') (hothers : List.Forall₂ OffersAlike others others') :
    OffersAlike (allOf first others) (allOf first' others') := by
  cases hothers with
  | nil => exact hfirst
  | cons hsecond hrest =>
    rw [OffersAlike, allOf, allOf, alternatives, alternatives]
    apply offeredBy_crossAlternatives_congr hrest
    exact offeredBy_crossUnion_congr (offeredBy_crossUnion_congr rfl hfirst) hsecond

end Shape

namespace Connection

variable {connection other : Connection} {tags : TagSet}

/-! ## What relations say about offers -/

def offered (connection : Connection) : Set TagSet := offeredBy connection.alternatives

theorem mem_offered : tags ∈ connection.offered ↔ connection.Offers tags := Iff.rfl

theorem offered_congr (hsame : ∀ tags, tags ∈ connection.alternatives ↔ tags ∈ other.alternatives) :
    connection.offered = other.offered := by
  ext tags
  simp only [mem_offered, Offers, hsame]

/-- A connection within another one offers no more. -/
theorem within_iff : connection.within other = true ↔ connection.offered ⊆ other.offered := by
  simp only [within, List.all_eq_true, List.any_eq_true]
  constructor
  · rintro hwithin tags ⟨alternative, halternative, hcovered⟩
    obtain ⟨theirs, htheirs, hcovers⟩ := hwithin alternative halternative
    exact ⟨theirs, htheirs, TagSet.coveredBy_trans hcovered hcovers⟩
  · intro hsubset tags htags
    exact hsubset ⟨tags, htags, tags.coveredBy_refl⟩

/-- The maximal alternatives are the largest tag sets that are offered. -/
theorem mem_maximalAlternatives_iff :
    tags ∈ connection.maximalAlternatives ↔
      tags ∈ connection.offered ∧
        ∀ larger ∈ connection.offered, tags.coveredBy larger = true → larger = tags := by
  simp only [maximalAlternatives, maximalAmong, List.mem_filter, Bool.not_eq_true',
    List.any_eq_false, Bool.and_eq_true, bne_iff_ne, not_and]
  constructor
  · rintro ⟨htags, hmaximal⟩
    refine ⟨⟨tags, htags, tags.coveredBy_refl⟩, ?_⟩
    rintro larger ⟨alternative, halternative, hcovered⟩ hlarger
    have hsame : alternative = tags := by
      by_contra hne
      exact hmaximal alternative halternative hne (TagSet.coveredBy_trans hlarger hcovered)
    exact TagSet.coveredBy_antisymm (hsame ▸ hcovered) hlarger
  · rintro ⟨⟨alternative, halternative, hcovered⟩, hlargest⟩
    have hsame : alternative = tags :=
      hlargest alternative ⟨alternative, halternative, alternative.coveredBy_refl⟩ hcovered
    refine ⟨hsame ▸ halternative, fun larger hmem hne hcovers => hne ?_⟩
    exact hlargest larger ⟨larger, hmem, larger.coveredBy_refl⟩ hcovers

/-- Dropping alternatives that others cover changes nothing about what is offered. -/
theorem mem_offered_iff_maximalAlternatives :
    tags ∈ connection.offered ↔
      ∃ maximal ∈ connection.maximalAlternatives, tags.coveredBy maximal = true := by
  constructor
  · rintro ⟨alternative, halternative, hcovered⟩
    obtain ⟨maximal, hmaximal, hcovers⟩ := exists_maximalAmong_coveredBy halternative
    exact ⟨maximal, hmaximal, TagSet.coveredBy_trans hcovered hcovers⟩
  · rintro ⟨maximal, hmaximal, hcovered⟩
    exact ⟨maximal, mem_of_mem_maximalAmong hmaximal, hcovered⟩

/-- Equivalent connections offer the same. -/
theorem equivalent_iff :
    connection.equivalent other = true ↔ connection.offered = other.offered := by
  rw [equivalent, beq_iff_eq]
  constructor
  · intro hmaximal
    ext tags
    rw [mem_offered_iff_maximalAlternatives, mem_offered_iff_maximalAlternatives, hmaximal]
  · intro hoffered
    have hascending : ∀ connection : Connection,
        Ascending.IsAscending connection.maximalAlternatives :=
      fun connection => connection.shape.isAscending_alternatives.filter _
    apply Ascending.eq_of_mem_iff (hascending connection) (hascending other)
    intro tags
    rw [mem_maximalAlternatives_iff, mem_maximalAlternatives_iff, hoffered]

/-- Whether a requirement is satisfied only depends on what is offered. -/
theorem satisfies_congr (hsame : connection.offered = other.offered) (requirement : Connection) :
    connection.satisfies requirement = other.satisfies requirement := by
  rw [Bool.eq_iff_iff, satisfies_iff, satisfies_iff]
  simp only [← mem_offered, hsame]

/-- The alternatives of a requirement count even where others cover them. -/
example :
    let lan := Connection.ofTags (TagSet.ofList ["lan"])
    let fast := Connection.ofTags (TagSet.ofList ["fast", "lan"])
    let either : Connection := ⟨.either lan.shape fast.shape [], none⟩
    either.equivalent fast = true ∧ lan.satisfies either = true ∧
      lan.satisfies fast = false := by decide

/-- Containment only depends on what both connections offer. -/
theorem within_congr {connection' other' : Connection}
    (hconnection : connection.offered = connection'.offered)
    (hother : other.offered = other'.offered) :
    connection.within other = connection'.within other' := by
  rw [Bool.eq_iff_iff, within_iff, within_iff, hconnection, hother]

/-- Compatibility only depends on what both connections offer. -/
theorem compatible_congr {connection' other' : Connection}
    (hconnection : connection.offered = connection'.offered)
    (hother : other.offered = other'.offered) :
    connection.compatible other = connection'.compatible other' := by
  rw [compatible, compatible, within_congr hconnection hother, within_congr hother hconnection]

end Connection

end LabMatch
