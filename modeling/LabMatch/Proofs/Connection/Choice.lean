import LabMatch.Proofs.Connection.Offered
import Mathlib.Data.Set.Lattice
import Mathlib.Data.Set.NAry

/-!
# Alternatives are choices of leaves

The leaves of a shape are picked by taking one branch at every `either` and all
branches at every `every`.  The alternatives of a shape are what such choices make
when the picked leaves are taken together, each of them listed once.

So they do not depend on how a shape is written: its branches may be permuted and
regrouped, a bare link may join an `every`, and `every` may be distributed over
`either`, at any depth.
-/

namespace LabMatch

namespace TagSet

theorem union_comm (left right : TagSet) : left.union right = right.union left :=
  eq_of_mem_iff fun tag => by simp only [mem_tags_union, or_comm]

theorem union_assoc (first second third : TagSet) :
    (first.union second).union third = first.union (second.union third) :=
  eq_of_mem_iff fun tag => by simp only [mem_tags_union, or_assoc]

@[simp]
theorem bare_union (tags : TagSet) : bare.union tags = tags :=
  eq_of_mem_iff fun tag => by simp

@[simp]
theorem union_bare (tags : TagSet) : tags.union bare = tags :=
  eq_of_mem_iff fun tag => by simp

def together (sets : List TagSet) : TagSet := ofList (sets.flatMap TagSet.tags)

theorem together_append (sets others : List TagSet) :
    together (sets ++ others) = (together sets).union (together others) :=
  eq_of_mem_iff fun tag => by simp [together]

@[simp]
theorem together_nil : together [] = bare := eq_of_mem_iff fun tag => by simp [together]

@[simp]
theorem together_singleton (tags : TagSet) : together [tags] = tags :=
  eq_of_mem_iff fun tag => by simp [together]

end TagSet

namespace Shape

/-! ## Picking leaves -/

mutual

/-- The leaves can be picked from the shape: those of one branch of an `either`, and
those of all branches of an `every`. -/
inductive Picks : Shape → List TagSet → Prop
  | link (tags : TagSet) : Picks (.link tags) [tags]
  | every {first second : Shape} {others : List Shape} {leaves : List TagSet}
      (hleaves : PicksAll (first :: second :: others) leaves) :
      Picks (.every first second others) leaves
  | either {first second : Shape} {others : List Shape} {branch : Shape} {leaves : List TagSet}
      (hbranch : branch ∈ first :: second :: others) (hleaves : Picks branch leaves) :
      Picks (.either first second others) leaves

/-- The leaves can be picked from the shapes, some from each of them. -/
inductive PicksAll : List Shape → List TagSet → Prop
  | nil : PicksAll [] []
  | cons {first : Shape} {others : List Shape} {leaves more : List TagSet}
      (hfirst : Picks first leaves) (hothers : PicksAll others more) :
      PicksAll (first :: others) (leaves ++ more)

end

/-- What the leaves that can be picked from the shape make together. -/
def choices (shape : Shape) : Set TagSet :=
  {tags | ∃ leaves, shape.Picks leaves ∧ TagSet.together leaves = tags}

def jointChoices (shapes : List Shape) : Set TagSet :=
  {tags | ∃ leaves, PicksAll shapes leaves ∧ TagSet.together leaves = tags}

variable {first : Shape} {others : List Shape}

@[simp]
theorem choices_link (tags : TagSet) : (link tags).choices = {tags} := by
  ext picked
  constructor
  · rintro ⟨leaves, hleaves, rfl⟩
    cases hleaves
    exact TagSet.together_singleton tags
  · rintro rfl
    exact ⟨[picked], .link picked, TagSet.together_singleton picked⟩

@[simp]
theorem jointChoices_nil : jointChoices [] = {TagSet.bare} := by
  ext picked
  constructor
  · rintro ⟨leaves, hleaves, rfl⟩
    cases hleaves
    exact TagSet.together_nil
  · rintro rfl
    exact ⟨[], .nil, TagSet.together_nil⟩

/-- Joint choices pair what the first shape offers with what the others offer jointly. -/
@[simp]
theorem jointChoices_cons (first : Shape) (others : List Shape) :
    jointChoices (first :: others) =
      Set.image2 TagSet.union first.choices (jointChoices others) := by
  ext picked
  constructor
  · rintro ⟨leaves, hleaves, rfl⟩
    cases hleaves with
    | cons hfirst hothers =>
      exact ⟨_, ⟨_, hfirst, rfl⟩, _, ⟨_, hothers, rfl⟩, (TagSet.together_append _ _).symm⟩
  · rintro ⟨_, ⟨leaves, hfirst, rfl⟩, _, ⟨more, hothers, rfl⟩, rfl⟩
    exact ⟨leaves ++ more, .cons hfirst hothers, TagSet.together_append _ _⟩

/-- What all of the shapes offer at once are their joint choices. -/
theorem choices_allOf (first : Shape) (others : List Shape) :
    (allOf first others).choices = jointChoices (first :: others) := by
  cases others with
  | nil =>
    rw [jointChoices_cons, jointChoices_nil, Set.image2_singleton_right]
    simp [allOf]
  | cons second rest =>
    ext picked
    constructor
    · rintro ⟨leaves, hleaves, rfl⟩
      cases hleaves with
      | every hall => exact ⟨leaves, hall, rfl⟩
    · rintro ⟨leaves, hall, rfl⟩
      exact ⟨leaves, .every hall, rfl⟩

theorem mem_choices_either {second : Shape} {tags : TagSet} :
    tags ∈ (either first second others).choices ↔
      ∃ branch ∈ first :: second :: others, tags ∈ branch.choices := by
  constructor
  · rintro ⟨leaves, hleaves, rfl⟩
    cases hleaves with
    | either hbranch hleaves => exact ⟨_, hbranch, leaves, hleaves, rfl⟩
  · rintro ⟨branch, hbranch, leaves, hleaves, rfl⟩
    exact ⟨leaves, .either hbranch hleaves, rfl⟩

theorem mem_choices_anyOf {tags : TagSet} :
    tags ∈ (anyOf first others).choices ↔ ∃ branch ∈ first :: others, tags ∈ branch.choices := by
  cases others with
  | nil => simp [anyOf]
  | cons second rest => exact mem_choices_either

end Shape

/-! ## Alternatives are choices -/

private theorem setOf_mem_crossUnion (mine theirs : List TagSet) :
    {tags | tags ∈ crossUnion mine theirs} =
      Set.image2 TagSet.union {tags | tags ∈ mine} {tags | tags ∈ theirs} :=
  Set.ext fun _ => mem_crossUnion

mutual

/-- The alternatives of a shape are the choices of its leaves. -/
theorem Shape.setOf_mem_alternatives : (shape : Shape) →
    {tags | tags ∈ shape.alternatives} = shape.choices
  | .link own => by
    rw [Shape.alternatives, Shape.choices_link]
    exact Set.ext fun _ => List.mem_singleton
  | .every first second others => by
    have hchoices := Shape.choices_allOf first (second :: others)
    rw [Shape.allOf] at hchoices
    rw [hchoices, Shape.alternatives, setOf_mem_crossAlternatives others, setOf_mem_crossUnion,
      setOf_mem_crossUnion, first.setOf_mem_alternatives, second.setOf_mem_alternatives,
      Shape.jointChoices_cons, Shape.jointChoices_cons, ← Set.image2_assoc TagSet.union_assoc]
    simp
  | .either first second others => by
    have hfirst := Set.ext_iff.mp first.setOf_mem_alternatives
    have hsecond := Set.ext_iff.mp second.setOf_mem_alternatives
    ext tags
    have hparts := or_congr (hfirst tags)
      (or_congr (hsecond tags) (mem_pooledAlternatives_iff others tags))
    rw [Shape.mem_choices_either, Shape.alternatives]
    simpa using hparts

private theorem mem_pooledAlternatives_iff : (shapes : List Shape) → (tags : TagSet) →
    (tags ∈ pooledAlternatives shapes ↔ ∃ shape ∈ shapes, tags ∈ shape.choices)
  | [], tags => by simp [pooledAlternatives]
  | first :: others, tags => by
    have hfirst := Set.ext_iff.mp first.setOf_mem_alternatives tags
    have hparts := or_congr hfirst (mem_pooledAlternatives_iff others tags)
    rw [pooledAlternatives]
    simpa using hparts

private theorem setOf_mem_crossAlternatives : (shapes : List Shape) → {gathered : List TagSet} →
    {tags | tags ∈ crossAlternatives gathered shapes} =
      Set.image2 TagSet.union {tags | tags ∈ gathered} (Shape.jointChoices shapes)
  | [], gathered => by
    rw [crossAlternatives, Shape.jointChoices_nil, Set.image2_singleton_right]
    simp
  | first :: others, gathered => by
    rw [crossAlternatives, setOf_mem_crossAlternatives others, setOf_mem_crossUnion,
      first.setOf_mem_alternatives, Shape.jointChoices_cons, Set.image2_assoc TagSet.union_assoc]

end

namespace Shape

/-! ## Writing a shape differently -/

/-- One shape is another way of writing the other one.  Rules that change the first
branches reach all branches, since branches may be permuted. -/
inductive Rewrites : Shape → Shape → Prop
  | refl (shape : Shape) : Rewrites shape shape
  | symm {shape other : Shape} (hother : Rewrites shape other) : Rewrites other shape
  | trans {first second third : Shape} (hfirst : Rewrites first second)
      (hsecond : Rewrites second third) : Rewrites first third
  /-- The branches of an `every` may stand in any order. -/
  | permuteEvery {first first' : Shape} {others others' : List Shape}
      (hperm : (first :: others).Perm (first' :: others')) :
      Rewrites (allOf first others) (allOf first' others')
  /-- The branches of an `either` may stand in any order. -/
  | permuteEither {first first' : Shape} {others others' : List Shape}
      (hperm : (first :: others).Perm (first' :: others')) :
      Rewrites (anyOf first others) (anyOf first' others')
  /-- An `every` within an `every` may be dissolved. -/
  | flattenEvery (first : Shape) (others rest : List Shape) :
      Rewrites (allOf (allOf first others) rest) (allOf first (others ++ rest))
  /-- An `either` within an `either` may be dissolved. -/
  | flattenEither (first : Shape) (others rest : List Shape) :
      Rewrites (anyOf (anyOf first others) rest) (anyOf first (others ++ rest))
  /-- A bare link asks for nothing besides others. -/
  | everyBare (first : Shape) (others : List Shape) :
      Rewrites (allOf (.link .bare) (first :: others)) (allOf first others)
  /-- An `every` may be distributed over an `either`. -/
  | distribute (first : Shape) (others rest : List Shape) :
      Rewrites (allOf (anyOf first others) rest)
        (anyOf (allOf first rest) (others.map fun branch => allOf branch rest))
  /-- A branch of an `every` may be written differently. -/
  | withinEvery {first first' : Shape} (others : List Shape) (hfirst : Rewrites first first') :
      Rewrites (allOf first others) (allOf first' others)
  /-- A branch of an `either` may be written differently. -/
  | withinEither {first first' : Shape} (others : List Shape) (hfirst : Rewrites first first') :
      Rewrites (anyOf first others) (anyOf first' others)

variable {shape other : Shape}

theorem jointChoices_append (shapes others : List Shape) :
    jointChoices (shapes ++ others) =
      Set.image2 TagSet.union (jointChoices shapes) (jointChoices others) := by
  induction shapes with
  | nil => simp
  | cons first rest ih =>
    rw [List.cons_append, jointChoices_cons, jointChoices_cons, ih,
      Set.image2_assoc TagSet.union_assoc]

/-- Joint choices do not depend on the order of the shapes. -/
theorem jointChoices_perm {shapes others : List Shape} (hperm : shapes.Perm others) :
    jointChoices shapes = jointChoices others := by
  induction hperm with
  | nil => rfl
  | cons first _ ih => rw [jointChoices_cons, jointChoices_cons, ih]
  | swap first second rest =>
    have hcomm : ∀ left middle right : TagSet,
        left.union (middle.union right) = middle.union (left.union right) := by
      intro left middle right
      rw [← TagSet.union_assoc, left.union_comm middle, TagSet.union_assoc]
    simp only [jointChoices_cons]
    exact Set.image2_left_comm hcomm
  | trans _ _ ih ih' => exact ih.trans ih'

/-- An `every` distributes over an `either` inside it. -/
theorem choices_distribute (first : Shape) (others rest : List Shape) :
    (allOf (anyOf first others) rest).choices =
      (anyOf (allOf first rest) (others.map fun branch => allOf branch rest)).choices := by
  have hbranches : allOf first rest :: others.map (fun branch => allOf branch rest) =
      (first :: others).map fun branch => allOf branch rest := rfl
  ext tags
  rw [mem_choices_anyOf, hbranches, choices_allOf, jointChoices_cons]
  constructor
  · rintro ⟨left, hleft, right, hright, rfl⟩
    obtain ⟨branch, hbranch, hleft⟩ := mem_choices_anyOf.mp hleft
    refine ⟨allOf branch rest, List.mem_map_of_mem hbranch, ?_⟩
    rw [choices_allOf, jointChoices_cons]
    exact ⟨left, hleft, right, hright, rfl⟩
  · rintro ⟨_, hmapped, htags⟩
    obtain ⟨branch, hbranch, rfl⟩ := List.mem_map.mp hmapped
    rw [choices_allOf, jointChoices_cons] at htags
    obtain ⟨left, hleft, right, hright, rfl⟩ := htags
    exact ⟨left, mem_choices_anyOf.mpr ⟨branch, hbranch, hleft⟩, right, hright, rfl⟩

/-- Rewriting a shape does not change what can be picked from it. -/
theorem choices_eq_of_rewrites (hrewrites : shape.Rewrites other) :
    shape.choices = other.choices := by
  induction hrewrites with
  | refl shape => rfl
  | symm _ ih => exact ih.symm
  | trans _ _ ih ih' => exact ih.trans ih'
  | permuteEvery hperm => rw [choices_allOf, choices_allOf, jointChoices_perm hperm]
  | permuteEither hperm =>
    ext tags
    simp only [mem_choices_anyOf, hperm.mem_iff]
  | flattenEvery first others rest =>
    rw [choices_allOf, choices_allOf, jointChoices_cons, choices_allOf, ← jointChoices_append,
      List.cons_append]
  | flattenEither first others rest =>
    ext tags
    simp [mem_choices_anyOf, or_and_right, exists_or, or_assoc]
  | everyBare first others => rw [choices_allOf, choices_allOf, jointChoices_cons]; simp
  | distribute first others rest => exact choices_distribute first others rest
  | withinEvery others _ ih =>
    rw [choices_allOf, choices_allOf, jointChoices_cons, jointChoices_cons, ih]
  | withinEither others _ ih =>
    ext tags
    simp [mem_choices_anyOf, ih]

/-- The choices of a shape determine its alternatives. -/
theorem alternatives_eq_of_choices_eq (hchoices : shape.choices = other.choices) :
    shape.alternatives = other.alternatives := by
  apply Ascending.eq_of_mem_iff shape.isAscending_alternatives other.isAscending_alternatives
  apply Set.ext_iff.mp
  calc {tags | tags ∈ shape.alternatives}
      = shape.choices := shape.setOf_mem_alternatives
    _ = other.choices := hchoices
    _ = {tags | tags ∈ other.alternatives} := other.setOf_mem_alternatives.symm

/-- The alternatives of a shape do not depend on how it is written. -/
theorem alternatives_eq_of_rewrites (hrewrites : shape.Rewrites other) :
    shape.alternatives = other.alternatives :=
  alternatives_eq_of_choices_eq (choices_eq_of_rewrites hrewrites)

end Shape

namespace Connection

/-- The alternatives of a connection are the disjunctive normal form of its shape: a
list that is never empty and strictly ascends, of exactly the tag sets that a choice of
leaves makes together.  Writing the shape differently leaves the list as it is, and so
does building the connection anew from the list. -/
theorem alternatives_are_choices (connection : Connection) :
    connection.alternatives ≠ [] ∧ Ascending.IsAscending connection.alternatives ∧
      (∀ tags, tags ∈ connection.alternatives ↔
        ∃ leaves, connection.shape.Picks leaves ∧ TagSet.together leaves = tags) ∧
      (∀ other : Connection, connection.shape.Rewrites other.shape →
        other.alternatives = connection.alternatives) ∧
      ∀ anchor, ∃ rebuilt, ofAlternatives connection.alternatives anchor = .ok rebuilt ∧
        rebuilt.alternatives = connection.alternatives := by
  have hascending := connection.shape.isAscending_alternatives
  refine ⟨connection.alternatives_ne_nil, hascending,
    Set.ext_iff.mp connection.shape.setOf_mem_alternatives, ?_, ?_⟩
  · intro other hrewrites
    exact (Shape.alternatives_eq_of_rewrites hrewrites).symm
  · intro anchor
    obtain ⟨rebuilt, hrebuilt, -, hmem⟩ :=
      ofAlternatives_eq_ok connection.alternatives_ne_nil anchor
    exact ⟨rebuilt, hrebuilt,
      Ascending.eq_of_mem_iff rebuilt.shape.isAscending_alternatives hascending hmem⟩

/-- Either of two links, and a bus besides, distributed and put in another order. -/
theorem alternatives_are_choices_bus :
    let lan := Shape.link (TagSet.ofList ["lan"])
    let uart := Shape.link (TagSet.ofList ["uart"])
    let bus := Shape.link (TagSet.ofList ["bus"])
    let gathered : Connection := ⟨.every (.either lan uart []) bus [], none⟩
    let distributed : Connection := ⟨.either (.every uart bus []) (.every lan bus []) [], none⟩
    gathered.shape.Rewrites distributed.shape ∧
      distributed.alternatives = gathered.alternatives := by
  intro lan uart bus gathered distributed
  have hrewrites : gathered.shape.Rewrites distributed.shape :=
    (Shape.Rewrites.distribute lan [uart] [bus]).trans (.permuteEither (.swap _ _ _))
  exact ⟨hrewrites, (alternatives_are_choices gathered).2.2.2.1 distributed hrewrites⟩

end Connection

end LabMatch
