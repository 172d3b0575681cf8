import LabMatch.Ordered.Ascending

/-!
# Property tags of a link

A link guarantees a finite set of property tags.  More tags mean a stricter
guarantee: a set is covered by another one that contains it, and the bare set
is covered by every set.  Sets are compared as ascending lists, tag by tag.
-/

namespace LabMatch

/-- A finite set of property tags, listed ascending. -/
structure TagSet where
  tags : List String
  ascending : Ascending.IsAscending tags
deriving DecidableEq

namespace TagSet

/-- The set of the given tags. -/
def ofList (tags : List String) : TagSet :=
  ⟨Ascending.ofList tags, Ascending.isAscending_ofList tags⟩

/-- No tag at all: connected somehow. -/
def bare : TagSet := ⟨[], List.Pairwise.nil⟩

instance : Inhabited TagSet := ⟨bare⟩

def isBare (set : TagSet) : Bool := set.tags.isEmpty

/-- Whether `other` guarantees at least every tag of `set`. -/
def coveredBy (set other : TagSet) : Bool := set.tags.all other.tags.contains

def union (set other : TagSet) : TagSet :=
  ⟨Ascending.merge set.tags other.tags,
    Ascending.isAscending_merge set.ascending other.ascending⟩

def inter (set other : TagSet) : TagSet :=
  ⟨set.tags.filter other.tags.contains, set.ascending.filter _⟩

/-- Sets compare as ascending lists of tags. -/
instance : LT TagSet := ⟨fun left right => left.tags < right.tags⟩

instance : DecidableLT TagSet := fun left right =>
  inferInstanceAs (Decidable (left.tags < right.tags))

def bareWord : String := "any"

/-- Written form: the tags joined by `+`, or the word for the bare set. -/
def text (set : TagSet) : String :=
  if set.isBare then bareWord else "+".intercalate set.tags

@[ext]
theorem ext {left right : TagSet} (htags : left.tags = right.tags) : left = right := by
  cases left
  cases right
  cases htags
  rfl

instance : KeyOrder TagSet where
  irrefl set := List.lt_irrefl set.tags
  trans := List.lt_trans
  connected hleft hright :=
    ext (List.le_antisymm (List.not_lt.mp hright) (List.not_lt.mp hleft))

@[simp]
theorem mem_tags_ofList {tags : List String} {tag : String} :
    tag ∈ (ofList tags).tags ↔ tag ∈ tags :=
  Ascending.mem_ofList

@[simp]
theorem mem_tags_union {set other : TagSet} {tag : String} :
    tag ∈ (set.union other).tags ↔ tag ∈ set.tags ∨ tag ∈ other.tags :=
  Ascending.mem_merge

@[simp]
theorem mem_tags_inter {set other : TagSet} {tag : String} :
    tag ∈ (set.inter other).tags ↔ tag ∈ set.tags ∧ tag ∈ other.tags := by
  simp [inter]

@[simp]
theorem tags_bare : bare.tags = [] := rfl

/-- Covering is containment of the tags. -/
theorem coveredBy_iff {set other : TagSet} :
    set.coveredBy other = true ↔ ∀ tag ∈ set.tags, tag ∈ other.tags := by
  simp [coveredBy]

/-- A set is determined by its tags, whatever their order. -/
theorem eq_of_mem_iff {left right : TagSet}
    (hmem : ∀ tag, tag ∈ left.tags ↔ tag ∈ right.tags) : left = right :=
  ext (Ascending.eq_of_mem_iff left.ascending right.ascending hmem)

end TagSet

end LabMatch
