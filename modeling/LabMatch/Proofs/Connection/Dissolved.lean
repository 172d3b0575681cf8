import LabMatch.Proofs.Connection.Choice

/-!
# Dissolved shapes

An `every` directly inside an `every` says nothing that its branches would not say one
level up, and neither does an `either` directly inside an `either`.  A dissolved shape
has none of them.  Dissolving keeps the alternatives; what it changes is how many
branches stand side by side.
-/

namespace LabMatch.Shape

def factors : Shape → List Shape
  | every first second others => first :: second :: others
  | shape => [shape]

def branches : Shape → List Shape
  | either first second others => first :: second :: others
  | shape => [shape]

def conjunction : List Shape → Shape
  | [] => link .bare
  | first :: others => allOf first others

/-- Any one of the shapes; without any, the bare link. -/
def disjunction : List Shape → Shape
  | [] => link .bare
  | first :: others => anyOf first others

/-- The shape without an `every` directly inside an `every` or an `either` directly
inside an `either`. -/
def dissolved : Shape → Shape
  | link tags => link tags
  | every first second others =>
    conjunction (first.dissolved.factors ++
      (second.dissolved.factors ++ others.flatMap fun other => other.dissolved.factors))
  | either first second others =>
    disjunction (first.dissolved.branches ++
      (second.dissolved.branches ++ others.flatMap fun other => other.dissolved.branches))

/-- Dissolving branches of an `every`. -/
theorem dissolved_every (first second : Shape) (others : List Shape) :
    (every first second others).dissolved =
      conjunction ((first :: second :: others).flatMap fun branch => branch.dissolved.factors) := by
  rw [dissolved, List.flatMap_cons, List.flatMap_cons]

theorem dissolved_either (first second : Shape) (others : List Shape) :
    (either first second others).dissolved =
      disjunction ((first :: second :: others).flatMap fun branch =>
        branch.dissolved.branches) := by
  rw [dissolved, List.flatMap_cons, List.flatMap_cons]

section Branches

variable {shapes others : List Shape}

theorem conjunction_factors (shape : Shape) : conjunction shape.factors = shape := by
  cases shape <;> rfl

theorem disjunction_branches (shape : Shape) : disjunction shape.branches = shape := by
  cases shape <;> rfl

/-- An `every` of several shapes has them as its factors, and is a single branch. -/
theorem conjunction_of_two_le (hshapes : 2 ≤ shapes.length) :
    (conjunction shapes).factors = shapes ∧ (conjunction shapes).branches = [conjunction shapes] :=
  match shapes with
  | _ :: _ :: _ => ⟨rfl, rfl⟩

theorem disjunction_of_two_le (hshapes : 2 ≤ shapes.length) :
    (disjunction shapes).branches = shapes ∧
      (disjunction shapes).factors = [disjunction shapes] :=
  match shapes with
  | _ :: _ :: _ => ⟨rfl, rfl⟩

theorem factors_ne_nil (shape : Shape) : shape.factors ≠ [] := by
  cases shape <;> exact List.cons_ne_nil _ _

theorem branches_ne_nil (shape : Shape) : shape.branches ≠ [] := by
  cases shape <;> exact List.cons_ne_nil _ _

theorem two_le_length_flatMap {parts : Shape → List Shape} (hparts : ∀ shape, parts shape ≠ [])
    (first second : Shape) (others : List Shape) :
    2 ≤ ((first :: second :: others).flatMap parts).length := by
  have hfirst := List.length_pos_of_ne_nil (hparts first)
  have hsecond := List.length_pos_of_ne_nil (hparts second)
  rw [List.flatMap_cons, List.flatMap_cons, List.length_append, List.length_append]
  omega

end Branches

/-! ## Dissolving keeps the alternatives -/

section Choices

variable {shapes : List Shape}

theorem choices_conjunction (shapes : List Shape) :
    (conjunction shapes).choices = jointChoices shapes := by
  cases shapes with
  | nil => rw [conjunction, choices_link, jointChoices_nil]
  | cons first others => rw [conjunction, choices_allOf]

theorem mem_choices_disjunction (hne : shapes ≠ []) {tags : TagSet} :
    tags ∈ (disjunction shapes).choices ↔ ∃ shape ∈ shapes, tags ∈ shape.choices := by
  obtain ⟨first, others, rfl⟩ := List.exists_cons_of_ne_nil hne
  rw [disjunction, mem_choices_anyOf]

theorem jointChoices_flatMap_factors (hshapes : ∀ shape ∈ shapes,
    shape.dissolved.choices = shape.choices) :
    jointChoices (shapes.flatMap fun shape => shape.dissolved.factors) = jointChoices shapes := by
  induction shapes with
  | nil => rfl
  | cons first others ih =>
    rw [List.forall_mem_cons] at hshapes
    rw [List.flatMap_cons, jointChoices_append, jointChoices_cons, ih hshapes.2,
      ← choices_conjunction, conjunction_factors, hshapes.1]

theorem mem_choices_flatMap_branches (hshapes : ∀ shape ∈ shapes,
    shape.dissolved.choices = shape.choices) {tags : TagSet} :
    (∃ part ∈ shapes.flatMap fun shape => shape.dissolved.branches, tags ∈ part.choices) ↔
      ∃ shape ∈ shapes, tags ∈ shape.choices := by
  have hparts : ∀ shape ∈ shapes,
      ((∃ part ∈ shape.dissolved.branches, tags ∈ part.choices) ↔ tags ∈ shape.choices) := by
    intro shape hshape
    rw [← mem_choices_disjunction (branches_ne_nil _), disjunction_branches, hshapes shape hshape]
  constructor
  · intro hpart
    obtain ⟨part, hpart, htags⟩ := hpart
    obtain ⟨shape, hshape, hpart⟩ := List.mem_flatMap.mp hpart
    exact ⟨shape, hshape, (hparts shape hshape).mp ⟨part, hpart, htags⟩⟩
  · intro hshape
    obtain ⟨shape, hshape, htags⟩ := hshape
    obtain ⟨part, hpart, htags⟩ := (hparts shape hshape).mpr htags
    exact ⟨part, List.mem_flatMap.mpr ⟨shape, hshape, hpart⟩, htags⟩

/-- Dissolving nested compositions does not change what can be picked. -/
theorem choices_dissolved (shape : Shape) : shape.dissolved.choices = shape.choices := by
  induction shape using dissolved.induct with
  | case1 tags => rw [dissolved]
  | case2 first second others ihFirst ihSecond ihOthers =>
    have hbranches : ∀ branch ∈ first :: second :: others,
        branch.dissolved.choices = branch.choices := by
      rw [List.forall_mem_cons, List.forall_mem_cons]
      exact ⟨ihFirst, ihSecond, ihOthers⟩
    have hevery : every first second others = allOf first (second :: others) := rfl
    rw [dissolved_every, choices_conjunction, jointChoices_flatMap_factors hbranches, hevery,
      choices_allOf]
  | case3 first second others ihFirst ihSecond ihOthers =>
    have hbranches : ∀ branch ∈ first :: second :: others,
        branch.dissolved.choices = branch.choices := by
      rw [List.forall_mem_cons, List.forall_mem_cons]
      exact ⟨ihFirst, ihSecond, ihOthers⟩
    have hseveral := two_le_length_flatMap (fun branch => branches_ne_nil branch.dissolved)
      first second others
    have hne := List.ne_nil_of_length_pos (Nat.zero_lt_of_lt hseveral)
    have heither : either first second others = anyOf first (second :: others) := rfl
    ext tags
    rw [dissolved_either, mem_choices_disjunction hne, mem_choices_flatMap_branches hbranches,
      heither, mem_choices_anyOf]

/-- Dissolving nested compositions keeps the alternatives. -/
theorem alternatives_dissolved (shape : Shape) :
    shape.dissolved.alternatives = shape.alternatives :=
  alternatives_eq_of_choices_eq shape.choices_dissolved

end Choices

end LabMatch.Shape
