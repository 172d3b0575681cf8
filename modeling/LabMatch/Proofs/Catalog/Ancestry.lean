import LabMatch.Catalog.Ancestry

/-!
# Walking up the first parents

Every walk along an ancestry steps from an entity to its first parent as long as
that one was declared earlier.  `Catalog.parent?` is this step and
`parent_induction` the induction that follows it.
-/

namespace LabMatch.Catalog

variable {family : Family} {catalog : Catalog}

/-- The first parent of an entity, if it was declared before the entity. -/
def parent? (catalog : Catalog) (id : Id family) : Option (Id family) :=
  match (catalog.parents family id).head? with
  | some parent => if parent.index < id.index then some parent else none
  | none => none

/-- The walk up the first parents descends in the order of declaration, so it ends. -/
theorem parent?_lt {id parent : Id family} (hparent : catalog.parent? id = some parent) :
    parent.index < id.index := by
  rw [parent?] at hparent
  split at hparent
  · split at hparent
    · cases hparent
      assumption
    · cases hparent
  · cases hparent

/-- What holds of an entity if it holds of its parent holds of every entity. -/
theorem parent_induction (catalog : Catalog) {motive : Id family → Prop}
    (step : ∀ id, (∀ parent, catalog.parent? id = some parent → motive parent) → motive id)
    (id : Id family) : motive id :=
  step id fun parent hparent =>
    have := parent?_lt hparent
    catalog.parent_induction step parent
termination_by id.index

/-- An ancestry is the entity followed by the ancestry of its first parent. -/
theorem ancestry_eq (id : Id family) :
    catalog.ancestry id = id :: ((catalog.parent? id).map catalog.ancestry).getD [] := by
  rw [ancestry, ancestryBy, parent?]
  congr 1
  cases (catalog.parents family id).head? with
  | none => rfl
  | some parent =>
    by_cases hlt : parent.index < id.index
    · simp [hlt, ancestry]
    · simp [hlt]

theorem mem_ancestry_of_parent {id parent above : Id family}
    (hparent : catalog.parent? id = some parent) (habove : above ∈ catalog.ancestry parent) :
    above ∈ catalog.ancestry id := by
  rw [ancestry_eq, hparent]
  exact List.mem_cons_of_mem id habove

theorem mem_ancestry_self (id : Id family) : id ∈ catalog.ancestry id := by
  rw [ancestry_eq]
  exact List.mem_cons_self

theorem mem_ancestry_cases {id above : Id family} (habove : above ∈ catalog.ancestry id) :
    above = id ∨ ∃ parent, catalog.parent? id = some parent ∧ above ∈ catalog.ancestry parent := by
  rw [ancestry_eq, List.mem_cons] at habove
  apply habove.imp_right
  intro hfurther
  cases hparent : catalog.parent? id with
  | none =>
    rw [hparent] at hfurther
    cases hfurther
  | some parent =>
    rw [hparent] at hfurther
    exact ⟨parent, rfl, hfurther⟩

theorem index_le_of_mem_ancestry {id above : Id family} (habove : above ∈ catalog.ancestry id) :
    above.index ≤ id.index := by
  induction id using catalog.parent_induction with
  | step id ih =>
    rcases mem_ancestry_cases habove with rfl | ⟨parent, hparent, hfurther⟩
    · exact Nat.le_refl _
    · exact Nat.le_of_lt (Nat.lt_of_le_of_lt (ih parent hparent hfurther) (parent?_lt hparent))

/-- The ancestry descends through the identifiers. -/
theorem pairwise_ancestry (catalog : Catalog) (id : Id family) :
    (catalog.ancestry id).Pairwise fun nearer farther => farther < nearer := by
  induction id using catalog.parent_induction with
  | step id ih =>
    rw [ancestry_eq]
    cases hparent : catalog.parent? id with
    | none => exact List.pairwise_singleton _ _
    | some parent =>
      refine List.pairwise_cons.mpr ⟨fun above habove => ?_, ih parent hparent⟩
      exact Nat.lt_of_le_of_lt (index_le_of_mem_ancestry habove) (parent?_lt hparent)

theorem trans_mem_ancestry {id above top : Id family} (habove : above ∈ catalog.ancestry id)
    (htop : top ∈ catalog.ancestry above) : top ∈ catalog.ancestry id := by
  induction id using catalog.parent_induction with
  | step id ih =>
    rcases mem_ancestry_cases habove with rfl | ⟨parent, hparent, hfurther⟩
    · exact htop
    · exact mem_ancestry_of_parent hparent (ih parent hparent hfurther)

end LabMatch.Catalog
