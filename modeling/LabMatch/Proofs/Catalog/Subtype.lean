import LabMatch.Proofs.Catalog.Ancestry
import LabMatch.Proofs.Catalog.Members
import Mathlib.Logic.Relation

/-!
# Subtypes and ancestors

An entity is a subtype of what it reaches through its parents.  In a declared
catalogue parents come first, so the search for a supertype never gives up early
and the walk along the first parents never stops below the root.

Where no entity has more than one parent, the ancestors of an entity are its
parent and the ancestors of that one.
-/

namespace LabMatch.Catalog

variable {family : Family} {catalog : Catalog}

def IsParent (catalog : Catalog) (child parent : Id family) : Prop :=
  parent ∈ catalog.parents family child

/-- The entity specialises the other one first of all. -/
def IsFirstParent (catalog : Catalog) (child parent : Id family) : Prop :=
  (catalog.parents family child).head? = some parent

/-- The other entity is above this one, at any distance. -/
def IsAncestor (catalog : Catalog) (entity ancestor : Id family) : Prop :=
  Relation.TransGen catalog.IsParent entity ancestor

def SingleParents (catalog : Catalog) : Prop :=
  ∀ family, ∀ id : Id family, (catalog.parents family id).length ≤ 1

theorem Registered.parent_lt (hregistered : Registered catalog) {child parent : Id family}
    (hparent : catalog.IsParent child parent) : parent.index < child.index := by
  cases family with
  | container => exact hregistered.containers child parent hparent
  | device => exact hregistered.devices child parent hparent
  | capability => exact hregistered.capabilities child parent hparent
  | logicalDevice => exact hregistered.logicalDevices child parent hparent
  | attachment => cases hparent

theorem Registered.parent?_eq_head? (hregistered : Registered catalog) (child : Id family) :
    catalog.parent? child = (catalog.parents family child).head? := by
  rw [parent?]
  cases hfirst : (catalog.parents family child).head? with
  | none => rfl
  | some parent => exact if_pos (hregistered.parent_lt (List.mem_of_mem_head? hfirst))

/-- The search through all parents decides the subtypes. -/
theorem Registered.isSubtype_iff (hregistered : Registered catalog) {sub sup : Id family} :
    catalog.isSubtype sub sup ↔ Relation.ReflTransGen catalog.IsParent sub sup := by
  induction hindex : sub.index using Nat.strongRecOn generalizing sub with
  | ind index ih =>
    subst hindex
    rw [isSubtype, descendsBy, Bool.or_eq_true, beq_iff_eq, List.any_eq_true,
      Relation.ReflTransGen.cases_head_iff]
    apply or_congr Iff.rfl
    apply exists_congr
    intro parent
    apply and_congr_right
    intro hparent
    have hlt := hregistered.parent_lt hparent
    rw [if_pos hlt]
    exact ih parent.index hlt rfl

theorem Registered.isSubtype_refl (hregistered : Registered catalog) (id : Id family) :
    catalog.isSubtype id id :=
  hregistered.isSubtype_iff.mpr .refl

theorem Registered.isSubtype_trans (hregistered : Registered catalog) {sub middle sup : Id family}
    (hsub : catalog.isSubtype sub middle) (hsup : catalog.isSubtype middle sup) :
    catalog.isSubtype sub sup := by
  rw [hregistered.isSubtype_iff] at hsub hsup ⊢
  exact hsub.trans hsup

/-- A supertype was not declared later. -/
theorem Registered.index_le_of_isSubtype (hregistered : Registered catalog) {sub sup : Id family}
    (hsub : catalog.isSubtype sub sup) : sup.index ≤ sub.index := by
  rw [hregistered.isSubtype_iff] at hsub
  induction hsub with
  | refl => exact Nat.le_refl _
  | tail _ hparent ih => exact Nat.le_trans (Nat.le_of_lt (hregistered.parent_lt hparent)) ih

/-- No two entities specialise each other. -/
theorem Registered.isSubtype_antisymm (hregistered : Registered catalog) {sub sup : Id family}
    (hsub : catalog.isSubtype sub sup) (hsup : catalog.isSubtype sup sub) : sub = sup :=
  congrArg Id.mk (Nat.le_antisymm (hregistered.index_le_of_isSubtype hsup)
    (hregistered.index_le_of_isSubtype hsub))

theorem isParent_of_parent? {child parent : Id family}
    (hparent : catalog.parent? child = some parent) : catalog.IsParent child parent := by
  rw [parent?] at hparent
  split at hparent
  · rename_i first hfirst
    split at hparent
    · cases hparent
      exact List.mem_of_mem_head? hfirst
    · cases hparent
  · cases hparent

/-- The ancestry leads through parents. -/
theorem reflTransGen_of_mem_ancestry {entity above : Id family}
    (habove : above ∈ catalog.ancestry entity) :
    Relation.ReflTransGen catalog.IsParent entity above := by
  induction entity using catalog.parent_induction with
  | step entity ih =>
    rw [ancestry_eq] at habove
    cases hparent : catalog.parent? entity with
    | none =>
      rw [hparent] at habove
      rw [List.mem_singleton.mp habove]
    | some parent =>
      rw [hparent] at habove
      cases List.mem_cons.mp habove with
      | inl hsame => rw [hsame]
      | inr hhigher => exact (ih parent hparent hhigher).head (isParent_of_parent? hparent)

/-- The ancestry is the whole chain of first parents. -/
theorem Registered.mem_ancestry_iff (hregistered : Registered catalog) {id above : Id family} :
    above ∈ catalog.ancestry id ↔ Relation.ReflTransGen catalog.IsFirstParent id above := by
  induction id using catalog.parent_induction with
  | step id ih =>
    rw [ancestry_eq, Relation.ReflTransGen.cases_head_iff, List.mem_cons, eq_comm]
    apply or_congr_right
    have hfirst : ∀ parent, catalog.IsFirstParent id parent ↔ catalog.parent? id = some parent :=
      fun parent => by rw [IsFirstParent, hregistered.parent?_eq_head?]
    simp only [hfirst]
    cases hparent : catalog.parent? id with
    | none => simp
    | some parent => simpa using ih parent hparent

/-- The walk from an entity to its first parent and on, until there is none. -/
inductive Climbs (catalog : Catalog) : Id family → List (Id family) → Prop
  | root {id : Id family} (hroot : (catalog.parents family id).head? = none) :
      Climbs catalog id [id]
  | step {id parent : Id family} {above : List (Id family)}
      (hparent : catalog.IsFirstParent id parent) (habove : Climbs catalog parent above) :
      Climbs catalog id (id :: above)

/-- The walk comes to an end, and the ancestry is what it has passed by then. -/
theorem Registered.climbs_iff (hregistered : Registered catalog) {id : Id family}
    {chain : List (Id family)} : catalog.Climbs id chain ↔ chain = catalog.ancestry id := by
  induction id using catalog.parent_induction generalizing chain with
  | step id ih =>
    rw [ancestry_eq, hregistered.parent?_eq_head?]
    constructor
    · intro hclimbs
      cases hclimbs with
      | root hroot => rw [hroot]; rfl
      | step hparent habove =>
        rw [hparent, (ih _ (hregistered.parent?_eq_head? id ▸ hparent)).mp habove]
        rfl
    · rintro rfl
      cases hparent : (catalog.parents family id).head? with
      | none => exact .root hparent
      | some parent =>
        exact .step hparent ((ih parent (hregistered.parent?_eq_head? id ▸ hparent)).mpr rfl)

/-- A first parent is the only one if there are not more. -/
theorem isFirstParent_iff_isParent {child parent : Id family}
    (hlength : (catalog.parents family child).length ≤ 1) :
    catalog.IsFirstParent child parent ↔ catalog.IsParent child parent := by
  rw [IsFirstParent, IsParent]
  cases hparents : catalog.parents family child with
  | nil => simp
  | cons first others =>
    rw [hparents, List.length_cons] at hlength
    have hothers : others = [] := List.eq_nil_of_length_eq_zero (by omega)
    simp [hothers, eq_comm]

theorem SingleParents.head?_eq_some_iff (hsingle : catalog.SingleParents)
    {child parent : Id family} :
    (catalog.parents family child).head? = some parent ↔ catalog.IsParent child parent :=
  isFirstParent_iff_isParent (hsingle family child)

/-- With single parents, the first parent is the only one. -/
theorem Registered.parent?_eq_some_iff (hregistered : Registered catalog)
    (hsingle : catalog.SingleParents) {child parent : Id family} :
    catalog.parent? child = some parent ↔ catalog.IsParent child parent := by
  rw [hregistered.parent?_eq_head?, hsingle.head?_eq_some_iff]

end LabMatch.Catalog
