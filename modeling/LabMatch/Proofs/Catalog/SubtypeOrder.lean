import LabMatch.Proofs.Catalog.Hierarchy

/-!
# Subtypes are partially ordered

A supertype is looked for with a stack of the entities that are still to be looked at.  The
search marks nothing as seen: an entity that is reached by several paths is looked at several
times, and the stack may grow.  What ends it is that parents were declared before their
children.  So whatever an entity puts on the stack is done with before what lies below, and
leaves no trace but its answer.

`Catalog.Searches` is this search without a limit, and `Catalog.Climbs` the walk up the first
parents without one.  Main statement: both end, and what they tell is a partial order.
-/

namespace LabMatch.Catalog

variable {family : Family} {catalog : Catalog}

/-- The search through a stack, its top first, for the given entity.  Another one that is
taken from the top leaves its parents there, the last of them uppermost. -/
inductive Searches (catalog : Catalog) (sup : Id family) : List (Id family) → Bool → Prop
  | nothingLeft : Searches catalog sup [] false
  | found {left : List (Id family)} : Searches catalog sup (sup :: left) true
  | passed {current : Id family} {left : List (Id family)} {answer : Bool} (hother : current ≠ sup)
      (hnext : Searches catalog sup ((catalog.parents family current).reverse ++ left) answer) :
      Searches catalog sup (current :: left) answer

variable {sup : Id family} {stack left : List (Id family)} {answer answer' : Bool}

theorem Searches.unique (hsearches : catalog.Searches sup stack answer)
    (hsearches' : catalog.Searches sup stack answer') : answer' = answer := by
  induction hsearches with
  | nothingLeft =>
    cases hsearches'
    rfl
  | found =>
    cases hsearches' with
    | found => rfl
    | passed hother => exact absurd rfl hother
  | passed hother _ ih =>
    cases hsearches' with
    | found => exact absurd rfl hother
    | passed _ hnext => exact ih hnext

/-- No parent is too late to be searched. -/
theorem Registered.isSubtype_eq (hregistered : Registered catalog) (sub sup : Id family) :
    catalog.isSubtype sub sup = (sub == sup ||
      (catalog.parents family sub).any fun parent => catalog.isSubtype parent sup) := by
  rw [isSubtype, descendsBy]
  congr 1
  rw [Bool.eq_iff_iff, List.any_eq_true, List.any_eq_true]
  apply exists_congr
  intro parent
  apply and_congr_right
  intro hparent
  rw [if_pos (hregistered.parent_lt hparent), isSubtype]

/-- Entities that can each be searched one after the other can be searched together. -/
theorem searches_append (above : List (Id family))
    (habove : ∀ entity ∈ above, ∀ left answer, catalog.Searches sup left answer →
      catalog.Searches sup (entity :: left) (catalog.isSubtype entity sup || answer))
    (hleft : catalog.Searches sup left answer) :
    catalog.Searches sup (above ++ left)
      (above.any (fun entity => catalog.isSubtype entity sup) || answer) := by
  induction above with
  | nil => exact hleft
  | cons entity others ih =>
    rw [List.forall_mem_cons] at habove
    rw [List.any_cons, Bool.or_assoc]
    exact habove.1 _ _ (ih habove.2)

/-- An entity on top of the stack is searched to an end, and then what lies below it. -/
theorem Registered.searches_cons (hregistered : Registered catalog) (sub : Id family)
    (hleft : catalog.Searches sup left answer) :
    catalog.Searches sup (sub :: left) (catalog.isSubtype sub sup || answer) := by
  induction hindex : sub.index using Nat.strongRecOn generalizing sub left answer with
  | ind index ih =>
    subst hindex
    by_cases hsame : sub = sup
    · subst hsame
      rw [hregistered.isSubtype_refl sub]
      exact .found
    · have hparents := searches_append (catalog.parents family sub).reverse
        (fun parent hparent left answer hleft =>
          ih parent.index (hregistered.parent_lt (List.mem_reverse.mp hparent)) parent hleft rfl)
        hleft
      rw [List.any_reverse] at hparents
      rw [hregistered.isSubtype_eq, beq_eq_false_iff_ne.mpr hsame, Bool.false_or]
      exact .passed hsame hparents

/-- The search from an entity ends, with the answer of the recursive test. -/
theorem Registered.searches_iff (hregistered : Registered catalog) {sub : Id family} :
    catalog.Searches sup [sub] answer ↔ answer = catalog.isSubtype sub sup := by
  have hends := hregistered.searches_cons sub (.nothingLeft : catalog.Searches sup [] false)
  rw [Bool.or_false] at hends
  constructor
  · exact hends.unique
  · rintro rfl
    exact hends

/-- Specialisation is a partial order. -/
theorem Registered.isPartialOrder_isSubtype (hregistered : Registered catalog) (family : Family) :
    IsPartialOrder (Id family) fun sub sup => catalog.isSubtype sub sup = true where
  refl := hregistered.isSubtype_refl
  trans _ _ _ := hregistered.isSubtype_trans
  antisymm _ _ := hregistered.isSubtype_antisymm

/-- Where no entity has more than one parent, all that is above one is its ancestry. -/
theorem Registered.isSubtype_iff_mem_ancestry (hregistered : Registered catalog)
    (hsingle : ∀ id : Id family, (catalog.parents family id).length ≤ 1) {sub sup : Id family} :
    catalog.isSubtype sub sup ↔ sup ∈ catalog.ancestry sub := by
  have hparents : (catalog.IsFirstParent : Id family → Id family → Prop) = catalog.IsParent := by
    funext child parent
    exact propext (isFirstParent_iff_isParent (hsingle child))
  rw [hregistered.isSubtype_iff, hregistered.mem_ancestry_iff, hparents]

/-- The search for a supertype ends, and it finds one exactly if that is reached from the
entity by steps to any parents.  This is a partial order.  The walk up the first parents ends
as well, past ever smaller identifiers.  It passes all supertypes where no entity has more
than one parent. -/
theorem subtypes_partiallyOrdered (hbuilt : Built catalog) (family : Family) :
    (∀ sub sup : Id family, ∀ answer,
      catalog.Searches sup [sub] answer ↔ answer = catalog.isSubtype sub sup) ∧
    (∀ sub sup : Id family,
      catalog.isSubtype sub sup ↔ Relation.ReflTransGen catalog.IsParent sub sup) ∧
    IsPartialOrder (Id family) (fun sub sup => catalog.isSubtype sub sup = true) ∧
    (∀ id : Id family, ∀ chain, catalog.Climbs id chain ↔ chain = catalog.ancestry id) ∧
    (∀ id : Id family, (catalog.ancestry id).Pairwise fun nearer farther => farther < nearer) ∧
    ((∀ id : Id family, (catalog.parents family id).length ≤ 1) →
      ∀ sub sup : Id family, catalog.isSubtype sub sup ↔ sup ∈ catalog.ancestry sub) := by
  have hregistered := hbuilt.registered
  exact ⟨fun _ _ _ => hregistered.searches_iff, fun _ _ => hregistered.isSubtype_iff,
    hregistered.isPartialOrder_isSubtype family, fun _ _ => hregistered.climbs_iff,
    catalog.pairwise_ancestry, fun hsingle _ _ => hregistered.isSubtype_iff_mem_ancestry hsingle⟩

/-- A capability type with two parents that share one, and a device that extends another. -/
def multimeterDeclarations : List Declaration :=
  [.capability "Instrument", .capability "Voltmeter", .capability "Ammeter",
    .capability "Multimeter", .extendCapability ⟨1⟩ ⟨0⟩, .extendCapability ⟨2⟩ ⟨0⟩,
    .extendCapability ⟨3⟩ ⟨1⟩, .extendCapability ⟨3⟩ ⟨2⟩,
    .container .setup "Desk", .device ⟨0⟩ "Bench", .device ⟨0⟩ "Meter", .extendDevice ⟨1⟩ ⟨0⟩]

def multimeterLab : Catalog := (declareAll multimeterDeclarations).toOption.getD empty

theorem built_multimeterLab : Built multimeterLab := by
  apply built_of_declareAll
  · decide +kernel
  · decide +kernel

/-- A multimeter is an ammeter, which is not on the chain of its first parents. -/
theorem subtypes_partiallyOrdered_multimeterLab :
    multimeterLab.Searches (⟨2⟩ : CapabilityId) [⟨3⟩] true ∧
      (⟨2⟩ : CapabilityId) ∉ multimeterLab.ancestry ⟨3⟩ ∧
      multimeterLab.Searches (⟨1⟩ : CapabilityId) [⟨2⟩] false ∧
      (multimeterLab.isSubtype (⟨1⟩ : DeviceId) ⟨0⟩ ↔
        ⟨0⟩ ∈ multimeterLab.ancestry (⟨1⟩ : DeviceId)) := by
  obtain ⟨hsearches, -⟩ := subtypes_partiallyOrdered built_multimeterLab .capability
  obtain ⟨-, -, -, -, -, hancestry⟩ := subtypes_partiallyOrdered built_multimeterLab .device
  have hok : (multimeterLab.singleParents .device multimeterLab.devicePath).isOk = true := by
    decide +kernel
  obtain ⟨_, hsingle⟩ := exists_of_isOk hok
  refine ⟨(hsearches _ _ _).mpr ?_, ?_, (hsearches _ _ _).mpr ?_, ?_⟩
  · decide +kernel
  · decide +kernel
  · decide +kernel
  · exact hancestry (singleParents_eq_ok_iff.mp hsingle) _ _

end LabMatch.Catalog
