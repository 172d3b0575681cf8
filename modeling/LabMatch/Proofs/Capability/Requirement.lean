import LabMatch.Proofs.Catalog.Visible
import LabMatch.Proofs.Connection.Offer
import LabMatch.Proofs.Session.Plain
import LabMatch.Proofs.Traversal

/-!
# Requirements are kept for the visible logical devices

The requirements of a capability type have the names of its visible logical devices
as their keys, no more and no less.  They can be resolved whenever no condition of a
variant is anchored at a link, and anchors are all that can stand in the way.
-/

namespace LabMatch

/-- Some connection could not be made. -/
def ResolveError.IsConnection (reason : ResolveError) : Prop :=
  ∃ error, reason = .connection error

theorem failsWith_mapError_connection {Answer : Type} (outcome : Except ConnectionError Answer) :
    FailsWith ResolveError.IsConnection (outcome.mapError ResolveError.connection) := by
  cases outcome with
  | error error => exact failsWith_error ⟨error, rfl⟩
  | ok answer => exact failsWith_ok answer

namespace Catalog

def addRequirement (catalog : Catalog) (capability : CapabilityId) (inherited : Requirements)
    (gathered : Requirements × List Warning) (logicalDevice : String × LogicalDeviceId) :
    Except ConnectionError (Requirements × List Warning) := do
  let (connection, hint) ← catalog.requirementFor capability inherited logicalDevice
  return (gathered.1.insert logicalDevice.1 connection, gathered.2 ++ hint.toList)

variable {catalog : Catalog} {capability : CapabilityId} {inherited : Requirements}

theorem requirementsFor_eq (logicalDevices : List (String × LogicalDeviceId)) :
    catalog.requirementsFor capability inherited logicalDevices =
      logicalDevices.foldlM (catalog.addRequirement capability inherited)
        (SortedMap.empty, []) :=
  rfl

theorem isSome_get?_of_addRequirement {gathered result : Requirements × List Warning}
    {logicalDevice : String × LogicalDeviceId}
    (hresult : catalog.addRequirement capability inherited gathered logicalDevice = .ok result)
    {name : String} :
    (result.1.get? name).isSome ↔ (gathered.1.get? name).isSome ∨ logicalDevice.1 = name := by
  obtain ⟨⟨connection, hint⟩, -, hadded⟩ := exists_of_bind_eq_ok hresult
  cases hadded
  rw [SortedMap.get?_insert]
  by_cases hname : name = logicalDevice.1
  · simp [hname]
  · simp [hname, Ne.symm hname]

theorem isSome_get?_of_foldlM {logicalDevices : List (String × LogicalDeviceId)}
    {gathered result : Requirements × List Warning}
    (hresult : logicalDevices.foldlM (catalog.addRequirement capability inherited) gathered =
      .ok result) {name : String} :
    (result.1.get? name).isSome ↔
      (gathered.1.get? name).isSome ∨ ∃ entry ∈ logicalDevices, entry.1 = name := by
  induction logicalDevices generalizing gathered with
  | nil =>
    cases hresult
    simp
  | cons first others ih =>
    rw [List.foldlM_cons] at hresult
    obtain ⟨next, hnext, hresult⟩ := exists_of_bind_eq_ok hresult
    rw [ih hresult, isSome_get?_of_addRequirement hnext, List.exists_mem_cons_iff, or_assoc]

theorem of_ownRequirements_eq_ok
    {requirements : Requirements} {hints : List Warning}
    (hown : catalog.ownRequirements capability inherited = .ok (requirements, hints)) :
    catalog.requirementsFor capability inherited
      (catalog.visibleLogicalDevices capability).entries = .ok (requirements, hints) := by
  rw [ownRequirements] at hown
  generalize catalog.requirementsFor capability inherited _ = outcome at hown ⊢
  cases outcome with
  | error reason => cases hown
  | ok gathered =>
    cases hown
    rfl

/-- A capability type has a requirement for each logical device visible on it, and no
other one. -/
theorem isSome_get?_requirements_iff {requirements : Requirements} {hints : List Warning}
    (hresolved : catalog.requirements capability = .ok (requirements, hints)) {name : String} :
    (requirements.get? name).isSome ↔
      ((catalog.visibleLogicalDevices capability).get? name).isSome := by
  rw [requirements_eq] at hresolved
  obtain ⟨inherited, -, hown⟩ := exists_of_bind_eq_ok hresolved
  have hgathered := of_ownRequirements_eq_ok hown
  rw [requirementsFor_eq] at hgathered
  rw [isSome_get?_of_foldlM hgathered,
    SortedMap.isSome_get?_iff (catalog.visibleLogicalDevices capability)]
  simp

/-! ## Resolving requirements -/

/-- Requirements only fail because some connection could not be made. -/
theorem failsWith_requirements (capability : CapabilityId) :
    FailsWith ResolveError.IsConnection (catalog.requirements capability) := by
  induction capability using catalog.parent_induction with
  | step capability ih =>
    have hinherited : FailsWith ResolveError.IsConnection
        (catalog.inheritedRequirements capability) := by
      rw [inheritedRequirements]
      cases hparent : catalog.parent? capability with
      | none => exact failsWith_ok _
      | some parent =>
        have hmap := (ih parent hparent).bind fun resolved => failsWith_ok resolved.1
        exact hmap
    rw [requirements_eq]
    exact hinherited.bind fun inherited => failsWith_mapError_connection _

def UnanchoredConditions (catalog : Catalog) : Prop :=
  ∀ capability ∈ catalog.capabilities, ∀ method ∈ capability.methods,
    ∀ variant ∈ method.variants, ∀ condition ∈ variant.conditions,
      condition.connection.anchor = none

theorem UnanchoredConditions.anchor_of_method (hconditions : catalog.UnanchoredConditions)
    {method : Method} (hmethod : method ∈ (catalog.capability capability).methods)
    {variant : Variant} (hvariant : variant ∈ method.variants)
    {condition : Condition} (hcondition : condition ∈ variant.conditions) :
    condition.connection.anchor = none := by
  have hknown : catalog.capability capability ∈ catalog.capabilities := by
    apply (lookup_mem_or_eq_default catalog.capabilities capability.index).resolve_right
    intro hdefault
    rw [Catalog.capability, hdefault] at hmethod
    cases hmethod
  exact hconditions _ hknown method hmethod variant hvariant condition hcondition

theorem UnanchoredConditions.anchor_of_mem (hconditions : catalog.UnanchoredConditions)
    {name : String} {connection : Connection}
    (hconnection : connection ∈ catalog.acceptedConnections capability name) :
    connection.anchor = none := by
  rw [acceptedConnections, List.mem_filterMap] at hconnection
  obtain ⟨condition, hcondition, hselected⟩ := hconnection
  obtain ⟨variant, hvariant, hcondition⟩ := List.mem_flatMap.mp hcondition
  obtain ⟨method, hmethod, hvariant⟩ := List.mem_flatMap.mp hvariant
  obtain ⟨-, hselected⟩ := Option.ite_none_right_eq_some.mp hselected
  obtain rfl := Option.some.inj hselected
  exact hconditions.anchor_of_method hmethod hvariant hcondition

/-- Without anchors in conditions a requirement can always be made up. -/
theorem UnanchoredConditions.madeUpRequirement_eq_ok (hconditions : catalog.UnanchoredConditions)
    (capability : CapabilityId) (name : String) :
    ∃ result, catalog.madeUpRequirement capability name = .ok result := by
  rw [madeUpRequirement]
  split
  · exact ⟨_, rfl⟩
  · rename_i hsome
    obtain ⟨connection, hconnection, -⟩ := Connection.anyOf_eq_ok hsome fun _ hmem =>
      hconditions.anchor_of_mem hmem
    rw [hconnection]
    exact ⟨_, rfl⟩

theorem UnanchoredConditions.addRequirement_eq_ok (hconditions : catalog.UnanchoredConditions)
    (gathered : Requirements × List Warning) (logicalDevice : String × LogicalDeviceId) :
    ∃ result, catalog.addRequirement capability inherited gathered logicalDevice = .ok result := by
  have hfor : ∃ result, catalog.requirementFor capability inherited logicalDevice = .ok result := by
    rw [requirementFor]
    split
    · exact ⟨_, rfl⟩
    · exact ⟨_, rfl⟩
    · obtain ⟨made, hmade⟩ := hconditions.madeUpRequirement_eq_ok capability logicalDevice.1
      rw [hmade]
      exact ⟨_, rfl⟩
  obtain ⟨result, hresult⟩ := hfor
  rw [addRequirement, hresult]
  exact ⟨_, rfl⟩

/-- Requirements can be resolved where no condition is anchored. -/
theorem UnanchoredConditions.requirements_eq_ok (hconditions : catalog.UnanchoredConditions)
    (capability : CapabilityId) : ∃ requirements, catalog.requirements capability =
      .ok requirements := by
  induction capability using catalog.parent_induction with
  | step capability ih =>
    have hinherited : ∃ inherited, catalog.inheritedRequirements capability = .ok inherited := by
      rw [inheritedRequirements]
      cases hparent : catalog.parent? capability with
      | none => exact ⟨_, rfl⟩
      | some parent =>
        obtain ⟨requirements, hrequirements⟩ := ih parent hparent
        dsimp only
        rw [hrequirements]
        exact ⟨_, rfl⟩
    obtain ⟨inherited, hinherited⟩ := hinherited
    have hstep : ∀ gathered,
        ∀ logicalDevice ∈ (catalog.visibleLogicalDevices capability).entries, ∃ result,
          catalog.addRequirement capability inherited gathered logicalDevice = .ok result :=
      fun gathered logicalDevice _ => hconditions.addRequirement_eq_ok gathered logicalDevice
    obtain ⟨gathered, hgathered⟩ := exists_foldlM_eq_ok hstep (SortedMap.empty, [])
    rw [requirements_eq, hinherited]
    refine ⟨gathered, ?_⟩
    change (catalog.requirementsFor capability inherited _).mapError _ = _
    rw [requirementsFor_eq, hgathered]
    rfl

end Catalog

end LabMatch
