import LabMatch.Proofs.Capability.Bound
import LabMatch.Proofs.Matching.Available
import LabMatch.Proofs.Matching.Services

/-!
# Checking a placement decides whether it is applicable

The checks run one after the other on the services that they open and settle.  Some
of them let a service pass without a look where a name is not visible or a
requirement is missing.  On a catalogue that keeps the override discipline this
never happens, so together the checks accept exactly the applicable placements.
-/

namespace LabMatch.Catalog

variable {catalog : Catalog} {scenario setup : ContainerId} {placement : Placement}
variable {service : Service}

/-! ## Settled services -/

/-- The service is a candidate and its binding is the one in effect. -/
structure Settled (catalog : Catalog) (scenario setup : ContainerId) (placement : Placement)
    (service : Service) : Prop where
  candidate : catalog.Candidate placement service
  binds : catalog.BindsTo scenario setup placement service service.binding
  available : service.available = none

/-- Whether a service is a candidate does not depend on its binding. -/
theorem Candidate.withBinding (hcandidate : catalog.Candidate placement service)
    (effective : Option Binding) :
    catalog.Candidate placement { service with binding := effective, available := none } :=
  ⟨hcandidate.placed, hcandidate.wanted, hcandidate.offered, hcandidate.implements⟩

/-- A candidate is opened where each capability has exactly one implementation. -/
theorem Candidate.opens (hcandidate : catalog.Candidate placement service)
    (himplemented : catalog.Implemented placement) :
    catalog.Opens placement { service with binding := none, available := none } := by
  have hone := himplemented _ _ hcandidate.placed _ _ hcandidate.wanted
  refine opens_iff.mpr ⟨hcandidate.withBinding none, ?_, rfl, rfl⟩
  intro rival hrival hsubtype
  exact hone.unique ⟨hrival, hsubtype⟩ ⟨hcandidate.offered, hcandidate.implements⟩

/-- Settling the opened services gives all settled ones. -/
theorem exists_settleBinding_iff (himplemented : catalog.Implemented placement) :
    (∃ opened, catalog.Opens placement opened ∧
      catalog.settleBinding scenario setup placement opened = .ok service) ↔
    catalog.Settled scenario setup placement service := by
  simp only [settleBinding_eq_ok_iff]
  constructor
  · intro hsettled
    obtain ⟨opened, hopens, effective, hbinds, rfl⟩ := hsettled
    obtain ⟨hcandidate, -, -, havailable⟩ := opens_iff.mp hopens
    exact ⟨havailable ▸ hcandidate.withBinding effective, hbinds, havailable⟩
  · intro hsettled
    obtain ⟨hcandidate, hbinds, havailable⟩ := hsettled
    exact ⟨_, hcandidate.opens himplemented, service.binding, hbinds, by rw [← havailable]⟩

/-- What holds of settled services whatever their notes holds of the bindings in effect. -/
theorem forall_settled_iff {Good : Service → Binding → Prop}
    (hgood : ∀ service binding effective,
      Good { service with binding := effective, available := none } binding →
        Good service binding) :
    (∀ settled, catalog.Settled scenario setup placement settled →
      ∀ binding, settled.binding = some binding → Good settled binding) ↔
    ∀ service binding, catalog.Candidate placement service →
      catalog.BindsTo scenario setup placement service (some binding) → Good service binding := by
  constructor
  · intro hsettled service binding hcandidate hbinds
    apply hgood service binding (some binding)
    exact hsettled _ ⟨hcandidate.withBinding (some binding), hbinds, rfl⟩ binding rfl
  · intro hcandidates settled hsettled binding hbinding
    exact hcandidates settled binding hsettled.candidate (hbinding ▸ hsettled.binds)

/-- A binding in effect names a logical device that is visible on the capability type. -/
theorem isSome_visible_of_activeBinding (hbuilt : Built catalog)
    (haccepted : catalog.hierarchy = .ok ()) {container : ContainerId} {device : DeviceId}
    {attr : String} {attachment : AttachmentId} {binding : Binding}
    (hattr : (catalog.deviceAttachments device).get? attr = some attachment)
    (hactive : catalog.activeBinding container device attr = some binding) {sub : CapabilityId}
    (hsub : catalog.isSubtype sub (catalog.attachment attachment).capability) :
    ((catalog.visibleLogicalDevices sub).get? binding.logicalDevice).isSome := by
  obtain ⟨declared, hdeclared, rfl⟩ := Option.map_eq_some_iff.mp hactive
  exact isSome_visible_of_declaredBinding? hbuilt haccepted hattr hdeclared hsub

/-- A binding in effect is the implementation's own one, or the scenario's one carried over
by the placement. -/
theorem bindsTo_some_cases {binding : Binding}
    (hbinds : catalog.BindsTo scenario setup placement service (some binding)) :
    (∃ wanted, catalog.activeBinding scenario service.scenarioDevice service.attr = some wanted ∧
      placement.get? wanted.target = some binding.target ∧
        wanted.logicalDevice = binding.logicalDevice) ∨
    catalog.activeBinding scenario service.scenarioDevice service.attr = none ∧
      catalog.activeBinding setup service.device
        (catalog.attachment service.implementation).attr = some binding := by
  rw [BindsTo, activeBinding_fresh, activeBinding_fresh] at hbinds
  cases hwanted : catalog.activeBinding scenario service.scenarioDevice service.attr with
  | none =>
    rw [hwanted] at hbinds
    exact Or.inr ⟨rfl, hbinds.symm⟩
  | some wanted =>
    rw [hwanted] at hbinds
    obtain ⟨target, hplaced, -, heffective⟩ := hbinds
    obtain rfl := Option.some.inj heffective
    exact Or.inl ⟨wanted, rfl, hplaced, rfl⟩

/-- The logical device of an agreed binding is visible on the implementation. -/
theorem Candidate.isSome_visible_of_bindsTo (hcandidate : catalog.Candidate placement service)
    (hbuilt : Built catalog) (haccepted : catalog.hierarchy = .ok ()) {binding : Binding}
    (hbinds : catalog.BindsTo scenario setup placement service (some binding)) :
    ((catalog.visibleLogicalDevices (catalog.attachment service.implementation).capability).get?
      binding.logicalDevice).isSome := by
  rcases bindsTo_some_cases hbinds with ⟨wanted, hwanted, -, hname⟩ | ⟨-, hown⟩
  · rw [← hname]
    exact isSome_visible_of_activeBinding hbuilt haccepted hcandidate.wanted hwanted
      hcandidate.implements
  · exact isSome_visible_of_activeBinding hbuilt haccepted
      (get?_of_mem_values_nearest hcandidate.offered) hown (hbuilt.registered.isSubtype_refl _)

/-! ## The steps of the check -/

theorem mem_flatten_openServices {opened : List (List Service)}
    (hopened : placement.entries.mapM catalog.openServices = .ok opened) :
    service ∈ opened.flatten ↔ catalog.Opens placement service := by
  rw [List.mem_flatten, Opens]
  constructor
  · intro hservice
    obtain ⟨services, hservices, hservice⟩ := hservice
    obtain ⟨placed, hplaced, hresult⟩ := (mem_iff_of_mapM_eq_ok hopened).mp hservices
    exact ⟨placed, hplaced, (mem_iff_of_mapM_eq_ok hresult).mp hservice⟩
  · intro hopens
    obtain ⟨placed, hplaced, hwanted⟩ := hopens
    obtain ⟨services, hresult⟩ := exists_mapM_eq_ok_iff.mp ⟨opened, hopened⟩ placed hplaced
    exact ⟨services, (mem_iff_of_mapM_eq_ok hopened).mpr ⟨placed, hplaced, hresult⟩,
      (mem_iff_of_mapM_eq_ok hresult).mpr hwanted⟩

theorem exists_mapM_openServices_iff :
    (∃ opened, placement.entries.mapM catalog.openServices = .ok opened) ↔
      catalog.Implemented placement := by
  simp only [← forall_openService_iff, exists_mapM_eq_ok_iff, openServices]

theorem mem_bound_iff {opened : List (List Service)} {bound : List Service}
    (hopened : placement.entries.mapM catalog.openServices = .ok opened)
    (hbound : opened.flatten.mapM (catalog.settleBinding scenario setup placement) = .ok bound) :
    service ∈ bound ↔ catalog.Settled scenario setup placement service := by
  rw [mem_iff_of_mapM_eq_ok hbound,
    ← exists_settleBinding_iff (exists_mapM_openServices_iff.mp ⟨opened, hopened⟩)]
  simp only [mem_flatten_openServices hopened]

/-- A placement passes if it passes every step of the check. -/
theorem exists_checkPlacement_iff_steps {scenarioWiring setupWiring : Wiring} :
    (∃ variation, catalog.checkPlacement scenario setup scenarioWiring setupWiring placement =
      .ok variation) ↔
    catalog.Implemented placement ∧
    (∀ opened, catalog.Opens placement opened →
      ∃ settled, catalog.settleBinding scenario setup placement opened = .ok settled) ∧
    (∀ settled, catalog.Settled scenario setup placement settled →
      catalog.checkBoundDevice settled = .ok ()) ∧
    ∃ deliveries, catalog.deliverAll placement scenarioWiring setupWiring = .ok deliveries ∧
      ∀ settled, catalog.Settled scenario setup placement settled →
        ∃ served, catalog.settleAvailable placement setupWiring deliveries settled =
          .ok served := by
  simp only [checkPlacement, exists_bind_eq_ok_iff]
  constructor
  · intro hpasses
    obtain ⟨opened, hopened, bound, hbound, ⟨⟩, hchecked, deliveries, hdelivered, served, hserved,
      -⟩ := hpasses
    have hmem : ∀ {settled}, settled ∈ bound ↔ _ := mem_bound_iff hopened hbound
    refine ⟨exists_mapM_openServices_iff.mp ⟨opened, hopened⟩, ?_, ?_, deliveries, hdelivered, ?_⟩
    · intro service hopens
      apply exists_mapM_eq_ok_iff.mp ⟨bound, hbound⟩
      exact (mem_flatten_openServices hopened).mpr hopens
    · intro settled hsettled
      exact forM_eq_ok_iff.mp hchecked settled (hmem.mpr hsettled)
    · intro settled hsettled
      exact exists_mapM_eq_ok_iff.mp ⟨served, hserved⟩ settled (hmem.mpr hsettled)
  · intro hpasses
    obtain ⟨himplemented, hagreed, hequipped, deliveries, hdelivered, hconnected⟩ := hpasses
    obtain ⟨opened, hopened⟩ := exists_mapM_openServices_iff.mpr himplemented
    obtain ⟨bound, hbound⟩ := exists_mapM_eq_ok_iff.mpr fun service hservice =>
      hagreed service ((mem_flatten_openServices hopened).mp hservice)
    have hmem : ∀ {settled}, settled ∈ bound ↔ _ := mem_bound_iff hopened hbound
    have hchecked := forM_eq_ok_iff.mpr fun settled hsettled =>
      hequipped settled (hmem.mp hsettled)
    obtain ⟨served, hserved⟩ := exists_mapM_eq_ok_iff.mpr fun settled hsettled =>
      hconnected settled (hmem.mp hsettled)
    exact ⟨opened, hopened, bound, hbound, (), hchecked, deliveries, hdelivered, served, hserved,
      _, rfl⟩

/-! ## Applicable placements -/

section Applicable

variable {scenarioWiring setupWiring : Wiring} (hbuilt : Built catalog)
  (haccepted : catalog.hierarchy = .ok ())

include hbuilt haccepted

/-- The logical device of a binding in effect is visible on the implementation. -/
theorem Settled.isSome_visible (hsettled : catalog.Settled scenario setup placement service)
    {binding : Binding} (hbinding : service.binding = some binding) :
    ((catalog.visibleLogicalDevices (catalog.attachment service.implementation).capability).get?
      binding.logicalDevice).isSome :=
  hsettled.candidate.isSome_visible_of_bindsTo hbuilt haccepted (hbinding ▸ hsettled.binds)

/-- The check of a bound device passes exactly if it is equipped. -/
theorem checkBoundDevice_settled_iff
    (hsettled : catalog.Settled scenario setup placement service) :
    catalog.checkBoundDevice service = .ok () ↔
      ∀ binding, service.binding = some binding → catalog.Equips service binding := by
  cases hbinding : service.binding with
  | none => simp [checkBoundDevice, hbinding]
  | some binding =>
    rw [checkBoundDevice_eq_ok_iff hbinding (hsettled.isSome_visible hbuilt haccepted hbinding)]
    simp

variable (hconditions : catalog.UnanchoredConditions) (hinjective : placement.IsInjective)
  (hmirrored : scenarioWiring.IsMirrored) (hsetup : setupWiring.IsMirrored)

include hconditions hinjective hmirrored hsetup

/-- A settled service finds a connection if it is unbound or what is available to it
fits. -/
theorem exists_settleAvailable_settled_iff {deliveries : List Delivery}
    (hall : catalog.deliverAll placement scenarioWiring setupWiring = .ok deliveries)
    (hserves : placement.Serves scenarioWiring setupWiring deliveries)
    (hsettled : catalog.Settled scenario setup placement service) :
    (∃ served, catalog.settleAvailable placement setupWiring deliveries service = .ok served) ↔
      ∀ binding, service.binding = some binding →
        catalog.Connects placement scenarioWiring setupWiring service binding := by
  cases hbinding : service.binding with
  | none => simp [settleAvailable, hbinding]
  | some binding =>
    have hvisible := hsettled.isSome_visible hbuilt haccepted hbinding
    obtain ⟨⟨requirements, hints⟩, hrequirements⟩ := hconditions.requirements_eq_ok
      (catalog.attachment service.implementation).capability
    have hrequired : ∃ requirements,
        Prod.fst <$> catalog.requirements (catalog.attachment service.implementation).capability =
          .ok requirements ∧ (requirements.get? binding.logicalDevice).isSome := by
      refine ⟨requirements, ?_, (isSome_get?_requirements_iff hrequirements).mpr hvisible⟩
      rw [hrequirements]
      rfl
    rw [exists_settleAvailable_iff hbinding hrequired
      (exists_availableTo_eq_ok hinjective hmirrored hsetup hall hserves binding.target)]
    simp

/-- The check accepts exactly the placements that are applicable. -/
theorem exists_checkPlacement_iff (hshares : scenarioWiring.SharesAnchors)
    (hseparates : placement.Separates scenarioWiring) :
    (∃ variation, catalog.checkPlacement scenario setup scenarioWiring setupWiring placement =
      .ok variation) ↔
    catalog.Applicable scenario setup scenarioWiring setupWiring placement := by
  have hbound : (∀ settled, catalog.Settled scenario setup placement settled →
      catalog.checkBoundDevice settled = .ok ()) ↔
        ∀ service binding, catalog.Candidate placement service →
          catalog.BindsTo scenario setup placement service (some binding) →
            catalog.Equips service binding := by
    rw [← forall_settled_iff fun _ _ _ hequips => hequips]
    apply forall₂_congr
    exact fun settled hsettled => checkBoundDevice_settled_iff hbuilt haccepted hsettled
  have hfits : ∀ {deliveries},
      catalog.deliverAll placement scenarioWiring setupWiring = .ok deliveries →
        ((∀ settled, catalog.Settled scenario setup placement settled →
          ∃ served, catalog.settleAvailable placement setupWiring deliveries settled =
            .ok served) ↔
        ∀ service binding, catalog.Candidate placement service →
          catalog.BindsTo scenario setup placement service (some binding) →
            catalog.Connects placement scenarioWiring setupWiring service binding) := by
    intro deliveries hall
    have hserves := serves_of_deliverAll hmirrored hshares hseparates hall
    rw [← forall_settled_iff fun _ _ _ hconnects => hconnects]
    apply forall₂_congr
    exact fun settled hsettled => exists_settleAvailable_settled_iff hbuilt haccepted hconditions
      hinjective hmirrored hsetup hall hserves hsettled
  rw [exists_checkPlacement_iff_steps, hbound]
  constructor
  · intro hpasses
    obtain ⟨himplemented, hagreed, hequipped, deliveries, hall, hconnected⟩ := hpasses
    refine ⟨himplemented, ?_, hequipped, ?_, (hfits hall).mp hconnected⟩
    · intro service hcandidate
      obtain ⟨settled, hsettled⟩ := hagreed _ (hcandidate.opens himplemented)
      obtain ⟨effective, hbinds, -⟩ := settleBinding_eq_ok_iff.mp hsettled
      exact ⟨effective, hbinds⟩
    · exact (exists_deliverAll_iff hmirrored hshares hseparates hsetup).mp ⟨deliveries, hall⟩
  · intro happlicable
    obtain ⟨deliveries, hall⟩ :=
      (exists_deliverAll_iff hmirrored hshares hseparates hsetup).mpr happlicable.delivered
    refine ⟨happlicable.implemented, ?_, happlicable.equipped, deliveries, hall,
      (hfits hall).mpr happlicable.connected⟩
    intro opened hopens
    obtain ⟨effective, hbinds⟩ := happlicable.agreed opened (opens_iff.mp hopens).1
    exact ⟨_, settleBinding_eq_ok_iff.mpr ⟨effective, hbinds, rfl⟩⟩

end Applicable

end LabMatch.Catalog
