import LabMatch.Proofs.Capability.Requirement
import LabMatch.Proofs.Connection.Offered
import LabMatch.Proofs.Matching.Applicability
import LabMatch.Proofs.Matching.Placements
import LabMatch.Proofs.Matching.Plain

/-!
# What is available towards a bound device

Once all links of the scenario are delivered, the deliveries between two placed
devices hold exactly what the linked pairs between them convey.  A service then
finds a connection exactly if what is available to it is compatible with the
requirement of its logical device.
-/

namespace LabMatch

theorem Span.SamePair.touches_iff {span other : Span} (hsame : span.SamePair other)
    {device : DeviceId} : span.Touches device ↔ other.Touches device := by
  cases hsame with
  | inl heq => rw [heq]
  | inr hflip =>
    rw [hflip]
    exact or_comm

namespace Placement

variable {placement : Placement}

/-- An injective placement can be looked up backwards. -/
theorem placedOn?_eq_some_iff (hinjective : placement.IsInjective) {target peer : DeviceId} :
    placement.placedOn? target = some peer ↔ placement.get? peer = some target := by
  constructor
  · intro hfound
    obtain ⟨entry, hentry, rfl⟩ := Option.map_eq_some_iff.mp hfound
    have htarget : entry.2 = target := by simpa using List.find?_some hentry
    rw [SortedMap.get?_eq_some_iff, ← htarget]
    exact List.mem_of_find?_eq_some hentry
  · intro hpeer
    have hsome : (placement.placedOn? target).isSome := by
      rw [placedOn?, Option.isSome_map, List.find?_isSome]
      exact ⟨(peer, target), (SortedMap.get?_eq_some_iff _ _ _).mp hpeer, beq_self_eq_true target⟩
    obtain ⟨found, hfound⟩ := Option.isSome_iff_exists.mp hsome
    obtain ⟨entry, hentry, rfl⟩ := Option.map_eq_some_iff.mp hfound
    have htarget : entry.2 = target := by simpa using List.find?_some hentry
    rw [hfound]
    congr 1
    apply hinjective _ _ target _ hpeer
    rw [SortedMap.get?_eq_some_iff, ← htarget]
    exact List.mem_of_find?_eq_some hentry

/-! ## Deliveries between two devices -/

/-- The deliveries between a device and the one that is placed on the target. -/
def deliveriesTo (placement : Placement) (deliveries : List Delivery) (device target : DeviceId) :
    List Delivery :=
  match placement.placedOn? target with
  | none => []
  | some peer => deliveries.filter fun delivery =>
    let ends := [delivery.source.device, delivery.target.device]
    ends.contains peer && ends.contains device

variable {scenario setup : Wiring} {deliveries : List Delivery} {device target : DeviceId}

theorem mem_deliveriesTo_iff (hinjective : placement.IsInjective) {delivery : Delivery} :
    delivery ∈ placement.deliveriesTo deliveries device target ↔
      delivery ∈ deliveries ∧ delivery.ends.Touches device ∧
        ∃ peer, placement.get? peer = some target ∧ delivery.ends.Touches peer := by
  simp only [← placedOn?_eq_some_iff hinjective]
  rw [deliveriesTo]
  cases placement.placedOn? target with
  | none => simp
  | some peer =>
    simp [Span.Touches, Delivery.ends, @eq_comm _ device, @eq_comm _ peer,
      and_comm]

section Serves

variable (hserves : placement.Serves scenario setup deliveries)
  (hinjective : placement.IsInjective) (hmirrored : scenario.IsMirrored)
  (hsetup : setup.IsMirrored)

include hserves hinjective hmirrored hsetup

/-- A linked pair between two devices has its delivery between them. -/
theorem LinksTo.exists_delivery {ends : Span}
    (hlinks : placement.LinksTo scenario device target ends) :
    ∃ delivery ∈ placement.deliveriesTo deliveries device target,
      ∀ tags, tags ∈ delivery.connection.alternatives ↔
        placement.Conveys scenario setup ends tags := by
  obtain ⟨bothWays, hlinked, hdevice, peer, hplaced, hpeer⟩ := hlinks
  obtain ⟨delivery, hdelivery, hends, halternatives⟩ :=
    hserves.exists_delivery hmirrored hsetup hlinked
  refine ⟨delivery, ?_, halternatives⟩
  rw [mem_deliveriesTo_iff hinjective]
  exact ⟨hdelivery, hends.touches_iff.mpr hdevice, peer, hplaced, hends.touches_iff.mpr hpeer⟩

omit hmirrored hsetup in
/-- A delivery between two devices is one of a linked pair between them. -/
theorem Serves.linksTo {delivery : Delivery}
    (hbetween : delivery ∈ placement.deliveriesTo deliveries device target) :
    placement.LinksTo scenario device target delivery.ends ∧
      ∀ tags, tags ∈ delivery.connection.alternatives ↔
        placement.Conveys scenario setup delivery.ends tags := by
  obtain ⟨hdelivery, hdevice, hpeer⟩ := (mem_deliveriesTo_iff hinjective).mp hbetween
  have hexact := hserves.exact delivery hdelivery
  have ⟨bothWays, hlinked, _⟩ := hexact
  exact ⟨⟨bothWays, hlinked, hdevice, hpeer⟩, fun _ => hexact.mem_alternatives_iff⟩

/-- The deliveries between two devices hold what the linked pairs between them convey. -/
theorem Serves.exists_mem_deliveriesTo_iff {tags : TagSet} :
    (∃ delivery ∈ placement.deliveriesTo deliveries device target,
      tags ∈ delivery.connection.alternatives) ↔
    ∃ ends, placement.LinksTo scenario device target ends ∧
      placement.Conveys scenario setup ends tags := by
  constructor
  · intro hdelivered
    obtain ⟨delivery, hbetween, htags⟩ := hdelivered
    obtain ⟨hlinks, halternatives⟩ := hserves.linksTo hinjective hbetween
    exact ⟨delivery.ends, hlinks, (halternatives tags).mp htags⟩
  · intro hconveyed
    obtain ⟨ends, hlinks, hconveys⟩ := hconveyed
    obtain ⟨delivery, hbetween, halternatives⟩ :=
      hlinks.exists_delivery hserves hinjective hmirrored hsetup
    exact ⟨delivery, hbetween, (halternatives tags).mpr hconveys⟩

/-- There are none exactly if no pair between the two devices is linked. -/
theorem Serves.deliveriesTo_eq_nil_iff :
    placement.deliveriesTo deliveries device target = [] ↔
      ∀ ends, ¬ placement.LinksTo scenario device target ends := by
  rw [List.eq_nil_iff_forall_not_mem]
  constructor
  · intro hnone ends hlinks
    obtain ⟨delivery, hbetween, -⟩ := hlinks.exists_delivery hserves hinjective hmirrored hsetup
    exact hnone delivery hbetween
  · intro hnone delivery hbetween
    exact hnone delivery.ends (hserves.linksTo hinjective hbetween).1

end Serves

end Placement

namespace Wiring

/-- What is available between two devices is any of the links between them. -/
theorem mem_availableBetween_iff (wiring : Wiring) {source target : DeviceId} {tags : TagSet} :
    (∃ available, wiring.availableBetween source target = some available ∧
      tags ∈ available.alternatives) ↔
    ∃ span : Span, span.source.device = source ∧ span.target.device = target ∧
      ∃ link ∈ wiring.get span, tags ∈ link.alternatives := by
  have hbetween : (∃ link ∈ wiring.between source target, tags ∈ link.alternatives) ↔
      ∃ span : Span, span.source.device = source ∧ span.target.device = target ∧
        ∃ link ∈ wiring.get span, tags ∈ link.alternatives := by
    simp only [mem_between_iff]
    grind
  rw [← hbetween, availableBetween]
  by_cases hnone : wiring.between source target = []
  · rw [hnone]
    simp [Connection.anyOf, Connection.compose, Except.toOption]
  · have hlinks : (wiring.between source target).map Connection.unanchored ≠ [] := by
      simpa using hnone
    obtain ⟨available, havailable, -, halternatives⟩ := Connection.anyOf_eq_ok hlinks (by simp)
    rw [havailable]
    simp [Except.toOption, halternatives]

end Wiring

namespace Catalog

variable {catalog : Catalog} {placement : Placement} {scenario setup : Wiring}
variable {deliveries : List Delivery} {service : Service}

/-! ## What is available to a service -/

theorem availableTo_eq (placement : Placement) (setup : Wiring) (deliveries : List Delivery)
    (service : Service) (target : DeviceId) :
    availableTo placement setup deliveries service target =
      if (placement.deliveriesTo deliveries service.scenarioDevice target).isEmpty then
        .ok (setup.availableBetween service.device target)
      else
        ((Connection.anyOf ((placement.deliveriesTo deliveries service.scenarioDevice target).map
          Delivery.connection)).mapError ResolveError.connection).map some := by
  rw [availableTo]
  change (if (placement.deliveriesTo deliveries service.scenarioDevice target).isEmpty then _
    else _) = _
  split
  · rfl
  · rfl

theorem anchor_of_mem_deliverAll
    (hall : catalog.deliverAll placement scenario setup = .ok deliveries) {delivery : Delivery}
    (hdelivery : delivery ∈ deliveries) : delivery.connection.anchor = none := by
  rw [deliverAll_eq] at hall
  obtain ⟨results, hresults, rfl⟩ := exists_of_map_eq_ok hall
  obtain ⟨result, hresult, rfl⟩ := List.mem_filterMap.mp hdelivery
  obtain ⟨entry, -, hentry⟩ := (mem_iff_of_mapM_eq_ok hresults).mp hresult
  exact anchor_of_deliver_eq_ok catalog hentry

/-- What is available can always be told, once the links of the scenario are delivered. -/
theorem exists_availableTo_eq_ok (hinjective : placement.IsInjective)
    (hmirrored : scenario.IsMirrored) (hsetup : setup.IsMirrored)
    (hall : catalog.deliverAll placement scenario setup = .ok deliveries)
    (hserves : placement.Serves scenario setup deliveries) (target : DeviceId) :
    ∃ found, availableTo placement setup deliveries service target = .ok found ∧
      ∀ tags, (∃ available, found = some available ∧ tags ∈ available.alternatives) ↔
        placement.Available scenario setup service.scenarioDevice service.device target tags := by
  rw [availableTo_eq]
  have hnone : placement.deliveriesTo deliveries service.scenarioDevice target = [] ↔ _ :=
    hserves.deliveriesTo_eq_nil_iff hinjective hmirrored hsetup
  by_cases hempty : placement.deliveriesTo deliveries service.scenarioDevice target = []
  · rw [if_pos (List.isEmpty_iff.mpr hempty)]
    refine ⟨_, rfl, fun tags => ?_⟩
    have hlinks := hnone.mp hempty
    rw [Wiring.mem_availableBetween_iff, Placement.Available]
    simp [hlinks]
  · rw [if_neg (mt List.isEmpty_iff.mp hempty)]
    have hunanchored : ∀ connection ∈ (placement.deliveriesTo deliveries service.scenarioDevice
        target).map Delivery.connection, connection.anchor = none := by
      intro connection hconnection
      obtain ⟨delivery, hbetween, rfl⟩ := List.mem_map.mp hconnection
      exact anchor_of_mem_deliverAll hall
        ((Placement.mem_deliveriesTo_iff hinjective).mp hbetween).1
    obtain ⟨joined, hjoined, -, halternatives⟩ :=
      Connection.anyOf_eq_ok (by simpa using hempty) hunanchored
    rw [hjoined]
    refine ⟨some joined, rfl, fun tags => ?_⟩
    have hsome := mt hnone.mpr hempty
    rw [Placement.Available, ← hserves.exists_mem_deliveriesTo_iff hinjective hmirrored hsetup]
    simp [hsome, halternatives]

/-! ## Compatible connections -/

theorem requirementsOf_fresh (capability : CapabilityId) :
    ((Session.requirementsOf catalog capability).run.run Session.fresh).1 =
      Prod.fst <$> catalog.requirements capability :=
  (Session.resolves_requirementsOf capability _ (Session.faithfulWith_fresh catalog)).1

/-- A service is settled exactly if what is available to it is compatible with the
requirement of its logical device. -/
theorem exists_settleAvailable_iff {binding : Binding} (hbinding : service.binding = some binding)
    (hrequired : ∃ requirements,
      Prod.fst <$> catalog.requirements (catalog.attachment service.implementation).capability =
        .ok requirements ∧ (requirements.get? binding.logicalDevice).isSome)
    (havailable : ∃ found,
      availableTo placement setup deliveries service binding.target = .ok found ∧
      ∀ tags, (∃ available, found = some available ∧ tags ∈ available.alternatives) ↔
        placement.Available scenario setup service.scenarioDevice service.device
          binding.target tags) :
    (∃ settled, catalog.settleAvailable placement setup deliveries service = .ok settled) ↔
      catalog.Connects placement scenario setup service binding := by
  obtain ⟨requirements, hrequirements, hkey⟩ := hrequired
  obtain ⟨requirement, hrequirement⟩ := Option.isSome_iff_exists.mp hkey
  obtain ⟨found, hfound, halternatives⟩ := havailable
  have hsettled : (∃ settled,
      catalog.settleAvailable placement setup deliveries service = .ok settled) ↔
        ∃ available, found = some available ∧ available.compatible requirement := by
    rw [settleAvailable, hbinding]
    simp only [exists_bind_eq_ok_iff, hrequirements, hrequirement, hfound, Except.ok.injEq,
      exists_eq_left']
    cases found with
    | none => simp [throw, throwThe, MonadExceptOf.throw]
    | some available =>
      by_cases hcompatible : available.compatible requirement
      · simp [Option.filter, hcompatible, pure, Except.pure]
      · simp [Option.filter, hcompatible, throw, throwThe, MonadExceptOf.throw]
  rw [hsettled, Connects]
  simp only [requirementsOf_fresh, hrequirements, Except.ok.injEq, exists_and_left,
    exists_eq_left', hrequirement, Option.some.injEq]
  constructor
  · intro hfits
    obtain ⟨available, rfl, hcompatible⟩ := hfits
    refine ⟨available, fun tags => ?_, hcompatible⟩
    rw [← halternatives]
    simp
  · intro hfits
    obtain ⟨described, hdescribed, hcompatible⟩ := hfits
    obtain ⟨tags, htags⟩ := List.exists_mem_of_ne_nil _ described.alternatives_ne_nil
    obtain ⟨available, rfl, -⟩ := (halternatives tags).mpr ((hdescribed tags).mp htags)
    have hsame : ∀ tags, tags ∈ available.alternatives ↔ tags ∈ described.alternatives := by
      intro tags
      rw [hdescribed, ← halternatives]
      simp
    refine ⟨available, rfl, ?_⟩
    rw [Connection.compatible_congr (Connection.offered_congr hsame) rfl]
    exact hcompatible

end Catalog

end LabMatch
