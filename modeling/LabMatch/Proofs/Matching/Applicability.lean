import LabMatch.Proofs.Matching.Connectivity

/-!
# When a placement is applicable

A placement gives every device of the scenario a device of the setup.  Every
capability of a scenario device then needs one implementation on its place; where
the scenario binds it to a device, or else the setup does, the bound device needs
what the logical device asks for, and a fitting connection.

All of this is said about the declarations, the bindings in effect, the resolved
requirements and the two reduced wirings, without an order of checks.
-/

namespace LabMatch

def Span.Touches (span : Span) (device : DeviceId) : Prop :=
  span.source.device = device ∨ span.target.device = device

namespace Placement

variable (placement : Placement)

/-- The binding in effect for an implementation, given the binding that the scenario
wants and the implementation's own one.  What the scenario wants is carried over to
the place of its target, and the own binding is absent or says the same. -/
def Agrees (wanted own effective : Option Binding) : Prop :=
  match wanted with
  | none => effective = own
  | some wanted => ∃ target, placement.get? wanted.target = some target ∧
      (own = none ∨ own = some ⟨wanted.logicalDevice, target⟩) ∧
      effective = some ⟨wanted.logicalDevice, target⟩

/-- The pair of endpoints is linked in the scenario, one of them on the device and one
on the device that is placed on the target. -/
def LinksTo (scenario : Wiring) (device target : DeviceId) (ends : Span) : Prop :=
  ∃ bothWays, scenario.Linked ends bothWays ∧ ends.Touches device ∧
    ∃ peer, placement.get? peer = some target ∧ ends.Touches peer

variable {placement} in
/-- A pair of endpoints does not link anything to a device that nothing is placed on. -/
theorem not_linksTo {scenario : Wiring} {device target : DeviceId} {ends : Span}
    (hfree : ∀ entry ∈ placement.entries, entry.2 ≠ target) :
    ¬ placement.LinksTo scenario device target ends := by
  rintro ⟨-, -, -, peer, hpeer, -⟩
  exact hfree _ ((SortedMap.get?_eq_some_iff _ _ _).mp hpeer) rfl

/-- The tag set is available to a scenario device on its place towards the target.
Where the scenario links the two, this is what is delivered to it, and else what the
setup links between the two devices offer. -/
def Available (scenario setup : Wiring) (device place target : DeviceId) (tags : TagSet) : Prop :=
  (∃ ends, placement.LinksTo scenario device target ends ∧
    placement.Conveys scenario setup ends tags) ∨
  ((∀ ends, ¬ placement.LinksTo scenario device target ends) ∧
    ∃ span : Span, span.source.device = place ∧ span.target.device = target ∧
      ∃ link ∈ setup.get span, tags ∈ link.alternatives)

end Placement

namespace Catalog

variable (catalog : Catalog)

/-- An attachment on the place of a scenario device could serve one of the device's
capabilities. -/
structure Candidate (placement : Placement) (service : Service) : Prop where
  placed : placement.get? service.scenarioDevice = some service.device
  wanted : (catalog.deviceAttachments service.scenarioDevice).get? service.attr =
    some service.scenarioAttachment
  offered : service.implementation ∈ (catalog.deviceAttachments service.device).values
  implements : catalog.isSubtype (catalog.attachment service.implementation).capability
    (catalog.attachment service.scenarioAttachment).capability

/-- Each capability of a placed device has exactly one implementation on its place. -/
def Implemented (placement : Placement) : Prop :=
  ∀ device place, placement.get? device = some place → ∀ attr wanted,
    (catalog.deviceAttachments device).get? attr = some wanted →
      ∃! implementation, implementation ∈ (catalog.deviceAttachments place).values ∧
        catalog.isSubtype (catalog.attachment implementation).capability
          (catalog.attachment wanted).capability

/-- The binding in effect for an implementation that serves the scenario. -/
def BindsTo (scenario setup : ContainerId) (placement : Placement) (service : Service)
    (effective : Option Binding) : Prop :=
  placement.Agrees
    ((Session.activeBinding catalog scenario service.scenarioDevice service.attr).run
      Session.fresh).1
    ((Session.activeBinding catalog setup service.device
      (catalog.attachment service.implementation).attr).run Session.fresh).1
    effective

/-- The bound device offers everything that the logical device asks for. -/
def Equips (service : Service) (binding : Binding) : Prop :=
  ∃ logicalDevice,
    (catalog.visibleLogicalDevices (catalog.attachment service.implementation).capability).get?
      binding.logicalDevice = some logicalDevice ∧
    ∀ asked ∈ (catalog.logicalDeviceAttachments logicalDevice).values,
      ∃ offered ∈ (catalog.deviceAttachments binding.target).values,
        catalog.isSubtype (catalog.attachment offered).capability
          (catalog.attachment asked).capability

/-- What is available towards the bound device is compatible with the requirement of
the logical device. -/
def Connects (placement : Placement) (scenario setup : Wiring) (service : Service)
    (binding : Binding) : Prop :=
  ∃ requirements requirement, ∃ available : Connection,
    ((Session.requirementsOf catalog (catalog.attachment service.implementation).capability).run.run
      Session.fresh).1 = .ok requirements ∧
    requirements.get? binding.logicalDevice = some requirement ∧
    (∀ tags, tags ∈ available.alternatives ↔ placement.Available scenario setup
      service.scenarioDevice service.device binding.target tags) ∧
    available.compatible requirement

/-- The placement works out for the declarations and the two reduced wirings. -/
structure Applicable (scenario setup : ContainerId) (scenarioWiring setupWiring : Wiring)
    (placement : Placement) : Prop where
  implemented : catalog.Implemented placement
  agreed : ∀ service, catalog.Candidate placement service →
    ∃ effective, catalog.BindsTo scenario setup placement service effective
  equipped : ∀ service binding, catalog.Candidate placement service →
    catalog.BindsTo scenario setup placement service (some binding) →
      catalog.Equips service binding
  delivered : ∀ ends bothWays, scenarioWiring.Linked ends bothWays →
    ∃ tags, placement.Conveys scenarioWiring setupWiring ends tags
  connected : ∀ service binding, catalog.Candidate placement service →
    catalog.BindsTo scenario setup placement service (some binding) →
      catalog.Connects placement scenarioWiring setupWiring service binding

variable {catalog} in
/-- What the scenario does not link to the bound device, the setup links directly. -/
theorem Applicable.exists_direct {scenario setup : ContainerId}
    {scenarioWiring setupWiring : Wiring} {placement : Placement} {service : Service}
    {binding : Binding}
    (happlies : catalog.Applicable scenario setup scenarioWiring setupWiring placement)
    (hcandidate : catalog.Candidate placement service)
    (hbinds : catalog.BindsTo scenario setup placement service (some binding))
    (hunlinked : ∀ ends,
      ¬ placement.LinksTo scenarioWiring service.scenarioDevice binding.target ends) :
    ∃ span : Span, span.source.device = service.device ∧
      span.target.device = binding.target ∧ setupWiring.get span ≠ [] := by
  obtain ⟨_, _, available, -, -, havailable, -⟩ :=
    happlies.connected service binding hcandidate hbinds
  obtain ⟨tags, htags⟩ := List.exists_mem_of_ne_nil _ available.alternatives_ne_nil
  rcases (havailable tags).mp htags with ⟨ends, hlinks, -⟩ | ⟨-, span, hsource, htarget, hlink⟩
  · exact absurd hlinks (hunlinked ends)
  · obtain ⟨link, hlink, -⟩ := hlink
    exact ⟨span, hsource, htarget, List.ne_nil_of_mem hlink⟩

end Catalog

end LabMatch
