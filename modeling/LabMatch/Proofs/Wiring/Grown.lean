import LabMatch.Proofs.Capability.Bound
import LabMatch.Proofs.Catalog.Grown
import LabMatch.Proofs.Traversal
import LabMatch.Proofs.Wiring.Attached
import Mathlib.Data.List.Find

/-!
# Wiring of a catalogue that has grown

Whatever the later catalogue adds, an earlier device keeps the bindings in effect, an
earlier capability type keeps its requirements, and an earlier container keeps its
absolute and its reduced wiring, with all the warnings raised on the way or with the error
that ends it.
-/

namespace LabMatch

/-- Renaming only looks at the devices of the wiring. -/
theorem Wiring.rename_congr {wiring : Wiring} {newName newName' : DeviceId → Option DeviceId}
    (hwiring : wiring.NoEmptyEntry)
    (hsame : ∀ device, wiring.Mentions device → newName' device = newName device) :
    wiring.rename newName' = wiring.rename newName := by
  rw [rename_eq, rename_eq]
  apply List.foldl_ext
  intro renamed entry hentry
  have hne := hwiring.get_ne_nil hentry
  rw [renameEntry, renameEntry, renameSpan, renameSpan, hsame _ (mentions_source hne),
    hsame _ (mentions_target hne)]

namespace Catalog

variable {catalog later : Catalog}

namespace Declared

variable (hdeclared : Declared catalog)

include hdeclared

theorem has_of_declaredBinding? {device : DeviceId} {attr : String} {binding : Binding}
    (hbinding : catalog.declaredBinding? device attr = some binding) :
    catalog.Has binding.target := by
  obtain ⟨-, -, attachment, -, -, hdeclares⟩ := exists_of_declaredBinding? hbinding
  exact hdeclared.lt_count_of_stores (.target hdeclares)

/-- Bindings in effect do not lead out of the catalogue. -/
theorem has_of_activeBinding {container : ContainerId} {device : DeviceId} {attr : String}
    {binding : Binding} (hbinding : catalog.activeBinding container device attr = some binding) :
    catalog.Has binding.target := by
  obtain ⟨declared, hdeclares, rfl⟩ := Option.map_eq_some_iff.mp hbinding
  cases hnamed : catalog.visibleDeviceNamed? container (catalog.device declared.target).name with
  | none => exact hdeclared.has_of_declaredBinding? hdeclares
  | some device => exact hdeclared.has_of_mem_visibleDevices (List.mem_of_find?_eq_some hnamed)

theorem has_of_mentions {container : ContainerId} {wiring : Wiring}
    (hwithin : wiring.IsWithin (catalog.visibleDevices container)) {device : DeviceId}
    (hmentions : wiring.Mentions device) : catalog.Has device :=
  hdeclared.has_of_mem_visibleDevices (hwithin.mentions device hmentions)

end Declared

namespace GrowsInto

variable (hgrows : catalog.GrowsInto later) (hdeclared : Declared catalog)

include hgrows hdeclared

/-! ## Bindings -/

theorem declaredBinding?_eq {device : DeviceId} (hdevice : catalog.Has device) (attr : String) :
    later.declaredBinding? device attr = catalog.declaredBinding? device attr := by
  have hattachments : ∀ above ∈ catalog.ancestry device,
      (later.device above).attachments.map later.attachment =
        (catalog.device above).attachments.map catalog.attachment := by
    intro above habove
    rw [hgrows.device_eq (has_of_mem_ancestry hdevice habove)]
    apply List.map_congr_left
    intro attachment hattachment
    exact hgrows.attachment_eq (hdeclared.lt_count_of_stores (stores_of_device hattachment))
  rw [declaredBinding?, declaredBinding?, hgrows.ancestry_eq hdevice]
  generalize catalog.ancestry device = levels at hattachments
  induction levels with
  | nil => rfl
  | cons above others ih =>
    obtain ⟨habove, hothers⟩ := List.forall_mem_cons.mp hattachments
    rw [List.findSome?_cons, List.findSome?_cons, habove, ih hothers]

theorem visibleDeviceNamed?_eq {container : ContainerId} (hcontainer : catalog.Has container)
    (name : String) :
    later.visibleDeviceNamed? container name = catalog.visibleDeviceNamed? container name := by
  rw [visibleDeviceNamed?, visibleDeviceNamed?, hgrows.visibleDevices_eq hdeclared hcontainer]
  apply List.find?_congr
  intro device hdevice
  rw [hgrows.device_eq (hdeclared.has_of_mem_visibleDevices hdevice)]

theorem activeBinding_eq {container : ContainerId} (hcontainer : catalog.Has container)
    {device : DeviceId} (hdevice : catalog.Has device) (attr : String) :
    later.activeBinding container device attr = catalog.activeBinding container device attr := by
  rw [activeBinding, activeBinding, hgrows.declaredBinding?_eq hdeclared hdevice]
  cases hbinding : catalog.declaredBinding? device attr with
  | none => rfl
  | some declared =>
    rw [Option.map_some, Option.map_some,
      hgrows.device_eq (hdeclared.has_of_declaredBinding? hbinding),
      hgrows.visibleDeviceNamed?_eq hdeclared hcontainer]

/-! ## Requirements -/

omit hdeclared in
theorem requirementFor_eq {capability : CapabilityId} (hcapability : catalog.Has capability)
    (inherited : Requirements) {logicalDevice : String × LogicalDeviceId}
    (hlogicalDevice : catalog.Has logicalDevice.2) :
    later.requirementFor capability inherited logicalDevice =
      catalog.requirementFor capability inherited logicalDevice := by
  have haccepted : later.acceptedConnections capability logicalDevice.1 =
      catalog.acceptedConnections capability logicalDevice.1 := by
    rw [acceptedConnections, acceptedConnections, hgrows.capability_eq hcapability]
  rw [requirementFor, requirementFor, hgrows.logicalDevice_eq hlogicalDevice,
    madeUpRequirement, madeUpRequirement, haccepted, hgrows.capability_eq hcapability]

theorem ownRequirements_eq {capability : CapabilityId} (hcapability : catalog.Has capability) :
    later.ownRequirements capability = catalog.ownRequirements capability := by
  funext inherited
  rw [ownRequirements, ownRequirements, hgrows.visibleLogicalDevices_eq hdeclared hcapability,
    requirementsFor, requirementsFor]
  congr 1
  apply foldlM_congr
  intro gathered logicalDevice hlogicalDevice
  rw [hgrows.requirementFor_eq hcapability inherited
    (hdeclared.has_of_mem_visibleLogicalDevices hlogicalDevice)]

theorem requirements_eq {capability : CapabilityId} (hcapability : catalog.Has capability) :
    later.requirements capability = catalog.requirements capability := by
  induction capability using catalog.parent_induction with
  | step capability ih =>
    have hinherited : later.inheritedRequirements capability =
        catalog.inheritedRequirements capability := by
      rw [inheritedRequirements, inheritedRequirements, hgrows.parent?_eq hcapability]
      cases hparent : catalog.parent? capability with
      | none => rfl
      | some parent =>
        dsimp only
        rw [ih parent hparent (has_of_parent? hcapability hparent)]
    rw [Catalog.requirements_eq, Catalog.requirements_eq, hinherited,
      hgrows.ownRequirements_eq hdeclared hcapability]

/-! ## Absolute wiring -/

omit hdeclared in
theorem declaredLinks_eq {device : DeviceId} (hdevice : catalog.Has device) :
    later.declaredLinks device = catalog.declaredLinks device := by
  rw [declaredLinks, declaredLinks, hgrows.device_eq hdevice]

theorem ownWiring_eq {container : ContainerId} (hcontainer : catalog.Has container) :
    later.ownWiring container = catalog.ownWiring container := by
  rw [ownWiring, ownWiring, hgrows.container_eq hcontainer]
  congr 1
  apply List.flatMap_congr
  intro device hdevice
  exact hgrows.declaredLinks_eq (hdeclared.lt_count_of_stores (.device hdevice))

theorem declaresLinks_eq {container : ContainerId} (hcontainer : catalog.Has container) :
    later.declaresLinks container = catalog.declaresLinks container := by
  rw [declaresLinks, declaresLinks, hgrows.container_eq hcontainer]
  apply any_congr
  intro device hdevice
  rw [hgrows.device_eq (hdeclared.lt_count_of_stores (.device hdevice))]

omit hdeclared in
theorem movedWiring_eq {wiring : Wiring} (hwiring : wiring.NoEmptyEntry)
    (hmentions : ∀ device, wiring.Mentions device → catalog.Has device) {devices : List DeviceId}
    (hdevices : ∀ device ∈ devices, catalog.Has device) :
    later.movedWiring wiring devices = catalog.movedWiring wiring devices := by
  apply Wiring.rename_congr hwiring
  intro device hdevice
  apply List.find?_congr
  intro candidate hcandidate
  rw [hgrows.device_eq (hdevices candidate hcandidate), hgrows.device_eq (hmentions device hdevice)]

theorem absolute_eq {container : ContainerId} (hcontainer : catalog.Has container) :
    later.absolute container = catalog.absolute container := by
  induction container using catalog.parent_induction with
  | step container ih =>
    rw [Catalog.absolute_eq, Catalog.absolute_eq, hgrows.parent?_eq hcontainer]
    cases hparent : catalog.parent? container with
    | none =>
      rw [Option.map_none, Option.map_none, settleWiring, settleWiring,
        hgrows.ownWiring_eq hdeclared hcontainer]
    | some parent =>
      have hwithin := isWithin_absolute hdeclared.wellLaidOut parent
      rw [Option.map_some, Option.map_some, ih parent hparent (has_of_parent? hcontainer hparent),
        settleWiring, settleWiring, hgrows.container_eq hcontainer,
        hgrows.declaresLinks_eq hdeclared hcontainer, hgrows.ownWiring_eq hdeclared hcontainer,
        hgrows.visibleDevices_eq hdeclared hcontainer,
        hgrows.movedWiring_eq hwithin.noEmptyEntry
          (fun device hmentions => hdeclared.has_of_mentions hwithin hmentions)
          fun device hdevice => hdeclared.has_of_mem_visibleDevices hdevice,
        takeoverWarnings, takeoverWarnings, hgrows.container_eq hcontainer]

/-! ## Reduced wiring -/

theorem reducePair_eq (wiring : Wiring) {demand : PairDemand}
    (hsource : catalog.Has demand.source) (htarget : catalog.Has demand.target) :
    later.reducePair wiring demand = catalog.reducePair wiring demand := by
  have hwarning : later.removalWarning demand = catalog.removalWarning demand := by
    funext span
    rw [removalWarning, removalWarning, hgrows.devicePath_eq hdeclared hsource,
      hgrows.devicePath_eq hdeclared htarget]
  rw [reducePair, reducePair, hwarning, hgrows.devicePath_eq hdeclared hsource,
    hgrows.devicePath_eq hdeclared htarget]

theorem reduceBy_eq {container : ContainerId} (hcontainer : catalog.Has container)
    {device : DeviceId} (hdevice : catalog.Has device) (reduced : ReducedWiring)
    {attachment : String × AttachmentId} (hattachment : catalog.Has attachment.2) :
    later.reduceBy container device reduced attachment =
      catalog.reduceBy container device reduced attachment := by
  rw [reduceBy, reduceBy, hgrows.activeBinding_eq hdeclared hcontainer hdevice]
  cases hbinding : catalog.activeBinding container device attachment.1 with
  | none => rfl
  | some binding =>
    dsimp only
    rw [hgrows.attachment_eq hattachment,
      hgrows.requirements_eq hdeclared (hdeclared.has_capability hattachment)]
    apply bind_congr_of_eq_ok
    intro requirements _
    cases requirements.get? binding.logicalDevice with
    | none => rfl
    | some requirement =>
      dsimp only
      rw [hgrows.reducePair_eq hdeclared _ hdevice (hdeclared.has_of_activeBinding hbinding),
        hgrows.devicePath_eq hdeclared hdevice]

theorem reduceLinks_eq {container : ContainerId} (hcontainer : catalog.Has container)
    (links : Wiring) :
    later.reduceLinks container links = catalog.reduceLinks container links := by
  rw [reduceLinks, reduceLinks, hgrows.visibleDevices_eq hdeclared hcontainer,
    hgrows.absolute_eq hdeclared hcontainer]
  apply foldlM_congr
  intro reduced device hvisible
  have hdevice := hdeclared.has_of_mem_visibleDevices hvisible
  rw [hgrows.deviceAttachments_eq hdeclared hdevice]
  apply foldlM_congr
  intro reduced attachment hattachment
  exact hgrows.reduceBy_eq hdeclared hcontainer hdevice reduced
    (hdeclared.has_of_mem_deviceAttachments hattachment)

/-- Containers of the catalogue keep their reduced links. -/
theorem reduced_eq {container : ContainerId} (hcontainer : catalog.Has container) :
    later.reduced container = catalog.reduced container := by
  rw [reduced, reduced, hgrows.absolute_eq hdeclared hcontainer]
  exact bind_congr_of_eq_ok fun links _ => hgrows.reduceLinks_eq hdeclared hcontainer links

end GrowsInto

end Catalog

end LabMatch
