import LabMatch.Capability.Variant
import LabMatch.Proofs.Catalog.Ancestry
import LabMatch.Wiring.Reduction

/-!
# Resolving without notes

Every question that a session takes notes on has an answer that only depends on
the catalogue.  The functions of this module compute it directly, in the same
steps but without looking anything up.
-/

namespace LabMatch.Catalog

variable (catalog : Catalog)

/-- The wiring that a container makes of the one it inherits, if it has a parent. -/
def settleWiring (container : ContainerId) : Option Wiring → Wiring × List Warning
  | none => (catalog.ownWiring container, [])
  | some inherited =>
    if (catalog.container container).devices.isEmpty then (inherited, [])
    else if catalog.declaresLinks container then (catalog.ownWiring container, [])
    else (catalog.movedWiring inherited (catalog.visibleDevices container),
      catalog.takeoverWarnings container inherited)

def absolute (container : ContainerId) : Wiring × List Warning :=
  catalog.settleWiring container
    (match hparent : catalog.parent? container with
    | some parent =>
      have := parent?_lt hparent
      some (absolute parent).1
    | none => none)
termination_by container.index

def requirements (capability : CapabilityId) :
    Except ResolveError (Requirements × List Warning) := do
  let inherited ← match hparent : catalog.parent? capability with
    | some parent =>
      have := parent?_lt hparent
      Prod.fst <$> requirements parent
    | none => .ok SortedMap.empty
  (catalog.requirementsFor capability inherited
    (catalog.visibleLogicalDevices capability).entries).mapError ResolveError.connection
termination_by capability.index

def variantLabel (method logicalDevice : String) (available : Connection)
    (capability : CapabilityId) : Except ResolveError String := do
  let unclear :=
    ResolveError.unclearVariant (catalog.capability capability).name method logicalDevice
  let candidates ← (applicableVariants logicalDevice available
    ((catalog.capability capability).variantsOf method)).mapError ResolveError.connection
  match Choice.mostSpecific candidates with
  | .one label _ => .ok label
  | .ambiguous labels => .error (unclear labels)
  | .nothing =>
    match hparent : catalog.parent? capability with
    | some parent =>
      have := parent?_lt hparent
      variantLabel method logicalDevice available parent
    | none => .error (unclear [])
termination_by capability.index

def visibleDeviceNamed? (container : ContainerId) (name : String) : Option DeviceId :=
  (catalog.visibleDevices container).find? fun id => (catalog.device id).name == name

def activeBinding (container : ContainerId) (device : DeviceId) (attr : String) :
    Option Binding :=
  (catalog.declaredBinding? device attr).map fun declared =>
    { declared with
      target := (catalog.visibleDeviceNamed? container (catalog.device declared.target).name).getD
        declared.target }

def reduceBy (container : ContainerId) (device : DeviceId) (reduced : ReducedWiring)
    (attachment : String × AttachmentId) : Except ResolveError ReducedWiring :=
  match catalog.activeBinding container device attachment.1 with
  | none => .ok reduced
  | some binding => do
    let requirements ←
      Prod.fst <$> catalog.requirements (catalog.attachment attachment.2).capability
    match requirements.get? binding.logicalDevice with
    | none => .ok reduced
    | some requirement =>
      let (links, warnings) ← catalog.reducePair reduced.links
        ⟨catalog.devicePath device ++ "." ++ attachment.1, device, binding.target, requirement⟩
      return ⟨links, reduced.warnings ++ warnings⟩

/-- The given links of a container, reduced by everything attached to its devices. -/
def reduceLinks (container : ContainerId) (links : Wiring) : Except ResolveError ReducedWiring :=
  (catalog.visibleDevices container).foldlM
    (fun reduced device =>
      (catalog.deviceAttachments device).entries.foldlM (catalog.reduceBy container device) reduced)
    ⟨links, (catalog.absolute container).2⟩

def reduced (container : ContainerId) : Except ResolveError ReducedWiring :=
  (catalog.absolute container).1.expand.mapError ResolveError.connection >>=
    catalog.reduceLinks container

/-- A container settles its wiring on that of its parent. -/
theorem absolute_eq (container : ContainerId) :
    catalog.absolute container = catalog.settleWiring container
      ((catalog.parent? container).map fun parent => (catalog.absolute parent).1) := by
  rw [absolute]
  congr 1
  split <;> simp [*]

def inheritedRequirements (capability : CapabilityId) : Except ResolveError Requirements :=
  match catalog.parent? capability with
  | some parent => Prod.fst <$> catalog.requirements parent
  | none => .ok SortedMap.empty

def ownRequirements (capability : CapabilityId) (inherited : Requirements) :
    Except ResolveError (Requirements × List Warning) :=
  (catalog.requirementsFor capability inherited
    (catalog.visibleLogicalDevices capability).entries).mapError ResolveError.connection

/-- A capability type fills in its requirements on top of those of its parent. -/
theorem requirements_eq (capability : CapabilityId) :
    catalog.requirements capability =
      catalog.inheritedRequirements capability >>= catalog.ownRequirements capability := by
  rw [requirements, inheritedRequirements]
  split <;> simp [*] <;> rfl

end LabMatch.Catalog
