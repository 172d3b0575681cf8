import LabMatch.Catalog.Ancestry
import LabMatch.Catalog.Error

/-!
# Declaring entities

Entities are declared one after the other.  Rules that can be checked on the
spot are: identifiers must have been handed out, names are unique in their
scope, parents come first and are of the same kind, links and bindings stay
within a container.  A refused declaration changes nothing.

The names of logical devices used by bindings and variant conditions are only
checked by `Catalog.complete`, when everything is declared.
-/

namespace LabMatch

inductive Declaration
  | container (kind : ContainerKind) (name : String)
  | extendContainer (child parent : ContainerId)
  | device (container : ContainerId) (name : String)
  | extendDevice (child parent : DeviceId)
  | capability (name : String)
  | extendCapability (child parent : CapabilityId)
  | logicalDevice (capability : CapabilityId) (name : String)
  | extendLogicalDevice (child parent : LogicalDeviceId)
  | require (logicalDevice : LogicalDeviceId) (connection : Connection)
  | variant (capability : CapabilityId) (method label : String) (conditions : List Condition)
  | attach (owner : Owner) (attr : String) (capability : CapabilityId)
  | bind (attachment : AttachmentId) (logicalDevice : String) (target : DeviceId)
  | connect (source target : Endpoint) (connection : Connection) (oneWay : Bool)

namespace Catalog

/-- Requires that the identifier was handed out. -/
def known (catalog : Catalog) {family : Family} (id : Id family) :
    Except DeclarationError Unit :=
  if id.index < catalog.count family then .ok () else .error (.unknownId family id.index)

/-- Requires that nothing in the scope has the name yet. -/
def fresh (taken : Bool) (thing : NamedThing) (name scope : String) :
    Except DeclarationError Unit :=
  if taken then .error (.duplicateName thing name scope) else .ok ()

/-- The scope of names that are unique among all declarations. -/
def globalScope : String := "the declaration graph"

def declareContainer (catalog : Catalog) (kind : ContainerKind) (name : String) :
    Except DeclarationError (ContainerId × Catalog) := do
  let thing := match kind with
    | .scenario => NamedThing.scenario
    | .setup => NamedThing.setup
  fresh (catalog.containerNamed? name).isSome thing name globalScope
  return (⟨catalog.containers.length⟩,
    { catalog with containers := catalog.containers ++ [⟨kind, name, [], []⟩] })

def extendContainer (catalog : Catalog) (child parent : ContainerId) :
    Except DeclarationError Catalog := do
  catalog.known child
  catalog.known parent
  let childEntry := catalog.container child
  let parentEntry := catalog.container parent
  if ¬ parent < child then throw (.parentOrder childEntry.name parentEntry.name)
  if childEntry.kind ≠ parentEntry.kind then
    throw (.kindMismatch (childEntry.kind.label ++ " `" ++ childEntry.name ++ "`")
      (parentEntry.kind.label ++ " `" ++ parentEntry.name ++ "`"))
  return { catalog with
    containers := catalog.containers.modify child.index fun entry =>
      { entry with parents := entry.parents ++ [parent] } }

def declareDevice (catalog : Catalog) (container : ContainerId) (name : String) :
    Except DeclarationError (DeviceId × Catalog) := do
  catalog.known container
  fresh (catalog.deviceNamed? container name).isSome .device name (catalog.container container).name
  let id : DeviceId := ⟨catalog.devices.length⟩
  return (id, { catalog with
    devices := catalog.devices ++ [⟨name, container, [], [], []⟩]
    containers := catalog.containers.modify container.index fun entry =>
      { entry with devices := entry.devices ++ [id] } })

def kindOfDevice (catalog : Catalog) (device : DeviceId) : ContainerKind :=
  (catalog.container (catalog.device device).owner).kind

def extendDevice (catalog : Catalog) (child parent : DeviceId) :
    Except DeclarationError Catalog := do
  catalog.known child
  catalog.known parent
  let childPath := catalog.devicePath child
  let parentPath := catalog.devicePath parent
  if ¬ parent < child then throw (.parentOrder childPath parentPath)
  if catalog.kindOfDevice child ≠ catalog.kindOfDevice parent then
    throw (.kindMismatch ((catalog.kindOfDevice child).label ++ " device " ++ childPath)
      ((catalog.kindOfDevice parent).label ++ " device " ++ parentPath))
  return { catalog with
    devices := catalog.devices.modify child.index fun entry =>
      { entry with parents := entry.parents ++ [parent] } }

def declareCapability (catalog : Catalog) (name : String) :
    Except DeclarationError (CapabilityId × Catalog) := do
  fresh (catalog.capabilityNamed? name).isSome .capability name globalScope
  return (⟨catalog.capabilities.length⟩,
    { catalog with capabilities := catalog.capabilities ++ [⟨name, [], [], []⟩] })

def extendCapability (catalog : Catalog) (child parent : CapabilityId) :
    Except DeclarationError Catalog := do
  catalog.known child
  catalog.known parent
  if ¬ parent < child then
    throw (.parentOrder (catalog.capability child).name (catalog.capability parent).name)
  return { catalog with
    capabilities := catalog.capabilities.modify child.index fun entry =>
      { entry with parents := entry.parents ++ [parent] } }

def declareLogicalDevice (catalog : Catalog) (capability : CapabilityId) (name : String) :
    Except DeclarationError (LogicalDeviceId × Catalog) := do
  catalog.known capability
  fresh (catalog.logicalDeviceNamed? capability name).isSome .logicalDevice name
    (catalog.capability capability).name
  let id : LogicalDeviceId := ⟨catalog.logicalDevices.length⟩
  return (id, { catalog with
    logicalDevices := catalog.logicalDevices ++ [⟨name, capability, [], [], none⟩]
    capabilities := catalog.capabilities.modify capability.index fun entry =>
      { entry with logicalDevices := entry.logicalDevices ++ [id] } })

def extendLogicalDevice (catalog : Catalog) (child parent : LogicalDeviceId) :
    Except DeclarationError Catalog := do
  catalog.known child
  catalog.known parent
  if ¬ parent < child then
    throw (.parentOrder (catalog.logicalDevicePath child) (catalog.logicalDevicePath parent))
  return { catalog with
    logicalDevices := catalog.logicalDevices.modify child.index fun entry =>
      { entry with parents := entry.parents ++ [parent] } }

/-- Sets what a logical device explicitly asks for. -/
def require (catalog : Catalog) (logicalDevice : LogicalDeviceId) (connection : Connection) :
    Except DeclarationError Catalog := do
  catalog.known logicalDevice
  return { catalog with
    logicalDevices := catalog.logicalDevices.modify logicalDevice.index fun entry =>
      { entry with requirement := some connection } }

/-- The methods with one more variant of the named method, which is added if it
is new. -/
def addVariant (method : String) (variant : Variant) : List Method → List Method
  | [] => [⟨method, [variant]⟩]
  | first :: others =>
    if first.name = method then { first with variants := first.variants ++ [variant] } :: others
    else first :: addVariant method variant others

def declareVariant (catalog : Catalog) (capability : CapabilityId) (method label : String)
    (conditions : List Condition) : Except DeclarationError Catalog := do
  catalog.known capability
  let entry := catalog.capability capability
  fresh ((entry.variantsOf method).any fun variant => variant.label == label) .variant label
    (entry.name ++ "::" ++ method)
  return { catalog with
    capabilities := catalog.capabilities.modify capability.index fun entry =>
      { entry with methods := addVariant method ⟨label, conditions⟩ entry.methods } }

/-- Requires that the owner was declared. -/
def knownOwner (catalog : Catalog) : Owner → Except DeclarationError Unit
  | .device id => catalog.known id
  | .logicalDevice id => catalog.known id

/-- What is attached to the owner itself. -/
def attachmentsOf (catalog : Catalog) : Owner → List AttachmentId
  | .device id => (catalog.device id).attachments
  | .logicalDevice id => (catalog.logicalDevice id).attachments

def attach (catalog : Catalog) (owner : Owner) (attr : String) (capability : CapabilityId) :
    Except DeclarationError (AttachmentId × Catalog) := do
  catalog.known capability
  catalog.knownOwner owner
  let taken := (catalog.attachmentsOf owner).any fun id =>
    (catalog.attachment id).attr == attr
  fresh taken .attr attr (catalog.ownerPath owner)
  let id : AttachmentId := ⟨catalog.attachments.length⟩
  let attachments := catalog.attachments ++ [⟨attr, owner, capability, none⟩]
  match owner with
  | .device device =>
    return (id, { catalog with
      attachments
      devices := catalog.devices.modify device.index fun entry =>
        { entry with attachments := entry.attachments ++ [id] } })
  | .logicalDevice logicalDevice =>
    return (id, { catalog with
      attachments
      logicalDevices := catalog.logicalDevices.modify logicalDevice.index fun entry =>
        { entry with attachments := entry.attachments ++ [id] } })

/-- Binds a logical device of an attachment to a real device. -/
def bind (catalog : Catalog) (attachment : AttachmentId) (logicalDevice : String)
    (target : DeviceId) : Except DeclarationError Catalog := do
  catalog.known attachment
  catalog.known target
  let path := catalog.attachmentPath attachment
  match (catalog.attachment attachment).owner with
  | .logicalDevice _ => throw (.bindingOnLogicalDevice path)
  | .device carrier =>
    if carrier = target then throw (.bindingToItself path)
    if (catalog.device carrier).owner ≠ (catalog.device target).owner then
      throw (.bindingAcrossContainers path (catalog.devicePath target))
    return { catalog with
      attachments := catalog.attachments.modify attachment.index fun entry =>
        { entry with binding := some ⟨logicalDevice, target⟩ } }

/-- Declares a link on the device of its source. -/
def connect (catalog : Catalog) (source target : Endpoint) (connection : Connection)
    (oneWay : Bool) : Except DeclarationError Catalog := do
  catalog.known source.device
  catalog.known target.device
  if source.device = target.device then
    throw (.connectionToItself (catalog.devicePath source.device))
  if (catalog.device source.device).owner ≠ (catalog.device target.device).owner then
    throw (.connectionAcrossContainers (catalog.devicePath source.device)
      (catalog.devicePath target.device))
  if source.node.isEmpty then throw (.emptyNodeName (catalog.devicePath source.device))
  if target.node.isEmpty then throw (.emptyNodeName (catalog.devicePath target.device))
  return { catalog with
    devices := catalog.devices.modify source.device.index fun entry =>
      { entry with
        links := entry.links ++ [⟨source.node, target.device, target.node, connection, oneWay⟩] } }

/-- Carries out a declaration.  The answer is the position of the entity that it
introduces, if any. -/
def declare (catalog : Catalog) :
    Declaration → Except DeclarationError (Option Nat × Catalog)
  | .container kind name => introduced (catalog.declareContainer kind name)
  | .extendContainer child parent => changed (catalog.extendContainer child parent)
  | .device container name => introduced (catalog.declareDevice container name)
  | .extendDevice child parent => changed (catalog.extendDevice child parent)
  | .capability name => introduced (catalog.declareCapability name)
  | .extendCapability child parent => changed (catalog.extendCapability child parent)
  | .logicalDevice capability name => introduced (catalog.declareLogicalDevice capability name)
  | .extendLogicalDevice child parent => changed (catalog.extendLogicalDevice child parent)
  | .require logicalDevice connection => changed (catalog.require logicalDevice connection)
  | .variant capability method label conditions =>
    changed (catalog.declareVariant capability method label conditions)
  | .attach owner attr capability => introduced (catalog.attach owner attr capability)
  | .bind attachment logicalDevice target =>
    changed (catalog.bind attachment logicalDevice target)
  | .connect source target connection oneWay =>
    changed (catalog.connect source target connection oneWay)
where
  /-- The answer of a declaration that introduces an entity. -/
  introduced {family : Family} (outcome : Except DeclarationError (Id family × Catalog)) :
      Except DeclarationError (Option Nat × Catalog) :=
    outcome.map fun made => (some made.1.index, made.2)
  /-- The answer of a declaration that only changes entities. -/
  changed (outcome : Except DeclarationError Catalog) :
      Except DeclarationError (Option Nat × Catalog) :=
    outcome.map fun catalog => (none, catalog)

/-- Whether the capability type, or a type of its ancestry, declares a logical
device of that name. -/
def hasLogicalDevice (catalog : Catalog) (capability : CapabilityId) (name : String) : Bool :=
  (catalog.ancestry capability).any fun id => (catalog.logicalDeviceNamed? id name).isSome

/-- The logical devices that are referred to by name: those of the bindings, then
those of the variant conditions, each with the capability type they must belong to. -/
def referredLogicalDevices (catalog : Catalog) : List (CapabilityId × String) :=
  (catalog.attachments.filterMap fun attachment =>
    attachment.binding.map fun binding => (attachment.capability, binding.logicalDevice)) ++
  (catalog.ids .capability).flatMap fun id =>
    (catalog.capability id).methods.flatMap fun method =>
      method.variants.flatMap fun variant =>
        variant.conditions.map fun condition => (id, condition.logicalDevice)

/-- Accepts a catalogue whose references by name all lead somewhere. -/
def complete (catalog : Catalog) : Except DeclarationError Catalog :=
  match catalog.referredLogicalDevices.find? fun reference =>
    !catalog.hasLogicalDevice reference.1 reference.2 with
  | some reference =>
    .error (.unknownLogicalDevice (catalog.capability reference.1).name reference.2)
  | none => .ok catalog

end Catalog

end LabMatch
