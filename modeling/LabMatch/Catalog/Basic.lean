import LabMatch.Connection.Basic

/-!
# The catalogue of declarations

A catalogue holds everything that was declared: scenarios and setups with their
devices, capability types with their logical devices and method variants, and
the attachments of capability types to devices and logical devices.  Entities
refer to each other by identifiers, which are positions in the lists of the
catalogue.

Declarations are passive here.  Looking up an identifier that was never handed
out gives an entity without any content.
-/

namespace LabMatch

/-- Whether a container describes an abstract test or a concrete environment. -/
inductive ContainerKind
  | scenario
  | setup
deriving DecidableEq, Inhabited

def ContainerKind.label : ContainerKind → String
  | .scenario => "scenario"
  | .setup => "setup"

/-- A scenario or a setup. -/
structure Container where
  kind : ContainerKind
  name : String
  parents : List ContainerId
  /-- The devices declared on the container itself. -/
  devices : List DeviceId
deriving Inhabited

/-- A link declared on a device. -/
structure DeclaredLink where
  /-- Node of the declaring device. -/
  node : String
  peer : DeviceId
  /-- Node of the peer device. -/
  peerNode : String
  connection : Connection
  /-- Whether the link only works from the declaring device. -/
  oneWay : Bool
deriving Inhabited

/-- A physical device of a scenario or setup. -/
structure Device where
  name : String
  owner : ContainerId
  parents : List DeviceId
  attachments : List AttachmentId
  links : List DeclaredLink
deriving Inhabited

/-- What a capability type is attached to. -/
inductive Owner
  | device (id : DeviceId)
  | logicalDevice (id : LogicalDeviceId)
deriving DecidableEq, Inhabited

/-- A logical device, by name, stands for a real one. -/
structure Binding where
  logicalDevice : String
  target : DeviceId
deriving DecidableEq, Inhabited

/-- A capability type attached under an attribute name. -/
structure Attachment where
  attr : String
  owner : Owner
  capability : CapabilityId
  binding : Option Binding
deriving Inhabited

/-- Applies when the logical device is the active one and the connection is
available to it. -/
structure Condition where
  logicalDevice : String
  connection : Connection
deriving Inhabited

/-- One way to carry out a method. -/
structure Variant where
  label : String
  conditions : List Condition
deriving Inhabited

structure Method where
  name : String
  variants : List Variant
deriving Inhabited

/-- A capability type. -/
structure Capability where
  name : String
  parents : List CapabilityId
  /-- The logical devices declared on the type itself. -/
  logicalDevices : List LogicalDeviceId
  methods : List Method
deriving Inhabited

/-- The variants of a method; none if the type does not declare the method. -/
def Capability.variantsOf (capability : Capability) (method : String) : List Variant :=
  match capability.methods.find? fun candidate => candidate.name == method with
  | some found => found.variants
  | none => []

/-- A placeholder device of a capability type. -/
structure LogicalDevice where
  name : String
  owner : CapabilityId
  parents : List LogicalDeviceId
  /-- What the real device has to implement. -/
  attachments : List AttachmentId
  /-- The connection that the capability explicitly asks for. -/
  requirement : Option Connection
deriving Inhabited

/-- Everything that was declared. -/
structure Catalog where
  containers : List Container
  devices : List Device
  attachments : List Attachment
  capabilities : List Capability
  logicalDevices : List LogicalDevice
deriving Inhabited

namespace Catalog

def empty : Catalog := ⟨[], [], [], [], []⟩

def container (catalog : Catalog) (id : ContainerId) : Container :=
  catalog.containers[id.index]?.getD default

def device (catalog : Catalog) (id : DeviceId) : Device :=
  catalog.devices[id.index]?.getD default

def attachment (catalog : Catalog) (id : AttachmentId) : Attachment :=
  catalog.attachments[id.index]?.getD default

def capability (catalog : Catalog) (id : CapabilityId) : Capability :=
  catalog.capabilities[id.index]?.getD default

def logicalDevice (catalog : Catalog) (id : LogicalDeviceId) : LogicalDevice :=
  catalog.logicalDevices[id.index]?.getD default

def count (catalog : Catalog) : Family → Nat
  | .container => catalog.containers.length
  | .device => catalog.devices.length
  | .attachment => catalog.attachments.length
  | .capability => catalog.capabilities.length
  | .logicalDevice => catalog.logicalDevices.length

/-- The identifiers of a family, in the order of declaration. -/
def ids (catalog : Catalog) (family : Family) : List (Id family) :=
  (List.range (catalog.count family)).map Id.mk

def containersOfKind (catalog : Catalog) (kind : ContainerKind) : List ContainerId :=
  (catalog.ids .container).filter fun id => (catalog.container id).kind = kind

/-! ## Names -/

def containerNamed? (catalog : Catalog) (name : String) : Option ContainerId :=
  (catalog.ids .container).find? fun id => (catalog.container id).name == name

def capabilityNamed? (catalog : Catalog) (name : String) : Option CapabilityId :=
  (catalog.ids .capability).find? fun id => (catalog.capability id).name == name

/-- The device of that name declared on the container itself. -/
def deviceNamed? (catalog : Catalog) (container : ContainerId) (name : String) :
    Option DeviceId :=
  (catalog.container container).devices.find? fun id => (catalog.device id).name == name

/-- The logical device of that name declared on the capability type itself. -/
def logicalDeviceNamed? (catalog : Catalog) (capability : CapabilityId) (name : String) :
    Option LogicalDeviceId :=
  (catalog.capability capability).logicalDevices.find? fun id =>
    (catalog.logicalDevice id).name == name

/-! ## Paths -/

/-- `Container.Device` -/
def devicePath (catalog : Catalog) (id : DeviceId) : String :=
  let device := catalog.device id
  (catalog.container device.owner).name ++ "." ++ device.name

/-- `Capability.LogicalDevice` -/
def logicalDevicePath (catalog : Catalog) (id : LogicalDeviceId) : String :=
  let logicalDevice := catalog.logicalDevice id
  (catalog.capability logicalDevice.owner).name ++ "." ++ logicalDevice.name

def ownerPath (catalog : Catalog) : Owner → String
  | .device id => catalog.devicePath id
  | .logicalDevice id => catalog.logicalDevicePath id

/-- The path of the owner followed by the attribute. -/
def attachmentPath (catalog : Catalog) (id : AttachmentId) : String :=
  let attachment := catalog.attachment id
  catalog.ownerPath attachment.owner ++ "." ++ attachment.attr

/-- `Container.Device.node` -/
def endpointPath (catalog : Catalog) (endpoint : Endpoint) : String :=
  catalog.devicePath endpoint.device ++ "." ++ endpoint.node

end Catalog

end LabMatch
