import LabMatch.Catalog.Visible
import LabMatch.Wiring.Basic

/-!
# Sessions

A session resolves questions about one catalogue and keeps notes, so that
nothing is resolved twice.  Every entity that was looked at has its notes; what
was resolved before some later step failed stays noted.

A resolution is a computation on the session.  `Resolving` adds the possibility
of failure; a failed computation still leaves its notes behind.
-/

namespace LabMatch

/-- A finding that does not stop the resolution. -/
structure Warning where
  /-- What the warning is about. -/
  subject : String
  message : String
deriving DecidableEq, Inhabited

def Warning.text (warning : Warning) : String := warning.subject ++ ": " ++ warning.message

/-- The links of a container that are left after reduction. -/
structure ReducedWiring where
  links : Wiring
  warnings : List Warning
deriving Inhabited

/-- What was resolved about a container. -/
structure ContainerNotes where
  /-- The absolute wiring and the warnings raised on the way to it. -/
  absolute : Option (Wiring × List Warning)
  reduced : Option ReducedWiring
deriving Inhabited

/-- The connection that is needed towards each logical device, by name. -/
abbrev Requirements := SortedMap String Connection

/-- What the choice of a variant depends on.  The connection that is available
is represented by its signature. -/
structure VariantQuestion where
  method : String
  logicalDevice : String
  available : String
deriving DecidableEq

/-- What was resolved about a capability type. -/
structure CapabilityNotes where
  requirements : Option Requirements
  /-- The requirements that were not declared but made up. -/
  hints : List Warning
  variants : List (VariantQuestion × String)
deriving Inhabited

/-- The notes on every entity looked at so far. -/
structure Session where
  containers : SortedMap ContainerId ContainerNotes
  devices : SortedMap DeviceId Unit
  capabilities : SortedMap CapabilityId CapabilityNotes
  logicalDevices : SortedMap LogicalDeviceId Unit

/-- A computation that may fail and takes notes in any case. -/
abbrev Resolving (Failure Answer : Type) := ExceptT Failure (StateM Session) Answer

namespace Session

def fresh : Session := ⟨SortedMap.empty, SortedMap.empty, SortedMap.empty, SortedMap.empty⟩

instance : Inhabited Session := ⟨fresh⟩

def size (session : Session) : Nat :=
  session.containers.size + session.devices.size + session.capabilities.size +
    session.logicalDevices.size

/-- The notes on a container; empty ones if it was never looked at. -/
def containerNotes (session : Session) (id : ContainerId) : ContainerNotes :=
  (session.containers.get? id).getD ⟨none, none⟩

/-- The notes on a capability type; empty ones if it was never looked at. -/
def capabilityNotes (session : Session) (id : CapabilityId) : CapabilityNotes :=
  (session.capabilities.get? id).getD ⟨none, [], []⟩

/-- Looks at a container. -/
def visitContainer (id : ContainerId) : StateM Session ContainerNotes :=
  modifyGet fun session =>
    let notes := session.containerNotes id
    (notes, { session with containers := session.containers.insert id notes })

def visitCapability (id : CapabilityId) : StateM Session CapabilityNotes :=
  modifyGet fun session =>
    let notes := session.capabilityNotes id
    (notes, { session with capabilities := session.capabilities.insert id notes })

def visitDevice (id : DeviceId) : StateM Session Unit :=
  modify fun session => { session with devices := session.devices.insert id () }

def visitLogicalDevice (id : LogicalDeviceId) : StateM Session Unit :=
  modify fun session => { session with logicalDevices := session.logicalDevices.insert id () }

def noteContainer (id : ContainerId) (update : ContainerNotes → ContainerNotes) :
    StateM Session Unit :=
  modify fun session =>
    { session with containers := session.containers.insert id (update (session.containerNotes id)) }

def noteCapability (id : CapabilityId) (update : CapabilityNotes → CapabilityNotes) :
    StateM Session Unit :=
  modify fun session =>
    { session with
      capabilities := session.capabilities.insert id (update (session.capabilityNotes id)) }

/-! ## Visible members -/

variable (catalog : Catalog)

def devicesOf (container : ContainerId) : StateM Session (List DeviceId) := do
  let _ ← visitContainer container
  return catalog.visibleDevices container

def deviceNamed? (container : ContainerId) (name : String) :
    StateM Session (Option DeviceId) := do
  return (← devicesOf catalog container).find? fun id => (catalog.device id).name == name

def attachmentsOf (device : DeviceId) : StateM Session (SortedMap String AttachmentId) := do
  visitDevice device
  return catalog.deviceAttachments device

/-- The attachments that a logical device asks for, by attribute. -/
def attachmentsAskedBy (logicalDevice : LogicalDeviceId) :
    StateM Session (SortedMap String AttachmentId) := do
  visitLogicalDevice logicalDevice
  return catalog.logicalDeviceAttachments logicalDevice

def logicalDevicesOf (capability : CapabilityId) :
    StateM Session (SortedMap String LogicalDeviceId) := do
  let _ ← visitCapability capability
  return catalog.visibleLogicalDevices capability

end Session

end LabMatch
