import LabMatch.Catalog.Declare
import LabMatch.Connection.Expression
import LabMatch.DeclarationFile.Basic

/-!
# Loading declarations

Declares everything that a file holds.  All capability types are declared before
any of them is filled in, and all devices of a container before any of them is, so
these may refer to each other in any order.  A path names a logical device or a
device by its owner and its own name, split at the first point.
-/

namespace LabMatch

/-- What a reference by name stands for. -/
inductive ReferenceKind
  | capability
  | logicalDevice
  | container
  | device
deriving DecidableEq

def ReferenceKind.label : ReferenceKind → String
  | .capability => "capability"
  | .logicalDevice => "logical device"
  | .container => "container"
  | .device => "device"

/-- Why declarations cannot be loaded.  `site` names the entry at fault. -/
inductive LoadError
  | unknownReference (site : String) (kind : ReferenceKind) (name : String)
  | connection (site text : String) (error : ConnectionError)
  | declaration (site : String) (error : DeclarationError)
deriving DecidableEq

def LoadError.message : LoadError → String
  | .unknownReference site kind name =>
    site ++ ": unknown " ++ kind.label ++ " `" ++ name ++ "`"
  | .connection site text error =>
    site ++ ": invalid connection `" ++ text ++ "`: " ++ error.message
  | .declaration site error => site ++ ": " ++ error.message

namespace DeclarationFile

variable {Result : Type}

/-- Tells where a declaration was refused. -/
def declaredAt (site : String) (outcome : Except DeclarationError Result) :
    Except LoadError Result :=
  outcome.mapError (.declaration site)

def connectionAt (site text : String) : Except LoadError Connection :=
  (Connection.parse text).mapError (.connection site text)

/-- What a name refers to. -/
def referenceAt (site : String) (kind : ReferenceKind) (name : String)
    (found : Option Result) : Except LoadError Result :=
  match found with
  | some result => .ok result
  | none => .error (.unknownReference site kind name)

/-- Splits a path at its first point. -/
def splitPath? (path : String) : Option (String × String) :=
  match path.toList.span (· != '.') with
  | (_, []) => none
  | (owner, _ :: name) => some (String.ofList owner, String.ofList name)

end DeclarationFile

namespace Catalog

open DeclarationFile

/-! ## References -/

def capabilityAt (catalog : Catalog) (site name : String) : Except LoadError CapabilityId :=
  referenceAt site .capability name (catalog.capabilityNamed? name)

def logicalDeviceAt (catalog : Catalog) (site path : String) :
    Except LoadError LogicalDeviceId :=
  referenceAt site .logicalDevice path do
    let (owner, name) ← splitPath? path
    catalog.logicalDeviceNamed? (← catalog.capabilityNamed? owner) name

def deviceAt (catalog : Catalog) (site path : String) : Except LoadError DeviceId :=
  referenceAt site .device path do
    let (owner, name) ← splitPath? path
    catalog.deviceNamed? (← catalog.containerNamed? owner) name

def memberAt (catalog : Catalog) (site : String) (container : ContainerId) (name : String) :
    Except LoadError DeviceId :=
  referenceAt site .device name (catalog.deviceNamed? container name)

/-! ## Capability types -/

/-- Declares a parent, if there is one. -/
def withParent (catalog : Catalog) (parent : Option String)
    (extend : String → Except LoadError Catalog) : Except LoadError Catalog :=
  match parent with
  | some path => extend path
  | none => .ok catalog

def loadLogicalDevice (capability : CapabilityId) (owner : String) (catalog : Catalog)
    (entry : LogicalDeviceEntry) : Except LoadError Catalog := do
  let site := owner ++ "." ++ entry.name
  let (id, catalog) ← declaredAt site (catalog.declareLogicalDevice capability entry.name)
  let catalog ← catalog.withParent entry.parent fun path => do
    declaredAt site (catalog.extendLogicalDevice id (← catalog.logicalDeviceAt site path))
  let catalog ←
    match entry.requirement with
    | some text => declaredAt site (catalog.require id (← connectionAt site text))
    | none => .ok catalog
  entry.attachments.foldlM
    (fun catalog entry => do
      let attached ← catalog.capabilityAt site entry.capability
      let (_, catalog) ← declaredAt site (catalog.attach (.logicalDevice id) entry.attr attached)
      return catalog)
    catalog

def loadVariant (capability : CapabilityId) (owner : String) (catalog : Catalog)
    (entry : VariantEntry) : Except LoadError Catalog := do
  let site := owner ++ "::" ++ entry.method
  let conditions ← entry.conditions.mapM fun condition => do
    return ⟨condition.logicalDevice, ← connectionAt site condition.connection⟩
  declaredAt site (catalog.declareVariant capability entry.method entry.name conditions)

/-- Declares a capability type without content. -/
def loadCapabilityName (catalog : Catalog) (entry : CapabilityEntry) :
    Except LoadError Catalog := do
  let (_, catalog) ← declaredAt entry.name (catalog.declareCapability entry.name)
  return catalog

/-- Fills in a capability type. -/
def loadCapability (catalog : Catalog) (entry : CapabilityEntry) :
    Except LoadError Catalog := do
  let id ← catalog.capabilityAt entry.name entry.name
  let catalog ← catalog.withParent entry.parent fun name => do
    let parent ← catalog.capabilityAt entry.name name
    declaredAt entry.name (catalog.extendCapability id parent)
  let catalog ← entry.logicalDevices.foldlM (loadLogicalDevice id entry.name) catalog
  entry.variants.foldlM (loadVariant id entry.name) catalog

/-! ## Containers -/

/-- Declares a device without content. -/
def loadDeviceName (container : ContainerId) (owner : String) (catalog : Catalog)
    (entry : DeviceEntry) : Except LoadError Catalog := do
  let (_, catalog) ←
    declaredAt (owner ++ "." ++ entry.name) (catalog.declareDevice container entry.name)
  return catalog

def loadAttachment (container : ContainerId) (site : String) (device : DeviceId)
    (catalog : Catalog) (entry : AttachEntry) : Except LoadError Catalog := do
  let capability ← catalog.capabilityAt site entry.capability
  let (attachment, catalog) ←
    declaredAt site (catalog.attach (.device device) entry.attr capability)
  match entry.bind with
  | some bind => do
    let target ← catalog.memberAt site container bind.device
    declaredAt site (catalog.bind attachment bind.logicalDevice target)
  | none => return catalog

def loadLink (container : ContainerId) (site : String) (device : DeviceId) (catalog : Catalog)
    (entry : LinkEntry) : Except LoadError Catalog := do
  let peer ← catalog.memberAt site container entry.peer
  let connection ← connectionAt site entry.connection
  declaredAt site (catalog.connect ⟨device, entry.node.getD Endpoint.defaultNode⟩
    ⟨peer, entry.peerNode.getD Endpoint.defaultNode⟩ connection (!entry.bidirectional))

def loadDevice (container : ContainerId) (owner : String) (catalog : Catalog)
    (entry : DeviceEntry) : Except LoadError Catalog := do
  let site := owner ++ "." ++ entry.name
  let id ← catalog.memberAt site container entry.name
  let catalog ← catalog.withParent entry.parent fun path => do
    declaredAt site (catalog.extendDevice id (← catalog.deviceAt site path))
  let catalog ← entry.attachments.foldlM (loadAttachment container site id) catalog
  entry.links.foldlM (loadLink container site id) catalog

def loadContainer (kind : ContainerKind) (catalog : Catalog) (entry : ContainerEntry) :
    Except LoadError Catalog := do
  let (id, catalog) ← declaredAt entry.name (catalog.declareContainer kind entry.name)
  let catalog ← catalog.withParent entry.parent fun name => do
    let parent ← referenceAt entry.name .container name (catalog.containerNamed? name)
    declaredAt entry.name (catalog.extendContainer id parent)
  let catalog ← entry.devices.foldlM (loadDeviceName id entry.name) catalog
  entry.devices.foldlM (loadDevice id entry.name) catalog

end Catalog

/-- The catalogue of everything that the file declares. -/
def DeclarationFile.load (file : DeclarationFile) : Except LoadError Catalog := do
  let catalog ← file.capabilities.foldlM Catalog.loadCapabilityName .empty
  let catalog ← file.capabilities.foldlM Catalog.loadCapability catalog
  let catalog ← file.scenarios.foldlM (Catalog.loadContainer .scenario) catalog
  let catalog ← file.setups.foldlM (Catalog.loadContainer .setup) catalog
  declaredAt "declarations" catalog.complete

end LabMatch
