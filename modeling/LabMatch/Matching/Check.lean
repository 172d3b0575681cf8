import LabMatch.Capability.Binding
import LabMatch.Capability.Requirement
import LabMatch.Matching.Variation

/-!
# Checking a placement

A placement works when, in this order,

1. every capability of the scenario has exactly one implementation on the setup
   device that its device is placed on,
2. the bindings of the implementations agree with those of the scenario,
3. every bound device implements what the logical device asks for,
4. every connection of the scenario is delivered by routes through the setup,
5. every bound capability finds a compatible connection to its bound device.

The first check that fails gives the reason to discard the placement.
-/

namespace LabMatch

namespace Catalog

variable (catalog : Catalog)

/-- Whether the attachment implements the capability. -/
def implements (attachment : AttachmentId) (capability : CapabilityId) : Bool :=
  catalog.isSubtype (catalog.attachment attachment).capability capability

/-- The only one of the offered attachments that implements the capability. -/
def implementation (device : DeviceId) (offered : List AttachmentId) (capability : CapabilityId) :
    Except ResolveError AttachmentId :=
  match offered.filter fun attachment => catalog.implements attachment capability with
  | [] =>
    .error (.missingCapability (catalog.devicePath device) (catalog.capability capability).name)
  | [only] => .ok only
  | several =>
    .error (.ambiguousImplementation (catalog.devicePath device)
      (catalog.capability capability).name (several.map catalog.attachmentPath))

/-- The service of one capability of the scenario, its binding still open. -/
def openService (scenarioDevice device : DeviceId) (offered : List AttachmentId)
    (wanted : String × AttachmentId) : Except ResolveError Service := do
  let implementation ←
    catalog.implementation device offered (catalog.attachment wanted.2).capability
  return {
    scenarioDevice, attr := wanted.1, scenarioAttachment := wanted.2, implementation, device
    binding := none, available := none }

def bindingText (binding : Binding) : String :=
  binding.logicalDevice ++ " -> " ++ catalog.devicePath binding.target

/-- The binding in effect for a service.  The implementation's own binding has
to be the scenario's one carried over by the placement, if both exist. -/
def agreedBinding (placement : Placement) (service : Service) (wanted own : Option Binding) :
    Except ResolveError (Option Binding) :=
  match wanted with
  | none => .ok own
  | some wanted =>
    match placement.get? wanted.target with
    | none => .error (.unbound (catalog.attachmentPath service.scenarioAttachment))
    | some target =>
      let agreed : Binding := ⟨wanted.logicalDevice, target⟩
      match own with
      | none => .ok (some agreed)
      | some own =>
        if own = agreed then .ok (some agreed)
        else .error (.bindingMismatch (catalog.attachmentPath service.implementation)
          (catalog.bindingText agreed) (catalog.bindingText own))

/-- Requires that the offered attachments implement everything asked for. -/
def implementsAll (device : DeviceId) (offered asked : List AttachmentId) :
    Except ResolveError Unit :=
  asked.forM fun attachment =>
    let capability := (catalog.attachment attachment).capability
    if offered.any fun candidate => catalog.implements candidate capability then .ok ()
    else .error (.missingCapability (catalog.devicePath device)
      (catalog.capability capability).name)

/-- The end points between which a link of the scenario is delivered, and whether
it has to work both ways.  A one-way link is delivered in its declared direction. -/
def deliveryEnds (span : Span) (links : List Connection) : Span × Bool :=
  match links.head?.bind Connection.anchor with
  | some anchor => if anchor.oneWay then (anchor.toSpan, false) else (span, true)
  | none => (span, true)

/-- Delivers what the scenario asks for between two endpoints. -/
def deliver (placement : Placement) (setup : Wiring) (entry : Span × List Connection) :
    Except ResolveError (Option Delivery) := do
  let (ends, bothWays) := deliveryEnds entry.1 entry.2
  match placement.get? ends.source.device, placement.get? ends.target.device with
  | some start, some target =>
    let requirement ←
      (Connection.anyOf (entry.2.map Connection.unanchored)).mapError ResolveError.connection
    let found := setup.routes requirement start target
    let routes := if bothWays then found.filter Route.worksBothWays else found
    let delivered := routes.filterMap fun route =>
      (route.delivered requirement).map Connection.unanchored
    if delivered.isEmpty then
      throw (.noRoute (catalog.endpointPath ends.source) (catalog.endpointPath ends.target)
        requirement.text)
    let connection ← (Connection.anyOf delivered).mapError ResolveError.connection
    return some ⟨ends.source, ends.target, requirement, connection, routes⟩
  | _, _ => return none

/-- Delivers every connection of the scenario.  Each link is stored under both of
its ends and delivered once. -/
def deliverAll (placement : Placement) (scenario setup : Wiring) :
    Except ResolveError (List Delivery) := do
  let entries := scenario.entries.filter fun entry =>
    decide (entry.1.source.device < entry.1.target.device) && !entry.2.isEmpty
  return (← entries.mapM (catalog.deliver placement setup)).filterMap id

/-- What is available to a service towards its bound device.  What is delivered
to the scenario between the two devices takes precedence over the direct
connections of the setup. -/
def availableTo (placement : Placement) (setup : Wiring) (deliveries : List Delivery)
    (service : Service) (target : DeviceId) : Except ResolveError (Option Connection) := do
  let delivered : List Delivery := match placement.placedOn? target with
    | none => []
    | some peer => deliveries.filter fun delivery =>
      let ends := [delivery.source.device, delivery.target.device]
      ends.contains peer && ends.contains service.scenarioDevice
  if delivered.isEmpty then return setup.availableBetween service.device target
  let connection ←
    (Connection.anyOf (delivered.map Delivery.connection)).mapError ResolveError.connection
  return some connection

end Catalog

namespace Session

variable (catalog : Catalog)

/-- Finds the implementation of every capability of one scenario device. -/
def openServices (placed : DeviceId × DeviceId) : Resolving ResolveError (List Service) := do
  let offered ← attachmentsOf catalog placed.2
  let wanted ← attachmentsOf catalog placed.1
  (wanted.entries.mapM (catalog.openService placed.1 placed.2 offered.values) : Except _ _)

def settleBinding (scenario setup : ContainerId) (placement : Placement) (service : Service) :
    Resolving ResolveError Service := do
  let wanted ← activeBinding catalog scenario service.scenarioDevice service.attr
  let own ← activeBinding catalog setup service.device
    (catalog.attachment service.implementation).attr
  let binding ← (catalog.agreedBinding placement service wanted own : Except _ _)
  return { service with binding }

/-- Requires that the bound device implements what the logical device asks for. -/
def checkBoundDevice (service : Service) : Resolving ResolveError Unit := do
  match service.binding with
  | none => return
  | some binding =>
    let capability := (catalog.attachment service.implementation).capability
    let logicalDevices ← logicalDevicesOf catalog capability
    match logicalDevices.get? binding.logicalDevice with
    | none => return
    | some logicalDevice =>
      let offered ← attachmentsOf catalog binding.target
      let asked ← attachmentsAskedBy catalog logicalDevice
      (catalog.implementsAll binding.target offered.values asked.values : Except _ _)

/-- Requires a compatible connection to the bound device. -/
def settleAvailable (placement : Placement) (setup : Wiring) (deliveries : List Delivery)
    (service : Service) : Resolving ResolveError Service := do
  match service.binding with
  | none => return service
  | some binding =>
    let capability := (catalog.attachment service.implementation).capability
    let requirements ← requirementsOf catalog capability
    match requirements.get? binding.logicalDevice with
    | none => return service
    | some requirement =>
      let found ←
        (Catalog.availableTo placement setup deliveries service binding.target : Except _ _)
      match found.filter fun available => available.compatible requirement with
      | some available => return { service with available := some available }
      | none =>
        throw (.unsuitableConnection (catalog.attachmentPath service.implementation)
          (catalog.devicePath service.device) (catalog.devicePath binding.target)
          requirement.text)

/-- Runs all checks on a placement. -/
def checkPlacement (scenario setup : ContainerId) (scenarioWiring setupWiring : Wiring)
    (placement : Placement) : Resolving ResolveError Variation := do
  let opened ← placement.entries.mapM (openServices catalog)
  let bound ← opened.flatten.mapM (settleBinding catalog scenario setup placement)
  bound.forM (checkBoundDevice catalog)
  let deliveries ← (catalog.deliverAll placement scenarioWiring setupWiring : Except _ _)
  let services ← bound.mapM (settleAvailable catalog placement setupWiring deliveries)
  return ⟨scenario, setup, placement, deliveries, services⟩

end Session

end LabMatch
