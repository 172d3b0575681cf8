import LabMatch.Capability.Variant
import LabMatch.Matching.Placement
import LabMatch.Wiring.Route

/-!
# Variations

A variation is one way to run a scenario on a setup: a placement of the devices,
the routes that deliver every connection of the scenario, and the attachment
that serves every capability.
-/

namespace LabMatch

/-- A connection of the scenario, delivered by routes through the setup. -/
structure Delivery where
  /-- The endpoints in the scenario. -/
  source : Endpoint
  target : Endpoint
  /-- What the scenario asks for. -/
  requirement : Connection
  /-- What the routes deliver together. -/
  connection : Connection
  routes : List Route

/-- A capability of the scenario, served by an attachment of the setup. -/
structure Service where
  scenarioDevice : DeviceId
  attr : String
  scenarioAttachment : AttachmentId
  implementation : AttachmentId
  /-- The setup device that the scenario device is placed on. -/
  device : DeviceId
  /-- The binding in effect, to a device of the setup. -/
  binding : Option Binding
  /-- What is available towards the bound device. -/
  available : Option Connection

/-- One way to run a scenario on a setup. -/
structure Variation where
  scenario : ContainerId
  setup : ContainerId
  placement : Placement
  deliveries : List Delivery
  services : List Service

/-- A placement that does not work, and why. -/
structure Discarded where
  placement : Placement
  reason : ResolveError

/-- Everything resolved about a scenario and a setup. -/
structure PairOutcome where
  scenario : ContainerId
  setup : ContainerId
  applicable : List Variation
  discarded : List Discarded
  /-- Why no placement was tried. -/
  error : Option ResolveError

def Variation.service? (variation : Variation) (device : DeviceId) (attr : String) :
    Option Service :=
  variation.services.find? fun service =>
    service.scenarioDevice == device && service.attr == attr

/-- The label of the variant of a method to use for a capability of the
scenario. -/
def Session.variantInVariation (catalog : Catalog) (variation : Variation) (device : DeviceId)
    (attr method : String) : Resolving ResolveError String := do
  match variation.service? device attr with
  | none => throw (.unknownAttribute (catalog.devicePath device) attr)
  | some service =>
    match service.binding, service.available with
    | some binding, some available =>
      variantFor catalog (catalog.attachment service.implementation).capability method
        binding.logicalDevice available
    | _, _ => throw (.unbound (catalog.attachmentPath service.implementation))

end LabMatch
