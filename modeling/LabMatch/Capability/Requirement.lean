import LabMatch.Connection.Text
import LabMatch.Session.Basic
import LabMatch.Session.Error

/-!
# Requirements of a capability

For each of its visible logical devices a capability type needs some connection
towards the real device.  An explicit requirement comes first, then the
resolved requirement of the parent type.  Where neither exists, the requirement
is made up from the type's own variants: any of the connections that they accept
for the logical device, or just any connection.  A made-up requirement leaves a
hint.
-/

namespace LabMatch

namespace Catalog

variable (catalog : Catalog)

/-- The connections that variants declared on the capability type accept for a
logical device. -/
def acceptedConnections (capability : CapabilityId) (logicalDevice : String) : List Connection :=
  (((catalog.capability capability).methods.flatMap Method.variants).flatMap
    Variant.conditions).filterMap fun condition =>
      if condition.logicalDevice = logicalDevice then some condition.connection else none

/-- A requirement made up from the variants, and the hint it leaves. -/
def madeUpRequirement (capability : CapabilityId) (logicalDevice : String) :
    Except ConnectionError (Connection × String) :=
  match catalog.acceptedConnections capability logicalDevice with
  | [] =>
    .ok (.bare, "no explicit requirement and no variant condition; assuming any connection")
  | accepted => do
    let connection ← Connection.anyOf accepted
    return (connection, "no explicit requirement; using `" ++ connection.text
      ++ "` synthesized from " ++ toString accepted.length ++ " variant condition(s)")

/-- The requirement towards one logical device, and the hint it leaves if it is
made up. -/
def requirementFor (capability : CapabilityId) (inherited : Requirements)
    (logicalDevice : String × LogicalDeviceId) :
    Except ConnectionError (Connection × Option Warning) :=
  match (catalog.logicalDevice logicalDevice.2).requirement, inherited.get? logicalDevice.1 with
  | some explicit, _ => .ok (explicit, none)
  | none, some inherited => .ok (inherited, none)
  | none, none => do
    let (connection, hint) ← catalog.madeUpRequirement capability logicalDevice.1
    return (connection,
      some ⟨(catalog.capability capability).name ++ "." ++ logicalDevice.1, hint⟩)

/-- The requirements towards all of the logical devices, and the hints. -/
def requirementsFor (capability : CapabilityId) (inherited : Requirements)
    (logicalDevices : List (String × LogicalDeviceId)) :
    Except ConnectionError (Requirements × List Warning) :=
  logicalDevices.foldlM
    (fun gathered logicalDevice => do
      let (connection, hint) ← catalog.requirementFor capability inherited logicalDevice
      return (gathered.1.insert logicalDevice.1 connection, gathered.2 ++ hint.toList))
    (SortedMap.empty, [])

end Catalog

namespace Session

/-- The requirements of a capability type, by the name of the logical device. -/
def requirementsOf (catalog : Catalog) (capability : CapabilityId) :
    Resolving ResolveError Requirements := do
  let notes ← visitCapability capability
  match notes.requirements with
  | some requirements => return requirements
  | none =>
    let inherited ← match (catalog.capability capability).parents.head? with
      | some parent =>
        if parent.index < capability.index then requirementsOf catalog parent
        else pure SortedMap.empty
      | none => pure SortedMap.empty
    let logicalDevices ← logicalDevicesOf catalog capability
    let (requirements, hints) ←
      ((catalog.requirementsFor capability inherited logicalDevices.entries).mapError
        ResolveError.connection : Except _ _)
    noteCapability capability fun notes => { notes with requirements := some requirements, hints }
    return requirements
termination_by capability.index

end Session

end LabMatch
