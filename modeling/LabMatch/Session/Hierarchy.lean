import LabMatch.Session.Basic

/-!
# The override discipline

Specialisations may add members, but what they inherit is constrained:

* no entity has more than one parent;
* a container that declares devices declares again every device visible on its
  parent, and a capability type that declares logical devices declares again
  every inherited one;
* what is declared again specialises what it replaces.  For an attribute of a
  device or logical device this means a subtype of the inherited capability.

Multiple parents are reported before anything else; every other violation is
looked for in the order of declaration.
-/

namespace LabMatch

/-- A violation of the override discipline. -/
inductive HierarchyError
  | multipleParents (entity : String) (parents : List String)
  | missingRedeclaration (entity parent missing : String)
  | notSubtype (entity item expected found : String)
deriving DecidableEq

def HierarchyError.message : HierarchyError → String
  | .multipleParents entity parents =>
    entity ++ " specializes more than one parent (" ++ ", ".intercalate parents ++ ")"
  | .missingRedeclaration entity parent missing =>
    entity ++ " re-declares items of " ++ parent ++ " but is missing `" ++ missing
      ++ "`; re-declare all of them or none"
  | .notSubtype entity item expected found =>
    entity ++ " overrides `" ++ item ++ "` with " ++ found ++ ", which is not a subtype of "
      ++ expected

namespace Catalog

variable (catalog : Catalog)

def containerLabel (id : ContainerId) : String :=
  let container := catalog.container id
  container.kind.label ++ " `" ++ container.name ++ "`"

def capabilityLabel (id : CapabilityId) : String :=
  "capability `" ++ (catalog.capability id).name ++ "`"

def singleParents (family : Family) (label : Id family → String) : Except HierarchyError Unit :=
  match (catalog.ids family).find? fun id => 1 < (catalog.parents family id).length with
  | some id => .error (.multipleParents (label id) ((catalog.parents family id).map label))
  | none => .ok ()

def singleParentsEverywhere : Except HierarchyError Unit := do
  catalog.singleParents .container catalog.containerLabel
  catalog.singleParents .device catalog.devicePath
  catalog.singleParents .capability catalog.capabilityLabel
  catalog.singleParents .logicalDevice catalog.logicalDevicePath

/-- Requires that an inherited device is declared again on the container, as a
subtype. -/
def redeclaresDevice (container parent : ContainerId) (inherited : DeviceId) :
    Except HierarchyError Unit :=
  let name := (catalog.device inherited).name
  match catalog.deviceNamed? container name with
  | none =>
    .error (.missingRedeclaration (catalog.containerLabel container)
      (catalog.containerLabel parent) name)
  | some again =>
    if catalog.isSubtype again inherited then .ok ()
    else .error (.notSubtype (catalog.containerLabel container) name
      (catalog.devicePath inherited) (catalog.devicePath again))

/-- Requires that an inherited logical device is declared again on the capability
type, as a subtype. -/
def redeclaresLogicalDevice (capability parent : CapabilityId)
    (inherited : String × LogicalDeviceId) : Except HierarchyError Unit :=
  match catalog.logicalDeviceNamed? capability inherited.1 with
  | none =>
    .error (.missingRedeclaration (catalog.capabilityLabel capability)
      (catalog.capabilityLabel parent) inherited.1)
  | some again =>
    if catalog.isSubtype again inherited.2 then .ok ()
    else .error (.notSubtype (catalog.capabilityLabel capability) inherited.1
      (catalog.logicalDevicePath inherited.2) (catalog.logicalDevicePath again))

/-- Requires that an attribute declared on an entity carries a subtype of the
capability inherited under that name, if there is one. -/
def overridesAttribute (entity : String) (own inherited : SortedMap String AttachmentId)
    (declared : AttachmentId) : Except HierarchyError Unit :=
  let attr := (catalog.attachment declared).attr
  match own.get? attr, inherited.get? attr with
  | some mine, some theirs =>
    let mine := (catalog.attachment mine).capability
    let theirs := (catalog.attachment theirs).capability
    if catalog.isSubtype mine theirs then .ok ()
    else .error (.notSubtype entity attr (catalog.capabilityLabel theirs)
      (catalog.capabilityLabel mine))
  | _, _ => .ok ()

end Catalog

namespace Session

variable (catalog : Catalog)

/-- Checks a container against its first parent. -/
def checkContainer (id : ContainerId) : Resolving HierarchyError Unit := do
  let container := catalog.container id
  match container.parents.head? with
  | none => return
  | some parent =>
    if container.devices.isEmpty then return
    let inherited ← devicesOf catalog parent
    inherited.forM fun device => (catalog.redeclaresDevice id parent device : Except _ _)

def checkCapability (id : CapabilityId) : Resolving HierarchyError Unit := do
  let capability := catalog.capability id
  match capability.parents.head? with
  | none => return
  | some parent =>
    if capability.logicalDevices.isEmpty then return
    let inherited ← logicalDevicesOf catalog parent
    inherited.entries.forM fun entry =>
      (catalog.redeclaresLogicalDevice id parent entry : Except _ _)

def checkDevice (id : DeviceId) : Resolving HierarchyError Unit := do
  let device := catalog.device id
  match device.parents.head? with
  | none => return
  | some parent =>
    let own ← attachmentsOf catalog id
    let inherited ← attachmentsOf catalog parent
    device.attachments.forM fun declared =>
      (catalog.overridesAttribute (catalog.devicePath id) own inherited declared : Except _ _)

def checkLogicalDevice (id : LogicalDeviceId) : Resolving HierarchyError Unit := do
  let logicalDevice := catalog.logicalDevice id
  match logicalDevice.parents.head? with
  | none => return
  | some parent =>
    let own ← attachmentsAskedBy catalog id
    let inherited ← attachmentsAskedBy catalog parent
    logicalDevice.attachments.forM fun declared =>
      (catalog.overridesAttribute (catalog.logicalDevicePath id) own inherited declared :
        Except _ _)

/-- Checks the override discipline of the whole catalogue. -/
def checkHierarchy : Resolving HierarchyError Unit := do
  (catalog.singleParentsEverywhere : Except _ _)
  (catalog.ids .container).forM (checkContainer catalog)
  (catalog.ids .capability).forM (checkCapability catalog)
  (catalog.ids .device).forM (checkDevice catalog)
  (catalog.ids .logicalDevice).forM (checkLogicalDevice catalog)

end Session

end LabMatch
