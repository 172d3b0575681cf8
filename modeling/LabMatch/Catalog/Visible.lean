import LabMatch.Catalog.Ancestry
import LabMatch.Ordered.Ascending
import LabMatch.Ordered.SortedMap

/-!
# Visible members

Members declared along the ancestry of an entity are visible on it.  Of several
members with one name, the one declared nearest wins.  The same rule, `nearest`,
serves the devices of containers, the attachments of devices and of logical
devices, and the logical devices of capability types.
-/

namespace LabMatch

/-- Collects members by name from levels given nearest first. -/
def nearest {Member : Type} (name : Member → String) (levels : List (List Member)) :
    SortedMap String Member :=
  SortedMap.ofList (levels.reverse.flatten.map fun member => (name member, member))

namespace Catalog

/-- The devices visible on a container, by name. -/
def visibleDevicesByName (catalog : Catalog) (container : ContainerId) :
    SortedMap String DeviceId :=
  nearest (fun id => (catalog.device id).name)
    ((catalog.ancestry container).map fun id => (catalog.container id).devices)

/-- The devices visible on a container, ascending. -/
def visibleDevices (catalog : Catalog) (container : ContainerId) : List DeviceId :=
  Ascending.ofList (catalog.visibleDevicesByName container).values

/-- What is attached to a device or inherited by it, by attribute. -/
def deviceAttachments (catalog : Catalog) (device : DeviceId) : SortedMap String AttachmentId :=
  nearest (fun id => (catalog.attachment id).attr)
    ((catalog.ancestry device).map fun id => (catalog.device id).attachments)

/-- What a logical device asks of its real device, by attribute. -/
def logicalDeviceAttachments (catalog : Catalog) (logicalDevice : LogicalDeviceId) :
    SortedMap String AttachmentId :=
  nearest (fun id => (catalog.attachment id).attr)
    ((catalog.ancestry logicalDevice).map fun id => (catalog.logicalDevice id).attachments)

def visibleLogicalDevices (catalog : Catalog) (capability : CapabilityId) :
    SortedMap String LogicalDeviceId :=
  nearest (fun id => (catalog.logicalDevice id).name)
    ((catalog.ancestry capability).map fun id => (catalog.capability id).logicalDevices)

end Catalog

end LabMatch
