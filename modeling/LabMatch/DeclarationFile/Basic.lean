/-!
# Declaration files

The content of a declaration file: capability types with their logical devices
and variants, and scenarios and setups with their devices.  Entries refer to each
other by name.
-/

namespace LabMatch

namespace DeclarationFile

/-- Binds a logical device, by name, to a device of the same container. -/
structure BindEntry where
  logicalDevice : String
  device : String
deriving DecidableEq

structure AttachEntry where
  attr : String
  capability : String
  bind : Option BindEntry
deriving DecidableEq

structure ConditionEntry where
  logicalDevice : String
  connection : String
deriving DecidableEq

structure VariantEntry where
  method : String
  name : String
  conditions : List ConditionEntry
deriving DecidableEq

/-- A logical device.  Its parent is named by a path. -/
structure LogicalDeviceEntry where
  name : String
  parent : Option String
  requirement : Option String
  attachments : List AttachEntry
deriving DecidableEq

structure CapabilityEntry where
  name : String
  parent : Option String
  logicalDevices : List LogicalDeviceEntry
  variants : List VariantEntry
deriving DecidableEq

/-- A link to a device of the same container. -/
structure LinkEntry where
  peer : String
  connection : String
  node : Option String
  peerNode : Option String
  /-- Whether the link also works from the peer. -/
  bidirectional : Bool
deriving DecidableEq

/-- A device.  Its parent is named by a path. -/
structure DeviceEntry where
  name : String
  parent : Option String
  attachments : List AttachEntry
  links : List LinkEntry
deriving DecidableEq

structure ContainerEntry where
  name : String
  parent : Option String
  devices : List DeviceEntry
deriving DecidableEq

end DeclarationFile

structure DeclarationFile where
  capabilities : List DeclarationFile.CapabilityEntry
  scenarios : List DeclarationFile.ContainerEntry
  setups : List DeclarationFile.ContainerEntry
deriving DecidableEq

end LabMatch
