import LabMatch.Proofs.Catalog.Outline
import LabMatch.Proofs.DeclarationFile.Reference

/-!
# What the entries of a declaration file describe

An entry describes an entity of a catalogue if the entity has what the entry says, in the
order of the entry, and refers to what the names and paths of the entry stand for.
References keep what they stand for while the catalogue grows, and so does a description.
-/

namespace LabMatch

namespace DeclarationFile

/-! ## Entries -/

structure ConditionEntry.Describes (entry : ConditionEntry) (condition : Condition) : Prop where
  logicalDevice : condition.logicalDevice = entry.logicalDevice
  connection : Connection.parse entry.connection = .ok condition.connection

structure VariantEntry.Describes (entry : VariantEntry) (variant : Variant) : Prop where
  label : variant.label = entry.name
  conditions : List.Forall₂ ConditionEntry.Describes entry.conditions variant.conditions

structure BindEntry.Describes (catalog : Catalog) (container : ContainerId) (entry : BindEntry)
    (binding : Binding) : Prop where
  logicalDevice : binding.logicalDevice = entry.logicalDevice
  target : catalog.NamesDevice container entry.device binding.target

/-- What an attachment says apart from its binding. -/
structure AttachEntry.Describes (catalog : Catalog) (owner : Owner) (entry : AttachEntry)
    (attachment : Attachment) : Prop where
  attr : attachment.attr = entry.attr
  owner : attachment.owner = owner
  capability : catalog.NamesCapability entry.capability attachment.capability

structure LinkEntry.Describes (catalog : Catalog) (container : ContainerId) (entry : LinkEntry)
    (link : DeclaredLink) : Prop where
  node : link.node = entry.node.getD "n0"
  peer : catalog.NamesDevice container entry.peer link.peer
  peerNode : link.peerNode = entry.peerNode.getD "n0"
  connection : Connection.parse entry.connection = .ok link.connection
  oneWay : link.oneWay = !entry.bidirectional

/-- `home` is the name of the container that the entry belongs to. -/
structure DeviceEntry.Describes (catalog : Catalog) (home : String) (entry : DeviceEntry)
    (device : Device) : Prop where
  name : device.name = entry.name
  owner : catalog.NamesContainer home device.owner
  parents : List.Forall₂ catalog.LeadsToDevice entry.parent.toList device.parents
  links : List.Forall₂ (LinkEntry.Describes catalog device.owner) entry.links device.links

structure ContainerEntry.Describes (catalog : Catalog) (kind : ContainerKind)
    (entry : ContainerEntry) (container : Container) : Prop where
  kind : container.kind = kind
  name : container.name = entry.name
  parents : List.Forall₂ catalog.NamesContainer entry.parent.toList container.parents

/-- `home` is the name of the capability type that the entry belongs to. -/
structure LogicalDeviceEntry.Describes (catalog : Catalog) (home : String)
    (entry : LogicalDeviceEntry) (logicalDevice : LogicalDevice) : Prop where
  name : logicalDevice.name = entry.name
  owner : catalog.NamesCapability home logicalDevice.owner
  parents : List.Forall₂ catalog.LeadsToLogicalDevice entry.parent.toList logicalDevice.parents
  requirement : Option.Rel (fun text connection => Connection.parse text = .ok connection)
    entry.requirement logicalDevice.requirement

/-- The methods are those of the variants, in the order of their first mention; a method has
its variants in the order of the entry. -/
structure CapabilityEntry.Describes (catalog : Catalog) (entry : CapabilityEntry)
    (capability : Capability) : Prop where
  name : capability.name = entry.name
  parents : List.Forall₂ catalog.NamesCapability entry.parent.toList capability.parents
  methods : capability.methods.map Method.name =
    (entry.variants.map VariantEntry.method).eraseDups
  variants : ∀ method, List.Forall₂ VariantEntry.Describes
    (entry.variants.filter fun variant => variant.method == method) (capability.variantsOf method)

/-! ## Members -/

def CapabilityEntry.ownedLogicalDevices (entry : CapabilityEntry) :
    List (String × LogicalDeviceEntry) :=
  entry.logicalDevices.map fun logicalDevice => (entry.name, logicalDevice)

def ContainerEntry.ownedDevices (entry : ContainerEntry) : List (String × DeviceEntry) :=
  entry.devices.map fun device => (entry.name, device)

/-! ## Attachments -/

/-- Where an entry attaches a capability type, by the names of the owner and of what it
belongs to. -/
inductive AttachSite
  | logicalDevice (capability name : String)
  | device (container name : String)
deriving DecidableEq

/-- A logical device never carries a binding; a device carries the binding of the entry. -/
inductive DescribesAttachment (catalog : Catalog) : AttachSite × AttachEntry → Attachment → Prop
  | logicalDevice {capability name : String} {entry : AttachEntry} {attachment : Attachment}
      {home : CapabilityId} {id : LogicalDeviceId}
      (hhome : catalog.NamesCapability capability home)
      (hid : catalog.NamesLogicalDevice home name id)
      (hentry : entry.Describes catalog (.logicalDevice id) attachment)
      (hbinding : attachment.binding = none) :
      DescribesAttachment catalog (.logicalDevice capability name, entry) attachment
  | device {container name : String} {entry : AttachEntry} {attachment : Attachment}
      {home : ContainerId} {id : DeviceId}
      (hhome : catalog.NamesContainer container home)
      (hid : catalog.NamesDevice home name id)
      (hentry : entry.Describes catalog (.device id) attachment)
      (hbinding : Option.Rel (BindEntry.Describes catalog home) entry.bind attachment.binding) :
      DescribesAttachment catalog (.device container name, entry) attachment

def CapabilityEntry.attachments (entry : CapabilityEntry) : List (AttachSite × AttachEntry) :=
  entry.logicalDevices.flatMap fun logicalDevice =>
    logicalDevice.attachments.map fun attachment =>
      (.logicalDevice entry.name logicalDevice.name, attachment)

def ContainerEntry.attachments (entry : ContainerEntry) : List (AttachSite × AttachEntry) :=
  entry.devices.flatMap fun device =>
    device.attachments.map fun attachment => (.device entry.name device.name, attachment)

/-! ## Later catalogues -/

section Later

variable {catalog next : Catalog} (hcontinues : catalog.Continues next)

include hcontinues

theorem BindEntry.Describes.later {container : ContainerId} {entry : BindEntry} {binding : Binding}
    (hdescribes : entry.Describes catalog container binding) :
    entry.Describes next container binding :=
  { hdescribes with target := hdescribes.target.later hcontinues }

theorem AttachEntry.Describes.later {owner : Owner} {entry : AttachEntry} {attachment : Attachment}
    (hdescribes : entry.Describes catalog owner attachment) :
    entry.Describes next owner attachment :=
  { hdescribes with capability := hdescribes.capability.later hcontinues }

theorem LinkEntry.Describes.later {container : ContainerId} {entry : LinkEntry}
    {link : DeclaredLink} (hdescribes : entry.Describes catalog container link) :
    entry.Describes next container link :=
  { hdescribes with peer := hdescribes.peer.later hcontinues }

theorem DeviceEntry.Describes.later {home : String} {entry : DeviceEntry} {device : Device}
    (hdescribes : entry.Describes catalog home device) : entry.Describes next home device where
  name := hdescribes.name
  owner := hdescribes.owner.later hcontinues
  parents := hdescribes.parents.imp fun _ _ hleads => hleads.later hcontinues
  links := hdescribes.links.imp fun _ _ hlink => hlink.later hcontinues

theorem ContainerEntry.Describes.later {kind : ContainerKind} {entry : ContainerEntry}
    {container : Container} (hdescribes : entry.Describes catalog kind container) :
    entry.Describes next kind container :=
  { hdescribes with parents := hdescribes.parents.imp fun _ _ hnames => hnames.later hcontinues }

theorem LogicalDeviceEntry.Describes.later {home : String} {entry : LogicalDeviceEntry}
    {logicalDevice : LogicalDevice} (hdescribes : entry.Describes catalog home logicalDevice) :
    entry.Describes next home logicalDevice where
  name := hdescribes.name
  owner := hdescribes.owner.later hcontinues
  parents := hdescribes.parents.imp fun _ _ hleads => hleads.later hcontinues
  requirement := hdescribes.requirement

theorem CapabilityEntry.Describes.later {entry : CapabilityEntry} {capability : Capability}
    (hdescribes : entry.Describes catalog capability) : entry.Describes next capability :=
  { hdescribes with parents := hdescribes.parents.imp fun _ _ hnames => hnames.later hcontinues }

theorem DescribesAttachment.later {entry : AttachSite × AttachEntry} {attachment : Attachment}
    (hdescribes : DescribesAttachment catalog entry attachment) :
    DescribesAttachment next entry attachment := by
  cases hdescribes with
  | logicalDevice hhome hid hentry hbinding =>
    exact .logicalDevice (hhome.later hcontinues) (hid.later hcontinues) (hentry.later hcontinues)
      hbinding
  | device hhome hid hentry hbinding =>
    apply DescribesAttachment.device (hhome.later hcontinues) (hid.later hcontinues)
    · exact hentry.later hcontinues
    · exact optionRel_imp (fun _ _ hbind => hbind.later hcontinues) hbinding

end Later

end DeclarationFile

end LabMatch
