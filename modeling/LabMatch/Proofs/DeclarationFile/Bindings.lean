import LabMatch.Proofs.DeclarationFile.Determined

/-!
# Bindings of a loaded declaration file

A device may bind what it implements; what a logical device asks for cannot be bound.  A
binding on a device becomes the binding of the attachment made from it.  A binding on a
logical device is not refused but passed over: the file is loaded as if it were not there.
-/

namespace LabMatch

namespace DeclarationFile

/-! ## Misplaced bindings -/

def LogicalDeviceEntry.withoutBindings (entry : LogicalDeviceEntry) : LogicalDeviceEntry :=
  { entry with attachments := entry.attachments.map fun attachment =>
    { attachment with bind := none } }

def CapabilityEntry.withoutBindings (entry : CapabilityEntry) : CapabilityEntry :=
  { entry with logicalDevices := entry.logicalDevices.map LogicalDeviceEntry.withoutBindings }

def withoutMisplacedBindings (file : DeclarationFile) : DeclarationFile :=
  { file with capabilities := file.capabilities.map CapabilityEntry.withoutBindings }

theorem loadLogicalDevice_withoutBindings (capability : CapabilityId) (owner : String)
    (catalog : Catalog) (entry : LogicalDeviceEntry) :
    Catalog.loadLogicalDevice capability owner catalog entry.withoutBindings =
      Catalog.loadLogicalDevice capability owner catalog entry := by
  rw [Catalog.loadLogicalDevice_eq, Catalog.loadLogicalDevice_eq]
  simp only [LogicalDeviceEntry.withoutBindings, List.foldlM_map]
  rfl

/-- Bindings on logical devices make no difference to how a capability type is filled in. -/
theorem loadCapability_withoutBindings (catalog : Catalog) (entry : CapabilityEntry) :
    catalog.loadCapability entry.withoutBindings = catalog.loadCapability entry := by
  rw [Catalog.loadCapability, Catalog.loadCapability]
  simp only [CapabilityEntry.withoutBindings, List.foldlM_map, loadLogicalDevice_withoutBindings]

/-- Bindings on logical devices are never looked at. -/
theorem load_withoutMisplacedBindings (file : DeclarationFile) :
    file.withoutMisplacedBindings.load = file.load := by
  have hnames : ∀ catalog : Catalog, ∀ entry : CapabilityEntry,
      catalog.loadCapabilityName entry.withoutBindings = catalog.loadCapabilityName entry :=
    fun _ _ => rfl
  simp only [load, withoutMisplacedBindings, List.foldlM_map, hnames,
    loadCapability_withoutBindings]

/-! ## Kept bindings -/

/-- The attachment carries the binding of the entry, and none if the entry has none.  What is
bound is attached to a device, and the target is a device of the same container. -/
def AttachEntry.KeepsBinding (catalog : Catalog) (entry : AttachEntry)
    (attachment : Attachment) : Prop :=
  Option.Rel
    (fun bind binding => ∃ carrier, attachment.owner = .device carrier ∧
      BindEntry.Describes catalog (catalog.device carrier).owner bind binding)
    entry.bind attachment.binding

/-- Every attachment carries the binding of the entry that it was made from. -/
def KeepsBindings (file : DeclarationFile) (catalog : Catalog) : Prop :=
  List.Forall₂ (fun entry => AttachEntry.KeepsBinding catalog entry.2) file.attachments
    catalog.attachments

def BindsDevicesOnly (file : DeclarationFile) : Prop :=
  ∀ capability ∈ file.capabilities, ∀ logicalDevice ∈ capability.logicalDevices,
    ∀ attachment ∈ logicalDevice.attachments, attachment.bind = none

instance : DecidablePred BindsDevicesOnly := fun file =>
  inferInstanceAs (Decidable (∀ capability ∈ file.capabilities,
    ∀ logicalDevice ∈ capability.logicalDevices, ∀ attachment ∈ logicalDevice.attachments,
      attachment.bind = none))

variable {file : DeclarationFile} {catalog : Catalog}

theorem bindsDevicesOnly_withoutMisplacedBindings (file : DeclarationFile) :
    file.withoutMisplacedBindings.BindsDevicesOnly := by
  intro capability hcapability logicalDevice hlogicalDevice attachment hattachment
  obtain ⟨capability, -, rfl⟩ := List.mem_map.mp hcapability
  obtain ⟨logicalDevice, -, rfl⟩ := List.mem_map.mp hlogicalDevice
  obtain ⟨attachment, -, rfl⟩ := List.mem_map.mp hattachment
  rfl

/-- A file binds devices only if none of its entries for logical devices has a binding. -/
theorem bindsDevicesOnly_iff : file.BindsDevicesOnly ↔
    ∀ entry ∈ file.attachments, ∀ capability name,
      entry.1 = .logicalDevice capability name → entry.2.bind = none := by
  simp only [attachments, CapabilityEntry.attachments, ContainerEntry.attachments, List.mem_append,
    List.mem_flatMap, List.mem_map]
  constructor
  · rintro honly entry (⟨capability, hcapability, logicalDevice, hlogicalDevice, attachment,
      hattachment, rfl⟩ | ⟨container, -, device, -, attachment, -, rfl⟩) home name hsite
    · exact honly capability hcapability logicalDevice hlogicalDevice attachment hattachment
    · cases hsite
  · intro hall capability hcapability logicalDevice hlogicalDevice attachment hattachment
    exact hall (.logicalDevice capability.name logicalDevice.name, attachment)
      (Or.inl ⟨capability, hcapability, logicalDevice, hlogicalDevice, attachment, hattachment,
        rfl⟩)
      _ _ rfl

/-- An attachment keeps the binding of its entry, unless it is that of a logical device. -/
theorem DescribesAttachment.keepsBinding_iff {entry : AttachSite × AttachEntry}
    {attachment : Attachment} (hdescribes : DescribesAttachment catalog entry attachment) :
    entry.2.KeepsBinding catalog attachment ↔
      ∀ capability name, entry.1 = .logicalDevice capability name → entry.2.bind = none := by
  cases hdescribes with
  | @logicalDevice capability name entry attachment home id hhome hid hentry hbinding =>
    rw [AttachEntry.KeepsBinding, hbinding]
    constructor
    · intro hkeeps _ _ _
      generalize entry.bind = bind at hkeeps
      cases hkeeps
      rfl
    · intro hplaced
      rw [hplaced capability name rfl]
      exact .none
  | @device container name entry attachment home id hhome hid hentry hbinding =>
    constructor
    · intro _ _ _ hsite
      cases hsite
    · intro _
      refine optionRel_imp (fun bind binding hbind => ⟨id, hentry.owner, ?_⟩) hbinding
      rwa [hid.owner]

/-- What a file describes carries all of its bindings exactly if none is misplaced. -/
theorem Describes.keepsBindings_iff (hdescribes : file.Describes catalog) :
    file.KeepsBindings catalog ↔ file.BindsDevicesOnly := by
  rw [bindsDevicesOnly_iff]
  constructor
  · intro hkeeps entry hentry
    obtain ⟨attachment, -, hkept, hdescribed⟩ :=
      exists_of_forall₂_left (forall₂_of_both hkeeps hdescribes.attachments) hentry
    exact hdescribed.keepsBinding_iff.mp hkept
  · intro hplaced
    have hboth := (List.forall₂_and_left _ _).mpr ⟨hplaced, hdescribes.attachments⟩
    exact hboth.imp fun entry attachment hentry => hentry.2.keepsBinding_iff.mpr hentry.1

/-- Bindings on logical devices make no difference to how a file is loaded.  Every other
binding is kept, so all bindings of a loaded file are kept exactly if they are on devices. -/
theorem bindings_of_load (file : DeclarationFile) :
    file.withoutMisplacedBindings.load = file.load ∧
      ∀ catalog, file.load = .ok catalog →
        file.withoutMisplacedBindings.KeepsBindings catalog ∧
          (file.KeepsBindings catalog ↔ file.BindsDevicesOnly) := by
  refine ⟨load_withoutMisplacedBindings file, fun catalog hloaded => ⟨?_, ?_⟩⟩
  · rw [← load_withoutMisplacedBindings] at hloaded
    obtain ⟨-, hdescribes⟩ := built_and_describes_of_load hloaded
    exact hdescribes.keepsBindings_iff.mpr (bindsDevicesOnly_withoutMisplacedBindings file)
  · obtain ⟨-, hdescribes⟩ := built_and_describes_of_load hloaded
    exact hdescribes.keepsBindings_iff

/-- The ping file has no bindings on logical devices, so it keeps all of them. -/
theorem bindings_of_load_pingFile : ∃ catalog, pingFile.load = .ok catalog ∧
    pingFile.withoutMisplacedBindings.KeepsBindings catalog ∧ pingFile.KeepsBindings catalog := by
  have hok : pingFile.load.isOk = true := by decide +kernel
  have hplaced : pingFile.BindsDevicesOnly := by decide
  obtain ⟨catalog, hloaded⟩ := Catalog.exists_of_isOk hok
  obtain ⟨-, hbindings⟩ := bindings_of_load pingFile
  obtain ⟨hkept, hall⟩ := hbindings catalog hloaded
  exact ⟨catalog, hloaded, hkept, hall.mpr hplaced⟩

/-- A logical device asks for help and binds the aid of its helper. -/
def misplacedFile : DeclarationFile where
  capabilities := [
    ⟨"Helper", none, [⟨"Aid", none, none, []⟩], []⟩,
    ⟨"Messaging", none,
      [⟨"Peer", none, none, [⟨"helper", "Helper", some ⟨"Aid", "Desk"⟩⟩]⟩], []⟩]
  scenarios := [⟨"Bench", none, [⟨"Desk", none, [], []⟩]⟩]
  setups := []

/-- The file is loaded although its only binding is misplaced, and the binding is lost. -/
theorem misplaced_binding_dropped : ∃ catalog, misplacedFile.load = .ok catalog ∧
    ¬ misplacedFile.KeepsBindings catalog ∧
      catalog.attachments.map Attachment.binding = [none] := by
  have hbindings : (misplacedFile.load.toOption.map fun catalog =>
      catalog.attachments.map Attachment.binding) = some [none] := by decide +kernel
  obtain ⟨catalog, hloaded, hdropped⟩ := Catalog.exists_of_map_toOption hbindings
  obtain ⟨-, hdescribes⟩ := built_and_describes_of_load hloaded
  refine ⟨catalog, hloaded, ?_, hdropped⟩
  rw [hdescribes.keepsBindings_iff]
  decide

end DeclarationFile

end LabMatch
