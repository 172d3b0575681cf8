import LabMatch.Proofs.Catalog.Named

/-!
# Outlines of declared catalogues

The lists of members in a declared catalogue follow from what its entities say about
their owners: every owner lists what belongs to it in the order of declaration.  The
outline of a catalogue leaves these lists out.  An accepted declaration then adds one
entity to one family, at the end, or changes one entity in its place.
-/

namespace LabMatch.Catalog

/-! ## Members in the order of declaration -/

/-- Every owner lists its members in the order of declaration. -/
structure ListsMembers (catalog : Catalog) : Prop where
  devices : ∀ container, (catalog.container container).devices =
    (catalog.ids .device).filter fun id => (catalog.device id).owner = container
  logicalDevices : ∀ capability, (catalog.capability capability).logicalDevices =
    (catalog.ids .logicalDevice).filter fun id => (catalog.logicalDevice id).owner = capability
  attachments : ∀ owner, catalog.attachmentsOf owner =
    (catalog.ids .attachment).filter fun id => (catalog.attachment id).owner = owner

variable {catalog next : Catalog}

/-- Members are listed in the order of declaration by the owners they name. -/
theorem Declared.listsMembers (hdeclared : Declared catalog) : ListsMembers catalog where
  devices := hdeclared.registered.deviceRoster.inOrder
  logicalDevices := hdeclared.registered.logicalDeviceRoster.inOrder
  attachments := hdeclared.registered.attachmentRoster.inOrder

/-! ## Outlines -/

def outline (catalog : Catalog) : Catalog where
  containers := catalog.containers.map fun container => { container with devices := [] }
  devices := catalog.devices.map fun device => { device with attachments := [] }
  attachments := catalog.attachments
  capabilities := catalog.capabilities.map fun capability =>
    { capability with logicalDevices := [] }
  logicalDevices := catalog.logicalDevices.map fun logicalDevice =>
    { logicalDevice with attachments := [] }

section Effect

variable (declaration : Declaration)

/-- What happens to the own entity of a declaration can be read off the outline. -/
theorem outline_effect (catalog : Catalog) :
    (declaration.effect.apply catalog).outline = declaration.effect.apply catalog.outline := by
  have hcommutes :
      (declaration.effect.containers.CommutesWith
        fun container => { container with devices := [] }) ∧
      (declaration.effect.devices.CommutesWith
        fun device => { device with attachments := [] }) ∧
      (declaration.effect.capabilities.CommutesWith
        fun capability => { capability with logicalDevices := [] }) ∧
      declaration.effect.logicalDevices.CommutesWith
        fun logicalDevice => { logicalDevice with attachments := [] } := by
    cases declaration <;> refine ⟨?_, ?_, ?_, ?_⟩ <;>
      first | exact trivial | rfl | exact fun _ => rfl
  obtain ⟨hcontainers, hdevices, hcapabilities, hlogicalDevices⟩ := hcommutes
  simp only [outline, Changes.apply, hcontainers.map_apply, hdevices.map_apply,
    hcapabilities.map_apply, hlogicalDevices.map_apply]

/-- How members come to be listed leaves no mark on the outline. -/
theorem outline_listing (listedBy catalog : Catalog) :
    ((declaration.listing listedBy).apply catalog).outline = catalog.outline := by
  have hhidden :
      ((declaration.listing listedBy).containers.HiddenFrom
        fun container => { container with devices := [] }) ∧
      ((declaration.listing listedBy).devices.HiddenFrom
        fun device => { device with attachments := [] }) ∧
      ((declaration.listing listedBy).capabilities.HiddenFrom
        fun capability => { capability with logicalDevices := [] }) ∧
      ((declaration.listing listedBy).logicalDevices.HiddenFrom
        fun logicalDevice => { logicalDevice with attachments := [] }) ∧
      (declaration.listing listedBy).attachments.HiddenFrom id := by
    unfold Declaration.listing
    split <;> refine ⟨?_, ?_, ?_, ?_, ?_⟩ <;> first | exact trivial | exact fun _ => rfl
  obtain ⟨hcontainers, hdevices, hcapabilities, hlogicalDevices, hattachments⟩ := hhidden
  have hsame := hattachments.map_apply catalog.attachments
  rw [List.map_id, List.map_id] at hsame
  simp only [outline, Changes.apply, hcontainers.map_apply, hdevices.map_apply, hsame,
    hcapabilities.map_apply, hlogicalDevices.map_apply]

end Effect

/-- An accepted declaration has its effect on the outline, whoever lists what. -/
theorem outline_declare {declaration : Declaration} {answer : Option Nat}
    (haccepted : catalog.declare declaration = .ok (answer, next)) :
    next.outline = declaration.effect.apply catalog.outline := by
  rw [(enacted_of_declare haccepted).result, Declaration.result, outline_listing, outline_effect]

/-! ## What an outline tells -/

theorem count_outline (catalog : Catalog) (family : Family) :
    catalog.outline.count family = catalog.count family := by
  cases family with
  | container => exact List.length_map _
  | device => exact List.length_map _
  | capability => exact List.length_map _
  | logicalDevice => exact List.length_map _
  | attachment => rfl

theorem namesContainer_of_outline {index : Nat} {container : Container}
    (hlookup : catalog.outline.containers[index]? = some container) :
    catalog.NamesContainer container.name ⟨index⟩ := by
  have hnames : catalog.outline.containers.map Container.name =
      catalog.containers.map Container.name := List.map_map ..
  rw [namesContainer_iff, ← hnames, List.getElem?_map, hlookup, Option.map_some]

theorem kind_of_outline {index : Nat} {container : Container}
    (hlookup : catalog.outline.containers[index]? = some container) :
    (catalog.container ⟨index⟩).kind = container.kind := by
  have hkinds : catalog.outline.containers.map Container.kind =
      catalog.containers.map Container.kind := List.map_map ..
  have hkind : (catalog.containers.map Container.kind)[index]? = some container.kind := by
    rw [← hkinds, List.getElem?_map, hlookup, Option.map_some]
  exact (getElem?_map_eq_some_iff.mp hkind).2

theorem namesCapability_of_outline {index : Nat} {capability : Capability}
    (hlookup : catalog.outline.capabilities[index]? = some capability) :
    catalog.NamesCapability capability.name ⟨index⟩ := by
  have hnames : catalog.outline.capabilities.map Capability.name =
      catalog.capabilities.map Capability.name := List.map_map ..
  rw [namesCapability_iff, ← hnames, List.getElem?_map, hlookup, Option.map_some]

theorem namesDevice_of_outline {index : Nat} {device : Device}
    (hlookup : catalog.outline.devices[index]? = some device) :
    catalog.NamesDevice device.owner device.name ⟨index⟩ := by
  have hnames : catalog.outline.devices.map (fun device => (device.owner, device.name)) =
      catalog.devices.map fun device => (device.owner, device.name) := List.map_map ..
  rw [namesDevice_iff, ← hnames, List.getElem?_map, hlookup, Option.map_some]

theorem namesLogicalDevice_of_outline {index : Nat} {logicalDevice : LogicalDevice}
    (hlookup : catalog.outline.logicalDevices[index]? = some logicalDevice) :
    catalog.NamesLogicalDevice logicalDevice.owner logicalDevice.name ⟨index⟩ := by
  have hnames : catalog.outline.logicalDevices.map
      (fun logicalDevice => (logicalDevice.owner, logicalDevice.name)) =
        catalog.logicalDevices.map fun logicalDevice =>
          (logicalDevice.owner, logicalDevice.name) := List.map_map ..
  rw [namesLogicalDevice_iff, ← hnames, List.getElem?_map, hlookup, Option.map_some]

end LabMatch.Catalog
