import LabMatch.Proofs.Catalog.Grown

/-!
# Named entities

A declared entity keeps its name and its owner while further declarations are accepted, so a
name stands for the same entity from then on.  In a declared catalogue a name stands for at
most one entity of its scope, and the lookups by name find exactly what a name stands for.
-/

namespace LabMatch.Catalog

/-! ## Later catalogues -/

inductive Continues (catalog : Catalog) : Catalog → Prop
  | refl : Continues catalog catalog
  | declare {middle next : Catalog} {declaration : Declaration} {answer : Option Nat}
      (hcontinues : Continues catalog middle)
      (haccepted : middle.declare declaration = .ok (answer, next)) : Continues catalog next

variable {catalog middle next : Catalog}

theorem Continues.trans (hfirst : catalog.Continues middle) (hsecond : middle.Continues next) :
    catalog.Continues next := by
  induction hsecond with
  | refl => exact hfirst
  | declare hcontinues haccepted ih => exact ih.declare haccepted

theorem Declared.continues (hdeclared : Declared catalog) (hcontinues : catalog.Continues next) :
    Declared next := by
  induction hcontinues with
  | refl => exact hdeclared
  | declare hcontinues haccepted ih => exact ih.declare haccepted

theorem continues_of_declare {declaration : Declaration} {answer : Option Nat}
    (haccepted : catalog.declare declaration = .ok (answer, next)) : catalog.Continues next :=
  Continues.refl.declare haccepted

/-! ## What a name stands for -/

structure NamesContainer (catalog : Catalog) (name : String) (id : ContainerId) : Prop where
  has : catalog.Has id
  name : (catalog.container id).name = name

structure NamesCapability (catalog : Catalog) (name : String) (id : CapabilityId) : Prop where
  has : catalog.Has id
  name : (catalog.capability id).name = name

structure NamesDevice (catalog : Catalog) (container : ContainerId) (name : String)
    (id : DeviceId) : Prop where
  has : catalog.Has id
  owner : (catalog.device id).owner = container
  name : (catalog.device id).name = name

structure NamesLogicalDevice (catalog : Catalog) (capability : CapabilityId) (name : String)
    (id : LogicalDeviceId) : Prop where
  has : catalog.Has id
  owner : (catalog.logicalDevice id).owner = capability
  name : (catalog.logicalDevice id).name = name

/-- A name stands for at most one entity of its scope. -/
structure NamesUnique (catalog : Catalog) : Prop where
  containers : ∀ {name : String} {id other : ContainerId},
    catalog.NamesContainer name id → catalog.NamesContainer name other → id = other
  capabilities : ∀ {name : String} {id other : CapabilityId},
    catalog.NamesCapability name id → catalog.NamesCapability name other → id = other
  devices : ∀ {container : ContainerId} {name : String} {id other : DeviceId},
    catalog.NamesDevice container name id → catalog.NamesDevice container name other → id = other
  logicalDevices : ∀ {capability : CapabilityId} {name : String} {id other : LogicalDeviceId},
    catalog.NamesLogicalDevice capability name id →
      catalog.NamesLogicalDevice capability name other → id = other

section Later

variable {container : ContainerId} {capability : CapabilityId} {name : String}

/-- A name still stands for its container after more declarations. -/
theorem NamesContainer.later {id : ContainerId} (hnames : catalog.NamesContainer name id)
    (hcontinues : catalog.Continues next) : next.NamesContainer name id := by
  induction hcontinues with
  | refl => exact hnames
  | declare _ haccepted ih =>
    have hadds := (enacted_of_declare haccepted).step.containers
    have hkept := hadds.fixed_getD ih.has
    exact ⟨Nat.lt_of_lt_of_le ih.has hadds.length_le, (congrArg Prod.fst hkept).trans ih.name⟩

theorem Continues.kind_eq (hcontinues : catalog.Continues next) {id : ContainerId}
    (hid : catalog.Has id) : (next.container id).kind = (catalog.container id).kind := by
  induction hcontinues with
  | refl => rfl
  | declare hcontinues haccepted ih =>
    have hkept : NamesContainer _ (catalog.container id).name id :=
      NamesContainer.later ⟨hid, rfl⟩ hcontinues
    rw [(enacted_of_declare haccepted).step.kind_eq hkept.has, ih]

theorem NamesCapability.later {id : CapabilityId} (hnames : catalog.NamesCapability name id)
    (hcontinues : catalog.Continues next) : next.NamesCapability name id := by
  induction hcontinues with
  | refl => exact hnames
  | declare _ haccepted ih =>
    have hadds := (enacted_of_declare haccepted).step.capabilities
    exact ⟨Nat.lt_of_lt_of_le ih.has hadds.length_le, (hadds.fixed_getD ih.has).trans ih.name⟩

theorem NamesDevice.later {id : DeviceId} (hnames : catalog.NamesDevice container name id)
    (hcontinues : catalog.Continues next) : next.NamesDevice container name id := by
  induction hcontinues with
  | refl => exact hnames
  | declare _ haccepted ih =>
    have hadds := (enacted_of_declare haccepted).step.devices
    have hkept := hadds.fixed_getD ih.has
    exact ⟨Nat.lt_of_lt_of_le ih.has hadds.length_le, (congrArg Prod.snd hkept).trans ih.owner,
      (congrArg Prod.fst hkept).trans ih.name⟩

theorem NamesLogicalDevice.later {id : LogicalDeviceId}
    (hnames : catalog.NamesLogicalDevice capability name id)
    (hcontinues : catalog.Continues next) : next.NamesLogicalDevice capability name id := by
  induction hcontinues with
  | refl => exact hnames
  | declare _ haccepted ih =>
    have hadds := (enacted_of_declare haccepted).step.logicalDevices
    have hkept := hadds.fixed_getD ih.has
    exact ⟨Nat.lt_of_lt_of_le ih.has hadds.length_le, (congrArg Prod.snd hkept).trans ih.owner,
      (congrArg Prod.fst hkept).trans ih.name⟩

end Later

/-! ## Names by position -/

section Position

variable {container : ContainerId} {capability : CapabilityId} {name : String}

theorem getElem?_map_eq_some_iff {Entity Field : Type} [Inhabited Entity] {field : Entity → Field}
    {entities : List Entity} {position : Nat} {value : Field} :
    (entities.map field)[position]? = some value ↔
      position < entities.length ∧ field (entities[position]?.getD default) = value := by
  rw [List.getElem?_map]
  by_cases hposition : position < entities.length
  · simp [hposition]
  · simp [hposition]

theorem namesContainer_iff {id : ContainerId} : catalog.NamesContainer name id ↔
    (catalog.containers.map Container.name)[id.index]? = some name := by
  rw [getElem?_map_eq_some_iff]
  exact ⟨fun hnames => ⟨hnames.has, hnames.name⟩, fun hboth => ⟨hboth.1, hboth.2⟩⟩

theorem namesCapability_iff {id : CapabilityId} : catalog.NamesCapability name id ↔
    (catalog.capabilities.map Capability.name)[id.index]? = some name := by
  rw [getElem?_map_eq_some_iff]
  exact ⟨fun hnames => ⟨hnames.has, hnames.name⟩, fun hboth => ⟨hboth.1, hboth.2⟩⟩

theorem namesDevice_iff {id : DeviceId} : catalog.NamesDevice container name id ↔
    (catalog.devices.map fun device => (device.owner, device.name))[id.index]? =
      some (container, name) := by
  rw [getElem?_map_eq_some_iff, Prod.mk.injEq]
  exact ⟨fun hnames => ⟨hnames.has, hnames.owner, hnames.name⟩,
    fun hall => ⟨hall.1, hall.2.1, hall.2.2⟩⟩

theorem namesLogicalDevice_iff {id : LogicalDeviceId} :
    catalog.NamesLogicalDevice capability name id ↔
      (catalog.logicalDevices.map fun logicalDevice =>
        (logicalDevice.owner, logicalDevice.name))[id.index]? = some (capability, name) := by
  rw [getElem?_map_eq_some_iff, Prod.mk.injEq]
  exact ⟨fun hnames => ⟨hnames.has, hnames.owner, hnames.name⟩,
    fun hall => ⟨hall.1, hall.2.1, hall.2.2⟩⟩

end Position

/-! ## Looking up names -/

/-- Going through the identifiers of a family is going through its entities. -/
theorem map_ids {Entity Field : Type} [Inhabited Entity] {family : Family} (field : Entity → Field)
    {entities : List Entity} (hcount : catalog.count family = entities.length) :
    (catalog.ids family).map (fun id => field (entities[id.index]?.getD default)) =
      entities.map field := by
  rw [ids, hcount, List.map_map]
  apply List.ext_getElem
  · simp
  · intro position hposition hposition'
    have hin : position < entities.length := by simpa using hposition'
    simp [hin]

section Lookup

variable (hdeclared : Declared catalog) {container : ContainerId} {capability : CapabilityId}
  {name : String}

include hdeclared

/-- The search by name finds the container that has the name. -/
theorem Declared.containerNamed?_eq_some_iff {id : ContainerId} :
    catalog.containerNamed? name = some id ↔ catalog.NamesContainer name id := by
  have hnames : ((catalog.ids .container).map fun id => (catalog.container id).name) =
      catalog.containers.map Container.name := map_ids Container.name rfl
  rw [containerNamed?, find?_name_eq_some_iff (hnames ▸ hdeclared.consistent.containerNames),
    mem_ids]
  exact ⟨fun hfound => ⟨hfound.1, hfound.2⟩, fun hfound => ⟨hfound.has, hfound.name⟩⟩

theorem Declared.capabilityNamed?_eq_some_iff {id : CapabilityId} :
    catalog.capabilityNamed? name = some id ↔ catalog.NamesCapability name id := by
  have hnames : ((catalog.ids .capability).map fun id => (catalog.capability id).name) =
      catalog.capabilities.map Capability.name := map_ids Capability.name rfl
  rw [capabilityNamed?,
    find?_name_eq_some_iff (hnames ▸ hdeclared.consistent.capabilityNames), mem_ids]
  exact ⟨fun hfound => ⟨hfound.1, hfound.2⟩, fun hfound => ⟨hfound.has, hfound.name⟩⟩

theorem Declared.deviceNamed?_eq_some_iff {id : DeviceId} :
    catalog.deviceNamed? container name = some id ↔ catalog.NamesDevice container name id := by
  have hroster := hdeclared.registered.deviceRoster
  have hnames : ((catalog.container container).devices.map fun id =>
      (catalog.device id).name).Nodup := hroster.names container
  rw [deviceNamed?, find?_name_eq_some_iff hnames]
  constructor
  · intro hfound
    obtain ⟨hlisted, hname⟩ := hfound
    obtain ⟨hhas, howner⟩ := hroster.mem_iff.mp hlisted
    exact ⟨hhas, howner, hname⟩
  · intro hfound
    exact ⟨hroster.mem_iff.mpr ⟨hfound.has, hfound.owner⟩, hfound.name⟩

theorem Declared.logicalDeviceNamed?_eq_some_iff {id : LogicalDeviceId} :
    catalog.logicalDeviceNamed? capability name = some id ↔
      catalog.NamesLogicalDevice capability name id := by
  have hroster := hdeclared.registered.logicalDeviceRoster
  have hnames : ((catalog.capability capability).logicalDevices.map fun id =>
      (catalog.logicalDevice id).name).Nodup := hroster.names capability
  rw [logicalDeviceNamed?, find?_name_eq_some_iff hnames]
  constructor
  · intro hfound
    obtain ⟨hlisted, hname⟩ := hfound
    obtain ⟨hhas, howner⟩ := hroster.mem_iff.mp hlisted
    exact ⟨hhas, howner, hname⟩
  · intro hfound
    exact ⟨hroster.mem_iff.mpr ⟨hfound.has, hfound.owner⟩, hfound.name⟩

/-- Names are unique in every catalogue that can be declared. -/
theorem Declared.namesUnique : NamesUnique catalog where
  containers hid hother := by
    rw [← hdeclared.containerNamed?_eq_some_iff] at hid hother
    exact Option.some.inj (hid.symm.trans hother)
  capabilities hid hother := by
    rw [← hdeclared.capabilityNamed?_eq_some_iff] at hid hother
    exact Option.some.inj (hid.symm.trans hother)
  devices hid hother := by
    rw [← hdeclared.deviceNamed?_eq_some_iff] at hid hother
    exact Option.some.inj (hid.symm.trans hother)
  logicalDevices hid hother := by
    rw [← hdeclared.logicalDeviceNamed?_eq_some_iff] at hid hother
    exact Option.some.inj (hid.symm.trans hother)

end Lookup

end LabMatch.Catalog
