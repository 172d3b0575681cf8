import LabMatch.Proofs.DeclarationFile.Translated

/-!
# A description leaves nothing open

Two catalogues that a file describes are the same.  The names in the file have the same
positions in both, so references lead to the same entities, and all other content is taken
from the entries.  Together with the translation of a file this says that loading gives what
the file describes and nothing else.
-/

namespace LabMatch

/-! ## Catalogues with the same outline -/

namespace Catalog

variable {catalog other : Catalog}

section Lists

variable {Entity Seen Field : Type} [Inhabited Entity] {entities others : List Entity}

theorem getD_eq_of_map_eq {field : Entity → Field} (hsame : entities.map field = others.map field)
    (position : Nat) :
    field (entities[position]?.getD default) = field (others[position]?.getD default) := by
  have hlookup := congrArg (·[position]?) hsame
  simp only [List.getElem?_map] at hlookup
  cases hfirst : entities[position]? with
  | none =>
    rw [hfirst, Option.map_none, eq_comm, Option.map_eq_none_iff] at hlookup
    rw [hlookup]
  | some entity =>
    rw [hfirst, Option.map_some, eq_comm, Option.map_eq_some_iff] at hlookup
    obtain ⟨found, hfound, hfield⟩ := hlookup
    rw [hfound]
    exact hfield.symm

/-- Entities that only differ in a field, and do not, are the same. -/
theorem eq_of_map_eq {see : Entity → Seen} (field : Entity → Field)
    (hsee : entities.map see = others.map see)
    (hfield : ∀ position : Nat,
      field (entities[position]?.getD default) = field (others[position]?.getD default))
    (hboth : ∀ entity other, see entity = see other → field entity = field other →
      entity = other) : entities = others := by
  have hlength : entities.length = others.length := by
    simpa using congrArg List.length hsee
  apply List.ext_getElem hlength
  intro position hposition hposition'
  have hseen := getD_eq_of_map_eq hsee position
  have hsame := hfield position
  simp only [List.getElem?_eq_getElem hposition, List.getElem?_eq_getElem hposition',
    Option.getD_some] at hseen hsame
  exact hboth _ _ hseen hsame

end Lists

theorem filter_ids_eq {family : Family} {Scope : Type} [DecidableEq Scope]
    {owner owner' : Id family → Scope} {scope : Scope}
    (hcount : catalog.count family = other.count family)
    (howner : ∀ id, owner id = owner' id) :
    ((catalog.ids family).filter fun id => owner id = scope) =
      (other.ids family).filter fun id => owner' id = scope := by
  rw [ids, hcount, ← ids]
  exact List.filter_congr fun id _ => by rw [howner]

/-- The lists of members follow from the outline. -/
theorem eq_of_outline_eq (houtline : catalog.outline = other.outline)
    (hlists : ListsMembers catalog) (hlists' : ListsMembers other) : catalog = other := by
  simp only [outline, Catalog.mk.injEq] at houtline
  obtain ⟨hcontainers, hdevices, hattachments, hcapabilities, hlogicalDevices⟩ := houtline
  have howned : ∀ owner, catalog.attachmentsOf owner = other.attachmentsOf owner := by
    intro owner
    rw [hlists.attachments, hlists'.attachments]
    exact filter_ids_eq (congrArg List.length hattachments) fun id => by
      rw [Catalog.attachment, hattachments, Catalog.attachment]
  have hdevices : catalog.devices = other.devices := by
    apply eq_of_map_eq Device.attachments hdevices
    · exact fun position => howned (.device ⟨position⟩)
    · rintro ⟨⟩ ⟨⟩ hseen hsame
      simp_all
  have hlogicalDevices : catalog.logicalDevices = other.logicalDevices := by
    apply eq_of_map_eq LogicalDevice.attachments hlogicalDevices
    · exact fun position => howned (.logicalDevice ⟨position⟩)
    · rintro ⟨⟩ ⟨⟩ hseen hsame
      simp_all
  have hcontainers : catalog.containers = other.containers := by
    apply eq_of_map_eq Container.devices hcontainers
    · intro position
      refine (hlists.devices ⟨position⟩).trans (Eq.trans ?_ (hlists'.devices ⟨position⟩).symm)
      exact filter_ids_eq (congrArg List.length hdevices) fun id => by
        rw [Catalog.device, hdevices, Catalog.device]
    · rintro ⟨⟩ ⟨⟩ hseen hsame
      simp_all
  have hcapabilities : catalog.capabilities = other.capabilities := by
    apply eq_of_map_eq Capability.logicalDevices hcapabilities
    · intro position
      refine (hlists.logicalDevices ⟨position⟩).trans
        (Eq.trans ?_ (hlists'.logicalDevices ⟨position⟩).symm)
      exact filter_ids_eq (congrArg List.length hlogicalDevices) fun id => by
        rw [Catalog.logicalDevice, hlogicalDevices, Catalog.logicalDevice]
    · rintro ⟨⟩ ⟨⟩ hseen hsame
      simp_all
  cases catalog
  cases other
  simp_all

end Catalog

namespace DeclarationFile

variable {file : DeclarationFile} {catalog other : Catalog}

/-! ## Parts of entries -/

theorem ConditionEntry.Describes.eq {entry : ConditionEntry} {condition condition' : Condition}
    (hdescribes : entry.Describes condition) (hdescribes' : entry.Describes condition') :
    condition = condition' := by
  have hconnection := hdescribes.connection.symm.trans hdescribes'.connection
  cases condition
  cases condition'
  cases hdescribes.logicalDevice.trans hdescribes'.logicalDevice.symm
  cases Except.ok.inj hconnection
  rfl

theorem VariantEntry.Describes.eq {entry : VariantEntry} {variant variant' : Variant}
    (hdescribes : entry.Describes variant) (hdescribes' : entry.Describes variant') :
    variant = variant' := by
  have hconditions := eq_of_forall₂ hdescribes.conditions hdescribes'.conditions
    fun hone hother => hone.eq hother
  cases variant
  cases variant'
  cases hdescribes.label.trans hdescribes'.label.symm
  cases hconditions
  rfl

theorem nodup_eraseDups (names : List String) : names.eraseDups.Nodup := by
  induction names using List.reverseRecOn with
  | nil => exact List.nodup_nil
  | append_singleton earlier last ih =>
    rw [Catalog.eraseDups_concat]
    split_ifs with hknown
    · exact ih
    · apply ih.append (List.nodup_singleton _)
      rwa [List.disjoint_singleton, List.mem_eraseDups]

/-- Methods with different names are determined by their names and their variants. -/
theorem methods_eq {capability capability' : Capability}
    (hnames : capability.methods.map Method.name = capability'.methods.map Method.name)
    (hnodup : (capability.methods.map Method.name).Nodup)
    (hvariants : ∀ method, capability.variantsOf method = capability'.variantsOf method) :
    capability.methods = capability'.methods := by
  have hfound : ∀ {capability : Capability} {method : Method},
      (capability.methods.map Method.name).Nodup → method ∈ capability.methods →
        capability.variantsOf method.name = method.variants := by
    intro capability method hnodup hmethod
    rw [Capability.variantsOf, (Catalog.find?_name_eq_some_iff hnodup).mpr ⟨hmethod, rfl⟩]
  have hlength : capability.methods.length = capability'.methods.length := by
    simpa using congrArg List.length hnames
  apply List.ext_getElem hlength
  intro position hposition hposition'
  have hname : (capability.methods[position]).name = (capability'.methods[position]).name := by
    have hlookup := congrArg (·[position]?) hnames
    simpa [hposition, hposition'] using hlookup
  have hsame := hvariants (capability.methods[position]).name
  rw [hfound hnodup (List.getElem_mem hposition), hname,
    hfound (hnames ▸ hnodup) (List.getElem_mem hposition')] at hsame
  cases hone : capability.methods[position]
  cases hother : capability'.methods[position]
  simp_all

/-! ## References -/

/-- What a name stands for in the first catalogue it stands for in the other one. -/
structure SameNames (catalog other : Catalog) : Prop where
  containers : ∀ {name : String} {id : ContainerId},
    catalog.NamesContainer name id → other.NamesContainer name id
  capabilities : ∀ {name : String} {id : CapabilityId},
    catalog.NamesCapability name id → other.NamesCapability name id
  devices : ∀ {container : ContainerId} {name : String} {id : DeviceId},
    catalog.NamesDevice container name id → other.NamesDevice container name id
  logicalDevices : ∀ {capability : CapabilityId} {name : String} {id : LogicalDeviceId},
    catalog.NamesLogicalDevice capability name id → other.NamesLogicalDevice capability name id

theorem DividesInto.unique {path owner name owner' name' : String}
    (hdivides : DividesInto path owner name) (hdivides' : DividesInto path owner' name') :
    owner = owner' ∧ name = name' := by
  rw [← splitPath?_eq_some_iff] at hdivides hdivides'
  exact Prod.mk.inj (Option.some.inj (hdivides.symm.trans hdivides'))

/-- Catalogues that a file describes give names the same meaning. -/
theorem Describes.sameNames (hdescribes : file.Describes catalog)
    (hdescribes' : file.Describes other) : SameNames catalog other := by
  have hcontainers : ∀ {name : String} {id : ContainerId},
      catalog.NamesContainer name id → other.NamesContainer name id := by
    intro name id hnames
    have hsame := map_eq_of_forall₂ hdescribes.containers hdescribes'.containers
      fun hone hother => hone.name.trans hother.name.symm
    rwa [Catalog.namesContainer_iff, hsame, ← Catalog.namesContainer_iff] at hnames
  have hcapabilities : ∀ {name : String} {id : CapabilityId},
      catalog.NamesCapability name id → other.NamesCapability name id := by
    intro name id hnames
    have hsame := map_eq_of_forall₂ hdescribes.capabilities hdescribes'.capabilities
      fun hone hother => hone.name.trans hother.name.symm
    rwa [Catalog.namesCapability_iff, hsame, ← Catalog.namesCapability_iff] at hnames
  refine ⟨hcontainers, hcapabilities, ?_, ?_⟩
  · intro container name id hnames
    have hsame : catalog.devices.map (fun device => (device.owner, device.name)) =
        other.devices.map fun device => (device.owner, device.name) :=
      map_eq_of_forall₂ hdescribes.devices hdescribes'.devices fun hone hother =>
        Prod.ext (hdescribes'.names.containers (hcontainers hone.owner) hother.owner)
          (hone.name.trans hother.name.symm)
    rwa [Catalog.namesDevice_iff, hsame, ← Catalog.namesDevice_iff] at hnames
  · intro capability name id hnames
    have hsame : catalog.logicalDevices.map (fun device => (device.owner, device.name)) =
        other.logicalDevices.map fun device => (device.owner, device.name) :=
      map_eq_of_forall₂ hdescribes.logicalDevices hdescribes'.logicalDevices fun hone hother =>
        Prod.ext (hdescribes'.names.capabilities (hcapabilities hone.owner) hother.owner)
          (hone.name.trans hother.name.symm)
    rwa [Catalog.namesLogicalDevice_iff, hsame, ← Catalog.namesLogicalDevice_iff] at hnames

section Same

variable (hsame : SameNames catalog other) (hunique : other.NamesUnique)

include hsame hunique

theorem SameNames.leadsToDevice_eq {path : String} {id id' : DeviceId}
    (hleads : catalog.LeadsToDevice path id) (hleads' : other.LeadsToDevice path id') :
    id = id' := by
  obtain ⟨owner, name, home, hdivides, howner, hname⟩ := hleads
  obtain ⟨owner', name', home', hdivides', howner', hname'⟩ := hleads'
  obtain ⟨rfl, rfl⟩ := hdivides.unique hdivides'
  obtain rfl := hunique.containers (hsame.containers howner) howner'
  exact hunique.devices (hsame.devices hname) hname'

theorem SameNames.leadsToLogicalDevice_eq {path : String} {id id' : LogicalDeviceId}
    (hleads : catalog.LeadsToLogicalDevice path id)
    (hleads' : other.LeadsToLogicalDevice path id') : id = id' := by
  obtain ⟨owner, name, home, hdivides, howner, hname⟩ := hleads
  obtain ⟨owner', name', home', hdivides', howner', hname'⟩ := hleads'
  obtain ⟨rfl, rfl⟩ := hdivides.unique hdivides'
  obtain rfl := hunique.capabilities (hsame.capabilities howner) howner'
  exact hunique.logicalDevices (hsame.logicalDevices hname) hname'

theorem SameNames.link_eq {container : ContainerId} {entry : LinkEntry} {link link' : DeclaredLink}
    (hdescribes : entry.Describes catalog container link)
    (hdescribes' : entry.Describes other container link') : link = link' := by
  have hpeer := hunique.devices (hsame.devices hdescribes.peer) hdescribes'.peer
  have hconnection := Except.ok.inj (hdescribes.connection.symm.trans hdescribes'.connection)
  obtain ⟨hnode, -, hpeerNode, -, honeWay⟩ := hdescribes
  obtain ⟨hnode', -, hpeerNode', -, honeWay'⟩ := hdescribes'
  cases link
  cases link'
  simp_all

theorem SameNames.binding_eq {container : ContainerId} {entry : BindEntry}
    {binding binding' : Binding} (hdescribes : entry.Describes catalog container binding)
    (hdescribes' : entry.Describes other container binding') : binding = binding' := by
  have htarget := hunique.devices (hsame.devices hdescribes.target) hdescribes'.target
  have hlogicalDevice := hdescribes.logicalDevice.trans hdescribes'.logicalDevice.symm
  cases binding
  cases binding'
  simp_all

theorem SameNames.attachment_eq {entry : AttachSite × AttachEntry}
    {attachment attachment' : Attachment}
    (hdescribes : DescribesAttachment catalog entry attachment)
    (hdescribes' : DescribesAttachment other entry attachment') : attachment = attachment' := by
  cases hdescribes with
  | logicalDevice hhome hid hentry hbinding =>
    obtain ⟨hhome', hid', hentry', hbinding'⟩ := hdescribes'
    obtain rfl := hunique.capabilities (hsame.capabilities hhome) hhome'
    obtain rfl := hunique.logicalDevices (hsame.logicalDevices hid) hid'
    have hcapability :=
      hunique.capabilities (hsame.capabilities hentry.capability) hentry'.capability
    obtain ⟨hattr, howner, -⟩ := hentry
    obtain ⟨hattr', howner', -⟩ := hentry'
    cases attachment
    cases attachment'
    simp_all
  | device hhome hid hentry hbinding =>
    obtain _ | ⟨hhome', hid', hentry', hbinding'⟩ := hdescribes'
    obtain rfl := hunique.containers (hsame.containers hhome) hhome'
    obtain rfl := hunique.devices (hsame.devices hid) hid'
    have hcapability :=
      hunique.capabilities (hsame.capabilities hentry.capability) hentry'.capability
    have hsameBinding := eq_of_optionRel hbinding hbinding'
      fun hone hother => hsame.binding_eq hunique hone hother
    obtain ⟨hattr, howner, -⟩ := hentry
    obtain ⟨hattr', howner', -⟩ := hentry'
    cases attachment
    cases attachment'
    simp_all

/-! ## Entities, apart from their lists of members -/

theorem SameNames.container_eq {kind : ContainerKind} {entry : ContainerEntry}
    {container container' : Container} (hdescribes : entry.Describes catalog kind container)
    (hdescribes' : entry.Describes other kind container') :
    { container with devices := [] } = { container' with devices := [] } := by
  have hparents := eq_of_forall₂ hdescribes.parents hdescribes'.parents
    fun hone hother => hunique.containers (hsame.containers hone) hother
  rw [hdescribes.kind, hdescribes'.kind, hdescribes.name, hdescribes'.name, hparents]

/-- An entry describes one device only. -/
theorem SameNames.device_eq {home : String} {entry : DeviceEntry} {device device' : Device}
    (hdescribes : entry.Describes catalog home device)
    (hdescribes' : entry.Describes other home device') :
    { device with attachments := [] } = { device' with attachments := [] } := by
  have howner := hunique.containers (hsame.containers hdescribes.owner) hdescribes'.owner
  have hparents := eq_of_forall₂ hdescribes.parents hdescribes'.parents
    fun hone hother => hsame.leadsToDevice_eq hunique hone hother
  have hlinks := eq_of_forall₂ hdescribes.links (howner ▸ hdescribes'.links)
    fun hone hother => hsame.link_eq hunique hone hother
  rw [hdescribes.name, hdescribes'.name, howner, hparents, hlinks]

theorem SameNames.logicalDevice_eq {home : String} {entry : LogicalDeviceEntry}
    {logicalDevice logicalDevice' : LogicalDevice}
    (hdescribes : entry.Describes catalog home logicalDevice)
    (hdescribes' : entry.Describes other home logicalDevice') :
    { logicalDevice with attachments := [] } = { logicalDevice' with attachments := [] } := by
  have howner := hunique.capabilities (hsame.capabilities hdescribes.owner) hdescribes'.owner
  have hparents := eq_of_forall₂ hdescribes.parents hdescribes'.parents
    fun hone hother => hsame.leadsToLogicalDevice_eq hunique hone hother
  have hrequirement := eq_of_optionRel hdescribes.requirement hdescribes'.requirement
    fun hone hother => Except.ok.inj (hone.symm.trans hother)
  rw [hdescribes.name, hdescribes'.name, howner, hparents, hrequirement]

theorem SameNames.capability_eq {entry : CapabilityEntry} {capability capability' : Capability}
    (hdescribes : entry.Describes catalog capability)
    (hdescribes' : entry.Describes other capability') :
    { capability with logicalDevices := [] } = { capability' with logicalDevices := [] } := by
  have hparents := eq_of_forall₂ hdescribes.parents hdescribes'.parents
    fun hone hother => hunique.capabilities (hsame.capabilities hone) hother
  have hmethods : capability.methods = capability'.methods := by
    apply methods_eq (hdescribes.methods.trans hdescribes'.methods.symm)
    · rw [hdescribes.methods]
      exact nodup_eraseDups _
    · intro method
      exact eq_of_forall₂ (hdescribes.variants method) (hdescribes'.variants method)
        fun hone hother => hone.eq hother
  rw [hdescribes.name, hdescribes'.name, hparents, hmethods]

end Same

/-- A file describes one catalogue at most. -/
theorem Describes.eq (hdescribes : file.Describes catalog) (hdescribes' : file.Describes other) :
    catalog = other := by
  have hsame := hdescribes.sameNames hdescribes'
  have hunique := hdescribes'.names
  apply Catalog.eq_of_outline_eq _ hdescribes.members hdescribes'.members
  simp only [Catalog.outline, Catalog.mk.injEq]
  refine ⟨?_, ?_, ?_, ?_, ?_⟩
  · exact map_eq_of_forall₂ hdescribes.containers hdescribes'.containers
      fun hone hother => hsame.container_eq hunique hone hother
  · exact map_eq_of_forall₂ hdescribes.devices hdescribes'.devices
      fun hone hother => hsame.device_eq hunique hone hother
  · exact eq_of_forall₂ hdescribes.attachments hdescribes'.attachments
      fun hone hother => hsame.attachment_eq hunique hone hother
  · exact map_eq_of_forall₂ hdescribes.capabilities hdescribes'.capabilities
      fun hone hother => hsame.capability_eq hunique hone hother
  · exact map_eq_of_forall₂ hdescribes.logicalDevices hdescribes'.logicalDevices
      fun hone hother => hsame.logicalDevice_eq hunique hone hother

/-- A file that is loaded describes the catalogue, and nothing but this catalogue. -/
theorem load_faithful (hloaded : file.load = .ok catalog) :
    file.Describes catalog ∧ ∀ other, file.Describes other → other = catalog := by
  obtain ⟨-, hdescribes⟩ := built_and_describes_of_load hloaded
  exact ⟨hdescribes, fun other hother => hother.eq hdescribes⟩

/-- The ping file is loaded, and describes what is loaded and nothing else. -/
theorem load_faithful_pingFile : ∃ catalog, pingFile.load = .ok catalog ∧
    pingFile.Describes catalog ∧ ∀ other, pingFile.Describes other → other = catalog := by
  have hok : pingFile.load.isOk = true := by decide +kernel
  obtain ⟨catalog, hloaded⟩ := Catalog.exists_of_isOk hok
  exact ⟨catalog, hloaded, load_faithful hloaded⟩

end DeclarationFile

end LabMatch
