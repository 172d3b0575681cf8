import LabMatch.Proofs.DeclarationFile.Determined

/-!
# Paths of devices that were declared before

While a file is loaded, a device may extend one that was declared before it, by the path
made of the name of its container, a point and its own name.  The path is divided at its
first point.  It leads back to the device exactly if the name of the container has no point;
otherwise it leads to whatever the shorter owner has under the longer name, if anything.
-/

namespace LabMatch

namespace DeclarationFile

/-! ## Where the loader is -/

/-- Loads capability types and the containers before the owner, opens the owner, and fills in
its devices before the one that is next. -/
def loadUpTo (capabilities : List CapabilityEntry)
    (before : List (ContainerKind × ContainerEntry)) (kind : ContainerKind)
    (owner : ContainerEntry) (earlier : List DeviceEntry) :
    Except LoadError (ContainerId × Catalog) := do
  let catalog ← capabilities.foldlM Catalog.loadCapabilityName .empty
  let catalog ← capabilities.foldlM Catalog.loadCapability catalog
  let catalog ← before.foldlM
    (fun catalog entry => Catalog.loadContainer entry.1 catalog entry.2) catalog
  let (id, catalog) ← Catalog.openContainer kind catalog owner
  let catalog ← earlier.foldlM (Catalog.loadDevice id owner.name) catalog
  return (id, catalog)

/-- Loading the file comes to the device entry of the owner, with this catalogue so far. -/
def ComesTo (file : DeclarationFile) (kind : ContainerKind) (owner : ContainerEntry)
    (entry : DeviceEntry) (container : ContainerId) (catalog : Catalog) : Prop :=
  ∃ before after earlier later,
    file.containers = before ++ (kind, owner) :: after ∧
    owner.devices = earlier ++ entry :: later ∧
    loadUpTo file.capabilities before kind owner earlier = .ok (container, catalog)

/-- The rest of a file is loaded from where the loader is. -/
theorem load_eq_loadUpTo {file : DeclarationFile} {kind : ContainerKind} {owner : ContainerEntry}
    {entry : DeviceEntry} {before after : List (ContainerKind × ContainerEntry)}
    {earlier later : List DeviceEntry}
    (hcontainers : file.containers = before ++ (kind, owner) :: after)
    (hdevices : owner.devices = earlier ++ entry :: later) :
    file.load = (do
      let (id, catalog) ← loadUpTo file.capabilities before kind owner earlier
      let catalog ← Catalog.loadDevice id owner.name catalog entry
      let catalog ← later.foldlM (Catalog.loadDevice id owner.name) catalog
      let catalog ← after.foldlM
        (fun catalog entry => Catalog.loadContainer entry.1 catalog entry.2) catalog
      declaredAt "declarations" catalog.complete) := by
  rw [load_eq, hcontainers]
  simp only [loadUpTo, List.foldlM_append, List.foldlM_cons, Catalog.loadContainer_eq, hdevices,
    bind_assoc, pure_bind]

/-- What holds where the loader is: the device that is next has been declared, in the container
of its owner. -/
structure ReadyFor (kind : ContainerKind) (owner : ContainerEntry) (entry : DeviceEntry)
    (container : ContainerId) (catalog : Catalog) : Prop where
  declared : Catalog.Declared catalog
  home : catalog.NamesContainer owner.name container
  kind : (catalog.container container).kind = kind
  listed : ∃ id, catalog.NamesDevice container entry.name id

theorem continues_of_loadDevices {catalog next : Catalog} (hdeclared : Catalog.Declared catalog)
    {owner : String} {container : ContainerId} (hhome : catalog.NamesContainer owner container)
    {entries : List DeviceEntry}
    (hloaded : entries.foldlM (Catalog.loadDevice container owner) catalog = .ok next) :
    catalog.Continues next := by
  apply Catalog.foldlM_continues _ hloaded
  intro middle next entry hmiddle haccepted
  obtain ⟨_, -, hcontinues, -⟩ := Catalog.loadDevice_outline
    (hdeclared.continues hmiddle) (hhome.later hmiddle) haccepted
  exact hcontinues

theorem continues_of_loadContainers {catalog next : Catalog}
    (hdeclared : Catalog.Declared catalog) {entries : List (ContainerKind × ContainerEntry)}
    (hloaded : entries.foldlM
      (fun catalog entry => Catalog.loadContainer entry.1 catalog entry.2) catalog = .ok next) :
    catalog.Continues next := by
  obtain ⟨hcontinues, -⟩ := Catalog.loadContainers_outline hdeclared hloaded
  exact hcontinues

section Reached

variable {file : DeclarationFile} {kind : ContainerKind} {owner : ContainerEntry}
  {entry : DeviceEntry} {container : ContainerId} {catalog final : Catalog}

/-- Where the loader comes to a device, the device was declared before. -/
theorem ComesTo.readyFor (hcomes : file.ComesTo kind owner entry container catalog) :
    ReadyFor kind owner entry container catalog := by
  obtain ⟨before, after, earlier, later, -, hdevices, hreached⟩ := hcomes
  obtain ⟨named, hnamed, hreached⟩ := Catalog.exists_of_bind_eq_ok hreached
  obtain ⟨filled, hfilled, hreached⟩ := Catalog.exists_of_bind_eq_ok hreached
  obtain ⟨start, hstart, hreached⟩ := Catalog.exists_of_bind_eq_ok hreached
  obtain ⟨⟨id, opened⟩, hopened, hreached⟩ := Catalog.exists_of_bind_eq_ok hreached
  obtain ⟨reached, hreached, hsame⟩ := Catalog.exists_of_bind_eq_ok hreached
  cases hsame
  obtain ⟨hfilledDeclared, -⟩ := Catalog.loadCapabilityTypes_outline hnamed hfilled
  have hstartDeclared :=
    hfilledDeclared.continues (continues_of_loadContainers hfilledDeclared hstart)
  obtain ⟨hopenedLater, hhome, hkind, parents, hopenedOutline, -⟩ :=
    Catalog.openContainer_outline hstartDeclared hopened
  have hopenedDeclared := hstartDeclared.continues hopenedLater
  have hlater := continues_of_loadDevices hopenedDeclared hhome hreached
  have hnext : opened.outline.devices[start.outline.devices.length + earlier.length]? =
      some (Catalog.blankDevice container entry) := by
    rw [hopenedOutline, hdevices]
    simp
  exact {
    declared := hopenedDeclared.continues hlater
    home := hhome.later hlater
    kind := (hlater.kind_eq hhome.has).trans hkind
    listed := ⟨_, (Catalog.namesDevice_of_outline hnext).later hlater⟩ }

/-- What is loaded in the end comes from the catalogue so far. -/
theorem ComesTo.continues (hcomes : file.ComesTo kind owner entry container catalog)
    (hloaded : file.load = .ok final) : catalog.Continues final := by
  obtain ⟨hdeclared, hhome, -, -⟩ := hcomes.readyFor
  obtain ⟨before, after, earlier, later, hcontainers, hdevices, hreached⟩ := hcomes
  rw [load_eq_loadUpTo hcontainers hdevices, hreached] at hloaded
  obtain ⟨_, hsame, hloaded⟩ := Catalog.exists_of_bind_eq_ok hloaded
  cases hsame
  obtain ⟨filled, hfilled, hloaded⟩ := Catalog.exists_of_bind_eq_ok hloaded
  obtain ⟨closed, hclosed, hloaded⟩ := Catalog.exists_of_bind_eq_ok hloaded
  obtain ⟨populated, hpopulated, hcomplete⟩ := Catalog.exists_of_bind_eq_ok hloaded
  obtain ⟨rfl, -⟩ := Catalog.complete_eq_ok (Catalog.of_declaredAt_eq_ok hcomplete)
  obtain ⟨_, -, hfilledLater, -⟩ := Catalog.loadDevice_outline hdeclared hhome hfilled
  have hfilledDeclared := hdeclared.continues hfilledLater
  have hclosedLater :=
    continues_of_loadDevices hfilledDeclared (hhome.later hfilledLater) hclosed
  have hrest := continues_of_loadContainers (hfilledDeclared.continues hclosedLater) hpopulated
  exact (hfilledLater.trans hclosedLater).trans hrest

theorem ComesTo.mem_devices (hcomes : file.ComesTo kind owner entry container catalog) :
    (owner.name, entry) ∈ file.devices := by
  obtain ⟨before, after, earlier, later, hcontainers, hdevices, -⟩ := hcomes
  simp [devices, hcontainers, ContainerEntry.ownedDevices, hdevices]

end Reached

/-! ## What a path leads to -/

/-- A point in the name of an owner divides the path of each of its members. -/
theorem DividesInto.extend {owner front rest : String} (hdivides : DividesInto owner front rest)
    (name : String) : DividesInto (owner ++ "." ++ name) front (rest ++ "." ++ name) where
  text := by
    rw [hdivides.text]
    simp only [String.append_assoc]
  first := hdivides.first

/-- The path of a device leads to it exactly if the name of its container has no point. -/
theorem leadsToDevice_path_iff {catalog : Catalog} {owner name : String} {home : ContainerId}
    {id : DeviceId} (hhome : catalog.NamesContainer owner home)
    (hid : catalog.NamesDevice home name id) :
    catalog.LeadsToDevice (owner ++ "." ++ name) id ↔ '.' ∉ owner.toList := by
  constructor
  · intro hleads
    obtain ⟨owner', name', home', hdivides, howner', hname'⟩ := hleads
    obtain rfl : home = home' := hid.owner.symm.trans hname'.owner
    rw [← hhome.name, howner'.name]
    exact hdivides.first
  · intro hpoint
    exact ⟨owner, name, home, ⟨rfl, hpoint⟩, hhome, hid⟩

/-- If the name of the container has a point, the path is looked up under its front part. -/
theorem deviceAt_path_of_dividesInto (catalog : Catalog) (site : String)
    {owner name front rest : String} (hdivides : DividesInto owner front rest) :
    catalog.deviceAt site (owner ++ "." ++ name) =
      referenceAt site .device (owner ++ "." ++ name) (do
        catalog.deviceNamed? (← catalog.containerNamed? front) (rest ++ "." ++ name)) := by
  rw [Catalog.deviceAt, splitPath?_eq_some_iff.mpr (hdivides.extend name)]
  rfl

/-! ## What a device extends -/

/-- A device may extend any earlier device of a container of the same kind. -/
theorem exists_extendDevice_eq_ok {catalog : Catalog} {child parent : DeviceId}
    (hchild : catalog.Has child) (horder : parent < child)
    (hkinds : catalog.kindOfDevice child = catalog.kindOfDevice parent) :
    ∃ next, catalog.extendDevice child parent = .ok next ∧
      (next.device child).parents = (catalog.device child).parents ++ [parent] := by
  have hknown : catalog.known child = .ok () := if_pos hchild
  have hparent : catalog.known parent = .ok () := if_pos (Nat.lt_trans horder hchild)
  have haccepted : catalog.extendDevice child parent = .ok { catalog with
      devices := catalog.devices.modify child.index fun entry =>
        { entry with parents := entry.parents ++ [parent] } } := by
    rw [Catalog.extendDevice, hknown, hparent]
    simp only [horder, hkinds, not_true_eq_false, if_false, ne_eq]
    rfl
  refine ⟨_, haccepted, ?_⟩
  rw [Catalog.device, Catalog.getD_modify _ _ hchild, if_pos rfl]
  rfl

/-- Fills in what a device implements and its links, once its parent is set. -/
def fillDevice (container : ContainerId) (owner : String) (entry : DeviceEntry) (id : DeviceId)
    (catalog : Catalog) : Except LoadError Catalog := do
  let site := owner ++ "." ++ entry.name
  let catalog ← entry.attachments.foldlM (Catalog.loadAttachment container site id) catalog
  entry.links.foldlM (Catalog.loadLink container site id) catalog

/-- The device of an entry is the one that the entry describes. -/
theorem Describes.device {file : DeclarationFile} {catalog : Catalog}
    (hdescribes : file.Describes catalog) {owner : String} {entry : DeviceEntry}
    {container : ContainerId} {id : DeviceId} (hentry : (owner, entry) ∈ file.devices)
    (howner : catalog.NamesContainer owner container)
    (hid : catalog.NamesDevice container entry.name id) :
    entry.Describes catalog owner (catalog.device id) := by
  obtain ⟨device, hdevice, hdescribed⟩ := exists_of_forall₂_left hdescribes.devices hentry
  obtain ⟨position, hposition, rfl⟩ := List.getElem_of_mem hdevice
  have hfound : catalog.device ⟨position⟩ = catalog.devices[position] := by
    simp [Catalog.device, hposition]
  rw [← hfound] at hdescribed
  have hnames : catalog.NamesDevice container entry.name ⟨position⟩ :=
    ⟨hposition, hdescribes.names.containers hdescribed.owner howner, hdescribed.name⟩
  rwa [hdescribes.names.devices hid hnames]

section Extends

variable {file : DeclarationFile} {kind : ContainerKind} {owner : ContainerEntry}
  {entry : DeviceEntry} {container home : ContainerId} {catalog : Catalog}
  {id registered : DeviceId} {homeName name : String}
  (hcomes : file.ComesTo kind owner entry container catalog)
  (hid : catalog.NamesDevice container entry.name id)
  (hhome : catalog.NamesContainer homeName home)
  (hregistered : catalog.NamesDevice home name registered)
  (hentry : entry.parent = some (homeName ++ "." ++ name))

include hcomes hid hhome hregistered hentry

/-- The loader goes on with the device that extends the earlier one. -/
theorem exists_loadDevice_eq (hpoint : '.' ∉ homeName.toList) (horder : registered < id)
    (hkind : (catalog.container home).kind = kind) :
    ∃ next, catalog.extendDevice id registered = .ok next ∧
      (next.device id).parents = (catalog.device id).parents ++ [registered] ∧
      Catalog.loadDevice container owner.name catalog entry =
        fillDevice container owner.name entry id next := by
  obtain ⟨hdeclared, -, hready, -⟩ := hcomes.readyFor
  have hkinds : catalog.kindOfDevice id = catalog.kindOfDevice registered := by
    rw [Catalog.kindOfDevice, Catalog.kindOfDevice, hid.owner, hregistered.owner, hready, hkind]
  obtain ⟨next, haccepted, hparents⟩ := exists_extendDevice_eq_ok hid.has horder hkinds
  refine ⟨next, haccepted, hparents, ?_⟩
  rw [Catalog.loadDevice, hdeclared.memberAt_eq_ok_iff.mpr hid, hentry]
  simp only [Catalog.withParent]
  rw [hdeclared.deviceAt_eq_ok_iff.mpr ((leadsToDevice_path_iff hhome hregistered).mpr hpoint)]
  simp only [bind, Except.bind, haccepted, declaredAt, Except.mapError, fillDevice]

/-- If the file is loaded, the device extends the earlier one exactly if the name of the
container has no point. -/
theorem parents_eq_singleton_iff {final : Catalog} (hloaded : file.load = .ok final) :
    (final.device id).parents = [registered] ↔ '.' ∉ homeName.toList := by
  have hready := hcomes.readyFor
  have hlater := hcomes.continues hloaded
  have hdeclared := hready.declared.continues hlater
  obtain ⟨-, hdescribes⟩ := built_and_describes_of_load hloaded
  have hparents := (hdescribes.device hcomes.mem_devices (hready.home.later hlater)
    (hid.later hlater)).parents
  rw [hentry, Option.toList_some, List.forall₂_cons_left_iff] at hparents
  obtain ⟨parent, others, hparent, hothers, hsame⟩ := hparents
  obtain rfl := List.forall₂_nil_left_iff.mp hothers
  rw [hsame, List.singleton_inj,
    ← leadsToDevice_path_iff (hhome.later hlater) (hregistered.later hlater)]
  constructor
  · rintro rfl
    exact hparent
  · intro hleads
    have hone : final.deviceAt "" (homeName ++ "." ++ name) = .ok parent :=
      hdeclared.deviceAt_eq_ok_iff.mpr hparent
    rw [hdeclared.deviceAt_eq_ok_iff.mpr hleads] at hone
    exact (Except.ok.inj hone).symm

end Extends

/-- Wherever the loader is, the path of a device that has been declared leads to this device
exactly if the name of its container has no point; otherwise the path is looked up under the
part before the first point.  An entry of a later device in a container of the same kind may
extend the device by this path under the same condition: then the loader goes on with the
extended device, and if the whole file is loaded, the device extends just the earlier one. -/
theorem extends_path_of_declared_device {file : DeclarationFile} {kind : ContainerKind}
    {owner : ContainerEntry} {entry : DeviceEntry} {container home : ContainerId}
    {catalog : Catalog} {registered : DeviceId} {homeName name : String}
    (hcomes : file.ComesTo kind owner entry container catalog)
    (hhome : catalog.NamesContainer homeName home)
    (hregistered : catalog.NamesDevice home name registered) :
    (∀ site, catalog.deviceAt site (homeName ++ "." ++ name) = .ok registered ↔
      '.' ∉ homeName.toList) ∧
    (∀ site front rest, DividesInto homeName front rest →
      catalog.deviceAt site (homeName ++ "." ++ name) =
        referenceAt site .device (homeName ++ "." ++ name) (do
          catalog.deviceNamed? (← catalog.containerNamed? front) (rest ++ "." ++ name))) ∧
    ∃ id, catalog.NamesDevice container entry.name id ∧
      (entry.parent = some (homeName ++ "." ++ name) → registered < id →
        (catalog.container home).kind = kind →
        ('.' ∉ homeName.toList →
          ∃ next, catalog.extendDevice id registered = .ok next ∧
            (next.device id).parents = (catalog.device id).parents ++ [registered] ∧
            Catalog.loadDevice container owner.name catalog entry =
              fillDevice container owner.name entry id next) ∧
        ∀ final, file.load = .ok final →
          ((final.device id).parents = [registered] ↔ '.' ∉ homeName.toList)) := by
  obtain ⟨hdeclared, -, -, id, hid⟩ := hcomes.readyFor
  refine ⟨fun site => ?_, fun site front rest hdivides => ?_, id, hid,
    fun hentry horder hkind => ⟨fun hpoint => ?_, fun final hloaded => ?_⟩⟩
  · rw [hdeclared.deviceAt_eq_ok_iff, leadsToDevice_path_iff hhome hregistered]
  · exact deviceAt_path_of_dividesInto catalog site hdivides
  · exact exists_loadDevice_eq hcomes hid hhome hregistered hentry hpoint horder hkind
  · exact parents_eq_singleton_iff hcomes hid hhome hregistered hentry hloaded

def spareHost : DeviceEntry := ⟨"Host", some "Rack.Host", [⟨"ping", "Probe", none⟩], []⟩

def spareRack : ContainerEntry := ⟨"Spare", some "Rack", [spareHost]⟩

/-- The spare host extends the host of the rack, whose name has no point. -/
theorem extends_path_of_declared_device_spareHost : ∃ catalog final,
    pingFile.ComesTo .setup spareRack spareHost ⟨2⟩ catalog ∧ pingFile.load = .ok final ∧
      catalog.deviceAt "Spare.Host" "Rack.Host" = .ok ⟨2⟩ ∧
      (final.device ⟨3⟩).parents = [⟨2⟩] := by
  have hseen : ((loadUpTo pingFile.capabilities (pingFile.containers.take 2) .setup spareRack
      []).toOption.map fun made => (made.1, made.2.containerNamed? "Rack",
        made.2.deviceNamed? ⟨1⟩ "Host", made.2.deviceNamed? ⟨2⟩ "Host",
        (made.2.container ⟨1⟩).kind)) =
      some (⟨2⟩, some ⟨1⟩, some ⟨2⟩, some ⟨3⟩, .setup) := by decide +kernel
  obtain ⟨⟨container, catalog⟩, hreached, hseen⟩ := Catalog.exists_of_map_toOption hseen
  simp only [Prod.mk.injEq] at hseen
  obtain ⟨rfl, hrack, hhost, hspare, hkind⟩ := hseen
  have hcomes : pingFile.ComesTo .setup spareRack spareHost ⟨2⟩ catalog :=
    ⟨pingFile.containers.take 2, [], [], [], rfl, rfl, hreached⟩
  have hok : pingFile.load.isOk = true := by decide +kernel
  obtain ⟨final, hloaded⟩ := Catalog.exists_of_isOk hok
  have hdeclared := hcomes.readyFor.declared
  rw [hdeclared.containerNamed?_eq_some_iff] at hrack
  rw [hdeclared.deviceNamed?_eq_some_iff] at hhost hspare
  obtain ⟨hleads, -, id, hid, hextends⟩ := extends_path_of_declared_device hcomes hrack hhost
  obtain rfl := hdeclared.namesUnique.devices hid hspare
  obtain ⟨-, hparents⟩ := hextends rfl (by decide) hkind
  exact ⟨catalog, final, hcomes, hloaded, (hleads "Spare.Host").mpr (by decide),
    (hparents final hloaded).mpr (by decide)⟩

/-- The host of the second lab is to be like that of the first one. -/
def secondHost : DeviceEntry := ⟨"Host", some "Lab.1.Host", [], []⟩

def secondLab : ContainerEntry := ⟨"Lab.2", none, [secondHost]⟩

def numberedLabs : DeclarationFile where
  capabilities := []
  scenarios := []
  setups := [⟨"Lab.1", none, [⟨"Host", none, [], []⟩]⟩, secondLab]

/-- The lab has a device that bears the number of the first lab in its name. -/
def nestedLabs : DeclarationFile where
  capabilities := []
  scenarios := []
  setups := [⟨"Lab", none, [⟨"1.Host", none, [], []⟩]⟩, ⟨"Lab.1", none, [⟨"Host", none, [], []⟩]⟩,
    secondLab]

/-- The path of the host of `Lab.1` is unknown, or leads to a device of `Lab`. -/
theorem path_misses_declared_device :
    (∃ catalog, numberedLabs.ComesTo .setup secondLab secondHost ⟨1⟩ catalog ∧
      catalog.NamesContainer "Lab.1" ⟨0⟩ ∧ catalog.NamesDevice ⟨0⟩ "Host" ⟨0⟩ ∧
      (catalog.container ⟨0⟩).kind = .setup) ∧
    secondHost.parent = some ("Lab.1" ++ "." ++ "Host") ∧
    numberedLabs.load = .error (.unknownReference "Lab.2.Host" .device "Lab.1.Host") ∧
    ∃ final, nestedLabs.load = .ok final ∧ final.NamesContainer "Lab.1" ⟨1⟩ ∧
      final.NamesDevice ⟨1⟩ "Host" ⟨1⟩ ∧ (final.device ⟨2⟩).parents = [⟨0⟩] := by
  refine ⟨?_, by decide, ?_, ?_⟩
  · have hseen : ((loadUpTo numberedLabs.capabilities (numberedLabs.containers.take 1) .setup
        secondLab []).toOption.map fun made => (made.1, made.2.containerNamed? "Lab.1",
          made.2.deviceNamed? ⟨0⟩ "Host", (made.2.container ⟨0⟩).kind)) =
        some (⟨1⟩, some ⟨0⟩, some ⟨0⟩, .setup) := by decide +kernel
    obtain ⟨⟨container, catalog⟩, hreached, hseen⟩ := Catalog.exists_of_map_toOption hseen
    simp only [Prod.mk.injEq] at hseen
    obtain ⟨rfl, hlab, hhost, hkind⟩ := hseen
    have hcomes : numberedLabs.ComesTo .setup secondLab secondHost ⟨1⟩ catalog :=
      ⟨numberedLabs.containers.take 1, [], [], [], rfl, rfl, hreached⟩
    have hdeclared := hcomes.readyFor.declared
    exact ⟨catalog, hcomes, hdeclared.containerNamed?_eq_some_iff.mp hlab,
      hdeclared.deviceNamed?_eq_some_iff.mp hhost, hkind⟩
  · have hfails : numberedLabs.load.map (fun _ => ()) =
        .error (.unknownReference "Lab.2.Host" .device "Lab.1.Host") := by decide +kernel
    exact Catalog.eq_error_of_map hfails
  · have hseen : (nestedLabs.load.toOption.map fun final => (final.containerNamed? "Lab.1",
        final.deviceNamed? ⟨1⟩ "Host", (final.device ⟨2⟩).parents)) =
        some (some ⟨1⟩, some ⟨1⟩, [⟨0⟩]) := by decide +kernel
    obtain ⟨final, hloaded, hseen⟩ := Catalog.exists_of_map_toOption hseen
    simp only [Prod.mk.injEq] at hseen
    obtain ⟨hlab, hhost, hparents⟩ := hseen
    obtain ⟨hbuilt, -⟩ := built_and_describes_of_load hloaded
    have hdeclared := hbuilt.declared
    exact ⟨final, hloaded, hdeclared.containerNamed?_eq_some_iff.mp hlab,
      hdeclared.deviceNamed?_eq_some_iff.mp hhost, hparents⟩

end DeclarationFile

end LabMatch
