import LabMatch.Proofs.DeclarationFile.Loading

/-!
# Loading containers

What loading the entries of scenarios and setups adds to the outline of a catalogue.
-/

namespace LabMatch.Catalog

open DeclarationFile

variable {catalog next : Catalog} {name owner site : String} {container : ContainerId}
  {id : DeviceId}

/-! ## Attachments -/

/-- Loading what a device implements adds it to the attachments. -/
theorem loadAttachment_outline (hdeclared : Declared catalog) {entry : AttachEntry}
    (hhome : catalog.NamesContainer owner container) (hid : catalog.NamesDevice container name id)
    (hloaded : loadAttachment container site id catalog entry = .ok next) :
    catalog.Continues next ∧ ∃ made,
      next.outline =
        { catalog.outline with attachments := catalog.outline.attachments ++ [made] } ∧
      DescribesAttachment next (.device owner name, entry) made := by
  obtain ⟨capability, hcapability, hloaded⟩ := exists_of_bind_eq_ok hloaded
  obtain ⟨⟨attachment, attached⟩, hattached, hloaded⟩ := exists_of_bind_eq_ok hloaded
  rw [hdeclared.capabilityAt_eq_ok_iff] at hcapability
  obtain ⟨hattachedLater, rfl, hattachedOutline⟩ :=
    outline_of_introduced (.attach (.device id) entry.attr capability) rfl rfl hattached
  dsimp only at hloaded
  cases hbind : entry.bind with
  | none =>
    rw [hbind] at hloaded
    cases hloaded
    exact ⟨hattachedLater, _, hattachedOutline, .device (hhome.later hattachedLater)
      (hid.later hattachedLater) ⟨rfl, rfl, hcapability.later hattachedLater⟩ (hbind ▸ .none)⟩
  | some bind =>
    rw [hbind] at hloaded
    obtain ⟨target, htarget, hloaded⟩ := exists_of_bind_eq_ok hloaded
    rw [(hdeclared.continues hattachedLater).memberAt_eq_ok_iff] at htarget
    obtain ⟨hlater, houtline⟩ := outline_of_changed
      (.bind ⟨catalog.outline.count .attachment⟩ bind.logicalDevice target) rfl hloaded
    have hall := hattachedLater.trans hlater
    refine ⟨hall, ⟨entry.attr, .device id, capability, some ⟨bind.logicalDevice, target⟩⟩, ?_,
      .device (hhome.later hall) (hid.later hall) ⟨rfl, rfl, hcapability.later hall⟩
        (hbind ▸ .some ⟨rfl, htarget.later hlater⟩)⟩
    rw [houtline, hattachedOutline]
    simp [Declaration.effect, Changes.apply, Change.apply, count, modify_last]

/-- What a device implements is attached to it in the order of the entries. -/
theorem loadAttachments_outline (hdeclared : Declared catalog) {entries : List AttachEntry}
    (hhome : catalog.NamesContainer owner container) (hid : catalog.NamesDevice container name id)
    (hloaded : entries.foldlM (loadAttachment container site id) catalog = .ok next) :
    catalog.Continues next ∧ ∃ made,
      next.outline =
        { catalog.outline with attachments := catalog.outline.attachments ++ made } ∧
      List.Forall₂ (DescribesAttachment next)
        (entries.map fun entry => (.device owner name, entry)) made := by
  simp only [List.forall₂_map_left_iff]
  refine foldlM_outline
    (fun outline made => { outline with attachments := outline.attachments ++ made })
    (fun catalog entry => DescribesAttachment catalog (.device owner name, entry))
    (by simp) (by simp) (fun hdescribes hcontinues => hdescribes.later hcontinues) ?_ hloaded
  intro middle next entry hearlier haccepted
  exact loadAttachment_outline (hdeclared.continues hearlier) (hhome.later hearlier)
    (hid.later hearlier) haccepted

/-! ## Links -/

/-- Loading a link adds it to its device and changes nothing else. -/
theorem loadLink_outline (hdeclared : Declared catalog) {entry : LinkEntry}
    (hloaded : loadLink container site id catalog entry = .ok next) :
    catalog.Continues next ∧ ∃ made,
      next.outline = { catalog.outline with
        devices := catalog.outline.devices.modify id.index fun device =>
          { device with links := device.links ++ [made] } } ∧
      entry.Describes next container made := by
  obtain ⟨peer, hpeer, hloaded⟩ := exists_of_bind_eq_ok hloaded
  obtain ⟨connection, hread, hloaded⟩ := exists_of_bind_eq_ok hloaded
  rw [hdeclared.memberAt_eq_ok_iff] at hpeer
  obtain ⟨hcontinues, houtline⟩ := outline_of_changed
    (.connect ⟨id, entry.node.getD Endpoint.defaultNode⟩
      ⟨peer, entry.peerNode.getD Endpoint.defaultNode⟩ connection (!entry.bidirectional))
    rfl hloaded
  exact ⟨hcontinues, _, houtline, rfl, hpeer.later hcontinues, rfl, of_connectionAt_eq_ok hread,
    rfl⟩

/-- The links of a device are declared in the order of the entries. -/
theorem loadLinks_outline (hdeclared : Declared catalog) {entries : List LinkEntry}
    (hloaded : entries.foldlM (loadLink container site id) catalog = .ok next) :
    catalog.Continues next ∧ ∃ made,
      next.outline = { catalog.outline with
        devices := catalog.outline.devices.modify id.index fun device =>
          { device with links := device.links ++ made } } ∧
      List.Forall₂ (LinkEntry.Describes next container) entries made := by
  refine foldlM_outline
    (fun outline (made : List DeclaredLink) => { outline with
      devices := outline.devices.modify id.index fun device =>
        { device with links := device.links ++ made } })
    (fun catalog => LinkEntry.Describes catalog container)
    (by simp [modify_of_same]) ?_ (fun hdescribes hcontinues => hdescribes.later hcontinues) ?_
    hloaded
  · intro outline made others
    simp only [List.modify_modify_eq, Function.comp_def, List.append_assoc, List.singleton_append]
  · intro middle next entry hearlier haccepted
    exact loadLink_outline (hdeclared.continues hearlier) haccepted

/-! ## Devices -/

/-- Declares what a device extends. -/
theorem extendDevice_outline (hdeclared : Declared catalog) {path : Option String}
    (hloaded : (catalog.withParent path fun path => do
      declaredAt site (catalog.extendDevice id (← catalog.deviceAt site path))) = .ok next) :
    catalog.Continues next ∧ ∃ parents,
      next.outline = { catalog.outline with
        devices := catalog.outline.devices.modify id.index fun device =>
          { device with parents := device.parents ++ parents } } ∧
      List.Forall₂ next.LeadsToDevice path.toList parents := by
  refine withParent_outline
    (fun outline (parents : List DeviceId) => { outline with
      devices := outline.devices.modify id.index fun device =>
        { device with parents := device.parents ++ parents } })
    LeadsToDevice (by simp [modify_of_same]) ?_ hloaded
  intro path haccepted
  obtain ⟨parent, hparent, haccepted⟩ := exists_of_bind_eq_ok haccepted
  rw [hdeclared.deviceAt_eq_ok_iff] at hparent
  obtain ⟨hcontinues, houtline⟩ := outline_of_changed (.extendDevice id parent) rfl haccepted
  exact ⟨hcontinues, parent, houtline, hparent.later hcontinues⟩

/-- Filling in a device changes it as the entry says. -/
theorem loadDevice_outline (hdeclared : Declared catalog) {entry : DeviceEntry}
    (hhome : catalog.NamesContainer owner container)
    (hloaded : loadDevice container owner catalog entry = .ok next) :
    ∃ id, catalog.NamesDevice container entry.name id ∧ catalog.Continues next ∧
      ∃ change attachments,
        next.outline = { catalog.outline with
          devices := catalog.outline.devices.modify id.index change
          attachments := catalog.outline.attachments ++ attachments } ∧
        entry.Describes next owner (change ⟨entry.name, container, [], [], []⟩) ∧
        List.Forall₂ (DescribesAttachment next)
          (entry.attachments.map fun attachment => (.device owner entry.name, attachment))
          attachments := by
  obtain ⟨id, hid, hloaded⟩ := exists_of_bind_eq_ok hloaded
  obtain ⟨extended, hextended, hloaded⟩ := exists_of_bind_eq_ok hloaded
  obtain ⟨attached, hattached, hloaded⟩ := exists_of_bind_eq_ok hloaded
  rw [hdeclared.memberAt_eq_ok_iff] at hid
  obtain ⟨hextendedLater, parents, hextendedOutline, hparents⟩ :=
    extendDevice_outline hdeclared hextended
  obtain ⟨hattachedLater, attachments, hattachedOutline, hattachments⟩ := loadAttachments_outline
    (hdeclared.continues hextendedLater) (hhome.later hextendedLater) (hid.later hextendedLater)
    hattached
  obtain ⟨hlater, links, houtline, hlinks⟩ :=
    loadLinks_outline (hdeclared.continues (hextendedLater.trans hattachedLater)) hloaded
  have hrest := hattachedLater.trans hlater
  refine ⟨id, hid, hextendedLater.trans hrest,
    fun device => { device with
      parents := device.parents ++ parents
      links := device.links ++ links },
    attachments, ?_, ?_, ?_⟩
  · rw [houtline, hattachedOutline, hextendedOutline]
    simp only [List.modify_modify_eq]
    rfl
  · exact ⟨rfl, hhome.later (hextendedLater.trans hrest),
      hparents.imp fun _ _ hleads => hleads.later hrest, hlinks⟩
  · exact hattachments.imp fun _ _ hdescribes => hdescribes.later hlater

def blankDevice (container : ContainerId) (entry : DeviceEntry) : Device :=
  ⟨entry.name, container, [], [], []⟩

/-- All devices of a container are declared before any of them is filled in. -/
theorem loadDeviceNames_outline {entries : List DeviceEntry}
    (hloaded : entries.foldlM (loadDeviceName container owner) catalog = .ok next) :
    catalog.Continues next ∧ next.outline = { catalog.outline with
      devices := catalog.outline.devices ++ entries.map (blankDevice container) } := by
  have hmade := foldlM_outline
    (fun outline (made : List Device) => { outline with devices := outline.devices ++ made })
    (fun _ entry made => blankDevice container entry = made)
    (by simp) (by simp) (fun hsame _ => hsame)
    (fun _ haccepted => by
      obtain ⟨⟨id, made⟩, hmade, hsame⟩ := exists_of_bind_eq_ok haccepted
      cases hsame
      obtain ⟨hcontinues, -, houtline⟩ := outline_of_introduced (.device container _) rfl rfl hmade
      exact ⟨hcontinues, _, houtline, rfl⟩)
    hloaded
  obtain ⟨hcontinues, made, houtline, hsame⟩ := hmade
  rw [← List.forall₂_map_left_iff, List.forall₂_eq_eq_eq] at hsame
  exact ⟨hcontinues, hsame ▸ houtline⟩

/-- The blank devices at the end are filled in, one after the other. -/
theorem loadDevices_outline (hdeclared : Declared catalog) {entries : List DeviceEntry}
    {front : List Device} (hhome : catalog.NamesContainer owner container)
    (hblank : catalog.outline.devices = front ++ entries.map (blankDevice container))
    (hloaded : entries.foldlM (loadDevice container owner) catalog = .ok next) :
    catalog.Continues next ∧ ∃ devices attachments,
      next.outline = { catalog.outline with
        devices := front ++ devices
        attachments := catalog.outline.attachments ++ attachments } ∧
      List.Forall₂ (DeviceEntry.Describes next owner) entries devices ∧
      List.Forall₂ (DescribesAttachment next)
        (entries.flatMap fun entry => entry.attachments.map fun attachment =>
          (.device owner entry.name, attachment))
        attachments := by
  induction entries generalizing catalog front with
  | nil =>
    cases hloaded
    rw [List.map_nil, List.append_nil] at hblank
    exact ⟨.refl, [], [], by simp [← hblank], .nil, .nil⟩
  | cons entry others ih =>
    rw [List.foldlM_cons] at hloaded
    obtain ⟨middle, hfirst, hloaded⟩ := exists_of_bind_eq_ok hloaded
    obtain ⟨id, hid, hmiddle, change, attachments, houtline, hdescribes, hattachments⟩ :=
      loadDevice_outline hdeclared hhome hfirst
    have hposition : catalog.outline.devices[front.length]? =
        some (blankDevice container entry) := by
      rw [hblank]
      simp
    obtain rfl : id = ⟨front.length⟩ :=
      hdeclared.namesUnique.devices hid (namesDevice_of_outline hposition)
    have hfilled : middle.outline.devices =
        (front ++ [change (blankDevice container entry)]) ++
          others.map (blankDevice container) := by
      rw [houtline]
      simp [hblank, modify_middle]
    obtain ⟨hlater, restDevices, restAttachments, hrestOutline, hrestDevices,
      hrestAttachments⟩ := ih (hdeclared.continues hmiddle) (hhome.later hmiddle) hfilled hloaded
    refine ⟨hmiddle.trans hlater, change (blankDevice container entry) :: restDevices,
      attachments ++ restAttachments, ?_, ?_, ?_⟩
    · rw [hrestOutline, houtline]
      simp
    · exact .cons (hdescribes.later hlater) hrestDevices
    · rw [List.flatMap_cons]
      apply List.rel_append _ hrestAttachments
      exact hattachments.imp fun _ _ hone => hone.later hlater

/-! ## Containers -/

/-- Declares what a container extends. -/
theorem extendContainer_outline (hdeclared : Declared catalog) {path : Option String}
    (hloaded : (catalog.withParent path fun name => do
      let parent ← referenceAt site .container name (catalog.containerNamed? name)
      declaredAt site (catalog.extendContainer container parent)) = .ok next) :
    catalog.Continues next ∧ ∃ parents,
      next.outline = { catalog.outline with
        containers := catalog.outline.containers.modify container.index fun entry =>
          { entry with parents := entry.parents ++ parents } } ∧
      List.Forall₂ next.NamesContainer path.toList parents := by
  refine withParent_outline
    (fun outline (parents : List ContainerId) => { outline with
      containers := outline.containers.modify container.index fun entry =>
        { entry with parents := entry.parents ++ parents } })
    NamesContainer (by simp [modify_of_same]) ?_ hloaded
  intro name haccepted
  obtain ⟨parent, hparent, haccepted⟩ := exists_of_bind_eq_ok haccepted
  rw [referenceAt_eq_ok_iff, hdeclared.containerNamed?_eq_some_iff] at hparent
  obtain ⟨hcontinues, houtline⟩ :=
    outline_of_changed (.extendContainer container parent) rfl haccepted
  exact ⟨hcontinues, parent, houtline, hparent.later hcontinues⟩

/-- Declares a container and its devices, without filling these in. -/
def openContainer (kind : ContainerKind) (catalog : Catalog) (entry : ContainerEntry) :
    Except LoadError (ContainerId × Catalog) := do
  let (id, catalog) ← declaredAt entry.name (catalog.declareContainer kind entry.name)
  let catalog ← catalog.withParent entry.parent fun name => do
    let parent ← referenceAt entry.name .container name (catalog.containerNamed? name)
    declaredAt entry.name (catalog.extendContainer id parent)
  let catalog ← entry.devices.foldlM (loadDeviceName id entry.name) catalog
  return (id, catalog)

theorem loadContainer_eq (kind : ContainerKind) (catalog : Catalog) (entry : ContainerEntry) :
    loadContainer kind catalog entry = (do
      let (id, catalog) ← openContainer kind catalog entry
      entry.devices.foldlM (loadDevice id entry.name) catalog) := by
  simp only [loadContainer, openContainer, bind_assoc, pure_bind]

/-- Opening a container adds it with its parent, and its devices, which are still blank. -/
theorem openContainer_outline (hdeclared : Declared catalog) {kind : ContainerKind}
    {entry : ContainerEntry} (hopened : openContainer kind catalog entry = .ok (container, next)) :
    catalog.Continues next ∧ next.NamesContainer entry.name container ∧
      (next.container container).kind = kind ∧ ∃ parents,
        next.outline = { catalog.outline with
          containers := catalog.outline.containers ++ [⟨kind, entry.name, parents, []⟩]
          devices := catalog.outline.devices ++ entry.devices.map (blankDevice container) } ∧
        List.Forall₂ next.NamesContainer entry.parent.toList parents := by
  obtain ⟨⟨id, named⟩, hnamed, hopened⟩ := exists_of_bind_eq_ok hopened
  obtain ⟨extended, hextended, hopened⟩ := exists_of_bind_eq_ok hopened
  obtain ⟨listed, hlisted, hsame⟩ := exists_of_bind_eq_ok hopened
  cases hsame
  obtain ⟨hnamedLater, rfl, hnamedOutline⟩ :=
    outline_of_introduced (.container kind entry.name) rfl rfl hnamed
  obtain ⟨hextendedLater, parents, hextendedOutline, hparents⟩ :=
    extendContainer_outline (hdeclared.continues hnamedLater) hextended
  obtain ⟨hlistedLater, hlistedOutline⟩ := loadDeviceNames_outline hlisted
  have houtline : next.outline = { catalog.outline with
      containers := catalog.outline.containers ++ [⟨kind, entry.name, parents, []⟩]
      devices := catalog.outline.devices ++
        entry.devices.map (blankDevice ⟨catalog.outline.count .container⟩) } := by
    rw [hlistedOutline, hextendedOutline, hnamedOutline]
    simp [Declaration.effect, Changes.apply, Change.apply, count, modify_last]
  have hmade : next.outline.containers[catalog.outline.count .container]? =
      some ⟨kind, entry.name, parents, []⟩ := by
    rw [houtline]
    exact List.getElem?_concat_length
  exact ⟨(hnamedLater.trans hextendedLater).trans hlistedLater, namesContainer_of_outline hmade,
    kind_of_outline hmade, parents, houtline,
    hparents.imp fun _ _ hnames => hnames.later hlistedLater⟩

/-- Loading a container adds it, its devices and what these implement, as its entry says. -/
theorem loadContainer_outline (hdeclared : Declared catalog) {kind : ContainerKind}
    {entry : ContainerEntry} (hloaded : loadContainer kind catalog entry = .ok next) :
    catalog.Continues next ∧ ∃ made devices attachments,
      next.outline = { catalog.outline with
        containers := catalog.outline.containers ++ [made]
        devices := catalog.outline.devices ++ devices
        attachments := catalog.outline.attachments ++ attachments } ∧
      entry.Describes next kind made ∧
      List.Forall₂ (fun entry => DeviceEntry.Describes next entry.1 entry.2) entry.ownedDevices
        devices ∧
      List.Forall₂ (DescribesAttachment next) entry.attachments attachments := by
  rw [loadContainer_eq] at hloaded
  obtain ⟨⟨id, opened⟩, hopened, hloaded⟩ := exists_of_bind_eq_ok hloaded
  obtain ⟨hopenedLater, hid, -, parents, hopenedOutline, hparents⟩ :=
    openContainer_outline hdeclared hopened
  have hblank : opened.outline.devices =
      catalog.outline.devices ++ entry.devices.map (blankDevice id) := by
    rw [hopenedOutline]
  obtain ⟨hlater, devices, attachments, houtline, hdevices, hattachments⟩ :=
    loadDevices_outline (hdeclared.continues hopenedLater) hid hblank hloaded
  refine ⟨hopenedLater.trans hlater, ⟨kind, entry.name, parents, []⟩, devices, attachments, ?_, ?_,
    ?_, hattachments⟩
  · rw [houtline, hopenedOutline]
  · exact ⟨rfl, rfl, hparents.imp fun _ _ hnames => hnames.later hlater⟩
  · rwa [ContainerEntry.ownedDevices, List.forall₂_map_left_iff]

end LabMatch.Catalog
