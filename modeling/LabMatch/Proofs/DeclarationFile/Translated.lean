import LabMatch.Proofs.DeclarationFile.Capabilities
import LabMatch.Proofs.DeclarationFile.Containers

/-!
# What a loaded declaration file says

A file that is loaded describes the catalogue, family by family: the entities are those of
the entries, in the order of the file, and nothing else is declared.  Names stand for one
entity at most, so every reference has a single meaning.
-/

namespace LabMatch

namespace DeclarationFile

def containers (file : DeclarationFile) : List (ContainerKind × ContainerEntry) :=
  file.scenarios.map (fun entry => (.scenario, entry)) ++
    file.setups.map fun entry => (.setup, entry)

def logicalDevices (file : DeclarationFile) : List (String × LogicalDeviceEntry) :=
  file.capabilities.flatMap CapabilityEntry.ownedLogicalDevices

def devices (file : DeclarationFile) : List (String × DeviceEntry) :=
  file.containers.flatMap fun container => container.2.ownedDevices

def attachments (file : DeclarationFile) : List (AttachSite × AttachEntry) :=
  file.capabilities.flatMap CapabilityEntry.attachments ++
    file.containers.flatMap fun container => container.2.attachments

/-- The entities of the catalogue are those of the file, one for each entry and in the order
of the entries.  Every list of members follows from the owners of the members. -/
structure Describes (file : DeclarationFile) (catalog : Catalog) : Prop where
  capabilities : List.Forall₂ (CapabilityEntry.Describes catalog) file.capabilities
    catalog.capabilities
  logicalDevices : List.Forall₂ (fun entry => LogicalDeviceEntry.Describes catalog entry.1 entry.2)
    file.logicalDevices catalog.logicalDevices
  containers : List.Forall₂ (fun entry => ContainerEntry.Describes catalog entry.1 entry.2)
    file.containers catalog.containers
  devices : List.Forall₂ (fun entry => DeviceEntry.Describes catalog entry.1 entry.2)
    file.devices catalog.devices
  attachments : List.Forall₂ (DescribesAttachment catalog) file.attachments catalog.attachments
  members : catalog.ListsMembers
  names : catalog.NamesUnique

end DeclarationFile

namespace Catalog

open DeclarationFile

variable {catalog next : Catalog}

/-- Containers are declared in the order of the entries. -/
theorem loadContainers_outline (hdeclared : Declared catalog)
    {entries : List (ContainerKind × ContainerEntry)}
    (hloaded : entries.foldlM (fun catalog entry => loadContainer entry.1 catalog entry.2)
      catalog = .ok next) :
    catalog.Continues next ∧ ∃ containers devices attachments,
      next.outline = { catalog.outline with
        containers := catalog.outline.containers ++ containers
        devices := catalog.outline.devices ++ devices
        attachments := catalog.outline.attachments ++ attachments } ∧
      List.Forall₂ (fun entry => ContainerEntry.Describes next entry.1 entry.2) entries
        containers ∧
      List.Forall₂ (fun entry => DeviceEntry.Describes next entry.1 entry.2)
        (entries.flatMap fun entry => entry.2.ownedDevices) devices ∧
      List.Forall₂ (DescribesAttachment next) (entries.flatMap fun entry => entry.2.attachments)
        attachments := by
  have hmade := foldlM_outline
    (fun outline (made : List (Container × List Device × List Attachment)) => { outline with
      containers := outline.containers ++ made.map fun made => made.1
      devices := outline.devices ++ made.flatMap fun made => made.2.1
      attachments := outline.attachments ++ made.flatMap fun made => made.2.2 })
    (fun catalog (entry : ContainerKind × ContainerEntry) made =>
      entry.2.Describes catalog entry.1 made.1 ∧
        List.Forall₂ (fun entry => DeviceEntry.Describes catalog entry.1 entry.2)
          entry.2.ownedDevices made.2.1 ∧
        List.Forall₂ (DescribesAttachment catalog) entry.2.attachments made.2.2)
    (by simp) (by simp)
    (fun hfits hcontinues => ⟨hfits.1.later hcontinues,
      hfits.2.1.imp fun _ _ hdescribes => hdescribes.later hcontinues,
      hfits.2.2.imp fun _ _ hdescribes => hdescribes.later hcontinues⟩)
    (fun hmiddle haccepted => by
      obtain ⟨hcontinues, made, devices, attachments, houtline, hfits⟩ :=
        loadContainer_outline (hdeclared.continues hmiddle) haccepted
      exact ⟨hcontinues, (made, devices, attachments), by simpa using houtline, hfits⟩)
    hloaded
  obtain ⟨hcontinues, made, houtline, hfits⟩ := hmade
  refine ⟨hcontinues, _, _, _, houtline, ?_, ?_, ?_⟩
  · rw [List.forall₂_map_right_iff]
    exact hfits.imp fun _ _ hall => hall.1
  · exact List.rel_flatMap hfits fun _ _ hall => hall.2.1
  · exact List.rel_flatMap hfits fun _ _ hall => hall.2.2

end Catalog

namespace DeclarationFile

variable {file : DeclarationFile} {catalog : Catalog}

theorem load_eq (file : DeclarationFile) :
    file.load = (do
      let catalog ← file.capabilities.foldlM Catalog.loadCapabilityName .empty
      let catalog ← file.capabilities.foldlM Catalog.loadCapability catalog
      let catalog ← file.containers.foldlM
        (fun catalog entry => Catalog.loadContainer entry.1 catalog entry.2) catalog
      declaredAt "declarations" catalog.complete) := by
  simp only [load, containers, List.foldlM_append, List.foldlM_map, bind_assoc]

/-- A description says nothing about the lists of members, so it can be read off the outline. -/
theorem describes_of_outline (hdeclared : Catalog.Declared catalog)
    (hcapabilities : List.Forall₂ (CapabilityEntry.Describes catalog) file.capabilities
      catalog.outline.capabilities)
    (hlogicalDevices : List.Forall₂
      (fun entry => LogicalDeviceEntry.Describes catalog entry.1 entry.2)
      file.logicalDevices catalog.outline.logicalDevices)
    (hcontainers : List.Forall₂ (fun entry => ContainerEntry.Describes catalog entry.1 entry.2)
      file.containers catalog.outline.containers)
    (hdevices : List.Forall₂ (fun entry => DeviceEntry.Describes catalog entry.1 entry.2)
      file.devices catalog.outline.devices)
    (hattachments : List.Forall₂ (DescribesAttachment catalog) file.attachments
      catalog.attachments) :
    file.Describes catalog where
  capabilities := (List.forall₂_map_right_iff.mp hcapabilities).imp fun _ _ hentry =>
    ⟨hentry.name, hentry.parents, hentry.methods, hentry.variants⟩
  logicalDevices := (List.forall₂_map_right_iff.mp hlogicalDevices).imp fun _ _ hentry =>
    ⟨hentry.name, hentry.owner, hentry.parents, hentry.requirement⟩
  containers := (List.forall₂_map_right_iff.mp hcontainers).imp fun _ _ hentry =>
    ⟨hentry.kind, hentry.name, hentry.parents⟩
  devices := (List.forall₂_map_right_iff.mp hdevices).imp fun _ _ hentry =>
    ⟨hentry.name, hentry.owner, hentry.parents, hentry.links⟩
  attachments := hattachments
  members := hdeclared.listsMembers
  names := hdeclared.namesUnique

/-- A file that is loaded gives a complete catalogue, which it describes. -/
theorem built_and_describes_of_load (hloaded : file.load = .ok catalog) :
    catalog.Built ∧ file.Describes catalog := by
  rw [load_eq] at hloaded
  obtain ⟨named, hnamed, hloaded⟩ := Catalog.exists_of_bind_eq_ok hloaded
  obtain ⟨filled, hfilled, hloaded⟩ := Catalog.exists_of_bind_eq_ok hloaded
  obtain ⟨populated, hpopulated, hcomplete⟩ := Catalog.exists_of_bind_eq_ok hloaded
  have hcomplete := Catalog.of_declaredAt_eq_ok hcomplete
  obtain ⟨rfl, -⟩ := Catalog.complete_eq_ok hcomplete
  obtain ⟨hfilledDeclared, capabilities, logicalDevices, attachments, hfilledOutline,
    hcapabilities, hlogicalDevices, hattachments⟩ :=
      Catalog.loadCapabilityTypes_outline hnamed hfilled
  obtain ⟨hlater, containers, devices, carried, houtline, hcontainers, hdevices, hcarried⟩ :=
    Catalog.loadContainers_outline hfilledDeclared hpopulated
  have hshape : catalog.outline =
      ⟨containers, devices, attachments ++ carried, capabilities, logicalDevices⟩ := by
    rw [houtline, hfilledOutline]
    rfl
  have hkept : catalog.attachments = attachments ++ carried :=
    congrArg Catalog.attachments hshape
  have hdeclared := hfilledDeclared.continues hlater
  refine ⟨⟨catalog, hdeclared, hcomplete⟩, ?_⟩
  apply describes_of_outline hdeclared
  · rw [hshape]
    exact hcapabilities.imp fun _ _ hentry => hentry.later hlater
  · rw [hshape]
    exact hlogicalDevices.imp fun _ _ hentry => hentry.later hlater
  · rw [hshape]
    exact hcontainers
  · rw [hshape]
    exact hdevices
  · rw [hkept]
    exact List.rel_append (hattachments.imp fun _ _ hentry => hentry.later hlater) hcarried

/-- A bench whose tester pings the target, and two racks, of which the later one has a host
like that of the first one. -/
def pingFile : DeclarationFile where
  capabilities := [
    ⟨"Ping", none, [⟨"peer", none, some "lan", []⟩],
      [⟨"send", "wired", [⟨"peer", "lan"⟩]⟩, ⟨"send", "serial", [⟨"peer", "uart"⟩]⟩]⟩,
    ⟨"Probe", some "Ping", [⟨"peer", some "Ping.peer", none, [⟨"answer", "Ping", none⟩]⟩], []⟩]
  scenarios := [⟨"Bench", none, [
    ⟨"Tester", none, [⟨"ping", "Ping", some ⟨"peer", "Target"⟩⟩],
      [⟨"Target", "lan | uart", none, some "n1", true⟩]⟩,
    ⟨"Target", none, [], []⟩]⟩]
  setups := [
    ⟨"Rack", none, [⟨"Host", none, [⟨"ping", "Ping", none⟩], []⟩]⟩,
    ⟨"Spare", some "Rack", [⟨"Host", some "Rack.Host", [⟨"ping", "Probe", none⟩], []⟩]⟩]

end DeclarationFile

end LabMatch
