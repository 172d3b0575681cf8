import LabMatch.Proofs.Session.Transparency
import LabMatch.Proofs.Wiring.Absolute

/-!
# Inherited wirings

The absolute wiring of a container is made of the links declared on the nearest
container of its ancestry that declares any.  Every device on the way is replaced by the
device of the same name that is visible on the container, and nothing else changes: the
entries are those of the declaring container, one by one, at their new places.

Every level renames the wiring of the one below it.  That the renamings add up to a
single one is due to the names of visible devices, which no two of them share.
-/

namespace LabMatch

/-! ## Replacing devices -/

def Endpoint.relocate (place : DeviceId → DeviceId) (endpoint : Endpoint) : Endpoint :=
  { endpoint with device := place endpoint.device }

def Span.relocate (place : DeviceId → DeviceId) (span : Span) : Span :=
  ⟨span.source.relocate place, span.target.relocate place⟩

/-- The connection attached at the same nodes of other devices, in the same direction. -/
def Connection.relocate (place : DeviceId → DeviceId) (connection : Connection) : Connection :=
  { connection with
    anchor := connection.anchor.map fun anchor => ⟨anchor.toSpan.relocate place, anchor.oneWay⟩ }

namespace Connection

variable {place place' : DeviceId → DeviceId}

theorem relocate_id (connection : Connection) : connection.relocate id = connection := by
  obtain ⟨shape, anchor⟩ := connection
  cases anchor with
  | none => rfl
  | some anchor => rfl

theorem relocate_comp (connection : Connection) :
    (connection.relocate place).relocate place' = connection.relocate (place' ∘ place) := by
  obtain ⟨shape, anchor⟩ := connection
  cases anchor with
  | none => rfl
  | some anchor => rfl

/-- Replacements that agree on both ends of a connection move it alike. -/
theorem AnchoredAt.relocate_congr {span : Span} {connection : Connection}
    (hanchored : connection.AnchoredAt span)
    (hsource : place span.source.device = place' span.source.device)
    (htarget : place span.target.device = place' span.target.device) :
    connection.relocate place = connection.relocate place' := by
  obtain ⟨shape, anchor⟩ := connection
  obtain ⟨anchor, rfl, hends⟩ := hanchored
  rcases hends with rfl | ⟨-, hflip⟩
  · simp [relocate, Span.relocate, Endpoint.relocate, hsource, htarget]
  · simp [relocate, Span.relocate, Endpoint.relocate, hflip, Span.flip, hsource, htarget]

end Connection

namespace Wiring

def relocateEntry (place : DeviceId → DeviceId) (entry : Span × List Connection) :
    Span × List Connection :=
  (entry.1.relocate place, entry.2.map (Connection.relocate place))

/-- The entries of one wiring are those of the other one, moved one by one. -/
def IsRelocated (moved wiring : Wiring) (place : DeviceId → DeviceId) : Prop :=
  moved.entries.Perm (wiring.entries.map (relocateEntry place))

variable {wiring moved again : Wiring} {place place' : DeviceId → DeviceId}

/-- Replacements that agree on the devices of a wiring move its entries alike. -/
theorem map_relocateEntry_congr (hmirrored : wiring.IsMirrored) (hwiring : wiring.NoEmptyEntry)
    (hsame : ∀ device, wiring.Mentions device → place device = place' device) :
    wiring.entries.map (relocateEntry place) = wiring.entries.map (relocateEntry place') := by
  apply List.map_congr_left
  intro entry hentry
  have hne := hwiring.get_ne_nil hentry
  have hsource := hsame _ (mentions_source hne)
  have htarget := hsame _ (mentions_target hne)
  apply Prod.ext
  · simp [relocateEntry, Span.relocate, Endpoint.relocate, hsource, htarget]
  · apply List.map_congr_left
    intro connection hconnection
    rw [← get_of_mem_entries hentry] at hconnection
    exact (hmirrored.anchored entry.1 connection hconnection).relocate_congr hsource htarget

theorem relocateEntry_id (entry : Span × List Connection) : relocateEntry id entry = entry :=
  Prod.ext rfl
    ((List.map_congr_left fun connection _ => connection.relocate_id).trans entry.2.map_id)

theorem relocateEntry_comp (entry : Span × List Connection) :
    relocateEntry place' (relocateEntry place entry) = relocateEntry (place' ∘ place) entry := by
  apply Prod.ext
  · rfl
  · rw [relocateEntry, relocateEntry, List.map_map]
    exact List.map_congr_left fun connection _ => connection.relocate_comp

/-- A wiring whose devices all stay is its own relocation. -/
theorem isRelocated_self (hmirrored : wiring.IsMirrored) (hwiring : wiring.NoEmptyEntry)
    (hsame : ∀ device, wiring.Mentions device → place device = device) :
    wiring.IsRelocated wiring place := by
  have hentries : wiring.entries.map (relocateEntry place) = wiring.entries := by
    rw [map_relocateEntry_congr hmirrored hwiring hsame]
    exact (List.map_congr_left fun entry _ => relocateEntry_id entry).trans wiring.entries.map_id
  rw [IsRelocated, hentries]

/-- What is relocated twice is relocated by both moves, one after the other. -/
theorem IsRelocated.trans (hfirst : moved.IsRelocated wiring place)
    (hsecond : again.IsRelocated moved place') : again.IsRelocated wiring (place' ∘ place) := by
  have htwice : (wiring.entries.map (relocateEntry place)).map (relocateEntry place') =
      wiring.entries.map (relocateEntry (place' ∘ place)) := by
    rw [List.map_map]
    exact List.map_congr_left fun entry _ => relocateEntry_comp entry
  have hmoved := hfirst.map (relocateEntry place')
  rw [htwice] at hmoved
  exact List.Perm.trans hsecond hmoved

theorem IsRelocated.congr (hmoved : moved.IsRelocated wiring place)
    (hmirrored : wiring.IsMirrored) (hwiring : wiring.NoEmptyEntry)
    (hsame : ∀ device, wiring.Mentions device → place device = place' device) :
    moved.IsRelocated wiring place' := by
  rwa [IsRelocated, ← map_relocateEntry_congr hmirrored hwiring hsame]

/-- Entries have different endpoints, so there is at most one wiring of the moved ones. -/
theorem IsRelocated.unique (hmoved : moved.IsRelocated wiring place)
    (hagain : again.IsRelocated wiring place) : again = moved :=
  eq_of_perm (List.Perm.trans hagain hmoved.symm)

/-! ## Links listed at both ends -/

/-- What a link adds to the list of a pair of endpoints: itself at its own endpoints, and
the copy for its far end at the flipped ones. -/
def listedAt (span : Span) (link : Span × Connection) : List Connection :=
  let attached := link.2.attachedAt link.1.source link.1.target
  if span = link.1 then [attached]
  else if span = link.1.flip then [attached.farCopy]
  else []

/-- Under each pair of endpoints stand the links that list something there, in order. -/
theorem get_foldl_connect {links : List (Span × Connection)}
    (hlinks : ∀ link ∈ links, link.1.source.device ≠ link.1.target.device) (span : Span) :
    (links.foldl (fun wiring link => wiring.connect link.1 link.2) empty).get span =
      links.flatMap (listedAt span) := by
  induction links using List.reverseRecOn with
  | nil => rfl
  | append_singleton earlier link ih =>
    rw [List.forall_mem_append, List.forall_mem_singleton] at hlinks
    rw [List.foldl_concat, get_connect _ (Span.flip_ne_of_devices_ne hlinks.2), ih hlinks.1,
      List.flatMap_append, List.flatMap_singleton, listedAt]
    split_ifs
    · rfl
    · rfl
    · rw [List.append_nil]

end Wiring

namespace DeclaredLink

def ends (link : DeclaredLink) (device : DeviceId) : Span :=
  ⟨⟨device, link.node⟩, ⟨link.peer, link.peerNode⟩⟩

/-- A link is one-way by its declaration, or because its connection already is. -/
def isOneWay (link : DeclaredLink) : Bool :=
  link.oneWay || link.connection.anchor.any (·.oneWay)

/-- What a link that is declared on the device adds to the list of a pair of endpoints: its
connection, anchored from the device to the peer.  The copy at the far end is anchored the
other way, unless the link is one-way. -/
def listedAt (link : DeclaredLink) (device : DeviceId) (span : Span) : List Connection :=
  if span = link.ends device then
    [link.connection.withAnchor ⟨link.ends device, link.isOneWay⟩]
  else if span = (link.ends device).flip then
    if link.isOneWay then [link.connection.withAnchor ⟨link.ends device, true⟩]
    else [link.connection.withAnchor ⟨(link.ends device).flip, false⟩]
  else []

variable {link : DeclaredLink} {device : DeviceId} {span : Span}

theorem attachedAt_wired : (link.wired span).attachedAt span.source span.target =
    link.connection.withAnchor ⟨span, link.isOneWay⟩ := by
  rw [wired, isOneWay]
  cases link.oneWay <;> rfl

/-- What the wiring lists for a declared link is what the stored link says. -/
theorem listedAt_wired :
    Wiring.listedAt span (link.ends device, link.wired (link.ends device)) =
      link.listedAt device span := by
  rw [Wiring.listedAt, listedAt]
  dsimp only
  rw [attachedAt_wired]
  cases link.isOneWay <;> rfl

end DeclaredLink

namespace Wiring

/-! ## Renaming -/

variable {wiring : Wiring} {place : DeviceId → DeviceId} {newName : DeviceId → Option DeviceId}

/-- Renaming is relocating, if the new names are the places. -/
theorem renameConnection_eq_relocate {span : Span} {connection : Connection}
    (hrenamed : renameSpan newName span = some (span.relocate place))
    (hanchored : connection.AnchoredAt span) :
    renameConnection newName connection = connection.relocate place := by
  obtain ⟨shape, anchor⟩ := connection
  obtain ⟨⟨ends, oneWay⟩, rfl, hends⟩ := hanchored
  rw [renameConnection, Option.bind_some, renameAnchor]
  dsimp only at hends ⊢
  rcases hends with rfl | ⟨-, rfl⟩
  · rw [hrenamed]
    rfl
  · rw [renameSpan_flip, hrenamed]
    rfl

/-- The new names of the devices of a wiring are their places, all of them different. -/
structure RenamesTo (wiring : Wiring) (newName : DeviceId → Option DeviceId)
    (place : DeviceId → DeviceId) : Prop where
  newName_eq : ∀ device, wiring.Mentions device → newName device = some (place device)
  apart : ∀ device other, wiring.Mentions device → wiring.Mentions other →
    place device = place other → device = other

theorem RenamesTo.namesApart (hrenames : wiring.RenamesTo newName place) :
    wiring.NamesApart newName := by
  intro device other name hdevice hother hname hname'
  apply hrenames.apart device other hdevice hother
  rw [hrenames.newName_eq device hdevice] at hname
  rw [hrenames.newName_eq other hother] at hname'
  exact Option.some.inj (hname.trans hname'.symm)

theorem RenamesTo.renameSpan_eq (hrenames : wiring.RenamesTo newName place) {span : Span}
    (hne : wiring.get span ≠ []) : renameSpan newName span = some (span.relocate place) := by
  rw [renameSpan_eq_some]
  exact ⟨hrenames.newName_eq _ (mentions_source hne), hrenames.newName_eq _ (mentions_target hne),
    rfl, rfl⟩

theorem RenamesTo.renamed?_eq (hrenames : wiring.RenamesTo newName place)
    (hmirrored : wiring.IsMirrored) (hwiring : wiring.NoEmptyEntry)
    {entry : Span × List Connection} (hentry : entry ∈ wiring.entries) :
    renamed? newName entry = some (relocateEntry place entry) := by
  have hrenamed := hrenames.renameSpan_eq (hwiring.get_ne_nil hentry)
  rw [renamed?, hrenamed, Option.map_some, relocateEntry]
  refine congrArg some (Prod.ext rfl (List.map_congr_left fun connection hconnection => ?_))
  rw [← get_of_mem_entries hentry] at hconnection
  exact renameConnection_eq_relocate hrenamed (hmirrored.anchored entry.1 connection hconnection)

/-- Renaming all devices of a wiring apart moves its entries, one by one. -/
theorem RenamesTo.isRelocated (hrenames : wiring.RenamesTo newName place)
    (hmirrored : wiring.IsMirrored) (hwiring : wiring.NoEmptyEntry) :
    (wiring.rename newName).IsRelocated wiring place := by
  have hentries : wiring.entries.filterMap (renamed? newName) =
      wiring.entries.map (relocateEntry place) := by
    rw [← List.filterMap_eq_map]
    exact List.filterMap_congr fun entry hentry =>
      hrenames.renamed?_eq hmirrored hwiring hentry
  rw [IsRelocated, ← hentries]
  exact hmirrored.isBalanced.perm_entries_rename hwiring hrenames.namesApart

end Wiring

namespace Catalog

variable {catalog : Catalog} {container parent source : ContainerId} {device other : DeviceId}

/-! ## Namesakes -/

def namesake (catalog : Catalog) (container : ContainerId) (device : DeviceId) : DeviceId :=
  (catalog.visibleDeviceNamed? container (catalog.device device).name).getD device

/-- Some device visible on the container has the name of the given one. -/
def HasNamesake (catalog : Catalog) (container : ContainerId) (device : DeviceId) : Prop :=
  ∃ visible ∈ catalog.visibleDevices container,
    (catalog.device visible).name = (catalog.device device).name

theorem HasNamesake.visibleDeviceNamed?_eq (hnamesake : catalog.HasNamesake container device) :
    catalog.visibleDeviceNamed? container (catalog.device device).name =
      some (catalog.namesake container device) := by
  obtain ⟨visible, hvisible, hname⟩ := hnamesake
  have hfound : (catalog.visibleDeviceNamed? container (catalog.device device).name).isSome :=
    List.find?_isSome.mpr ⟨visible, hvisible, beq_iff_eq.mpr hname⟩
  obtain ⟨found, hfound⟩ := Option.isSome_iff_exists.mp hfound
  rw [namesake, hfound]
  rfl

theorem HasNamesake.mem_visibleDevices (hnamesake : catalog.HasNamesake container device) :
    catalog.namesake container device ∈ catalog.visibleDevices container :=
  List.mem_of_find?_eq_some hnamesake.visibleDeviceNamed?_eq

theorem HasNamesake.name_namesake (hnamesake : catalog.HasNamesake container device) :
    (catalog.device (catalog.namesake container device)).name = (catalog.device device).name := by
  have hfound := hnamesake.visibleDeviceNamed?_eq
  rw [visibleDeviceNamed?] at hfound
  simpa using List.find?_some hfound

theorem namesake_of_mem_visibleDevices (hdevice : device ∈ catalog.visibleDevices container) :
    catalog.namesake container device = device := by
  have hnamesake : catalog.HasNamesake container device := ⟨device, hdevice, rfl⟩
  exact eq_of_mem_visibleDevices hnamesake.mem_visibleDevices hdevice hnamesake.name_namesake

/-- A device without a namesake stands for itself, although it is not visible. -/
theorem namesake_of_not_hasNamesake (hnone : ¬ catalog.HasNamesake container device) :
    catalog.namesake container device = device := by
  have hunknown : catalog.visibleDeviceNamed? container (catalog.device device).name = none := by
    rw [visibleDeviceNamed?, List.find?_eq_none]
    intro visible hvisible hname
    exact hnone ⟨visible, hvisible, beq_iff_eq.mp hname⟩
  rw [namesake, hunknown]
  rfl

theorem name_namesake :
    (catalog.device (catalog.namesake container device)).name = (catalog.device device).name := by
  by_cases hnamesake : catalog.HasNamesake container device
  · exact hnamesake.name_namesake
  · rw [namesake_of_not_hasNamesake hnamesake]

theorem namesake_mem_visibleDevices_iff :
    catalog.namesake container device ∈ catalog.visibleDevices container ↔
      catalog.HasNamesake container device := by
  constructor
  · intro hvisible
    by_contra hnone
    rw [namesake_of_not_hasNamesake hnone] at hvisible
    exact hnone ⟨device, hvisible, rfl⟩
  · exact HasNamesake.mem_visibleDevices

/-- The namesake of a namesake is the namesake. -/
theorem HasNamesake.namesake_namesake (hparent : catalog.HasNamesake parent device)
    (hnamesake : catalog.HasNamesake container device) :
    catalog.namesake container (catalog.namesake parent device) =
      catalog.namesake container device := by
  rw [namesake, hparent.name_namesake, hnamesake.visibleDeviceNamed?_eq]
  rfl

theorem namesake_of_isEmpty (hempty : (catalog.container container).devices.isEmpty)
    (hparent : catalog.parent? container = some parent) :
    catalog.namesake container = catalog.namesake parent := by
  funext device
  rw [namesake, namesake, visibleDeviceNamed?, visibleDeviceNamed?,
    visibleDevices_of_isEmpty hempty hparent]

/-- A device declared anywhere on the ancestry has a namesake. -/
theorem hasNamesake_of_mem_ancestry (hsource : source ∈ catalog.ancestry container)
    (hdevice : device ∈ (catalog.container source).devices) :
    catalog.HasNamesake container device := by
  have hfound : ((catalog.visibleDevicesByName container).get?
      (catalog.device device).name).isSome :=
    isSome_get?_nearest_iff.mpr ⟨_, List.mem_map_of_mem hsource, device, hdevice, rfl⟩
  obtain ⟨visible, hvisible⟩ := Option.isSome_iff_exists.mp hfound
  have hname := (of_get?_nearest hvisible).1
  refine ⟨visible, ?_, hname⟩
  rw [Catalog.mem_visibleDevices, hname]
  exact hvisible

theorem exists_owner_of_mem_visibleDevices (hdevice : device ∈ catalog.visibleDevices container) :
    ∃ owner ∈ catalog.ancestry container, device ∈ (catalog.container owner).devices := by
  rw [Catalog.mem_visibleDevices] at hdevice
  obtain ⟨-, level, hlevel, hmem⟩ := of_get?_nearest hdevice
  obtain ⟨owner, howner, rfl⟩ := List.mem_map.mp hlevel
  exact ⟨owner, howner, hmem⟩

/-- Every device that the parent shows has a namesake on the container. -/
theorem hasNamesake_of_parent (hparent : catalog.parent? container = some parent)
    (hdevice : device ∈ catalog.visibleDevices parent) : catalog.HasNamesake container device := by
  obtain ⟨owner, howner, hdevice⟩ := exists_owner_of_mem_visibleDevices hdevice
  exact hasNamesake_of_mem_ancestry (mem_ancestry_of_parent hparent howner) hdevice

/-! ## The nearest declared links -/

/-- The links declared on the devices of a container, each one listed at both of its
ends, and in the order of their declarations. -/
theorem get_ownWiring (hlaidOut : WellLaidOut catalog) (container : ContainerId) (span : Span) :
    (catalog.ownWiring container).get span =
      ((catalog.container container).devices.flatMap catalog.declaredLinks).flatMap
        (Wiring.listedAt span) := by
  apply Wiring.get_foldl_connect
  exact fun link hlink => (hlaidOut.ends_of_declared container link hlink).1

/-- The same list, read off the links that the devices store. -/
theorem flatMap_listedAt_declaredLinks (devices : List DeviceId) (span : Span) :
    (devices.flatMap catalog.declaredLinks).flatMap (Wiring.listedAt span) =
      devices.flatMap fun device =>
        (catalog.device device).links.flatMap fun link => link.listedAt device span := by
  rw [List.flatMap_assoc]
  apply List.flatMap_congr
  intro device _
  rw [declaredLinks, List.flatMap_map]
  exact List.flatMap_congr fun link _ => DeclaredLink.listedAt_wired

theorem ownWiring_of_not_declaresLinks (hdeclares : ¬ catalog.declaresLinks container) :
    catalog.ownWiring container = Wiring.empty := by
  have hnone : (catalog.container container).devices.flatMap catalog.declaredLinks = [] := by
    rw [List.flatMap_eq_nil_iff]
    intro device hdevice
    simp only [declaresLinks, List.any_eq_true, not_exists, not_and, Bool.not_eq_true,
      Bool.not_eq_false', List.isEmpty_iff] at hdeclares
    rw [declaredLinks, hdeclares device hdevice, List.map_nil]
  rw [ownWiring, hnone]
  rfl

/-- Taking over a wiring moves it to the namesakes of its devices. -/
theorem isRelocated_movedWiring {wiring : Wiring}
    (hparent : catalog.parent? container = some parent)
    (hwithin : wiring.IsWithin (catalog.visibleDevices parent)) :
    (catalog.movedWiring wiring (catalog.visibleDevices container)).IsRelocated wiring
      (catalog.namesake container) := by
  have hnamesake : ∀ device, wiring.Mentions device → catalog.HasNamesake container device :=
    fun device hmentions => hasNamesake_of_parent hparent (hwithin.mentions device hmentions)
  apply Wiring.RenamesTo.isRelocated _ hwithin.isMirrored hwithin.noEmptyEntry
  constructor
  · exact fun device hmentions => (hnamesake device hmentions).visibleDeviceNamed?_eq
  · intro device other hdevice hother hsame
    apply eq_of_mem_visibleDevices (hwithin.mentions device hdevice) (hwithin.mentions other hother)
    rw [← (hnamesake device hdevice).name_namesake, hsame, (hnamesake other hother).name_namesake]

theorem absolute_of_declaresLinks (hdeclares : catalog.declaresLinks container) :
    (catalog.absolute container).1 = catalog.ownWiring container := by
  have hdevices : ¬ (catalog.container container).devices.isEmpty := by
    obtain ⟨device, hdevice, -⟩ := List.any_eq_true.mp hdeclares
    exact fun hempty => List.ne_nil_of_mem hdevice (List.isEmpty_iff.mp hempty)
  rw [absolute_eq]
  cases catalog.parent? container with
  | none => rfl
  | some parent => rw [Option.map_some, settleWiring, if_neg hdevices, if_pos hdeclares]

/-- A container without declared links inherits or takes over the wiring of its parent. -/
theorem absolute_of_parent (hdeclares : ¬ catalog.declaresLinks container)
    (hparent : catalog.parent? container = some parent) :
    (catalog.absolute container).1 =
      if (catalog.container container).devices.isEmpty then (catalog.absolute parent).1
      else catalog.movedWiring (catalog.absolute parent).1 (catalog.visibleDevices container) := by
  rw [absolute_eq, hparent, Option.map_some, settleWiring, if_neg hdeclares]
  split
  · rfl
  · rfl

/-- Nothing is moved on the container that declares the links. -/
theorem isRelocated_ownWiring (hlaidOut : WellLaidOut catalog) (container : ContainerId) :
    (catalog.ownWiring container).IsRelocated (catalog.ownWiring container)
      (catalog.namesake container) := by
  have hwithin := isWithin_visible_ownWiring hlaidOut container
  apply Wiring.isRelocated_self hwithin.isMirrored hwithin.noEmptyEntry
  exact fun device hmentions => namesake_of_mem_visibleDevices (hwithin.mentions device hmentions)

/-- Moving on to the namesakes of namesakes is moving to the namesakes at once. -/
theorem isRelocated_movedWiring_of_source {wiring : Wiring} (hlaidOut : WellLaidOut catalog)
    (hparent : catalog.parent? container = some parent) (hsource : source ∈ catalog.ancestry parent)
    (hwithin : wiring.IsWithin (catalog.visibleDevices parent))
    (hrelocated : wiring.IsRelocated (catalog.ownWiring source) (catalog.namesake parent)) :
    (catalog.movedWiring wiring (catalog.visibleDevices container)).IsRelocated
      (catalog.ownWiring source) (catalog.namesake container) := by
  have hown := isWithin_ownWiring hlaidOut source
  apply (hrelocated.trans (isRelocated_movedWiring hparent hwithin)).congr hown.isMirrored
    hown.noEmptyEntry
  intro device hmentions
  have hdevice := hown.mentions device hmentions
  exact (hasNamesake_of_mem_ancestry hsource hdevice).namesake_namesake
    (hasNamesake_of_mem_ancestry (mem_ancestry_of_parent hparent hsource) hdevice)

/-- The absolute wiring is that of the nearest container with declared links, moved to
the namesakes of its devices. -/
theorem isRelocated_absolute (hlaidOut : WellLaidOut catalog) (container : ContainerId) :
    ((catalog.ancestry container).find? catalog.declaresLinks = none →
      (catalog.absolute container).1 = Wiring.empty) ∧
    ∀ source, (catalog.ancestry container).find? catalog.declaresLinks = some source →
      (catalog.absolute container).1.IsRelocated (catalog.ownWiring source)
        (catalog.namesake container) := by
  induction container using catalog.parent_induction with
  | step container ih =>
    by_cases hdeclares : catalog.declaresLinks container
    · rw [ancestry_eq, List.find?_cons_of_pos hdeclares, absolute_of_declaresLinks hdeclares]
      constructor
      · intro hnone
        cases hnone
      · rintro source ⟨⟩
        exact isRelocated_ownWiring hlaidOut container
    · rw [ancestry_eq, List.find?_cons_of_neg hdeclares]
      cases hparent : catalog.parent? container with
      | none =>
        constructor
        · intro _
          rw [absolute_eq, hparent]
          exact ownWiring_of_not_declaresLinks hdeclares
        · intro source hsource
          cases hsource
      | some parent =>
        obtain ⟨hempty, hrelocated⟩ := ih parent hparent
        rw [absolute_of_parent hdeclares hparent]
        by_cases hdevices : (catalog.container container).devices.isEmpty
        · rw [if_pos hdevices, namesake_of_isEmpty hdevices hparent]
          exact ⟨hempty, hrelocated⟩
        · rw [if_neg hdevices]
          constructor
          · intro hnone
            rw [hempty hnone]
            rfl
          · intro source hsource
            exact isRelocated_movedWiring_of_source hlaidOut hparent
              (List.mem_of_find?_eq_some hsource) (isWithin_absolute hlaidOut parent)
              (hrelocated source hsource)

/-- The wiring is made of the links that the devices of the source store, in declared
order and at both of their ends, moved to the devices of the same names on the
container.  Different devices are moved apart, and no other wiring is made this way. -/
structure TakesOver (catalog : Catalog) (container source : ContainerId) (wiring : Wiring) :
    Prop where
  namesake : ∀ device ∈ (catalog.container source).devices,
    catalog.namesake container device ∈ catalog.visibleDevices container ∧
      (catalog.device (catalog.namesake container device)).name = (catalog.device device).name
  apart : ∀ device ∈ (catalog.container source).devices,
    ∀ other ∈ (catalog.container source).devices,
      catalog.namesake container device = catalog.namesake container other → device = other
  listed : ∀ span, (catalog.ownWiring source).get span =
    (catalog.container source).devices.flatMap fun device =>
      (catalog.device device).links.flatMap fun link => link.listedAt device span
  relocated : wiring.IsRelocated (catalog.ownWiring source) (catalog.namesake container)
  unique : ∀ other : Wiring, other.IsRelocated (catalog.ownWiring source)
    (catalog.namesake container) → other = wiring

/-- A relocation of the links that the source declares takes them over. -/
theorem takesOver_of_isRelocated {wiring : Wiring} (hlaidOut : WellLaidOut catalog)
    (hsource : source ∈ catalog.ancestry container)
    (hrelocated : wiring.IsRelocated (catalog.ownWiring source) (catalog.namesake container)) :
    catalog.TakesOver container source wiring where
  namesake device hdevice := by
    have hnamesake := hasNamesake_of_mem_ancestry hsource hdevice
    exact ⟨hnamesake.mem_visibleDevices, hnamesake.name_namesake⟩
  apart device hdevice other hother hsame := by
    apply List.inj_on_of_nodup_map (hlaidOut.names source) hdevice hother
    rw [← (hasNamesake_of_mem_ancestry hsource hdevice).name_namesake, hsame,
      (hasNamesake_of_mem_ancestry hsource hother).name_namesake]
  listed span := by
    rw [get_ownWiring hlaidOut, flatMap_listedAt_declaredLinks]
  relocated := hrelocated
  unique _ := hrelocated.unique

/-- After any questions, the absolute wiring of a container takes over the links declared
on the nearest container of its ancestry that declares any.  Without such a container it
is empty. -/
theorem absoluteWiring_takesOver (hbuilt : Built catalog) (container : ContainerId)
    (questions : List Session.Question) :
    let absolute := ((Session.absoluteWiring catalog container).run
      (Session.afterAsking catalog questions)).1
    ((catalog.ancestry container).find? catalog.declaresLinks = none →
      absolute = Wiring.empty) ∧
    ∀ source, (catalog.ancestry container).find? catalog.declaresLinks = some source →
      catalog.TakesOver container source absolute := by
  have hlaidOut := hbuilt.wellLaidOut
  obtain ⟨hempty, hrelocated⟩ := isRelocated_absolute hlaidOut container
  intro absolute
  have habsolute : absolute = (catalog.absolute container).1 :=
    Session.run_afterAsking (fun _ => Session.answers_absoluteWiring container) questions
  rw [habsolute]
  refine ⟨hempty, fun source hsource => ?_⟩
  exact takesOver_of_isRelocated hlaidOut (List.mem_of_find?_eq_some hsource)
    (hrelocated source hsource)

/-- A desk in a room in a wing of a site.  All links are declared on the site, one of them
one-way.  The wing declares its host again and the desk declares its board again. -/
def deskDeclarations : List Declaration :=
  let lan := Connection.ofTags (TagSet.ofList ["lan"])
  let lanOrUart : Connection :=
    ⟨.either (.link (TagSet.ofList ["lan"])) (.link (TagSet.ofList ["uart"])) [], none⟩
  [.capability "Link", .logicalDevice ⟨0⟩ "peer", .require ⟨0⟩ lan,
    .container .setup "Site", .device ⟨0⟩ "Host", .device ⟨0⟩ "Board", .device ⟨0⟩ "Probe",
    .attach (.device ⟨0⟩) "net" ⟨0⟩, .bind ⟨0⟩ "peer" ⟨1⟩,
    .connect ⟨⟨0⟩, "n0"⟩ ⟨⟨1⟩, "n0"⟩ lanOrUart false,
    .connect ⟨⟨2⟩, "n0"⟩ ⟨⟨0⟩, "n1"⟩ lanOrUart true,
    .container .setup "Wing", .extendContainer ⟨1⟩ ⟨0⟩, .device ⟨1⟩ "Host", .extendDevice ⟨3⟩ ⟨0⟩,
    .container .setup "Room", .extendContainer ⟨2⟩ ⟨1⟩,
    .container .setup "Desk", .extendContainer ⟨3⟩ ⟨2⟩, .device ⟨3⟩ "Board", .extendDevice ⟨4⟩ ⟨1⟩]

def deskLab : Catalog := (declareAll deskDeclarations).toOption.getD empty

theorem built_deskLab : Built deskLab := by
  apply built_of_declareAll
  · decide +kernel
  · decide +kernel

/-- The desk takes over the links of the site, with its own board in place of that of the site. -/
theorem absoluteWiring_deskLab :
    (deskLab.ancestry (⟨3⟩ : ContainerId)).find? deskLab.declaresLinks = some ⟨0⟩ ∧
      deskLab.namesake ⟨3⟩ ⟨1⟩ = ⟨4⟩ ∧
      deskLab.TakesOver ⟨3⟩ ⟨0⟩ ((Session.absoluteWiring deskLab ⟨3⟩).run
        (Session.afterAsking deskLab [.absoluteWiring ⟨1⟩])).1 := by
  have hsource : (deskLab.ancestry (⟨3⟩ : ContainerId)).find? deskLab.declaresLinks = some ⟨0⟩ := by
    decide +kernel
  have hwiring := absoluteWiring_takesOver built_deskLab ⟨3⟩ [.absoluteWiring ⟨1⟩]
  exact ⟨hsource, by decide +kernel, hwiring.2 ⟨0⟩ hsource⟩

end Catalog

end LabMatch
