import LabMatch.Proofs.Catalog.Members
import LabMatch.Proofs.Catalog.Subtype
import LabMatch.Proofs.Catalog.Visible

/-!
# The nearest declaration wins

Devices are visible on containers by their names, attachments on devices and on logical
devices by their attributes, and logical devices on capability types by their names.  All four
follow one rule: what is visible under a name is the member of that name that is declared
nearest on the chain of first parents.

The devices of a container can be found in another way as well.  One merges them level by
level, each level over the devices visible on the level above, sorted anew in between.
-/

namespace LabMatch.Catalog

variable {family : Family} {Member : Type} {name : Member → String}
  {own : Id family → List Member} {key : String} {member : Member}

/-- The member is declared under the name by an entity of the chain, and no entity before that
one declares a member of this name. -/
def IsNearest (name : Member → String) (own : Id family → List Member) (chain : List (Id family))
    (key : String) (member : Member) : Prop :=
  ∃ nearer declarer farther, chain = nearer ++ declarer :: farther ∧
    (∀ id ∈ nearer, ∀ other ∈ own id, name other ≠ key) ∧
    member ∈ own declarer ∧ name member = key

/-- The names that denote something are those that are declared on the chain, and each of them
denotes the nearest member. -/
structure NearestWins (name : Member → String) (own : Id family → List Member)
    (chain : List (Id family)) (denotes : String → Member → Prop) : Prop where
  names : ∀ key, (∃ member, denotes key member) ↔
    ∃ declarer ∈ chain, ∃ member ∈ own declarer, name member = key
  nearest : ∀ key member, denotes key member ↔ IsNearest name own chain key member

/-- The nearest member is an own one, or that of the rest of the chain if there is none. -/
theorem isNearest_cons_iff {id : Id family} {above : List (Id family)} :
    IsNearest name own (id :: above) key member ↔
      (member ∈ own id ∧ name member = key) ∨
        ((∀ other ∈ own id, name other ≠ key) ∧ IsNearest name own above key member) := by
  constructor
  · rintro ⟨nearer, declarer, farther, hchain, hnone, hmember⟩
    cases nearer with
    | nil =>
      obtain ⟨rfl, rfl⟩ := List.cons.inj hchain
      exact Or.inl hmember
    | cons first others =>
      obtain ⟨rfl, rfl⟩ := List.cons.inj hchain
      rw [List.forall_mem_cons] at hnone
      exact Or.inr ⟨hnone.1, others, declarer, farther, rfl, hnone.2, hmember⟩
  · rintro (hmember | ⟨hid, nearer, declarer, farther, rfl, hnone, hmember⟩)
    · exact ⟨[], id, above, rfl, fun _ hnearer => absurd hnearer List.not_mem_nil, hmember⟩
    · exact ⟨id :: nearer, declarer, farther, rfl, List.forall_mem_cons.mpr ⟨hid, hnone⟩, hmember⟩

/-- Collecting the levels of a chain finds the nearest member of each name. -/
theorem get?_nearest_eq_some_iff (hnames : ∀ id, ((own id).map name).Nodup)
    (chain : List (Id family)) :
    (nearest name (chain.map own)).get? key = some member ↔
      IsNearest name own chain key member := by
  induction chain with
  | nil =>
    refine iff_of_false (fun hfound => by cases hfound) ?_
    rintro ⟨nearer, declarer, farther, hchain, -⟩
    exact absurd hchain.symm (List.append_ne_nil_of_right_ne_nil _ (List.cons_ne_nil _ _))
  | cons id above ih =>
    rw [isNearest_cons_iff, List.map_cons]
    by_cases hdeclared : ∃ other ∈ own id, name other = key
    · obtain ⟨other, hother, rfl⟩ := hdeclared
      rw [get?_nearest_of_mem (hnames id) hother, Option.some.injEq]
      constructor
      · rintro rfl
        exact Or.inl ⟨hother, rfl⟩
      · rintro (⟨hmember, hname⟩ | ⟨hnone, -⟩)
        · exact List.inj_on_of_nodup_map (hnames id) hother hmember hname.symm
        · exact absurd rfl (hnone other hother)
    · have hnone : ∀ other ∈ own id, name other ≠ key :=
        fun other hother hname => hdeclared ⟨other, hother, hname⟩
      rw [get?_nearest_cons_of_forall_ne hnone, ih]
      constructor
      · intro hnearest
        exact Or.inr ⟨hnone, hnearest⟩
      · rintro (⟨hmember, hname⟩ | ⟨-, hnearest⟩)
        · exact absurd hname (hnone member hmember)
        · exact hnearest

/-- Collecting members level by level finds the nearest ones. -/
theorem nearestWins_nearest (hnames : ∀ id, ((own id).map name).Nodup)
    (chain : List (Id family)) :
    NearestWins name own chain fun key member =>
      (nearest name (chain.map own)).get? key = some member where
  names key := by
    rw [← Option.isSome_iff_exists, isSome_get?_nearest_iff]
    simp only [List.mem_map, exists_exists_and_eq_and]
  nearest _ _ := get?_nearest_eq_some_iff hnames chain

theorem nearest_singleton {level : List Member} :
    nearest name [level] = SortedMap.ofList (level.map fun member => (name member, member)) := by
  rw [nearest, List.reverse_singleton, List.flatten_singleton]

/-! ## Devices, level by level -/

variable {catalog : Catalog} {container parent : ContainerId}

/-- Own devices by name over inherited ones, ascending. -/
def overlay (catalog : Catalog) (inherited own : List DeviceId) : List DeviceId :=
  Ascending.ofList (SortedMap.ofList ((inherited ++ own).map fun id =>
    ((catalog.device id).name, id))).values

/-- The devices of a container, laid over those of its first parent and so on from the root
down. -/
inductive Overlays (catalog : Catalog) : ContainerId → List DeviceId → Prop
  | root {container : ContainerId} (hroot : (catalog.container container).parents.head? = none) :
      Overlays catalog container (catalog.overlay [] (catalog.container container).devices)
  | step {container parent : ContainerId} {inherited : List DeviceId}
      (hparent : (catalog.container container).parents.head? = some parent)
      (hinherited : Overlays catalog parent inherited) :
      Overlays catalog container (catalog.overlay inherited (catalog.container container).devices)

/-- No two visible devices have the same name. -/
theorem nodup_names_visibleDevices (catalog : Catalog) (container : ContainerId) :
    ((catalog.visibleDevices container).map fun id => (catalog.device id).name).Nodup := by
  have hnodup : (catalog.visibleDevices container).Nodup :=
    (Ascending.isAscending_ofList _).imp KeyOrder.ne_of_lt
  exact hnodup.map_on fun _ hdevice _ hother => eq_of_mem_visibleDevices hdevice hother

theorem mem_visibleDevices_and_name_eq_iff {device : DeviceId} :
    device ∈ catalog.visibleDevices container ∧ (catalog.device device).name = key ↔
      (catalog.visibleDevicesByName container).get? key = some device := by
  rw [mem_visibleDevices]
  constructor
  · rintro ⟨hfound, rfl⟩
    exact hfound
  · intro hfound
    obtain ⟨rfl, -⟩ := of_get?_nearest hfound
    exact ⟨hfound, rfl⟩

/-- Sorting the visible devices by name again finds the same ones. -/
theorem get?_ofList_visibleDevices (catalog : Catalog) (container : ContainerId) (key : String) :
    (SortedMap.ofList ((catalog.visibleDevices container).map fun id =>
      ((catalog.device id).name, id))).get? key =
        (catalog.visibleDevicesByName container).get? key := by
  have hkeys : (((catalog.visibleDevices container).map fun id =>
      ((catalog.device id).name, id)).map Prod.fst).Nodup := by
    rw [List.map_map]
    exact catalog.nodup_names_visibleDevices container
  apply Option.ext
  intro device
  rw [SortedMap.get?_ofList_eq_some_iff hkeys, ← mem_visibleDevices_and_name_eq_iff, List.mem_map]
  constructor
  · rintro ⟨_, hdevice, ⟨⟩⟩
    exact ⟨hdevice, rfl⟩
  · rintro ⟨hdevice, rfl⟩
    exact ⟨device, hdevice, rfl⟩

theorem overlay_nil (hroot : catalog.parent? container = none) :
    catalog.overlay [] (catalog.container container).devices =
      catalog.visibleDevices container := by
  rw [overlay, visibleDevices, visibleDevicesByName, ancestry_eq, hroot, List.nil_append]
  exact congrArg (fun byName => Ascending.ofList (SortedMap.values byName)) nearest_singleton.symm

/-- The visible devices are the own ones, laid over those visible on the parent. -/
theorem overlay_visibleDevices (hparent : catalog.parent? container = some parent) :
    catalog.overlay (catalog.visibleDevices parent) (catalog.container container).devices =
      catalog.visibleDevices container := by
  have hmerged : SortedMap.ofList ((catalog.visibleDevices parent ++
      (catalog.container container).devices).map fun id => ((catalog.device id).name, id)) =
        catalog.visibleDevicesByName container := by
    -- sorting the inherited devices has lost no name, so they can be looked up one by one
    apply SortedMap.ext_get?
    intro key
    rw [List.map_append, SortedMap.get?_ofList_append, get?_ofList_visibleDevices,
      visibleDevicesByName, visibleDevicesByName, ancestry_eq container, hparent, List.map_cons,
      get?_nearest_cons, nearest_singleton]
    rfl
  rw [overlay, hmerged, visibleDevices]

/-- The levels come to an end, and what is overlaid by then is what is visible. -/
theorem Registered.overlays_iff (hregistered : Registered catalog) {devices : List DeviceId} :
    catalog.Overlays container devices ↔ devices = catalog.visibleDevices container := by
  have hfirst : ∀ container, catalog.parent? container =
      (catalog.container container).parents.head? :=
    hregistered.parent?_eq_head?
  induction container using catalog.parent_induction generalizing devices with
  | step container ih =>
    constructor
    · intro hoverlays
      cases hoverlays with
      | root hroot => exact overlay_nil ((hfirst container).trans hroot)
      | step hparent hinherited =>
        have hparent := (hfirst container).trans hparent
        rw [(ih _ hparent).mp hinherited]
        exact overlay_visibleDevices hparent
    · rintro rfl
      cases hparent : catalog.parent? container with
      | none =>
        rw [← overlay_nil hparent]
        exact .root ((hfirst container).symm.trans hparent)
      | some parent =>
        rw [← overlay_visibleDevices hparent]
        exact .step ((hfirst container).symm.trans hparent) ((ih parent hparent).mpr rfl)

theorem nearestWins_visibleDevices (hlaidOut : WellLaidOut catalog) (container : ContainerId) :
    NearestWins (fun id => (catalog.device id).name) (fun id => (catalog.container id).devices)
      (catalog.ancestry container) fun key device =>
        device ∈ catalog.visibleDevices container ∧ (catalog.device device).name = key := by
  simp only [mem_visibleDevices_and_name_eq_iff]
  exact nearestWins_nearest hlaidOut.names _

/-- The names that are visible on a container, device, logical device or capability type are
those that are declared on the walk up its first parents, and each of them denotes the member
whose declaration comes first on that walk.  The devices that are visible on a container are
also what is left when each container is laid over its first parent.  They are ascending, and
no two of them have the same name. -/
theorem nearest_declaration_wins (hbuilt : Built catalog) :
    (∀ (family : Family) (id : Id family) (chain : List (Id family)),
      catalog.Climbs id chain ↔ chain = catalog.ancestry id) ∧
    (∀ container : ContainerId,
      (∀ devices, catalog.Overlays container devices ↔ devices = catalog.visibleDevices container) ∧
      NearestWins (fun id => (catalog.device id).name) (fun id => (catalog.container id).devices)
        (catalog.ancestry container) (fun key device =>
          device ∈ catalog.visibleDevices container ∧ (catalog.device device).name = key) ∧
      Ascending.IsAscending (catalog.visibleDevices container) ∧
      ((catalog.visibleDevices container).map fun id => (catalog.device id).name).Nodup) ∧
    (∀ device : DeviceId,
      NearestWins (fun id => (catalog.attachment id).attr)
        (fun id => (catalog.device id).attachments) (catalog.ancestry device) fun key attachment =>
          (catalog.deviceAttachments device).get? key = some attachment) ∧
    (∀ logicalDevice : LogicalDeviceId,
      NearestWins (fun id => (catalog.attachment id).attr)
        (fun id => (catalog.logicalDevice id).attachments) (catalog.ancestry logicalDevice)
        fun key attachment =>
          (catalog.logicalDeviceAttachments logicalDevice).get? key = some attachment) ∧
    ∀ capability : CapabilityId,
      NearestWins (fun id => (catalog.logicalDevice id).name)
        (fun id => (catalog.capability id).logicalDevices) (catalog.ancestry capability)
        fun key logicalDevice =>
          (catalog.visibleLogicalDevices capability).get? key = some logicalDevice := by
  have hregistered := hbuilt.registered
  refine ⟨fun _ _ _ => hregistered.climbs_iff, fun container => ⟨?_, ?_, ?_, ?_⟩, fun _ => ?_,
    fun _ => ?_, fun _ => ?_⟩
  · exact fun _ => hregistered.overlays_iff
  · exact nearestWins_visibleDevices hbuilt.wellLaidOut container
  · exact Ascending.isAscending_ofList _
  · exact catalog.nodup_names_visibleDevices container
  · exact nearestWins_nearest (fun id => hregistered.attachmentRoster.names (.device id)) _
  · exact nearestWins_nearest (fun id => hregistered.attachmentRoster.names (.logicalDevice id)) _
  · exact nearestWins_nearest hregistered.logicalDeviceRoster.names _

/-- A supply and a meter on a shelf, of which the corner two levels below replaces the supply
and adds a second outlet to it. -/
def shelfDeclarations : List Declaration :=
  [.capability "Power", .logicalDevice ⟨0⟩ "load", .capability "MeteredPower",
    .extendCapability ⟨1⟩ ⟨0⟩,
    .container .setup "Shelf", .device ⟨0⟩ "Supply", .device ⟨0⟩ "Meter",
    .attach (.device ⟨0⟩) "outlet" ⟨0⟩,
    .container .setup "Lower", .extendContainer ⟨1⟩ ⟨0⟩,
    .container .setup "Corner", .extendContainer ⟨2⟩ ⟨1⟩, .device ⟨2⟩ "Supply",
    .extendDevice ⟨2⟩ ⟨0⟩, .attach (.device ⟨2⟩) "spare" ⟨1⟩]

def shelfLab : Catalog := (declareAll shelfDeclarations).toOption.getD empty

theorem built_shelfLab : Built shelfLab := by
  apply built_of_declareAll
  · decide +kernel
  · decide +kernel

/-- The corner has a supply of its own, which inherits the outlet of the supply on the shelf. -/
theorem nearest_declaration_wins_shelfLab :
    shelfLab.Climbs (⟨2⟩ : ContainerId) [⟨2⟩, ⟨1⟩, ⟨0⟩] ∧
      shelfLab.Overlays ⟨2⟩ [⟨1⟩, ⟨2⟩] ∧
      IsNearest (fun id => (shelfLab.device id).name) (fun id => (shelfLab.container id).devices)
        (shelfLab.ancestry ⟨2⟩) "Supply" ⟨2⟩ ∧
      IsNearest (fun id => (shelfLab.attachment id).attr)
        (fun id => (shelfLab.device id).attachments) (shelfLab.ancestry ⟨2⟩) "outlet" ⟨0⟩ ∧
      IsNearest (fun id => (shelfLab.logicalDevice id).name)
        (fun id => (shelfLab.capability id).logicalDevices) (shelfLab.ancestry ⟨1⟩) "load" ⟨0⟩ := by
  obtain ⟨hclimbs, hcontainers, hdevices, -, hcapabilities⟩ :=
    nearest_declaration_wins built_shelfLab
  obtain ⟨hoverlays, hvisible, -⟩ := hcontainers ⟨2⟩
  refine ⟨(hclimbs _ _ _).mpr ?_, (hoverlays _).mpr ?_, (hvisible.nearest _ _).mp ?_,
    ((hdevices ⟨2⟩).nearest _ _).mp ?_, ((hcapabilities ⟨1⟩).nearest _ _).mp ?_⟩
  · decide +kernel
  · decide +kernel
  · decide +kernel
  · decide +kernel
  · decide +kernel

end LabMatch.Catalog
