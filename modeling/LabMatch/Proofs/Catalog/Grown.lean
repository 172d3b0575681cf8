import LabMatch.Proofs.Catalog.Visible
import LabMatch.Proofs.Catalog.WellFormed

/-!
# Catalogues that have grown

Further declarations may specialise and use what is there, without adding anything to
it.  The entities of the earlier catalogue then come first in the later one, unchanged.
Since every identifier in a declared catalogue leads to one of its own entities, whatever
is looked up from an earlier entity is the same in both: its ancestry, its supertypes, what
is visible on it and how it is written.
-/

namespace LabMatch

namespace Catalog

/-- The entities of the catalogue come first in the later one, unchanged. -/
structure GrowsInto (catalog later : Catalog) : Prop where
  containers : catalog.containers <+: later.containers
  devices : catalog.devices <+: later.devices
  attachments : catalog.attachments <+: later.attachments
  capabilities : catalog.capabilities <+: later.capabilities
  logicalDevices : catalog.logicalDevices <+: later.logicalDevices

def Has {family : Family} (catalog : Catalog) (id : Id family) : Prop :=
  id.index < catalog.count family

def Lacks {family : Family} (catalog : Catalog) (id : Id family) : Prop :=
  catalog.count family ≤ id.index

/-- The declaration adds nothing to the entities of the catalogue. -/
def IsBeyond (catalog : Catalog) : Declaration → Prop
  | .container _ _ => True
  | .extendContainer child _ => catalog.Lacks child
  | .device container _ => catalog.Lacks container
  | .extendDevice child _ => catalog.Lacks child
  | .capability _ => True
  | .extendCapability child _ => catalog.Lacks child
  | .logicalDevice capability _ => catalog.Lacks capability
  | .extendLogicalDevice child _ => catalog.Lacks child
  | .require logicalDevice _ => catalog.Lacks logicalDevice
  | .variant capability _ _ _ => catalog.Lacks capability
  | .attach (.device device) _ _ => catalog.Lacks device
  | .attach (.logicalDevice logicalDevice) _ _ => catalog.Lacks logicalDevice
  | .bind attachment _ _ => catalog.Lacks attachment
  | .connect source _ _ _ => catalog.Lacks source.device

instance {family : Family} (catalog : Catalog) (id : Id family) : Decidable (catalog.Has id) :=
  inferInstanceAs (Decidable (id.index < catalog.count family))

instance {family : Family} (catalog : Catalog) (id : Id family) : Decidable (catalog.Lacks id) :=
  inferInstanceAs (Decidable (catalog.count family ≤ id.index))

instance (catalog : Catalog) : DecidablePred catalog.IsBeyond
  | .container _ _ => inferInstanceAs (Decidable True)
  | .extendContainer child _ => inferInstanceAs (Decidable (catalog.Lacks child))
  | .device container _ => inferInstanceAs (Decidable (catalog.Lacks container))
  | .extendDevice child _ => inferInstanceAs (Decidable (catalog.Lacks child))
  | .capability _ => inferInstanceAs (Decidable True)
  | .extendCapability child _ => inferInstanceAs (Decidable (catalog.Lacks child))
  | .logicalDevice capability _ => inferInstanceAs (Decidable (catalog.Lacks capability))
  | .extendLogicalDevice child _ => inferInstanceAs (Decidable (catalog.Lacks child))
  | .require logicalDevice _ => inferInstanceAs (Decidable (catalog.Lacks logicalDevice))
  | .variant capability _ _ _ => inferInstanceAs (Decidable (catalog.Lacks capability))
  | .attach (.device device) _ _ => inferInstanceAs (Decidable (catalog.Lacks device))
  | .attach (.logicalDevice logicalDevice) _ _ =>
    inferInstanceAs (Decidable (catalog.Lacks logicalDevice))
  | .bind attachment _ _ => inferInstanceAs (Decidable (catalog.Lacks attachment))
  | .connect source _ _ _ => inferInstanceAs (Decidable (catalog.Lacks source.device))

/-! ## Growing -/

section Prefix

variable {Entity : Type} {entities later : List Entity}

theorem getD_of_isPrefix [Inhabited Entity] (hinitial : entities <+: later) {position : Nat}
    (hposition : position < entities.length) :
    later[position]?.getD default = entities[position]?.getD default := by
  rw [List.prefix_iff_getElem?.mp hinitial position hposition, List.getElem?_eq_getElem hposition]

end Prefix

variable {catalog next later : Catalog}

theorem GrowsInto.refl (catalog : Catalog) : catalog.GrowsInto catalog where
  containers := List.prefix_rfl
  devices := List.prefix_rfl
  attachments := List.prefix_rfl
  capabilities := List.prefix_rfl
  logicalDevices := List.prefix_rfl

/-- Changes that spare the entities of the catalogue leave them where they are. -/
theorem GrowsInto.apply (hgrows : catalog.GrowsInto next) {changes : Changes}
    (hspare : changes.Spare catalog) : catalog.GrowsInto (changes.apply next) where
  containers := hspare.containers.isPrefix_apply hgrows.containers
  devices := hspare.devices.isPrefix_apply hgrows.devices
  attachments := hspare.attachments.isPrefix_apply hgrows.attachments
  capabilities := hspare.capabilities.isPrefix_apply hgrows.capabilities
  logicalDevices := hspare.logicalDevices.isPrefix_apply hgrows.logicalDevices

/-- A declaration beyond the catalogue does not touch its entities. -/
theorem IsBeyond.spare_effect {declaration : Declaration} (hbeyond : catalog.IsBeyond declaration) :
    declaration.effect.Spare catalog := by
  cases declaration <;> constructor <;> first | exact trivial | exact hbeyond

/-- A declaration beyond the catalogue gives its owners no member. -/
theorem IsBeyond.spare_listing {declaration : Declaration} (hbeyond : catalog.IsBeyond declaration)
    (next : Catalog) : (declaration.listing next).Spare catalog := by
  unfold Declaration.listing
  split <;> constructor <;> first | exact trivial | exact hbeyond

/-- A declaration that adds nothing to the entities of the catalogue leaves them as they
are, wherever it is made. -/
theorem GrowsInto.declare (hgrows : catalog.GrowsInto next) {declaration : Declaration}
    (hbeyond : catalog.IsBeyond declaration) {answer : Option Nat}
    (haccepted : next.declare declaration = .ok (answer, later)) : catalog.GrowsInto later := by
  rw [(enacted_of_declare haccepted).result]
  exact (hgrows.apply hbeyond.spare_effect).apply (hbeyond.spare_listing next)

/-- Trying a declaration beyond a catalogue leaves the catalogue intact. -/
theorem GrowsInto.attempt (hgrows : catalog.GrowsInto next) {declaration : Declaration}
    (hbeyond : catalog.IsBeyond declaration) : catalog.GrowsInto (next.attempt declaration) := by
  cases houtcome : next.declare declaration with
  | error reason =>
    rw [attempt_of_error houtcome]
    exact hgrows
  | ok made =>
    rw [attempt_of_ok houtcome]
    exact hgrows.declare hbeyond houtcome

/-- A catalogue grows into whatever is declared beyond it. -/
theorem growsInto_afterTrying (declarations : List Declaration) {continuation : List Declaration}
    (hbeyond : ∀ declaration ∈ continuation, (afterTrying declarations).IsBeyond declaration) :
    (afterTrying declarations).GrowsInto (afterTrying (declarations ++ continuation)) := by
  induction continuation using List.reverseRecOn with
  | nil =>
    rw [List.append_nil]
    exact GrowsInto.refl _
  | append_singleton earlier declaration ih =>
    rw [List.forall_mem_append, List.forall_mem_singleton] at hbeyond
    rw [← List.append_assoc, afterTrying_concat]
    exact (ih hbeyond.1).attempt hbeyond.2

/-! ## What belongs to the catalogue -/

section Has

variable {family member : Family} {id above parent : Id family}

theorem has_of_parent? (hid : catalog.Has id) (hparent : catalog.parent? id = some parent) :
    catalog.Has parent :=
  Nat.lt_trans (parent?_lt hparent) hid

/-- The ancestry of an entity does not leave the catalogue. -/
theorem has_of_mem_ancestry (hid : catalog.Has id) (habove : above ∈ catalog.ancestry id) :
    catalog.Has above := by
  induction id using catalog.parent_induction with
  | step id ih =>
    rw [ancestry_eq, List.mem_cons] at habove
    cases habove with
    | inl hsame => exact hsame ▸ hid
    | inr habove =>
      cases hparent : catalog.parent? id with
      | none => simp [hparent] at habove
      | some parent =>
        rw [hparent] at habove
        exact ih parent hparent (has_of_parent? hid hparent) habove

/-- What is visible belongs to the catalogue. -/
theorem Declared.has_of_nearest (hdeclared : Declared catalog) {name : Id member → String}
    {members : Id family → List (Id member)} {found : String × Id member}
    (hstores : ∀ above, ∀ listed ∈ members above, catalog.Stores listed)
    (hfound : found ∈ (nearest name ((catalog.ancestry id).map members)).entries) :
    catalog.Has found.2 := by
  obtain ⟨-, level, hlevel, hlisted⟩ :=
    of_get?_nearest ((SortedMap.get?_eq_some_iff _ _ _).mpr hfound)
  obtain ⟨above, -, rfl⟩ := List.mem_map.mp hlevel
  exact hdeclared.lt_count_of_stores (hstores above _ hlisted)

end Has

theorem stores_of_device {device : DeviceId} {attachment : AttachmentId}
    (hlisted : attachment ∈ (catalog.device device).attachments) : catalog.Stores attachment := by
  have howned : attachment ∈ catalog.attachmentsOf (.device device) := hlisted
  exact .attachment howned

theorem stores_of_logicalDevice {logicalDevice : LogicalDeviceId} {attachment : AttachmentId}
    (hlisted : attachment ∈ (catalog.logicalDevice logicalDevice).attachments) :
    catalog.Stores attachment := by
  have howned : attachment ∈ catalog.attachmentsOf (.logicalDevice logicalDevice) := hlisted
  exact .attachment howned

namespace Declared

variable (hdeclared : Declared catalog)

include hdeclared

/-- Nothing from outside is visible on a container of the catalogue. -/
theorem has_of_mem_visibleDevices {container : ContainerId} {device : DeviceId}
    (hdevice : device ∈ catalog.visibleDevices container) : catalog.Has device := by
  rw [visibleDevices, Ascending.mem_ofList] at hdevice
  obtain ⟨found, hfound, rfl⟩ := List.mem_map.mp hdevice
  exact hdeclared.has_of_nearest (fun _ _ => .device) hfound

theorem has_of_mem_deviceAttachments {device : DeviceId} {found : String × AttachmentId}
    (hfound : found ∈ (catalog.deviceAttachments device).entries) : catalog.Has found.2 :=
  hdeclared.has_of_nearest (fun _ _ => stores_of_device) hfound

theorem has_of_mem_logicalDeviceAttachments {logicalDevice : LogicalDeviceId}
    {found : String × AttachmentId}
    (hfound : found ∈ (catalog.logicalDeviceAttachments logicalDevice).entries) :
    catalog.Has found.2 :=
  hdeclared.has_of_nearest (fun _ _ => stores_of_logicalDevice) hfound

theorem has_of_mem_visibleLogicalDevices {capability : CapabilityId}
    {found : String × LogicalDeviceId}
    (hfound : found ∈ (catalog.visibleLogicalDevices capability).entries) : catalog.Has found.2 :=
  hdeclared.has_of_nearest (fun _ _ => .logicalDevice) hfound

theorem has_capability {attachment : AttachmentId} (hid : catalog.Has attachment) :
    catalog.Has (catalog.attachment attachment).capability :=
  hdeclared.lt_count_of_stores (.capability (getD_mem hid))

end Declared

/-! ## Looking up -/

namespace GrowsInto

variable (hgrows : catalog.GrowsInto later)

include hgrows

theorem container_eq {id : ContainerId} (hid : catalog.Has id) :
    later.container id = catalog.container id :=
  getD_of_isPrefix hgrows.containers hid

theorem device_eq {id : DeviceId} (hid : catalog.Has id) :
    later.device id = catalog.device id :=
  getD_of_isPrefix hgrows.devices hid

theorem attachment_eq {id : AttachmentId} (hid : catalog.Has id) :
    later.attachment id = catalog.attachment id :=
  getD_of_isPrefix hgrows.attachments hid

theorem capability_eq {id : CapabilityId} (hid : catalog.Has id) :
    later.capability id = catalog.capability id :=
  getD_of_isPrefix hgrows.capabilities hid

theorem logicalDevice_eq {id : LogicalDeviceId} (hid : catalog.Has id) :
    later.logicalDevice id = catalog.logicalDevice id :=
  getD_of_isPrefix hgrows.logicalDevices hid

/-! ## Walking up -/

section Walk

variable {family : Family} {id : Id family}

/-- Entities of the catalogue keep their parents. -/
theorem parents_eq (hid : catalog.Has id) :
    later.parents family id = catalog.parents family id := by
  cases family with
  | container => exact congrArg Container.parents (hgrows.container_eq hid)
  | device => exact congrArg Device.parents (hgrows.device_eq hid)
  | capability => exact congrArg Capability.parents (hgrows.capability_eq hid)
  | logicalDevice => exact congrArg LogicalDevice.parents (hgrows.logicalDevice_eq hid)
  | attachment => rfl

theorem parent?_eq (hid : catalog.Has id) : later.parent? id = catalog.parent? id := by
  rw [parent?, parent?, hgrows.parents_eq hid]

/-- Entities of the catalogue keep their ancestry. -/
theorem ancestry_eq (hid : catalog.Has id) : later.ancestry id = catalog.ancestry id := by
  induction id using catalog.parent_induction with
  | step id ih =>
    rw [@Catalog.ancestry_eq family later, Catalog.ancestry_eq, hgrows.parent?_eq hid]
    cases hparent : catalog.parent? id with
    | none => rfl
    | some parent =>
      rw [Option.map_some, Option.map_some, ih parent hparent (has_of_parent? hid hparent)]

/-- What an entity of the catalogue specialises does not change. -/
theorem isSubtype_eq {sub sup : Id family} (hsub : catalog.Has sub) :
    later.isSubtype sub sup = catalog.isSubtype sub sup := by
  rw [isSubtype, isSubtype, descendsBy, descendsBy, hgrows.parents_eq hsub]
  congr 2
  funext parent
  by_cases hlt : parent.index < sub.index
  · rw [if_pos hlt, if_pos hlt]
    exact isSubtype_eq (Nat.lt_trans hlt hsub)
  · rw [if_neg hlt, if_neg hlt]
termination_by sub.index

end Walk

/-! ## What is visible -/

/-- Members collected along the ancestry, from the same lists and by the same names. -/
theorem nearest_eq {family member : Family} {id : Id family} (hid : catalog.Has id)
    {members members' : Id family → List (Id member)} {name name' : Id member → String}
    (hmembers : ∀ above, catalog.Has above → members' above = members above)
    (hname : ∀ above, ∀ listed ∈ members above, name' listed = name listed) :
    nearest name' ((later.ancestry id).map members') =
      nearest name ((catalog.ancestry id).map members) := by
  have hlevels : (catalog.ancestry id).map members' = (catalog.ancestry id).map members :=
    List.map_congr_left fun above habove => hmembers above (has_of_mem_ancestry hid habove)
  rw [hgrows.ancestry_eq hid, hlevels, nearest, nearest]
  congr 1
  apply List.map_congr_left
  intro listed hlisted
  obtain ⟨level, hlevel, hlisted⟩ := List.mem_flatten.mp hlisted
  obtain ⟨above, -, rfl⟩ := List.mem_map.mp (List.mem_reverse.mp hlevel)
  rw [hname above listed hlisted]

variable (hdeclared : Declared catalog)

include hdeclared

theorem visibleDevicesByName_eq {container : ContainerId} (hcontainer : catalog.Has container) :
    later.visibleDevicesByName container = catalog.visibleDevicesByName container := by
  apply hgrows.nearest_eq hcontainer
  · intro above habove
    rw [hgrows.container_eq habove]
  · intro above device hdevice
    rw [hgrows.device_eq (hdeclared.lt_count_of_stores (.device hdevice))]

theorem visibleDevices_eq {container : ContainerId} (hcontainer : catalog.Has container) :
    later.visibleDevices container = catalog.visibleDevices container := by
  rw [visibleDevices, hgrows.visibleDevicesByName_eq hdeclared hcontainer, visibleDevices]

theorem deviceAttachments_eq {device : DeviceId} (hdevice : catalog.Has device) :
    later.deviceAttachments device = catalog.deviceAttachments device := by
  apply hgrows.nearest_eq hdevice
  · intro above habove
    rw [hgrows.device_eq habove]
  · intro above attachment hattachment
    rw [hgrows.attachment_eq (hdeclared.lt_count_of_stores (stores_of_device hattachment))]

theorem logicalDeviceAttachments_eq {logicalDevice : LogicalDeviceId}
    (hlogicalDevice : catalog.Has logicalDevice) :
    later.logicalDeviceAttachments logicalDevice =
      catalog.logicalDeviceAttachments logicalDevice := by
  apply hgrows.nearest_eq hlogicalDevice
  · intro above habove
    rw [hgrows.logicalDevice_eq habove]
  · intro above attachment hattachment
    rw [hgrows.attachment_eq (hdeclared.lt_count_of_stores (stores_of_logicalDevice hattachment))]

theorem visibleLogicalDevices_eq {capability : CapabilityId}
    (hcapability : catalog.Has capability) :
    later.visibleLogicalDevices capability = catalog.visibleLogicalDevices capability := by
  apply hgrows.nearest_eq hcapability
  · intro above habove
    rw [hgrows.capability_eq habove]
  · intro above logicalDevice hlogicalDevice
    rw [hgrows.logicalDevice_eq (hdeclared.lt_count_of_stores (.logicalDevice hlogicalDevice))]

/-! ## Paths -/

theorem devicePath_eq {device : DeviceId} (hdevice : catalog.Has device) :
    later.devicePath device = catalog.devicePath device := by
  have howner : catalog.Has (catalog.device device).owner :=
    hdeclared.lt_count_of_stores (.ownerOfDevice (getD_mem hdevice))
  rw [devicePath, devicePath, hgrows.device_eq hdevice, hgrows.container_eq howner]

theorem endpointPath_eq {endpoint : Endpoint} (hdevice : catalog.Has endpoint.device) :
    later.endpointPath endpoint = catalog.endpointPath endpoint := by
  rw [endpointPath, endpointPath, hgrows.devicePath_eq hdeclared hdevice]

theorem logicalDevicePath_eq {logicalDevice : LogicalDeviceId}
    (hlogicalDevice : catalog.Has logicalDevice) :
    later.logicalDevicePath logicalDevice = catalog.logicalDevicePath logicalDevice := by
  have howner : catalog.Has (catalog.logicalDevice logicalDevice).owner :=
    hdeclared.lt_count_of_stores (.ownerOfLogicalDevice (getD_mem hlogicalDevice))
  rw [logicalDevicePath, logicalDevicePath, hgrows.logicalDevice_eq hlogicalDevice,
    hgrows.capability_eq howner]

theorem attachmentPath_eq {attachment : AttachmentId} (hattachment : catalog.Has attachment) :
    later.attachmentPath attachment = catalog.attachmentPath attachment := by
  have hknown : catalog.attachment attachment ∈ catalog.attachments := getD_mem hattachment
  rw [attachmentPath, attachmentPath, hgrows.attachment_eq hattachment]
  congr 2
  cases howner : (catalog.attachment attachment).owner with
  | device device =>
    exact hgrows.devicePath_eq hdeclared (hdeclared.lt_count_of_stores (.carrier hknown howner))
  | logicalDevice logicalDevice =>
    exact hgrows.logicalDevicePath_eq hdeclared
      (hdeclared.lt_count_of_stores (.placeholder hknown howner))

end GrowsInto

end Catalog

end LabMatch
