import LabMatch.Proofs.Catalog.Step

/-!
# Parents, members and links of declared entities

What holds of every declared catalogue is carried along its declarations, step by step.
Here: a parent has a smaller identifier than its child.  Every owner lists its own members
in the order of declaration, and their names differ.  A link joins two devices of one
container.
-/

namespace LabMatch.Catalog

/-! ## Parents come first -/

section ParentsFirst

variable {family : Family} {Entity : Type} [Inhabited Entity] {parents : Entity → List (Id family)}
  {entities next : List Entity}

/-- The parents of every entity were declared before it. -/
def ParentsFirst (parents : Entity → List (Id family)) (entities : List Entity) : Prop :=
  ∀ child : Id family, ∀ parent ∈ parents (entities[child.index]?.getD default), parent < child

/-- A step adds no parent that was declared later. -/
theorem ParentsFirst.step (hfirst : ParentsFirst parents entities)
    {Fits : Nat → Id family → Prop} (hadds : AddsItems parents Fits entities next)
    (hfits : ∀ child parent, Fits child parent → parent.index < child) :
    ParentsFirst parents next := by
  intro child parent hparent
  cases hadds child.index parent hparent with
  | inl hold => exact hfirst child parent hold
  | inr hnew => exact hfits child.index parent hnew

end ParentsFirst

/-! ## Members of a scope -/

section Enrolled

variable {family : Family} {Scope : Type} [DecidableEq Scope]
  {roster before after : Roster family Scope}

/-- Every scope lists the members that it owns, in the order of declaration, and they have
different names. -/
structure Enrolled (roster : Roster family Scope) : Prop where
  inOrder : ∀ scope, roster.listedBy scope =
    ((List.range roster.count).map Id.mk).filter fun id => roster.owner id = scope
  names : ∀ scope, ((roster.listedBy scope).map roster.name).Nodup

/-- A scope lists the members that say that they belong to it. -/
theorem Enrolled.mem_iff (henrolled : Enrolled roster) {scope : Scope} {member : Id family} :
    member ∈ roster.listedBy scope ↔
      member.index < roster.count ∧ roster.owner member = scope := by
  rw [henrolled.inOrder, List.mem_filter, decide_eq_true_eq, List.mem_map]
  apply and_congr_left'
  constructor
  · intro hmember
    obtain ⟨index, hindex, rfl⟩ := hmember
    exact List.mem_range.mp hindex
  · intro hindex
    exact ⟨member.index, List.mem_range.mpr hindex, rfl⟩

/-- The owner lists a member once, and nothing else lists it. -/
theorem Enrolled.count_eq (henrolled : Enrolled roster) (scope : Scope) (member : Id family) :
    (roster.listedBy scope).count member =
      if member.index < roster.count ∧ roster.owner member = scope then 1 else 0 := by
  by_cases howned : member.index < roster.count ∧ roster.owner member = scope
  · rw [if_pos howned]
    exact List.count_eq_one_of_mem ((henrolled.names scope).of_map _) (henrolled.mem_iff.mpr howned)
  · rw [if_neg howned]
    exact List.count_eq_zero.mpr fun hmember => howned (henrolled.mem_iff.mp hmember)

theorem Enrolled.inOrder_step (henrolled : Enrolled before) (henrolls : Enrolls before after)
    (scope : Scope) : after.listedBy scope =
      ((List.range after.count).map Id.mk).filter fun id => after.owner id = scope := by
  have hkept : before.listedBy scope =
      ((List.range before.count).map Id.mk).filter fun id => after.owner id = scope := by
    rw [henrolled.inOrder]
    apply List.filter_congr
    intro member hmember
    obtain ⟨index, hindex, rfl⟩ := List.mem_map.mp hmember
    rw [(henrolls.kept ⟨index⟩ (List.mem_range.mp hindex)).1]
  rcases henrolls.listed with ⟨hcount, hsame⟩ | ⟨hcount, hmade, -⟩
  · rw [hsame, hkept, hcount]
  · rw [hmade, hcount, List.range_succ, List.map_append, List.filter_append, ← hkept,
      List.map_singleton, List.filter_singleton]
    by_cases hscope : scope = after.owner ⟨before.count⟩
    · simp [hscope]
    · simp [hscope, Ne.symm hscope]

/-- A new member does not take the name of another one in its scope. -/
theorem Enrolled.names_step (henrolled : Enrolled before) (henrolls : Enrolls before after)
    (scope : Scope) : ((after.listedBy scope).map after.name).Nodup := by
  have hkept : (before.listedBy scope).map after.name = (before.listedBy scope).map before.name :=
    List.map_congr_left fun member hmember =>
      (henrolls.kept member (henrolled.mem_iff.mp hmember).1).2
  have hearlier : ((before.listedBy scope).map after.name).Nodup := by
    rw [hkept]
    exact henrolled.names scope
  rcases henrolls.listed with ⟨-, hsame⟩ | ⟨-, hmade, hfresh⟩
  · rw [hsame]
    exact hearlier
  · rw [hmade]
    split_ifs with hscope
    · rw [List.map_append, List.map_singleton]
      apply hearlier.append (List.nodup_singleton _)
      rw [List.disjoint_singleton, hkept]
      intro htaken
      obtain ⟨member, hmember, hname⟩ := List.mem_map.mp htaken
      exact hfresh member (hscope ▸ hmember) hname
    · exact hearlier

theorem Enrolled.step (henrolled : Enrolled before) (henrolls : Enrolls before after) :
    Enrolled after :=
  ⟨henrolled.inOrder_step henrolls, henrolled.names_step henrolls⟩

theorem enrolled_nothing (hcount : roster.count = 0)
    (hnothing : ∀ scope, roster.listedBy scope = []) : Enrolled roster where
  inOrder scope := by
    rw [hnothing, hcount]
    rfl
  names scope := by
    rw [hnothing]
    exact List.nodup_nil

end Enrolled

/-! ## What stays -/

section Stays

variable {Entity Fixed Item : Type} {entities next : List Entity} {fixed : Entity → Fixed}
  {New : Fixed → Prop}

theorem Adds.fixed_getD [Inhabited Entity] (hadds : Adds fixed New entities next) {position : Nat}
    (hposition : position < entities.length) :
    fixed (next[position]?.getD default) = fixed (entities[position]?.getD default) := by
  have hprefix : (next.map fixed)[position]? = (entities.map fixed)[position]? := by
    rcases hadds with hsame | ⟨made, -, hmade⟩
    · rw [hsame]
    · rw [hmade, List.getElem?_append_left (by simpa using hposition)]
  have hlater : position < next.length := Nat.lt_of_lt_of_le hposition hadds.length_le
  simpa [hposition, hlater] using hprefix

/-- Only what was declared has items. -/
theorem lt_length_of_mem [Inhabited Entity] {field : Entity → List Item}
    (hdefault : field default = []) {position : Nat} {item : Item}
    (hitem : item ∈ field (entities[position]?.getD default)) : position < entities.length := by
  apply Nat.lt_of_not_le
  intro hbeyond
  rw [List.getElem?_eq_none hbeyond, Option.getD_none, hdefault] at hitem
  cases hitem

end Stays

variable {catalog next : Catalog}

theorem Step.device_owner_eq (hstep : Step catalog next) {id : DeviceId}
    (hid : id.index < catalog.devices.length) :
    (next.device id).owner = (catalog.device id).owner :=
  congrArg Prod.snd (hstep.devices.fixed_getD hid)

theorem MayLink.step {device : DeviceId} {link : DeclaredLink}
    (hlink : catalog.MayLink device link) (hdevice : device.index < catalog.devices.length)
    (hstep : Step catalog next) : next.MayLink device link where
  peer_ne := hlink.peer_ne
  peer_known := Nat.lt_of_lt_of_le hlink.peer_known hstep.devices.length_le
  owner_eq := by
    rw [hstep.device_owner_eq hlink.peer_known, hstep.device_owner_eq hdevice, hlink.owner_eq]
  node_ne := hlink.node_ne
  peerNode_ne := hlink.peerNode_ne

/-! ## The invariant -/

structure Registered (catalog : Catalog) : Prop where
  containers : ParentsFirst Container.parents catalog.containers
  devices : ParentsFirst Device.parents catalog.devices
  capabilities : ParentsFirst Capability.parents catalog.capabilities
  logicalDevices : ParentsFirst LogicalDevice.parents catalog.logicalDevices
  deviceRoster : Enrolled catalog.deviceRoster
  logicalDeviceRoster : Enrolled catalog.logicalDeviceRoster
  attachmentRoster : Enrolled catalog.attachmentRoster
  links : ∀ device, ∀ link ∈ (catalog.device device).links, catalog.MayLink device link

theorem attachmentsOf_empty (owner : Owner) : Catalog.empty.attachmentsOf owner = [] := by
  cases owner with
  | device id => rfl
  | logicalDevice id => rfl

theorem registered_empty : Registered Catalog.empty where
  containers _ _ hparent := by cases hparent
  devices _ _ hparent := by cases hparent
  capabilities _ _ hparent := by cases hparent
  logicalDevices _ _ hparent := by cases hparent
  deviceRoster := enrolled_nothing rfl fun _ => rfl
  logicalDeviceRoster := enrolled_nothing rfl fun _ => rfl
  attachmentRoster := enrolled_nothing rfl attachmentsOf_empty
  links _ _ hlink := by cases hlink

theorem Registered.links_step (hregistered : Registered catalog) (hstep : Step catalog next)
    (device : DeviceId) (link : DeclaredLink) (hlink : link ∈ (next.device device).links) :
    next.MayLink device link := by
  have hearlier : device.index < catalog.devices.length ∧ catalog.MayLink device link := by
    cases hstep.links device.index link hlink with
    | inl hold => exact ⟨lt_length_of_mem rfl hold, hregistered.links device link hold⟩
    | inr hnew => exact hnew
  exact hearlier.2.step hearlier.1 hstep

/-- The invariant is kept by every step. -/
theorem Registered.step (hregistered : Registered catalog) (hstep : Step catalog next) :
    Registered next where
  containers := hregistered.containers.step hstep.containerParents fun _ _ hfits => hfits.2.1
  devices := hregistered.devices.step hstep.deviceParents fun _ _ hfits => hfits.2.1
  capabilities := hregistered.capabilities.step hstep.capabilityParents fun _ _ hfits => hfits
  logicalDevices :=
    hregistered.logicalDevices.step hstep.logicalDeviceParents fun _ _ hfits => hfits
  deviceRoster := hregistered.deviceRoster.step hstep.deviceRoster
  logicalDeviceRoster := hregistered.logicalDeviceRoster.step hstep.logicalDeviceRoster
  attachmentRoster := hregistered.attachmentRoster.step hstep.attachmentRoster
  links := hregistered.links_step hstep

/-- Every catalogue that can be declared is registered. -/
theorem Declared.registered (hdeclared : Declared catalog) : Registered catalog := by
  induction hdeclared with
  | empty => exact registered_empty
  | declare hdeclared haccepted ih => exact ih.step (enacted_of_declare haccepted).step

theorem Built.registered (hbuilt : Built catalog) : Registered catalog :=
  hbuilt.declared.registered

/-! ## The layout of containers -/

/-- Devices belong to the container that lists them, and links stay within it. -/
structure WellLaidOut (catalog : Catalog) : Prop where
  owner : ∀ container, ∀ device ∈ (catalog.container container).devices,
    (catalog.device device).owner = container ∧ device.index < catalog.devices.length
  listed : ∀ device : DeviceId, device.index < catalog.devices.length →
    device ∈ (catalog.container (catalog.device device).owner).devices
  names : ∀ container,
    ((catalog.container container).devices.map fun device => (catalog.device device).name).Nodup
  links : ∀ device, ∀ link ∈ (catalog.device device).links,
    link.peer ≠ device ∧ link.peer.index < catalog.devices.length ∧
      (catalog.device link.peer).owner = (catalog.device device).owner

theorem Declared.wellLaidOut (hdeclared : Declared catalog) : WellLaidOut catalog where
  owner _ _ hdevice := (hdeclared.registered.deviceRoster.mem_iff.mp hdevice).symm
  listed _ hindex := hdeclared.registered.deviceRoster.mem_iff.mpr ⟨hindex, rfl⟩
  names := hdeclared.registered.deviceRoster.names
  links device link hlink := by
    have hmay := hdeclared.registered.links device link hlink
    exact ⟨hmay.peer_ne, hmay.peer_known, hmay.owner_eq⟩

theorem Built.wellLaidOut (hbuilt : Built catalog) : WellLaidOut catalog :=
  hbuilt.declared.wellLaidOut

end LabMatch.Catalog
