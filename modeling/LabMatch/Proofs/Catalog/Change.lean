import LabMatch.Catalog.Declare

/-!
# Changes of a catalogue

A declaration adds an entity at the end of its family or alters one in its place.  Where the
new entity is a member of another one, that one is altered as well and lists it.  The tables
of these changes are given here, apart from the checks that a declaration has to pass.
-/

namespace LabMatch

/-- What happens to the entities of a family. -/
inductive Change (Entity : Type)
  | nothing
  | add (entity : Entity)
  | alter (position : Nat) (change : Entity → Entity)

namespace Change

variable {Entity Seen : Type}

def apply : Change Entity → List Entity → List Entity
  | nothing, entities => entities
  | add entity, entities => entities ++ [entity]
  | alter position change, entities => entities.modify position change

def added : Change Entity → Nat
  | add _ => 1
  | _ => 0

/-- None of the first entities is altered. -/
def Spares (first : Nat) : Change Entity → Prop
  | alter position _ => first ≤ position
  | _ => True

/-- It does not matter whether part of an entity is left out before or after the change. -/
def CommutesWith (leaveOut : Entity → Entity) : Change Entity → Prop
  | nothing => True
  | add entity => leaveOut entity = entity
  | alter _ change => ∀ entity, leaveOut (change entity) = change (leaveOut entity)

/-- Nothing is added, and what is altered cannot be seen. -/
def HiddenFrom (see : Entity → Seen) : Change Entity → Prop
  | nothing => True
  | add _ => False
  | alter _ change => ∀ entity, see (change entity) = see entity

theorem length_apply (change : Change Entity) (entities : List Entity) :
    (change.apply entities).length = entities.length + change.added := by
  cases change with
  | nothing => rfl
  | add entity => exact List.length_append
  | alter position change => exact List.length_modify ..

/-- Entities that are spared still come first after the change. -/
theorem Spares.isPrefix_apply {first entities : List Entity} {change : Change Entity}
    (hspares : change.Spares first.length) (hinitial : first <+: entities) :
    first <+: change.apply entities := by
  cases change with
  | nothing => exact hinitial
  | add entity => exact hinitial.trans (List.prefix_append entities [entity])
  | alter position change =>
    rw [List.prefix_iff_getElem?] at hinitial ⊢
    intro other hother
    rw [apply, List.getElem?_modify_ne _ _ (Nat.ne_of_gt (Nat.lt_of_lt_of_le hother hspares))]
    exact hinitial other hother

theorem map_modify {see : Entity → Seen} {change : Entity → Entity} {change' : Seen → Seen}
    (hsee : ∀ entity, see (change entity) = change' (see entity)) (entities : List Entity)
    (position : Nat) :
    (entities.modify position change).map see = (entities.map see).modify position change' := by
  apply List.ext_getElem?
  intro other
  rw [List.getElem?_map, List.getElem?_modify, List.getElem?_modify, List.getElem?_map]
  cases entities[other]? with
  | none => rfl
  | some entity =>
    by_cases hsame : position = other
    · simp [hsame, hsee]
    · simp [hsame]

/-- A change that a projection commutes with can be made before or after projecting all entities. -/
theorem CommutesWith.map_apply {leaveOut : Entity → Entity} {change : Change Entity}
    (hcommutes : change.CommutesWith leaveOut) (entities : List Entity) :
    (change.apply entities).map leaveOut = change.apply (entities.map leaveOut) := by
  cases change with
  | nothing => rfl
  | add entity =>
    have hmade : leaveOut entity = entity := hcommutes
    rw [apply, List.map_append, List.map_singleton, hmade, apply]
  | alter position change => exact map_modify hcommutes entities position

/-- A hidden change makes no difference to what is seen. -/
theorem HiddenFrom.map_apply {see : Entity → Seen} {change : Change Entity}
    (hhidden : change.HiddenFrom see) (entities : List Entity) :
    (change.apply entities).map see = entities.map see := by
  cases change with
  | nothing => rfl
  | add entity => cases hhidden
  | alter position change =>
    have hsame : ∀ entity, see (change entity) = id (see entity) := hhidden
    rw [apply, map_modify hsame]
    exact List.modify_id ..

end Change

/-- What happens to the entities of all families. -/
structure Changes where
  containers : Change Container := .nothing
  devices : Change Device := .nothing
  attachments : Change Attachment := .nothing
  capabilities : Change Capability := .nothing
  logicalDevices : Change LogicalDevice := .nothing

namespace Changes

def apply (changes : Changes) (catalog : Catalog) : Catalog where
  containers := changes.containers.apply catalog.containers
  devices := changes.devices.apply catalog.devices
  attachments := changes.attachments.apply catalog.attachments
  capabilities := changes.capabilities.apply catalog.capabilities
  logicalDevices := changes.logicalDevices.apply catalog.logicalDevices

def added (changes : Changes) : Family → Nat
  | .container => changes.containers.added
  | .device => changes.devices.added
  | .attachment => changes.attachments.added
  | .capability => changes.capabilities.added
  | .logicalDevice => changes.logicalDevices.added

/-- Nothing that the first catalogue holds is altered. -/
structure Spare (changes : Changes) (first : Catalog) : Prop where
  containers : changes.containers.Spares first.containers.length
  devices : changes.devices.Spares first.devices.length
  attachments : changes.attachments.Spares first.attachments.length
  capabilities : changes.capabilities.Spares first.capabilities.length
  logicalDevices : changes.logicalDevices.Spares first.logicalDevices.length

/-- Changes add what they say, and remove nothing. -/
theorem count_apply (changes : Changes) (catalog : Catalog) (family : Family) :
    (changes.apply catalog).count family = catalog.count family + changes.added family := by
  cases family with
  | container => exact changes.containers.length_apply _
  | device => exact changes.devices.length_apply _
  | attachment => exact changes.attachments.length_apply _
  | capability => exact changes.capabilities.length_apply _
  | logicalDevice => exact changes.logicalDevices.length_apply _

end Changes

namespace Declaration

/-- The family of the entity that a declaration introduces, if any. -/
def introduces : Declaration → Option Family
  | .container .. => some .container
  | .device .. => some .device
  | .capability .. => some .capability
  | .logicalDevice .. => some .logicalDevice
  | .attach .. => some .attachment
  | _ => none

/-- What the declaration does to the family of its own entity. -/
def effect : Declaration → Changes
  | .container kind name => { containers := .add ⟨kind, name, [], []⟩ }
  | .extendContainer child parent => { containers := .alter child.index fun entry =>
      { entry with parents := entry.parents ++ [parent] } }
  | .device owner name => { devices := .add ⟨name, owner, [], [], []⟩ }
  | .extendDevice child parent => { devices := .alter child.index fun entry =>
      { entry with parents := entry.parents ++ [parent] } }
  | .capability name => { capabilities := .add ⟨name, [], [], []⟩ }
  | .extendCapability child parent => { capabilities := .alter child.index fun entry =>
      { entry with parents := entry.parents ++ [parent] } }
  | .logicalDevice owner name => { logicalDevices := .add ⟨name, owner, [], [], none⟩ }
  | .extendLogicalDevice child parent => { logicalDevices := .alter child.index fun entry =>
      { entry with parents := entry.parents ++ [parent] } }
  | .require id connection => { logicalDevices := .alter id.index fun entry =>
      { entry with requirement := some connection } }
  | .variant id method label conditions => { capabilities := .alter id.index fun entry =>
      { entry with methods := Catalog.addVariant method ⟨label, conditions⟩ entry.methods } }
  | .attach owner attr type => { attachments := .add ⟨attr, owner, type, none⟩ }
  | .bind id name target => { attachments := .alter id.index fun entry =>
      { entry with binding := some ⟨name, target⟩ } }
  | .connect source target link oneWay => { devices := .alter source.device.index fun entry =>
      { entry with
        links := entry.links ++ [⟨source.node, target.device, target.node, link, oneWay⟩] } }

def listing (catalog : Catalog) : Declaration → Changes
  | .device owner _ => { containers := .alter owner.index fun entry =>
      { entry with devices := entry.devices ++ [⟨catalog.devices.length⟩] } }
  | .logicalDevice owner _ => { capabilities := .alter owner.index fun entry =>
      { entry with logicalDevices := entry.logicalDevices ++ [⟨catalog.logicalDevices.length⟩] } }
  | .attach (.device owner) _ _ => { devices := .alter owner.index fun entry =>
      { entry with attachments := entry.attachments ++ [⟨catalog.attachments.length⟩] } }
  | .attach (.logicalDevice owner) _ _ => { logicalDevices := .alter owner.index fun entry =>
      { entry with attachments := entry.attachments ++ [⟨catalog.attachments.length⟩] } }
  | _ => {}

def result (declaration : Declaration) (catalog : Catalog) : Catalog :=
  (declaration.listing catalog).apply (declaration.effect.apply catalog)

theorem added_effect (declaration : Declaration) (family : Family) :
    declaration.effect.added family = if declaration.introduces = some family then 1 else 0 := by
  cases declaration <;> cases family <;> rfl

theorem added_listing (catalog : Catalog) (declaration : Declaration) (family : Family) :
    (declaration.listing catalog).added family = 0 := by
  unfold listing
  split <;> cases family <;> rfl

/-- An accepted declaration adds one entity of the family that it introduces, and no other one. -/
theorem count_result (declaration : Declaration) (catalog : Catalog) (family : Family) :
    (declaration.result catalog).count family =
      catalog.count family + if declaration.introduces = some family then 1 else 0 := by
  rw [result, Changes.count_apply, Changes.count_apply, added_listing, added_effect, Nat.add_zero]

end Declaration

end LabMatch
