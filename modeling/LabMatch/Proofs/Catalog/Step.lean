import LabMatch.Proofs.Catalog.Declared

/-!
# What a declaration can do

An accepted declaration adds at most one entity to each family, at the end.  What an
entity is declared with stays for good.  Its lists of parents, links, variants and
members and its binding may grow, by items that passed the checks of the declaration.

`Step` says this family by family, and `enacted_of_declare` goes through the declarations
once.  Invariants of the catalogue are derived from the step and not from the declarations.
-/

namespace LabMatch.Catalog

/-! ## Families of entities -/

section SameField

variable {Entity Field : Type} [Inhabited Entity] {field : Entity → Field}
  {entities next : List Entity}

/-- The field is the same at every position of both lists. -/
def SameField (field : Entity → Field) (entities next : List Entity) : Prop :=
  ∀ position : Nat,
    field (next[position]?.getD default) = field (entities[position]?.getD default)

theorem SameField.refl : SameField field entities entities :=
  fun _ => rfl

theorem SameField.modify {position : Nat} {change : Entity → Entity}
    (hchange : ∀ entity, field (change entity) = field entity) :
    SameField field entities (entities.modify position change) :=
  field_getD_modify field hchange entities position

theorem SameField.append {entity : Entity} (hentity : field entity = field default) :
    SameField field entities (entities ++ [entity]) := by
  intro position
  rw [getD_append]
  by_cases hlast : position = entities.length
  · rw [if_pos hlast, hlast, List.getElem?_eq_none (Nat.le_refl _)]
    exact hentity
  · rw [if_neg hlast]

/-- One entity gets another item in the list of one of its fields. -/
theorem list_getD_modify {family : Family} {Item : Type} (field : Entity → List Item)
    {id : Id family} (hid : id.index < entities.length) {change : Entity → Entity} {item : Item}
    (hchange : ∀ entity, field (change entity) = field entity ++ [item]) (other : Id family) :
    field ((entities.modify id.index change)[other.index]?.getD default) =
      if other = id then field (entities[other.index]?.getD default) ++ [item]
      else field (entities[other.index]?.getD default) := by
  rw [getD_modify _ _ hid]
  by_cases hsame : other = id
  · rw [if_pos hsame, if_pos (congrArg Id.index hsame), hchange, hsame]
  · rw [if_neg hsame, if_neg fun hindex => hsame (congrArg Id.mk hindex)]

end SameField

section Adds

variable {Entity Fixed : Type} {entities next : List Entity} {fixed : Entity → Fixed}
  {New : Fixed → Prop}

/-- At most one entity is added, and what the others were declared with stays. -/
def Adds (fixed : Entity → Fixed) (New : Fixed → Prop) (entities next : List Entity) : Prop :=
  next.map fixed = entities.map fixed ∨
    ∃ made, New made ∧ next.map fixed = entities.map fixed ++ [made]

theorem Adds.refl : Adds fixed New entities entities :=
  Or.inl rfl

theorem Adds.modify {position : Nat} {change : Entity → Entity}
    (hchange : ∀ entity, fixed (change entity) = fixed entity) :
    Adds fixed New entities (entities.modify position change) := by
  apply Or.inl
  apply List.ext_getElem?
  intro other
  rw [List.getElem?_map, List.getElem?_map, List.getElem?_modify]
  cases entities[other]? with
  | none => rfl
  | some entity =>
    by_cases hsame : position = other
    · simp [hsame, hchange]
    · simp [hsame]

theorem Adds.append {entity : Entity} (hnew : New (fixed entity)) :
    Adds fixed New entities (entities ++ [entity]) :=
  Or.inr ⟨fixed entity, hnew, List.map_append⟩

theorem Adds.length_le (hadds : Adds fixed New entities next) : entities.length ≤ next.length := by
  rw [← @List.length_map _ _ entities fixed, ← @List.length_map _ _ next fixed]
  cases hadds with
  | inl hsame => exact Nat.le_of_eq (congrArg List.length hsame.symm)
  | inr hadded =>
    obtain ⟨made, -, hmade⟩ := hadded
    rw [hmade, List.length_append]
    exact Nat.le_add_right _ _

end Adds

section AddsItems

variable {Entity Item : Type} [Inhabited Entity] {entities next : List Entity}
  {field : Entity → List Item} {Fits : Nat → Item → Prop}

/-- The items of a field were there before or fit the entity. -/
def AddsItems (field : Entity → List Item) (Fits : Nat → Item → Prop)
    (entities next : List Entity) : Prop :=
  ∀ position : Nat, ∀ item ∈ field (next[position]?.getD default),
    item ∈ field (entities[position]?.getD default) ∨ Fits position item

theorem AddsItems.of_same (hsame : SameField field entities next) :
    AddsItems field Fits entities next := by
  intro position item hitem
  rw [hsame] at hitem
  exact Or.inl hitem

theorem AddsItems.refl : AddsItems field Fits entities entities :=
  .of_same .refl

theorem AddsItems.modify {position : Nat} {change : Entity → Entity}
    (hchange : ∀ entity, field (change entity) = field entity) :
    AddsItems field Fits entities (entities.modify position change) :=
  .of_same (.modify hchange)

theorem AddsItems.append {entity : Entity} (hentity : field entity = field default) :
    AddsItems field Fits entities (entities ++ [entity]) :=
  .of_same (.append hentity)

/-- One entity gets an item that fits it. -/
theorem AddsItems.add {position : Nat} (hposition : position < entities.length)
    {change : Entity → Entity} {item : Item}
    (hchange : ∀ entity, ∀ other ∈ field (change entity), other ∈ field entity ∨ other = item)
    (hfits : Fits position item) :
    AddsItems field Fits entities (entities.modify position change) := by
  intro other added hadded
  rw [getD_modify _ _ hposition] at hadded
  by_cases hsame : other = position
  · rw [if_pos hsame] at hadded
    subst hsame
    apply (hchange _ added hadded).imp_right
    intro hitem
    exact hitem ▸ hfits
  · rw [if_neg hsame] at hadded
    exact Or.inl hadded

end AddsItems

/-! ## Members of scopes -/

/-- How many members a family has, which of them a scope lists, and what each of them says
about its owner and its name. -/
structure Roster (family : Family) (Scope : Type) where
  count : Nat
  listedBy : Scope → List (Id family)
  owner : Id family → Scope
  name : Id family → String

section Enrolls

variable {family : Family} {Scope Entity : Type} [DecidableEq Scope] [Inhabited Entity]

/-- Members keep their owners and names.  None is new, or one with a name of its own is, and
its owner alone lists it. -/
structure Enrolls (before after : Roster family Scope) : Prop where
  kept : ∀ member, member.index < before.count →
    after.owner member = before.owner member ∧ after.name member = before.name member
  listed : (after.count = before.count ∧ ∀ scope, after.listedBy scope = before.listedBy scope) ∨
    (after.count = before.count + 1 ∧
      (∀ scope, after.listedBy scope =
        if scope = after.owner ⟨before.count⟩ then before.listedBy scope ++ [⟨before.count⟩]
        else before.listedBy scope) ∧
      ∀ member ∈ before.listedBy (after.owner ⟨before.count⟩),
        before.name member ≠ after.name ⟨before.count⟩)

def Roster.of (entities : List Entity) (listedBy : Scope → List (Id family))
    (owner : Entity → Scope) (name : Entity → String) : Roster family Scope where
  count := entities.length
  listedBy := listedBy
  owner id := owner (entities[id.index]?.getD default)
  name id := name (entities[id.index]?.getD default)

variable {entities next : List Entity} {listedBy listedBy' : Scope → List (Id family)}
  {owner : Entity → Scope} {name : Entity → String}

theorem Enrolls.of_same (hcount : next.length = entities.length)
    (hlisted : ∀ scope, listedBy' scope = listedBy scope)
    (howner : SameField owner entities next) (hname : SameField name entities next) :
    Enrolls (.of entities listedBy owner name) (.of next listedBy' owner name) :=
  ⟨fun member _ => ⟨howner member.index, hname member.index⟩, Or.inl ⟨hcount, hlisted⟩⟩

theorem Enrolls.append {made : Entity}
    (hlisted : ∀ scope, listedBy' scope =
      if scope = owner made then listedBy scope ++ [⟨entities.length⟩] else listedBy scope)
    (hfresh : ∀ member ∈ listedBy (owner made),
      name (entities[member.index]?.getD default) ≠ name made) :
    Enrolls (.of entities listedBy owner name)
      (.of (entities ++ [made]) listedBy' owner name) := by
  have hmade : (entities ++ [made])[entities.length]?.getD default = made := by
    rw [getD_append, if_pos rfl]
  constructor
  · intro member hmember
    have hne : member.index ≠ entities.length := Nat.ne_of_lt hmember
    have hold : (entities ++ [made])[member.index]?.getD default =
        entities[member.index]?.getD default := by
      rw [getD_append, if_neg hne]
    exact ⟨congrArg owner hold, congrArg name hold⟩
  · refine Or.inr ⟨List.length_append, ?_, ?_⟩
    · intro scope
      simp only [Roster.of, hmade]
      exact hlisted scope
    · simp only [Roster.of, hmade]
      exact hfresh

end Enrolls

def deviceRoster (catalog : Catalog) : Roster .device ContainerId :=
  .of catalog.devices (fun container => (catalog.container container).devices) Device.owner
    Device.name

def logicalDeviceRoster (catalog : Catalog) : Roster .logicalDevice CapabilityId :=
  .of catalog.logicalDevices (fun capability => (catalog.capability capability).logicalDevices)
    LogicalDevice.owner LogicalDevice.name

def attachmentRoster (catalog : Catalog) : Roster .attachment Owner :=
  .of catalog.attachments catalog.attachmentsOf Attachment.owner Attachment.attr

/-! ## Steps -/

def Knows (catalog : Catalog) : Owner → Prop
  | .device id => id.index < catalog.devices.length
  | .logicalDevice id => id.index < catalog.logicalDevices.length

def MayBind (catalog : Catalog) (attachment : AttachmentId) (target : DeviceId) : Prop :=
  target.index < catalog.devices.length ∧
    ∃ carrier, (catalog.attachment attachment).owner = .device carrier ∧ carrier ≠ target ∧
      (catalog.device carrier).owner = (catalog.device target).owner

structure MayLink (catalog : Catalog) (device : DeviceId) (link : DeclaredLink) : Prop where
  peer_ne : link.peer ≠ device
  peer_known : link.peer.index < catalog.devices.length
  owner_eq : (catalog.device link.peer).owner = (catalog.device device).owner
  node_ne : link.node ≠ ""
  peerNode_ne : link.peerNode ≠ ""

def AddsVariant (capability : Capability) (methods : List Method) : Prop :=
  methods = capability.methods ∨ ∃ method label conditions,
    ((capability.variantsOf method).any fun variant => variant.label == label) = false ∧
      methods = addVariant method ⟨label, conditions⟩ capability.methods

structure Step (catalog next : Catalog) : Prop where
  containers : Adds (fun container => (container.name, container.kind))
    (fun made => made.1 ∉ catalog.containers.map Container.name)
    catalog.containers next.containers
  containerParents : AddsItems Container.parents
    (fun child parent => child < catalog.containers.length ∧ parent.index < child ∧
      (catalog.container ⟨child⟩).kind = (catalog.container parent).kind)
    catalog.containers next.containers
  devices : Adds (fun device => (device.name, device.owner))
    (fun made => made.2.index < catalog.containers.length) catalog.devices next.devices
  deviceParents : AddsItems Device.parents
    (fun child parent => child < catalog.devices.length ∧ parent.index < child ∧
      catalog.kindOfDevice ⟨child⟩ = catalog.kindOfDevice parent)
    catalog.devices next.devices
  links : AddsItems Device.links
    (fun device link => device < catalog.devices.length ∧ catalog.MayLink ⟨device⟩ link)
    catalog.devices next.devices
  deviceRoster : Enrolls catalog.deviceRoster next.deviceRoster
  capabilities : Adds Capability.name
    (fun made => made ∉ catalog.capabilities.map Capability.name)
    catalog.capabilities next.capabilities
  capabilityParents : AddsItems Capability.parents (fun child parent => parent.index < child)
    catalog.capabilities next.capabilities
  methods : ∀ capability,
    AddsVariant (catalog.capability capability) (next.capability capability).methods
  logicalDevices : Adds (fun logicalDevice => (logicalDevice.name, logicalDevice.owner))
    (fun made => made.2.index < catalog.capabilities.length)
    catalog.logicalDevices next.logicalDevices
  logicalDeviceParents : AddsItems LogicalDevice.parents
    (fun child parent => parent.index < child) catalog.logicalDevices next.logicalDevices
  logicalDeviceRoster : Enrolls catalog.logicalDeviceRoster next.logicalDeviceRoster
  attachments : Adds (fun attachment => (attachment.attr, attachment.owner, attachment.capability))
    (fun made => catalog.Knows made.2.1 ∧ made.2.2.index < catalog.capabilities.length)
    catalog.attachments next.attachments
  attachmentRoster : Enrolls catalog.attachmentRoster next.attachmentRoster
  bindings : AddsItems (fun attachment => attachment.binding.toList)
    (fun attachment binding => attachment < catalog.attachments.length ∧
      catalog.MayBind ⟨attachment⟩ binding.target)
    catalog.attachments next.attachments

variable {catalog next : Catalog}

theorem enrollsDevices_of_same (hcount : next.devices.length = catalog.devices.length)
    (hlisted : SameField Container.devices catalog.containers next.containers)
    (howner : SameField Device.owner catalog.devices next.devices)
    (hname : SameField Device.name catalog.devices next.devices) :
    Enrolls catalog.deviceRoster next.deviceRoster :=
  .of_same hcount (fun container => hlisted container.index) howner hname

theorem enrollsLogicalDevices_of_same
    (hcount : next.logicalDevices.length = catalog.logicalDevices.length)
    (hlisted : SameField Capability.logicalDevices catalog.capabilities next.capabilities)
    (howner : SameField LogicalDevice.owner catalog.logicalDevices next.logicalDevices)
    (hname : SameField LogicalDevice.name catalog.logicalDevices next.logicalDevices) :
    Enrolls catalog.logicalDeviceRoster next.logicalDeviceRoster :=
  .of_same hcount (fun capability => hlisted capability.index) howner hname

theorem attachmentsOf_eq (hdevices : SameField Device.attachments catalog.devices next.devices)
    (hlogicalDevices : SameField LogicalDevice.attachments catalog.logicalDevices
      next.logicalDevices) (owner : Owner) :
    next.attachmentsOf owner = catalog.attachmentsOf owner := by
  cases owner with
  | device id => exact hdevices id.index
  | logicalDevice id => exact hlogicalDevices id.index

theorem enrollsAttachments_of_same (hcount : next.attachments.length = catalog.attachments.length)
    (hdevices : SameField Device.attachments catalog.devices next.devices)
    (hlogicalDevices : SameField LogicalDevice.attachments catalog.logicalDevices
      next.logicalDevices)
    (howner : SameField Attachment.owner catalog.attachments next.attachments)
    (hattr : SameField Attachment.attr catalog.attachments next.attachments) :
    Enrolls catalog.attachmentRoster next.attachmentRoster :=
  .of_same hcount (attachmentsOf_eq hdevices hlogicalDevices) howner hattr

theorem addsVariant_of_same
    (hsame : SameField Capability.methods catalog.capabilities next.capabilities)
    (capability : CapabilityId) :
    AddsVariant (catalog.capability capability) (next.capability capability).methods :=
  Or.inl (hsame capability.index)

theorem Step.refl (catalog : Catalog) : Step catalog catalog where
  containers := .refl
  containerParents := .refl
  devices := .refl
  deviceParents := .refl
  links := .refl
  deviceRoster := enrollsDevices_of_same rfl .refl .refl .refl
  capabilities := .refl
  capabilityParents := .refl
  methods := addsVariant_of_same .refl
  logicalDevices := .refl
  logicalDeviceParents := .refl
  logicalDeviceRoster := enrollsLogicalDevices_of_same rfl .refl .refl .refl
  attachments := .refl
  attachmentRoster := enrollsAttachments_of_same rfl .refl .refl .refl .refl
  bindings := .refl

/-! ## Declarations -/

/-- The name of an entity that was looked for in vain is not taken. -/
theorem name_ne_of_find? {family : Family} {name : String} {nameOf : Id family → String}
    {ids : List (Id family)} (hfresh : (ids.find? fun id => nameOf id == name).isSome = false)
    (id : Id family) (hid : id ∈ ids) : nameOf id ≠ name := by
  rw [Option.isSome_eq_false_iff, Option.isNone_iff_eq_none, List.find?_eq_none] at hfresh
  simpa using hfresh id hid

theorem notMem_map_of_find?_ids {family : Family} {Entity : Type} [Inhabited Entity]
    {nameOf : Entity → String} {entities : List Entity} {name : String}
    (hcount : catalog.count family = entities.length)
    (hfresh : ((catalog.ids family).find? fun id : Id family =>
      nameOf (entities[id.index]?.getD default) == name).isSome = false) :
    name ∉ entities.map nameOf := by
  intro htaken
  obtain ⟨entity, hentity, hname⟩ := List.mem_map.mp htaken
  obtain ⟨position, hposition, hlookup⟩ := List.getElem_of_mem hentity
  apply name_ne_of_find? hfresh ⟨position⟩ (mem_ids.mpr (hcount ▸ hposition))
  simp [hposition, hlookup, hname]

theorem knows_of_knownOwner {owner : Owner} (hknown : catalog.knownOwner owner = .ok ()) :
    catalog.Knows owner := by
  cases owner with
  | device id => exact known_eq_ok hknown
  | logicalDevice id => exact known_eq_ok hknown

theorem mem_of_concat {Entity Item : Type} {field : Entity → List Item} {change : Entity → Entity}
    {item : Item} (hchange : ∀ entity, field (change entity) = field entity ++ [item])
    (entity : Entity) (other : Item) (hother : other ∈ field (change entity)) :
    other ∈ field entity ∨ other = item := by
  rwa [hchange, List.mem_append, List.mem_singleton] at hother

/-- The owner of a new attachment lists it, and nothing else changes. -/
theorem attachmentsOf_attach {owner : Owner} (hknown : catalog.Knows owner) (attr : String)
    (capability : CapabilityId) (other : Owner) :
    (Declaration.result (.attach owner attr capability) catalog).attachmentsOf other =
      if other = owner then catalog.attachmentsOf other ++ [⟨catalog.attachments.length⟩]
      else catalog.attachmentsOf other := by
  cases owner with
  | device device =>
    cases other with
    | device other =>
      simp only [Owner.device.injEq]
      exact list_getD_modify Device.attachments hknown (fun _ => rfl) other
    | logicalDevice other => rfl
  | logicalDevice logicalDevice =>
    cases other with
    | device other => rfl
    | logicalDevice other =>
      simp only [Owner.logicalDevice.injEq]
      exact list_getD_modify LogicalDevice.attachments hknown (fun _ => rfl) other

/-- The owner lists a new attachment last, whichever kind of owner it is. -/
theorem enrollsAttachments_of_attach {owner : Owner} (hknown : catalog.Knows owner)
    {attr : String}
    (hfresh : ((catalog.attachmentsOf owner).any fun id => (catalog.attachment id).attr == attr) =
      false) (capability : CapabilityId) :
    Enrolls catalog.attachmentRoster
      (Declaration.result (.attach owner attr capability) catalog).attachmentRoster := by
  have hlisted := attachmentsOf_attach hknown attr capability
  have hne : ∀ id ∈ catalog.attachmentsOf owner, (catalog.attachment id).attr ≠ attr := by
    simpa using hfresh
  cases owner with
  | device device => exact .append hlisted hne
  | logicalDevice logicalDevice => exact .append hlisted hne

/-- A variant is added to the method of its name, which is new if there was none. -/
theorem addsVariant_of_variant {capability : CapabilityId} {method label : String}
    {conditions : List Condition} (hcapability : capability.index < catalog.capabilities.length)
    (hfresh : (((catalog.capability capability).variantsOf method).any fun variant =>
      variant.label == label) = false) (other : CapabilityId) :
    AddsVariant (catalog.capability other)
      ((Declaration.result (.variant capability method label conditions) catalog).capability
        other).methods := by
  by_cases hsame : other = capability
  · subst hsame
    refine Or.inr ⟨method, label, conditions, hfresh, ?_⟩
    exact congrArg Capability.methods ((getD_modify _ _ hcapability _).trans (if_pos rfl))
  · have hindex : other.index ≠ capability.index := fun hindex => hsame (congrArg Id.mk hindex)
    exact Or.inl (congrArg Capability.methods ((getD_modify _ _ hcapability _).trans
      (if_neg hindex)))

/-- What an accepted declaration does: it answers where it put the new entity, if there is
one, and makes its changes, which are a step. -/
structure Enacted (catalog : Catalog) (declaration : Declaration) (answer : Option Nat)
    (next : Catalog) : Prop where
  answer : answer = declaration.introduces.map catalog.count
  result : next = declaration.result catalog
  step : Step catalog next

/-- What an accepted declaration of any kind does.  The invariants of declared catalogues are
proved from this. -/
theorem enacted_of_declare {declaration : Declaration} {answer : Option Nat}
    (haccepted : catalog.declare declaration = .ok (answer, next)) :
    Enacted catalog declaration answer next := by
  -- per family whose list changed, the fields of `Step` about this list are given anew
  cases declaration with
  | container kind name =>
    obtain ⟨id, hmade, rfl⟩ := answer_of_introduced_eq_ok haccepted
    obtain ⟨rfl, hfresh, rfl⟩ := declareContainer_eq_ok hmade
    exact ⟨rfl, rfl, { Step.refl catalog with
      containers := .append (notMem_map_of_find?_ids rfl hfresh)
      containerParents := .append rfl
      deviceRoster := enrollsDevices_of_same rfl (.append rfl) .refl .refl }⟩
  | extendContainer child parent =>
    obtain ⟨hchanged, rfl⟩ := answer_of_changed_eq_ok haccepted
    obtain ⟨hchild, horder, hkind, rfl⟩ := extendContainer_eq_ok hchanged
    exact ⟨rfl, rfl, { Step.refl catalog with
      containers := .modify fun _ => rfl
      containerParents := .add hchild (mem_of_concat fun _ => rfl) ⟨hchild, horder, hkind⟩
      deviceRoster := enrollsDevices_of_same rfl (.modify fun _ => rfl) .refl .refl }⟩
  | device container name =>
    obtain ⟨id, hmade, rfl⟩ := answer_of_introduced_eq_ok haccepted
    obtain ⟨rfl, hcontainer, hfresh, rfl⟩ := declareDevice_eq_ok hmade
    exact ⟨rfl, rfl, { Step.refl catalog with
      containers := .modify fun _ => rfl
      containerParents := .modify fun _ => rfl
      devices := .append hcontainer
      deviceParents := .append rfl
      links := .append rfl
      deviceRoster := .append (list_getD_modify Container.devices hcontainer fun _ => rfl)
        (name_ne_of_find? hfresh)
      attachmentRoster := enrollsAttachments_of_same rfl (.append rfl) .refl .refl .refl }⟩
  | extendDevice child parent =>
    obtain ⟨hchanged, rfl⟩ := answer_of_changed_eq_ok haccepted
    obtain ⟨hchild, horder, hkind, rfl⟩ := extendDevice_eq_ok hchanged
    exact ⟨rfl, rfl, { Step.refl catalog with
      devices := .modify fun _ => rfl
      deviceParents := .add hchild (mem_of_concat fun _ => rfl) ⟨hchild, horder, hkind⟩
      links := .modify fun _ => rfl
      deviceRoster := enrollsDevices_of_same (List.length_modify ..) .refl (.modify fun _ => rfl)
        (.modify fun _ => rfl)
      attachmentRoster :=
        enrollsAttachments_of_same rfl (.modify fun _ => rfl) .refl .refl .refl }⟩
  | capability name =>
    obtain ⟨id, hmade, rfl⟩ := answer_of_introduced_eq_ok haccepted
    obtain ⟨rfl, hfresh, rfl⟩ := declareCapability_eq_ok hmade
    exact ⟨rfl, rfl, { Step.refl catalog with
      capabilities := .append (notMem_map_of_find?_ids rfl hfresh)
      capabilityParents := .append rfl
      methods := addsVariant_of_same (.append rfl)
      logicalDeviceRoster := enrollsLogicalDevices_of_same rfl (.append rfl) .refl .refl }⟩
  | extendCapability child parent =>
    obtain ⟨hchanged, rfl⟩ := answer_of_changed_eq_ok haccepted
    obtain ⟨hchild, horder, rfl⟩ := extendCapability_eq_ok hchanged
    exact ⟨rfl, rfl, { Step.refl catalog with
      capabilities := .modify fun _ => rfl
      capabilityParents := .add hchild (mem_of_concat fun _ => rfl) horder
      methods := addsVariant_of_same (.modify fun _ => rfl)
      logicalDeviceRoster :=
        enrollsLogicalDevices_of_same rfl (.modify fun _ => rfl) .refl .refl }⟩
  | logicalDevice capability name =>
    obtain ⟨id, hmade, rfl⟩ := answer_of_introduced_eq_ok haccepted
    obtain ⟨rfl, hcapability, hfresh, rfl⟩ := declareLogicalDevice_eq_ok hmade
    exact ⟨rfl, rfl, { Step.refl catalog with
      capabilities := .modify fun _ => rfl
      capabilityParents := .modify fun _ => rfl
      methods := addsVariant_of_same (.modify fun _ => rfl)
      logicalDevices := .append hcapability
      logicalDeviceParents := .append rfl
      logicalDeviceRoster :=
        .append (list_getD_modify Capability.logicalDevices hcapability fun _ => rfl)
          (name_ne_of_find? hfresh)
      attachmentRoster := enrollsAttachments_of_same rfl .refl (.append rfl) .refl .refl }⟩
  | extendLogicalDevice child parent =>
    obtain ⟨hchanged, rfl⟩ := answer_of_changed_eq_ok haccepted
    obtain ⟨hchild, horder, rfl⟩ := extendLogicalDevice_eq_ok hchanged
    exact ⟨rfl, rfl, { Step.refl catalog with
      logicalDevices := .modify fun _ => rfl
      logicalDeviceParents := .add hchild (mem_of_concat fun _ => rfl) horder
      logicalDeviceRoster := enrollsLogicalDevices_of_same (List.length_modify ..) .refl
        (.modify fun _ => rfl) (.modify fun _ => rfl)
      attachmentRoster :=
        enrollsAttachments_of_same rfl .refl (.modify fun _ => rfl) .refl .refl }⟩
  | require logicalDevice connection =>
    obtain ⟨hchanged, rfl⟩ := answer_of_changed_eq_ok haccepted
    obtain ⟨-, rfl⟩ := require_eq_ok hchanged
    exact ⟨rfl, rfl, { Step.refl catalog with
      logicalDevices := .modify fun _ => rfl
      logicalDeviceParents := .modify fun _ => rfl
      logicalDeviceRoster := enrollsLogicalDevices_of_same (List.length_modify ..) .refl
        (.modify fun _ => rfl) (.modify fun _ => rfl)
      attachmentRoster :=
        enrollsAttachments_of_same rfl .refl (.modify fun _ => rfl) .refl .refl }⟩
  | variant capability method label conditions =>
    obtain ⟨hchanged, rfl⟩ := answer_of_changed_eq_ok haccepted
    obtain ⟨hcapability, hfresh, rfl⟩ := declareVariant_eq_ok hchanged
    exact ⟨rfl, rfl, { Step.refl catalog with
      capabilities := .modify fun _ => rfl
      capabilityParents := .modify fun _ => rfl
      methods := addsVariant_of_variant hcapability hfresh
      logicalDeviceRoster :=
        enrollsLogicalDevices_of_same rfl (.modify fun _ => rfl) .refl .refl }⟩
  | attach owner attr capability =>
    obtain ⟨id, hmade, rfl⟩ := answer_of_introduced_eq_ok haccepted
    obtain ⟨rfl, hcapability, hknown, hfresh, rfl⟩ := attach_eq_ok hmade
    have howner := knows_of_knownOwner hknown
    have hattachments := enrollsAttachments_of_attach howner hfresh capability
    cases owner with
    | device device =>
      exact ⟨rfl, rfl, { Step.refl catalog with
        devices := .modify fun _ => rfl
        deviceParents := .modify fun _ => rfl
        links := .modify fun _ => rfl
        deviceRoster := enrollsDevices_of_same (List.length_modify ..) .refl
          (.modify fun _ => rfl) (.modify fun _ => rfl)
        attachments := .append ⟨howner, hcapability⟩
        attachmentRoster := hattachments
        bindings := .append rfl }⟩
    | logicalDevice logicalDevice =>
      exact ⟨rfl, rfl, { Step.refl catalog with
        logicalDevices := .modify fun _ => rfl
        logicalDeviceParents := .modify fun _ => rfl
        logicalDeviceRoster := enrollsLogicalDevices_of_same (List.length_modify ..) .refl
          (.modify fun _ => rfl) (.modify fun _ => rfl)
        attachments := .append ⟨howner, hcapability⟩
        attachmentRoster := hattachments
        bindings := .append rfl }⟩
  | bind attachment logicalDevice target =>
    obtain ⟨hchanged, rfl⟩ := answer_of_changed_eq_ok haccepted
    obtain ⟨hattachment, htarget, hcarrier, rfl⟩ := bind_eq_ok hchanged
    exact ⟨rfl, rfl, { Step.refl catalog with
      attachments := .modify fun _ => rfl
      attachmentRoster := enrollsAttachments_of_same (List.length_modify ..) .refl .refl
        (.modify fun _ => rfl) (.modify fun _ => rfl)
      bindings := .add hattachment (fun _ _ hbinding => Or.inr (by simpa using hbinding))
        ⟨hattachment, htarget, hcarrier⟩ }⟩
  | connect source target connection oneWay =>
    obtain ⟨hchanged, rfl⟩ := answer_of_changed_eq_ok haccepted
    obtain ⟨hsource, htarget, hne, howner, hnode, hnode', rfl⟩ := connect_eq_ok hchanged
    have hlink : catalog.MayLink source.device
        ⟨source.node, target.device, target.node, connection, oneWay⟩ :=
      ⟨hne.symm, htarget, howner.symm, by simpa using hnode, by simpa using hnode'⟩
    exact ⟨rfl, rfl, { Step.refl catalog with
      devices := .modify fun _ => rfl
      deviceParents := .modify fun _ => rfl
      links := .add hsource (mem_of_concat fun _ => rfl) ⟨hsource, hlink⟩
      deviceRoster := enrollsDevices_of_same (List.length_modify ..) .refl (.modify fun _ => rfl)
        (.modify fun _ => rfl)
      attachmentRoster :=
        enrollsAttachments_of_same rfl (.modify fun _ => rfl) .refl .refl .refl }⟩

end LabMatch.Catalog
