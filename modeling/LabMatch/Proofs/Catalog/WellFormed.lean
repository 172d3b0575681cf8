import LabMatch.Proofs.Catalog.Consistent
import LabMatch.Proofs.Catalog.Hierarchy

/-!
# Well-formed catalogues

Declarations are tried one after the other, and refused ones are passed over.  Whatever
is tried, the catalogue stays well formed: every identifier in it leads to an entity,
parents come first and are of the same kind, owners list their members, names are unique
in their scope, links and bindings stay within a container.

A complete catalogue is one whose references by name lead somewhere as well.
-/

namespace LabMatch

namespace Catalog

variable {family : Family} {catalog next : Catalog}

/-! ## Well-formedness -/

/-- The identifier is stored in some entity of the catalogue. -/
inductive Stores (catalog : Catalog) : {family : Family} → Id family → Prop
  | parent {family : Family} {child parent : Id family}
      (hparent : catalog.IsParent child parent) : Stores catalog parent
  | device {container : ContainerId} {device : DeviceId}
      (hlisted : device ∈ (catalog.container container).devices) : Stores catalog device
  | logicalDevice {capability : CapabilityId} {logicalDevice : LogicalDeviceId}
      (hlisted : logicalDevice ∈ (catalog.capability capability).logicalDevices) :
      Stores catalog logicalDevice
  | attachment {owner : Owner} {attachment : AttachmentId}
      (hlisted : attachment ∈ catalog.attachmentsOf owner) : Stores catalog attachment
  | ownerOfDevice {device : Device} (hdevice : device ∈ catalog.devices) :
      Stores catalog device.owner
  | ownerOfLogicalDevice {logicalDevice : LogicalDevice}
      (hlogicalDevice : logicalDevice ∈ catalog.logicalDevices) :
      Stores catalog logicalDevice.owner
  | carrier {attachment : Attachment} {device : DeviceId}
      (hattachment : attachment ∈ catalog.attachments)
      (howner : attachment.owner = .device device) : Stores catalog device
  | placeholder {attachment : Attachment} {logicalDevice : LogicalDeviceId}
      (hattachment : attachment ∈ catalog.attachments)
      (howner : attachment.owner = .logicalDevice logicalDevice) : Stores catalog logicalDevice
  | capability {attachment : Attachment} (hattachment : attachment ∈ catalog.attachments) :
      Stores catalog attachment.capability
  | target {attachment : AttachmentId} {binding : Binding}
      (hbinding : binding ∈ (catalog.attachment attachment).binding) :
      Stores catalog binding.target
  | peer {device : DeviceId} {link : DeclaredLink} (hlink : link ∈ (catalog.device device).links) :
      Stores catalog link.peer

/-- What holds of a catalogue at any time.  Listings are compared with owners by counting:
the owner lists a member once, and nothing else lists it. -/
structure WellFormed (catalog : Catalog) : Prop where
  inRange : ∀ {family : Family} (id : Id family), catalog.Stores id →
    id.index < catalog.count family
  parentsFirst : ∀ {family : Family} (child parent : Id family),
    catalog.IsParent child parent → parent < child
  containerKinds : ∀ child parent : ContainerId, catalog.IsParent child parent →
    (catalog.container child).kind = (catalog.container parent).kind
  deviceKinds : ∀ child parent : DeviceId, catalog.IsParent child parent →
    catalog.kindOfDevice child = catalog.kindOfDevice parent
  devicesListed : ∀ container device,
    (catalog.container container).devices.count device =
      if device.index < catalog.count .device ∧ (catalog.device device).owner = container
      then 1 else 0
  logicalDevicesListed : ∀ capability logicalDevice,
    (catalog.capability capability).logicalDevices.count logicalDevice =
      if logicalDevice.index < catalog.count .logicalDevice ∧
        (catalog.logicalDevice logicalDevice).owner = capability then 1 else 0
  attachmentsListed : ∀ owner attachment,
    (catalog.attachmentsOf owner).count attachment =
      if attachment.index < catalog.count .attachment ∧
        (catalog.attachment attachment).owner = owner then 1 else 0
  containerNames : (catalog.containers.map Container.name).Nodup
  capabilityNames : (catalog.capabilities.map Capability.name).Nodup
  deviceNames : ∀ container,
    ((catalog.container container).devices.map fun id => (catalog.device id).name).Nodup
  logicalDeviceNames : ∀ capability,
    ((catalog.capability capability).logicalDevices.map fun id =>
      (catalog.logicalDevice id).name).Nodup
  attrs : ∀ owner, ((catalog.attachmentsOf owner).map fun id => (catalog.attachment id).attr).Nodup
  methodNames : ∀ capability, ((catalog.capability capability).methods.map Method.name).Nodup
  variantLabels : ∀ capability, ∀ method ∈ (catalog.capability capability).methods,
    (method.variants.map Variant.label).Nodup
  links : ∀ device, ∀ link ∈ (catalog.device device).links,
    link.peer ≠ device ∧ (catalog.device link.peer).owner = (catalog.device device).owner ∧
      link.node ≠ "" ∧ link.peerNode ≠ ""
  bindings : ∀ attachment, ∀ binding ∈ (catalog.attachment attachment).binding,
    ∃ carrier, (catalog.attachment attachment).owner = .device carrier ∧
      carrier ≠ binding.target ∧
      (catalog.device carrier).owner = (catalog.device binding.target).owner

/-- Identifiers that are stored were handed out. -/
theorem Declared.lt_count_of_stores (hdeclared : Declared catalog) {id : Id family}
    (hstores : catalog.Stores id) : id.index < catalog.count family := by
  have hregistered := hdeclared.registered
  have hconsistent := hdeclared.consistent
  cases hstores with
  | parent hparent => exact Nat.lt_trans (hregistered.parent_lt hparent) hparent.lt_count
  | device hlisted => exact (hregistered.deviceRoster.mem_iff.mp hlisted).1
  | logicalDevice hlisted => exact (hregistered.logicalDeviceRoster.mem_iff.mp hlisted).1
  | attachment hlisted => exact (hregistered.attachmentRoster.mem_iff.mp hlisted).1
  | ownerOfDevice hdevice => exact hconsistent.deviceOwner _ hdevice
  | ownerOfLogicalDevice hlogicalDevice => exact hconsistent.logicalDeviceOwner _ hlogicalDevice
  | carrier hattachment howner =>
    have hknown := hconsistent.attachmentOwner _ hattachment
    rwa [howner] at hknown
  | placeholder hattachment howner =>
    have hknown := hconsistent.attachmentOwner _ hattachment
    rwa [howner] at hknown
  | capability hattachment => exact hconsistent.attachmentCapability _ hattachment
  | target hbinding => exact (hconsistent.bindings _ _ hbinding).1
  | peer hlink => exact (hregistered.links _ _ hlink).peer_known

/-- Every catalogue that can be declared is well-formed. -/
theorem Declared.wellFormed (hdeclared : Declared catalog) : WellFormed catalog where
  inRange _ := hdeclared.lt_count_of_stores
  parentsFirst _ _ hparent := hdeclared.registered.parent_lt hparent
  containerKinds := hdeclared.consistent.containerKinds
  deviceKinds := hdeclared.consistent.deviceKinds
  devicesListed := hdeclared.registered.deviceRoster.count_eq
  logicalDevicesListed := hdeclared.registered.logicalDeviceRoster.count_eq
  attachmentsListed := hdeclared.registered.attachmentRoster.count_eq
  containerNames := hdeclared.consistent.containerNames
  capabilityNames := hdeclared.consistent.capabilityNames
  deviceNames := hdeclared.registered.deviceRoster.names
  logicalDeviceNames := hdeclared.registered.logicalDeviceRoster.names
  attrs := hdeclared.registered.attachmentRoster.names
  methodNames capability := (hdeclared.consistent.methods capability).names
  variantLabels capability := (hdeclared.consistent.methods capability).labels
  links device link hlink := by
    have hmay := hdeclared.registered.links device link hlink
    exact ⟨hmay.peer_ne, hmay.owner_eq, hmay.node_ne, hmay.peerNode_ne⟩
  bindings attachment binding hbinding :=
    (hdeclared.consistent.bindings attachment binding hbinding).2

/-! ## Answers -/

/-- The family, if any, gets one more entity, and the answer is its position. -/
structure Introduces (catalog next : Catalog) (introduced : Option Family) (answer : Option Nat) :
    Prop where
  answer : answer = introduced.map catalog.count
  count : ∀ family,
    next.count family = catalog.count family + if introduced = some family then 1 else 0

/-- The identifier that is handed out is the position of the new entity. -/
theorem introduces_of_declare {declaration : Declaration} {answer : Option Nat}
    (haccepted : catalog.declare declaration = .ok (answer, next)) :
    Introduces catalog next declaration.introduces answer := by
  have henacted := enacted_of_declare haccepted
  exact ⟨henacted.answer, fun family => by rw [henacted.result, declaration.count_result]⟩

/-! ## Names of logical devices -/

/-- The capability type, or a type on the chain of its first parents, declares a logical
device of that name. -/
def Provides (catalog : Catalog) (capability : CapabilityId) (name : String) : Prop :=
  ∃ ancestor, Relation.ReflTransGen catalog.IsFirstParent capability ancestor ∧
    ∃ logicalDevice ∈ (catalog.capability ancestor).logicalDevices,
      (catalog.logicalDevice logicalDevice).name = name

/-- The logical devices that bindings and variant conditions refer to are declared. -/
structure NamesResolve (catalog : Catalog) : Prop where
  bindings : ∀ attachment ∈ catalog.attachments, ∀ binding ∈ attachment.binding,
    catalog.Provides attachment.capability binding.logicalDevice
  conditions : ∀ capability ∈ catalog.ids .capability,
    ∀ method ∈ (catalog.capability capability).methods, ∀ variant ∈ method.variants,
      ∀ condition ∈ variant.conditions, catalog.Provides capability condition.logicalDevice

/-- A logical device is found exactly if a type on the chain of first parents declares it. -/
theorem Registered.hasLogicalDevice_iff (hregistered : Registered catalog)
    {capability : CapabilityId} {name : String} :
    catalog.hasLogicalDevice capability name ↔ catalog.Provides capability name := by
  simp only [hasLogicalDevice, logicalDeviceNamed?, List.any_eq_true, List.find?_isSome,
    beq_iff_eq, hregistered.mem_ancestry_iff, Provides]

/-- All references resolve exactly if those of bindings and those of conditions do. -/
theorem forall_referredLogicalDevices_iff {Resolves : CapabilityId → String → Prop} :
    (∀ reference ∈ catalog.referredLogicalDevices, Resolves reference.1 reference.2) ↔
      (∀ attachment ∈ catalog.attachments, ∀ binding ∈ attachment.binding,
        Resolves attachment.capability binding.logicalDevice) ∧
      ∀ capability ∈ catalog.ids .capability,
        ∀ method ∈ (catalog.capability capability).methods, ∀ variant ∈ method.variants,
          ∀ condition ∈ variant.conditions, Resolves capability condition.logicalDevice := by
  simp only [referredLogicalDevices, List.forall_mem_append, List.forall_mem_flatMap,
    List.forall_mem_map]
  apply and_congr_left'
  constructor
  · intro hall attachment hattachment binding hbinding
    apply hall (attachment.capability, binding.logicalDevice)
    rw [List.mem_filterMap]
    exact ⟨attachment, hattachment, Option.map_eq_some_iff.mpr ⟨binding, hbinding, rfl⟩⟩
  · intro hall reference hreference
    obtain ⟨attachment, hattachment, hreference⟩ := List.mem_filterMap.mp hreference
    obtain ⟨binding, hbinding, rfl⟩ := Option.map_eq_some_iff.mp hreference
    exact hall attachment hattachment binding hbinding

/-- A catalogue is complete if its names resolve, and completing it changes nothing. -/
theorem Registered.complete_eq_ok_iff (hregistered : Registered catalog) {built : Catalog} :
    catalog.complete = .ok built ↔ built = catalog ∧ NamesResolve catalog := by
  have hresolve : NamesResolve catalog ↔ ∀ reference ∈ catalog.referredLogicalDevices,
      catalog.hasLogicalDevice reference.1 reference.2 := by
    simp only [hregistered.hasLogicalDevice_iff, forall_referredLogicalDevices_iff]
    exact ⟨fun hnames => ⟨hnames.bindings, hnames.conditions⟩, fun hall => ⟨hall.1, hall.2⟩⟩
  constructor
  · intro hcomplete
    obtain ⟨hsame, hall⟩ := complete_eq_ok hcomplete
    exact ⟨hsame, hresolve.mpr hall⟩
  · intro hbuilt
    obtain ⟨rfl, hnames⟩ := hbuilt
    have hnone : (built.referredLogicalDevices.find? fun reference =>
        !built.hasLogicalDevice reference.1 reference.2) = none := by
      rw [List.find?_eq_none]
      simpa using hresolve.mp hnames
    rw [complete, hnone]

/-! ## Tried declarations -/

/-- The catalogue after a declaration was tried; a refused one leaves it as it was. -/
def attempt (catalog : Catalog) (declaration : Declaration) : Catalog :=
  match catalog.declare declaration with
  | .ok (_, next) => next
  | .error _ => catalog

def afterTrying (declarations : List Declaration) : Catalog :=
  declarations.foldl attempt empty

theorem attempt_of_error {declaration : Declaration} {reason : DeclarationError}
    (hrefused : catalog.declare declaration = .error reason) :
    catalog.attempt declaration = catalog := by
  rw [attempt, hrefused]

theorem attempt_of_ok {declaration : Declaration} {answer : Option Nat}
    (haccepted : catalog.declare declaration = .ok (answer, next)) :
    catalog.attempt declaration = next := by
  rw [attempt, haccepted]

theorem afterTrying_concat (declarations : List Declaration) (declaration : Declaration) :
    afterTrying (declarations ++ [declaration]) = (afterTrying declarations).attempt declaration :=
  List.foldl_concat ..

theorem declareAll_concat {declarations : List Declaration} {declaration : Declaration}
    {answer : Option Nat} (hearlier : declareAll declarations = .ok catalog)
    (haccepted : catalog.declare declaration = .ok (answer, next)) :
    declareAll (declarations ++ [declaration]) = .ok next := by
  rw [declareAll] at hearlier ⊢
  rw [List.foldlM_append, hearlier]
  change (Prod.snd <$> catalog.declare declaration) >>= pure = .ok next
  rw [haccepted]
  rfl

/-- The accepted declarations alone lead to the same catalogue. -/
theorem exists_declareAll_eq_afterTrying (declarations : List Declaration) :
    ∃ accepted, accepted.Sublist declarations ∧
      declareAll accepted = .ok (afterTrying declarations) := by
  induction declarations using List.reverseRecOn with
  | nil => exact ⟨[], List.Sublist.refl [], rfl⟩
  | append_singleton declarations declaration ih =>
    obtain ⟨accepted, hsublist, hearlier⟩ := ih
    rw [afterTrying_concat]
    cases houtcome : (afterTrying declarations).declare declaration with
    | error reason =>
      rw [attempt_of_error houtcome]
      exact ⟨accepted, hsublist.trans (List.sublist_append_left ..), hearlier⟩
    | ok made =>
      rw [attempt_of_ok houtcome]
      exact ⟨accepted ++ [declaration], hsublist.append_right _,
        declareAll_concat hearlier houtcome⟩

/-- Whatever was tried, the catalogue could have been declared without any refusals. -/
theorem declared_afterTrying (declarations : List Declaration) :
    Declared (afterTrying declarations) := by
  obtain ⟨accepted, -, haccepted⟩ := exists_declareAll_eq_afterTrying declarations
  exact declared_of_declareAll haccepted

/-- Whatever declarations were tried, the catalogue is well formed.  Another one that is
refused leaves it as it is; one that is accepted adds at most one entity, whose position it
answers.  If the catalogue is found complete, all names in it resolve. -/
theorem wellFormed_afterTrying (declarations : List Declaration) :
    WellFormed (afterTrying declarations) ∧
      (∀ declaration reason,
        (afterTrying declarations).declare declaration = .error reason →
          afterTrying (declarations ++ [declaration]) = afterTrying declarations) ∧
      (∀ declaration answer next,
        (afterTrying declarations).declare declaration = .ok (answer, next) →
          afterTrying (declarations ++ [declaration]) = next ∧
            Introduces (afterTrying declarations) next declaration.introduces answer) ∧
      ∀ built, (afterTrying declarations).complete = .ok built ↔
        built = afterTrying declarations ∧ NamesResolve (afterTrying declarations) := by
  have hdeclared := declared_afterTrying declarations
  refine ⟨hdeclared.wellFormed, ?_, ?_, fun _ => hdeclared.registered.complete_eq_ok_iff⟩
  · intro declaration reason hrefused
    rw [afterTrying_concat, attempt_of_error hrefused]
  · intro declaration answer next haccepted
    exact ⟨(afterTrying_concat ..).trans (attempt_of_ok haccepted), introduces_of_declare haccepted⟩

/-- The declarations of the ping lab are followed by a binding that is refused, which leaves no
trace. -/
theorem wellFormed_afterTrying_pingDeclarations :
    (afterTrying pingDeclarations).count .device = 5 ∧
      afterTrying (pingDeclarations ++ [.bind ⟨0⟩ "peer" ⟨0⟩]) = afterTrying pingDeclarations ∧
      NamesResolve (afterTrying pingDeclarations) := by
  obtain ⟨-, hrefused, -, hcomplete⟩ := wellFormed_afterTrying pingDeclarations
  have hbind : ((afterTrying pingDeclarations).declare (.bind ⟨0⟩ "peer" ⟨0⟩)).isOk = false := by
    decide +kernel
  have hok : (afterTrying pingDeclarations).complete.isOk = true := by decide +kernel
  refine ⟨by decide +kernel, ?_, ?_⟩
  · cases houtcome : (afterTrying pingDeclarations).declare (.bind ⟨0⟩ "peer" ⟨0⟩) with
    | error reason => exact hrefused _ reason houtcome
    | ok made =>
      rw [houtcome] at hbind
      cases hbind
  · obtain ⟨built, hbuilt⟩ := exists_of_isOk hok
    exact ((hcomplete built).mp hbuilt).2

end Catalog

end LabMatch
