import LabMatch.Proofs.Catalog.Members

/-!
# Invariants of steps

Owners were declared, names are told apart, parents are of the same kind, and bindings
stay within their container.  Every step keeps all of this: what was there before keeps
what it was declared with, and what is new passed the checks of its declaration.
-/

namespace LabMatch.Catalog

/-! ## What stays -/

section Stays

variable {Entity Fixed Name : Type} {entities next : List Entity} {fixed : Entity → Fixed}
  {New : Fixed → Prop}

/-- What holds of everything declared and of what is new holds after the step. -/
theorem Adds.forall_mem (hadds : Adds fixed New entities next) (Holds : Fixed → Prop)
    (hold : ∀ entity ∈ entities, Holds (fixed entity)) (hnew : ∀ made, New made → Holds made) :
    ∀ entity ∈ next, Holds (fixed entity) := by
  rw [← List.forall_mem_map] at hold ⊢
  rcases hadds with hsame | ⟨made, hmade, hnext⟩
  · rwa [hsame]
  · rw [hnext, List.forall_mem_append, List.forall_mem_singleton]
    exact ⟨hold, hnew made hmade⟩

/-- A new name is added to different names. -/
theorem Adds.nodup_names {part : Fixed → Name} (hadds : Adds fixed New entities next)
    (hfresh : ∀ made, New made → part made ∉ entities.map fun entity => part (fixed entity))
    (hnodup : (entities.map fun entity => part (fixed entity)).Nodup) :
    (next.map fun entity => part (fixed entity)).Nodup := by
  have hnames : ∀ entities : List Entity,
      entities.map (fun entity => part (fixed entity)) = (entities.map fixed).map part :=
    fun entities => (List.map_map ..).symm
  rcases hadds with hsame | ⟨made, hnew, hmade⟩
  · rwa [hnames, hsame, ← hnames]
  · rw [hnames, hmade, List.map_append, ← hnames, List.map_singleton]
    apply hnodup.append (List.nodup_singleton _)
    rw [List.disjoint_singleton]
    exact hfresh made hnew

theorem getD_mem [Inhabited Entity] {position : Nat} (hposition : position < entities.length) :
    entities[position]?.getD default ∈ entities := by
  rw [List.getElem?_eq_getElem hposition]
  exact List.getElem_mem hposition

end Stays

variable {catalog next : Catalog}

section Step

variable (hstep : Step catalog next)

include hstep

theorem Step.kind_eq {id : ContainerId} (hid : id.index < catalog.containers.length) :
    (next.container id).kind = (catalog.container id).kind :=
  congrArg Prod.snd (hstep.containers.fixed_getD hid)

theorem Step.attachment_owner_eq {id : AttachmentId}
    (hid : id.index < catalog.attachments.length) :
    (next.attachment id).owner = (catalog.attachment id).owner :=
  congrArg (fun fixed => fixed.2.1) (hstep.attachments.fixed_getD hid)

theorem Step.knows {owner : Owner} (hknown : catalog.Knows owner) : next.Knows owner := by
  cases owner with
  | device id => exact Nat.lt_of_lt_of_le hknown hstep.devices.length_le
  | logicalDevice id => exact Nat.lt_of_lt_of_le hknown hstep.logicalDevices.length_le

end Step

/-! ## The invariant -/

/-- Methods have different names, and the variants of each of them different labels. -/
structure MethodsApart (methods : List Method) : Prop where
  names : (methods.map Method.name).Nodup
  labels : ∀ method ∈ methods, (method.variants.map Variant.label).Nodup

structure Consistent (catalog : Catalog) : Prop where
  containerNames : (catalog.containers.map Container.name).Nodup
  capabilityNames : (catalog.capabilities.map Capability.name).Nodup
  deviceOwner : ∀ device ∈ catalog.devices, device.owner.index < catalog.containers.length
  logicalDeviceOwner : ∀ logicalDevice ∈ catalog.logicalDevices,
    logicalDevice.owner.index < catalog.capabilities.length
  attachmentOwner : ∀ attachment ∈ catalog.attachments, catalog.Knows attachment.owner
  attachmentCapability : ∀ attachment ∈ catalog.attachments,
    attachment.capability.index < catalog.capabilities.length
  containerKinds : ∀ child, ∀ parent ∈ (catalog.container child).parents,
    (catalog.container child).kind = (catalog.container parent).kind
  deviceKinds : ∀ child, ∀ parent ∈ (catalog.device child).parents,
    catalog.kindOfDevice child = catalog.kindOfDevice parent
  bindings : ∀ attachment, ∀ binding ∈ (catalog.attachment attachment).binding,
    catalog.MayBind attachment binding.target
  methods : ∀ capability, MethodsApart (catalog.capability capability).methods

theorem Consistent.deviceOwner_step (hconsistent : Consistent catalog) (hstep : Step catalog next) :
    ∀ device ∈ next.devices, device.owner.index < next.containers.length := by
  apply hstep.devices.forall_mem fun made => made.2.index < next.containers.length
  · intro device hdevice
    exact Nat.lt_of_lt_of_le (hconsistent.deviceOwner device hdevice) hstep.containers.length_le
  · intro made hnew
    exact Nat.lt_of_lt_of_le hnew hstep.containers.length_le

theorem Consistent.logicalDeviceOwner_step (hconsistent : Consistent catalog)
    (hstep : Step catalog next) :
    ∀ logicalDevice ∈ next.logicalDevices,
      logicalDevice.owner.index < next.capabilities.length := by
  apply hstep.logicalDevices.forall_mem fun made => made.2.index < next.capabilities.length
  · intro logicalDevice hlogicalDevice
    exact Nat.lt_of_lt_of_le (hconsistent.logicalDeviceOwner logicalDevice hlogicalDevice)
      hstep.capabilities.length_le
  · intro made hnew
    exact Nat.lt_of_lt_of_le hnew hstep.capabilities.length_le

theorem Consistent.attachmentOwner_step (hconsistent : Consistent catalog)
    (hstep : Step catalog next) :
    ∀ attachment ∈ next.attachments, next.Knows attachment.owner := by
  apply hstep.attachments.forall_mem fun made => next.Knows made.2.1
  · intro attachment hattachment
    exact hstep.knows (hconsistent.attachmentOwner attachment hattachment)
  · intro made hnew
    exact hstep.knows hnew.1

theorem Consistent.attachmentCapability_step (hconsistent : Consistent catalog)
    (hstep : Step catalog next) :
    ∀ attachment ∈ next.attachments,
      attachment.capability.index < next.capabilities.length := by
  apply hstep.attachments.forall_mem fun made => made.2.2.index < next.capabilities.length
  · intro attachment hattachment
    exact Nat.lt_of_lt_of_le (hconsistent.attachmentCapability attachment hattachment)
      hstep.capabilities.length_le
  · intro made hnew
    exact Nat.lt_of_lt_of_le hnew.2 hstep.capabilities.length_le

/-- A container still has the kind of its parents after a step. -/
theorem Consistent.containerKinds_step (hconsistent : Consistent catalog)
    (hregistered : Registered catalog) (hstep : Step catalog next) (child parent : ContainerId)
    (hparent : parent ∈ (next.container child).parents) :
    (next.container child).kind = (next.container parent).kind := by
  have hearlier : child.index < catalog.containers.length ∧ parent.index < child.index ∧
      (catalog.container child).kind = (catalog.container parent).kind := by
    cases hstep.containerParents child.index parent hparent with
    | inl hold =>
      exact ⟨lt_length_of_mem rfl hold, hregistered.containers child parent hold,
        hconsistent.containerKinds child parent hold⟩
    | inr hnew => exact hnew
  obtain ⟨hchild, horder, hkind⟩ := hearlier
  rw [hstep.kind_eq hchild, hstep.kind_eq (Nat.lt_trans horder hchild), hkind]

theorem Consistent.kindOfDevice_eq (hconsistent : Consistent catalog) (hstep : Step catalog next)
    {id : DeviceId} (hid : id.index < catalog.devices.length) :
    next.kindOfDevice id = catalog.kindOfDevice id := by
  rw [kindOfDevice, kindOfDevice, hstep.device_owner_eq hid,
    hstep.kind_eq (hconsistent.deviceOwner (catalog.device id) (getD_mem hid))]

theorem Consistent.deviceKinds_step (hconsistent : Consistent catalog)
    (hregistered : Registered catalog) (hstep : Step catalog next) (child parent : DeviceId)
    (hparent : parent ∈ (next.device child).parents) :
    next.kindOfDevice child = next.kindOfDevice parent := by
  have hearlier : child.index < catalog.devices.length ∧ parent.index < child.index ∧
      catalog.kindOfDevice child = catalog.kindOfDevice parent := by
    cases hstep.deviceParents child.index parent hparent with
    | inl hold =>
      exact ⟨lt_length_of_mem rfl hold, hregistered.devices child parent hold,
        hconsistent.deviceKinds child parent hold⟩
    | inr hnew => exact hnew
  obtain ⟨hchild, horder, hkind⟩ := hearlier
  rw [hconsistent.kindOfDevice_eq hstep hchild,
    hconsistent.kindOfDevice_eq hstep (Nat.lt_trans horder hchild), hkind]

/-- Bindings still lead from a device to another one of its container after a step. -/
theorem Consistent.bindings_step (hconsistent : Consistent catalog) (hstep : Step catalog next)
    (attachment : AttachmentId) (binding : Binding)
    (hbinding : binding ∈ (next.attachment attachment).binding) :
    next.MayBind attachment binding.target := by
  have hearlier : attachment.index < catalog.attachments.length ∧
      catalog.MayBind attachment binding.target := by
    cases hstep.bindings attachment.index binding (Option.mem_toList.mpr hbinding) with
    | inl hold =>
      have hattachment : attachment.index < catalog.attachments.length :=
        @lt_length_of_mem _ _ _ _ (fun attachment => attachment.binding.toList) rfl _ _ hold
      exact ⟨hattachment, hconsistent.bindings attachment binding (Option.mem_toList.mp hold)⟩
    | inr hnew => exact hnew
  obtain ⟨hattachment, htarget, carrier, howner, hne, hsame⟩ := hearlier
  have hcarrier : carrier.index < catalog.devices.length := by
    have hknown :=
      hconsistent.attachmentOwner (catalog.attachment attachment) (getD_mem hattachment)
    rwa [howner] at hknown
  refine ⟨Nat.lt_of_lt_of_le htarget hstep.devices.length_le, carrier, ?_, hne, ?_⟩
  · rw [hstep.attachment_owner_eq hattachment, howner]
  · rw [hstep.device_owner_eq hcarrier, hstep.device_owner_eq htarget, hsame]

/-- A method gets its first variant at the end, or one more in its place. -/
theorem names_addVariant (method : String) (variant : Variant) (methods : List Method) :
    (addVariant method variant methods).map Method.name =
      if method ∈ methods.map Method.name then methods.map Method.name
      else methods.map Method.name ++ [method] := by
  induction methods with
  | nil => rfl
  | cons first others ih =>
    rw [addVariant]
    by_cases hfirst : first.name = method
    · simp [hfirst]
    · rw [if_neg hfirst, List.map_cons, ih, List.map_cons]
      simp only [List.mem_cons, or_iff_right (Ne.symm hfirst)]
      split_ifs
      · rfl
      · rfl

theorem mem_addVariant {method : String} {variant : Variant} {methods : List Method}
    {entry : Method} (hentry : entry ∈ addVariant method variant methods) :
    entry ∈ methods ∨ entry = ⟨method, [variant]⟩ ∨
      ∃ found, (methods.find? fun candidate => candidate.name == method) = some found ∧
        entry = { found with variants := found.variants ++ [variant] } := by
  induction methods with
  | nil => exact Or.inr (Or.inl (List.mem_singleton.mp hentry))
  | cons first others ih =>
    rw [addVariant] at hentry
    by_cases hfirst : first.name = method
    · rw [if_pos hfirst, List.mem_cons] at hentry
      rcases hentry with hchanged | hother
      · exact Or.inr (Or.inr ⟨first, List.find?_cons_of_pos (by simpa using hfirst), hchanged⟩)
      · exact Or.inl (List.mem_cons_of_mem first hother)
    · rw [if_neg hfirst, List.mem_cons] at hentry
      rw [List.find?_cons_of_neg (by simpa using hfirst)]
      rcases hentry with rfl | hother
      · exact Or.inl List.mem_cons_self
      · exact (ih hother).imp_left (List.mem_cons_of_mem first)

theorem MethodsApart.addVariant {capability : Capability} (hapart : MethodsApart capability.methods)
    {method label : String} {conditions : List Condition}
    (hfresh : ((capability.variantsOf method).any fun variant => variant.label == label) = false) :
    MethodsApart (addVariant method ⟨label, conditions⟩ capability.methods) := by
  constructor
  · rw [names_addVariant]
    split_ifs with hknown
    · exact hapart.names
    · exact hapart.names.append (List.nodup_singleton _) (List.disjoint_singleton.mpr hknown)
  · intro entry hentry
    rcases mem_addVariant hentry with hold | rfl | ⟨found, hfound, rfl⟩
    · exact hapart.labels entry hold
    · exact List.nodup_singleton _
    · rw [Capability.variantsOf, hfound, List.any_eq_false] at hfresh
      rw [List.map_append]
      apply (hapart.labels found (List.mem_of_find?_eq_some hfound)).append (List.nodup_singleton _)
      apply List.disjoint_singleton.mpr
      intro htaken
      obtain ⟨variant, hvariant, hlabel⟩ := List.mem_map.mp htaken
      exact hfresh variant hvariant (by simpa using hlabel)

/-- The invariant is kept by every step. -/
theorem Consistent.step (hconsistent : Consistent catalog) (hregistered : Registered catalog)
    (hstep : Step catalog next) : Consistent next where
  containerNames := hstep.containers.nodup_names (fun _ hnew => hnew) hconsistent.containerNames
  capabilityNames := hstep.capabilities.nodup_names (fun _ hnew => hnew) hconsistent.capabilityNames
  deviceOwner := hconsistent.deviceOwner_step hstep
  logicalDeviceOwner := hconsistent.logicalDeviceOwner_step hstep
  attachmentOwner := hconsistent.attachmentOwner_step hstep
  attachmentCapability := hconsistent.attachmentCapability_step hstep
  containerKinds := hconsistent.containerKinds_step hregistered hstep
  deviceKinds := hconsistent.deviceKinds_step hregistered hstep
  bindings := hconsistent.bindings_step hstep
  methods capability := by
    rcases hstep.methods capability with hsame | ⟨method, label, conditions, hfresh, hadded⟩
    · exact hsame ▸ hconsistent.methods capability
    · exact hadded ▸ (hconsistent.methods capability).addVariant hfresh

theorem consistent_empty : Consistent Catalog.empty where
  containerNames := List.nodup_nil
  capabilityNames := List.nodup_nil
  deviceOwner _ hdevice := by cases hdevice
  logicalDeviceOwner _ hlogicalDevice := by cases hlogicalDevice
  attachmentOwner _ hattachment := by cases hattachment
  attachmentCapability _ hattachment := by cases hattachment
  containerKinds _ _ hparent := by cases hparent
  deviceKinds _ _ hparent := by cases hparent
  bindings _ _ hbinding := by cases hbinding
  methods _ := ⟨List.nodup_nil, fun _ hmethod => by cases hmethod⟩

/-- Every catalogue that can be declared is consistent. -/
theorem Declared.consistent (hdeclared : Declared catalog) : Consistent catalog := by
  induction hdeclared with
  | empty => exact consistent_empty
  | declare hdeclared haccepted ih =>
    exact ih.step hdeclared.registered (enacted_of_declare haccepted).step

end LabMatch.Catalog
