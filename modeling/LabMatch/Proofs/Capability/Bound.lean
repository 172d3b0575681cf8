import LabMatch.Proofs.Capability.Requirement
import LabMatch.Proofs.Session.Discipline

/-!
# Bound logical devices are required

A binding names a logical device.  Whether the name is one of the capability type is
only checked for the attachment that declares the binding, which may belong to a
distant ancestor of the bound device.  In a catalogue that keeps the override
discipline the name is still visible on the capability type of the nearest
attachment, and on every subtype of it.
-/

namespace LabMatch

namespace Catalog

variable {catalog : Catalog}

/-- The bindings of a built catalogue name logical devices of their capability types. -/
theorem Built.hasLogicalDevice (hbuilt : Built catalog) {attachment : AttachmentId}
    {binding : Binding} (hbinding : (catalog.attachment attachment).binding = some binding) :
    catalog.hasLogicalDevice (catalog.attachment attachment).capability
      binding.logicalDevice := by
  obtain ⟨declared, -, hcomplete⟩ := hbuilt
  obtain ⟨rfl, hreferences⟩ := complete_eq_ok hcomplete
  apply hreferences ((catalog.attachment attachment).capability, binding.logicalDevice)
  have hknown : catalog.attachment attachment ∈ catalog.attachments := by
    apply (lookup_mem_or_eq_default catalog.attachments attachment.index).resolve_right
    intro hdefault
    rw [Catalog.attachment, hdefault] at hbinding
    cases hbinding
  apply List.mem_append_left
  exact List.mem_filterMap.mpr ⟨catalog.attachment attachment, hknown, by rw [hbinding]; rfl⟩

theorem hasLogicalDevice_iff {capability : CapabilityId} {name : String} :
    catalog.hasLogicalDevice capability name ↔
      ((catalog.visibleLogicalDevices capability).get? name).isSome := by
  rw [hasLogicalDevice, visibleLogicalDevices, isSome_get?_nearest_iff, List.any_eq_true]
  simp [logicalDeviceNamed?]

/-- A declared binding stands on an attachment of the device or of an ancestor. -/
theorem exists_of_declaredBinding? {device : DeviceId} {attr : String} {binding : Binding}
    (hdeclared : catalog.declaredBinding? device attr = some binding) :
    ∃ above ∈ catalog.ancestry device,
      ∃ attachment ∈ (catalog.device above).attachments,
        (catalog.attachment attachment).attr = attr ∧
          (catalog.attachment attachment).binding = some binding := by
  rw [declaredBinding?] at hdeclared
  obtain ⟨above, habove, hfound⟩ := List.exists_of_findSome?_eq_some hdeclared
  obtain ⟨entry, hentry, hbinding⟩ := Option.bind_eq_some_iff.mp hfound
  obtain ⟨attachment, hattachment, rfl⟩ := List.mem_map.mp (List.mem_of_find?_eq_some hentry)
  have hattr : (catalog.attachment attachment).attr = attr := by
    simpa using List.find?_some hentry
  exact ⟨above, habove, attachment, hattachment, hattr, hbinding⟩

/-- A subtype sees the names of all logical devices of its supertypes. -/
theorem VisiblySpecializes.isSome_visibleLogicalDevices (hvisible : VisiblySpecializes catalog)
    {capability ancestor : CapabilityId} {name : String}
    (hpath : Relation.ReflTransGen catalog.IsParent capability ancestor)
    (hname : ((catalog.visibleLogicalDevices ancestor).get? name).isSome) :
    ((catalog.visibleLogicalDevices capability).get? name).isSome := by
  cases Relation.reflTransGen_iff_eq_or_transGen.mp hpath with
  | inl hsame => exact hsame ▸ hname
  | inr hancestor =>
    obtain ⟨inherited, hinherited⟩ := Option.isSome_iff_exists.mp hname
    obtain ⟨nearer, hnearer, -⟩ :=
      hvisible.logicalDevices capability ancestor hancestor name inherited hinherited
    exact Option.isSome_iff_exists.mpr ⟨nearer, hnearer⟩

/-- The name of a declared binding is visible on every subtype of the capability type
that the attribute carries. -/
theorem isSome_visible_of_declaredBinding? (hbuilt : Built catalog)
    (haccepted : catalog.hierarchy = .ok ()) {device : DeviceId} {attr : String}
    {attachment : AttachmentId} {binding : Binding}
    (hattr : (catalog.deviceAttachments device).get? attr = some attachment)
    (hdeclared : catalog.declaredBinding? device attr = some binding) {sub : CapabilityId}
    (hsub : catalog.isSubtype sub (catalog.attachment attachment).capability) :
    ((catalog.visibleLogicalDevices sub).get? binding.logicalDevice).isSome := by
  have hregistered := hbuilt.registered
  have hvisible := visiblySpecializes_of_hierarchy hbuilt haccepted
  obtain ⟨above, habove, declaring, hdeclaring, rfl, hbinding⟩ :=
    exists_of_declaredBinding? hdeclared
  have hinherited : (catalog.deviceAttachments above).get? (catalog.attachment declaring).attr =
      some declaring :=
    (deviceAttributes hbuilt).get?_visible_of_own hdeclaring
  have hsharpens : catalog.isSubtype (catalog.attachment attachment).capability
      (catalog.attachment declaring).capability := by
    cases Relation.reflTransGen_iff_eq_or_transGen.mp (reflTransGen_of_mem_ancestry habove) with
    | inl hsame =>
      rw [← hsame, hinherited] at hattr
      rw [Option.some.inj hattr]
      exact hregistered.isSubtype_refl _
    | inr hancestor =>
      obtain ⟨nearer, hnearer, hrefines⟩ :=
        hvisible.deviceAttributes device above hancestor _ declaring hinherited
      rw [hattr] at hnearer
      exact Option.some.inj hnearer ▸ hrefines
  apply hvisible.isSome_visibleLogicalDevices
  · exact hregistered.isSubtype_iff.mp (hregistered.isSubtype_trans hsub hsharpens)
  · exact hasLogicalDevice_iff.mp (hbuilt.hasLogicalDevice hbinding)

end Catalog

namespace Session

variable {catalog : Catalog}

/-- The keys of what a session resolves are the visible logical devices. -/
theorem isSome_get?_requirementsOf {capability : CapabilityId} {questions : List Question}
    {requirements : Requirements}
    (hresolved : ((requirementsOf catalog capability).run.run
      (afterAsking catalog questions)).1 = .ok requirements) {name : String}
    (hvisible : ((catalog.visibleLogicalDevices capability).get? name).isSome) :
    (requirements.get? name).isSome := by
  rw [run_afterAsking (fun _ => resolves_requirementsOf capability)] at hresolved
  obtain ⟨⟨_, hints⟩, hplain, rfl⟩ := Catalog.exists_of_map_eq_ok hresolved
  exact (Catalog.isSome_get?_requirements_iff hplain).mpr hvisible

/-- A bound logical device is never without a requirement.  If the binding of an
attribute is in effect on a container, then its logical device is visible on every
subtype of the capability type that the attribute carries, and it has a requirement
there whenever the requirements can be resolved. -/
theorem boundLogicalDevice_isRequired (hbuilt : Catalog.Built catalog)
    {before asked later : List Question}
    (haccepted : ((checkHierarchy catalog).run.run (afterAsking catalog before)).1 = .ok ())
    {container : ContainerId} {device : DeviceId} {attr : String} {attachment : AttachmentId}
    {binding : Binding}
    (hattr : (catalog.deviceAttachments device).get? attr = some attachment)
    (hbinding : ((activeBinding catalog container device attr).run
      (afterAsking catalog asked)).1 = some binding) :
    let capability := (catalog.attachment attachment).capability
    (∀ requirements, ((requirementsOf catalog capability).run.run
      (afterAsking catalog later)).1 = .ok requirements →
        (requirements.get? binding.logicalDevice).isSome) ∧
    ∀ sub, catalog.isSubtype sub capability →
      ((catalog.visibleLogicalDevices sub).get? binding.logicalDevice).isSome ∧
      ∀ requirements, ((requirementsOf catalog sub).run.run
        (afterAsking catalog later)).1 = .ok requirements →
          (requirements.get? binding.logicalDevice).isSome := by
  have hplain : catalog.hierarchy = .ok () := by
    rw [← checkHierarchy_afterAsking catalog before, haccepted]
  rw [run_afterAsking (fun _ => answers_activeBinding container device attr),
    Catalog.activeBinding, Option.map_eq_some_iff] at hbinding
  obtain ⟨declared, hdeclared, rfl⟩ := hbinding
  have hvisible : ∀ sub, catalog.isSubtype sub (catalog.attachment attachment).capability →
      ((catalog.visibleLogicalDevices sub).get? declared.logicalDevice).isSome :=
    fun _ hsub => Catalog.isSome_visible_of_declaredBinding? hbuilt hplain hattr hdeclared hsub
  constructor
  · intro requirements hresolved
    exact isSome_get?_requirementsOf hresolved
      (hvisible _ (hbuilt.registered.isSubtype_refl _))
  · intro sub hsub
    refine ⟨hvisible sub hsub, ?_⟩
    intro requirements hresolved
    exact isSome_get?_requirementsOf hresolved (hvisible sub hsub)

/-- The host of the room offers the faster link under the binding of the site. -/
theorem boundLogicalDevice_layeredLab :
    ((checkHierarchy layeredLab).run.run (afterAsking layeredLab [])).1 = .ok () ∧
    (layeredLab.deviceAttachments ⟨2⟩).get? "net" = some ⟨2⟩ ∧
    ((activeBinding layeredLab ⟨2⟩ ⟨2⟩ "net").run (afterAsking layeredLab [])).1 =
      some ⟨"peer", ⟨3⟩⟩ ∧
    ∀ requirements, ((requirementsOf layeredLab ⟨2⟩).run.run (afterAsking layeredLab [])).1 =
      .ok requirements → (requirements.get? "peer").isSome := by
  have hok : ((checkHierarchy layeredLab).run.run (afterAsking layeredLab [])).1.isOk = true := by
    decide +kernel
  obtain ⟨nothing, haccepted⟩ := Catalog.exists_of_isOk hok
  have hattr : (layeredLab.deviceAttachments ⟨2⟩).get? "net" = some ⟨2⟩ := by decide +kernel
  have hbinding : ((activeBinding layeredLab ⟨2⟩ ⟨2⟩ "net").run
      (afterAsking layeredLab [])).1 = some ⟨"peer", ⟨3⟩⟩ := by decide +kernel
  have hcapability : (layeredLab.attachment ⟨2⟩).capability = ⟨2⟩ := by decide +kernel
  have hrequired : ∀ requirements, ((requirementsOf layeredLab
      (layeredLab.attachment ⟨2⟩).capability).run.run (afterAsking layeredLab [])).1 =
        .ok requirements → (requirements.get? "peer").isSome :=
    (boundLogicalDevice_isRequired built_layeredLab haccepted hattr hbinding).1
  exact ⟨haccepted, hattr, hbinding, hcapability ▸ hrequired⟩

end Session

end LabMatch
