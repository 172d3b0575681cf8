import LabMatch.Proofs.Catalog.Hierarchy

/-!
# The override discipline along whole chains

A catalogue passes the hierarchy check exactly if no entity has multiple parents
and every entity keeps the discipline towards all of its ancestors, at any
distance.  What is visible on an entity then specialises, name by name, what is
visible on everything above it.
-/

namespace LabMatch.Catalog

variable {catalog : Catalog}

structure OverrideDiscipline (catalog : Catalog) : Prop where
  devices : ∀ container ancestor, catalog.IsAncestor container ancestor →
    (catalog.container container).devices ≠ [] → ∀ name inherited,
      (catalog.visibleDevicesByName ancestor).get? name = some inherited →
        ∃ declared ∈ (catalog.container container).devices,
          (catalog.device declared).name = name ∧ catalog.isSubtype declared inherited
  logicalDevices : ∀ capability ancestor, catalog.IsAncestor capability ancestor →
    (catalog.capability capability).logicalDevices ≠ [] → ∀ name inherited,
      (catalog.visibleLogicalDevices ancestor).get? name = some inherited →
        ∃ declared ∈ (catalog.capability capability).logicalDevices,
          (catalog.logicalDevice declared).name = name ∧ catalog.isSubtype declared inherited
  deviceAttributes : ∀ device ancestor, catalog.IsAncestor device ancestor →
    ∀ declared ∈ (catalog.device device).attachments, ∀ inherited,
      (catalog.deviceAttachments ancestor).get? (catalog.attachment declared).attr =
        some inherited →
          catalog.isSubtype (catalog.attachment declared).capability
            (catalog.attachment inherited).capability
  logicalDeviceAttributes : ∀ logicalDevice ancestor, catalog.IsAncestor logicalDevice ancestor →
    ∀ declared ∈ (catalog.logicalDevice logicalDevice).attachments, ∀ inherited,
      (catalog.logicalDeviceAttachments ancestor).get? (catalog.attachment declared).attr =
        some inherited →
          catalog.isSubtype (catalog.attachment declared).capability
            (catalog.attachment inherited).capability

/-- Whatever is visible on an ancestor is visible under the same name on the entity,
as a subtype. -/
structure VisiblySpecializes (catalog : Catalog) : Prop where
  devices : ∀ container ancestor, catalog.IsAncestor container ancestor → ∀ name inherited,
    (catalog.visibleDevicesByName ancestor).get? name = some inherited →
      ∃ nearer, (catalog.visibleDevicesByName container).get? name = some nearer ∧
        catalog.isSubtype nearer inherited
  logicalDevices : ∀ capability ancestor, catalog.IsAncestor capability ancestor →
    ∀ name inherited, (catalog.visibleLogicalDevices ancestor).get? name = some inherited →
      ∃ nearer, (catalog.visibleLogicalDevices capability).get? name = some nearer ∧
        catalog.isSubtype nearer inherited
  deviceAttributes : ∀ device ancestor, catalog.IsAncestor device ancestor → ∀ attr inherited,
    (catalog.deviceAttachments ancestor).get? attr = some inherited →
      ∃ nearer, (catalog.deviceAttachments device).get? attr = some nearer ∧
        catalog.isSubtype (catalog.attachment nearer).capability
          (catalog.attachment inherited).capability
  logicalDeviceAttributes : ∀ logicalDevice ancestor, catalog.IsAncestor logicalDevice ancestor →
    ∀ attr inherited, (catalog.logicalDeviceAttachments ancestor).get? attr = some inherited →
      ∃ nearer, (catalog.logicalDeviceAttachments logicalDevice).get? attr = some nearer ∧
        catalog.isSubtype (catalog.attachment nearer).capability
          (catalog.attachment inherited).capability

/-- The rules hold towards all parents. -/
structure KeepsRules (hbuilt : Built catalog) : Prop where
  containers : ∀ child parent, catalog.IsParent child parent →
    (deviceMembers hbuilt).Redeclares catalog child parent
  capabilities : ∀ child parent, catalog.IsParent child parent →
    (logicalDeviceMembers hbuilt).Redeclares catalog child parent
  devices : ∀ child parent, catalog.IsParent child parent →
    (deviceAttributes hbuilt).Overrides catalog child parent
  logicalDevices : ∀ child parent, catalog.IsParent child parent →
    (logicalDeviceAttributes hbuilt).Overrides catalog child parent

/-- The checks pass exactly if the rules hold towards all parents. -/
theorem overrideRules_eq_ok_iff (hbuilt : Built catalog) (hsingle : catalog.SingleParents) :
    catalog.overrideRules = .ok () ↔ KeepsRules hbuilt := by
  rw [overrideRules, bind_eq_ok_iff, bind_eq_ok_iff, bind_eq_ok_iff]
  simp only [forM_eq_ok_iff, containerRule_eq_ok_iff hbuilt, capabilityRule_eq_ok_iff hbuilt,
    deviceRule_eq_ok_iff hbuilt, logicalDeviceRule_eq_ok_iff hbuilt, hsingle.forall_ids_iff]
  constructor
  · intro hrules
    obtain ⟨hcontainers, hcapabilities, hdevices, hlogicalDevices⟩ := hrules
    exact ⟨hcontainers, hcapabilities, hdevices, hlogicalDevices⟩
  · intro hkeeps
    exact ⟨hkeeps.containers, hkeeps.capabilities, hkeeps.devices, hkeeps.logicalDevices⟩

/-- Rules that are kept from parent to parent are kept at any distance. -/
theorem keepsRules_iff_overrideDiscipline (hbuilt : Built catalog)
    (hsingle : catalog.SingleParents) : KeepsRules hbuilt ↔ OverrideDiscipline catalog := by
  have hfirst : ∀ {family : Family} {child parent : Id family},
      catalog.IsParent child parent → catalog.parent? child = some parent :=
    (hbuilt.registered.parent?_eq_some_iff hsingle).mpr
  constructor
  · intro hkeeps
    constructor
    · exact (MemberKind.forall_isAncestor_redeclares_iff hfirst).mpr hkeeps.containers
    · exact (MemberKind.forall_isAncestor_redeclares_iff hfirst).mpr hkeeps.capabilities
    · exact (MemberKind.forall_isAncestor_overrides_iff hfirst).mpr hkeeps.devices
    · exact (MemberKind.forall_isAncestor_overrides_iff hfirst).mpr hkeeps.logicalDevices
  · intro hdiscipline
    constructor
    · exact (MemberKind.forall_isAncestor_redeclares_iff hfirst).mp hdiscipline.devices
    · exact (MemberKind.forall_isAncestor_redeclares_iff hfirst).mp hdiscipline.logicalDevices
    · exact (MemberKind.forall_isAncestor_overrides_iff hfirst).mp hdiscipline.deviceAttributes
    · exact (MemberKind.forall_isAncestor_overrides_iff hfirst).mp
        hdiscipline.logicalDeviceAttributes

theorem KeepsRules.visiblySpecializes {hbuilt : Built catalog} (hkeeps : KeepsRules hbuilt)
    (hsingle : catalog.SingleParents) : VisiblySpecializes catalog := by
  have hfirst : ∀ {family : Family} {child parent : Id family},
      catalog.IsParent child parent → catalog.parent? child = some parent :=
    (hbuilt.registered.parent?_eq_some_iff hsingle).mpr
  constructor
  · intro container ancestor hancestor
    exact MemberKind.sharpens_of_reflTransGen hfirst
      (fun child parent hparent => (hkeeps.containers child parent hparent).overrides)
      hancestor.to_reflTransGen
  · intro capability ancestor hancestor
    exact MemberKind.sharpens_of_reflTransGen hfirst
      (fun child parent hparent => (hkeeps.capabilities child parent hparent).overrides)
      hancestor.to_reflTransGen
  · intro device ancestor hancestor
    exact MemberKind.sharpens_of_reflTransGen hfirst hkeeps.devices hancestor.to_reflTransGen
  · intro logicalDevice ancestor hancestor
    exact MemberKind.sharpens_of_reflTransGen hfirst hkeeps.logicalDevices
      hancestor.to_reflTransGen

/-- The check is passed exactly by the catalogues that keep the discipline. -/
theorem hierarchy_eq_ok_iff (hbuilt : Built catalog) :
    catalog.hierarchy = .ok () ↔ catalog.SingleParents ∧ OverrideDiscipline catalog := by
  rw [hierarchy, bind_eq_ok_iff, singleParentsEverywhere_eq_ok_iff]
  apply and_congr_right
  intro hsingle
  rw [overrideRules_eq_ok_iff hbuilt hsingle, keepsRules_iff_overrideDiscipline hbuilt hsingle]

/-- If the hierarchy is accepted, visible members are specialised downwards. -/
theorem visiblySpecializes_of_hierarchy (hbuilt : Built catalog)
    (haccepted : catalog.hierarchy = .ok ()) : VisiblySpecializes catalog := by
  obtain ⟨hsingle, hdiscipline⟩ := (hierarchy_eq_ok_iff hbuilt).mp haccepted
  exact ((keepsRules_iff_overrideDiscipline hbuilt hsingle).mpr hdiscipline).visiblySpecializes
    hsingle

/-- Multiple parents are reported exactly if there are any, whatever else is wrong. -/
theorem exists_multipleParents_iff :
    (∃ entity parents, catalog.hierarchy = .error (.multipleParents entity parents)) ↔
      ¬ catalog.SingleParents := by
  rw [← singleParentsEverywhere_eq_ok_iff, hierarchy]
  cases hfirst : catalog.singleParentsEverywhere with
  | ok nothing =>
    simp only [not_true_eq_false, iff_false]
    intro hmultiple
    obtain ⟨entity, parents, hfails⟩ := hmultiple
    exact failsWith_overrideRules _ hfails ⟨entity, parents, rfl⟩
  | error reason =>
    obtain ⟨entity, parents, rfl⟩ := failsWith_singleParentsEverywhere reason hfirst
    simp only [reduceCtorEq, not_false_eq_true, iff_true]
    exact ⟨entity, parents, rfl⟩

end LabMatch.Catalog
