import LabMatch.Proofs.Catalog.Overriding
import LabMatch.Proofs.Traversal
import LabMatch.Session.Hierarchy

/-!
# What the hierarchy check accepts

The check without a session compares every entity with its first parent.  An entity
passes its check exactly if it keeps the rule of its kind of members towards this
parent.  Multiple parents are looked for first, and nothing else is reported as
such.
-/

namespace LabMatch

def HierarchyError.IsMultiple (reason : HierarchyError) : Prop :=
  ∃ entity parents, reason = .multipleParents entity parents

theorem HierarchyError.not_isMultiple_missingRedeclaration (entity parent missing : String) :
    ¬ (missingRedeclaration entity parent missing).IsMultiple := by
  intro hmultiple
  obtain ⟨_, _, hsame⟩ := hmultiple
  cases hsame

theorem HierarchyError.not_isMultiple_notSubtype (entity item expected found : String) :
    ¬ (notSubtype entity item expected found).IsMultiple := by
  intro hmultiple
  obtain ⟨_, _, hsame⟩ := hmultiple
  cases hsame

namespace Catalog

/-! ## The check without notes -/

section Plain

variable (catalog : Catalog)

/-- Checks a container against its first parent. -/
def containerRule (id : ContainerId) : Except HierarchyError Unit :=
  match (catalog.container id).parents.head? with
  | none => .ok ()
  | some parent =>
    if (catalog.container id).devices.isEmpty then .ok ()
    else (catalog.visibleDevices parent).forM (catalog.redeclaresDevice id parent)

def capabilityRule (id : CapabilityId) : Except HierarchyError Unit :=
  match (catalog.capability id).parents.head? with
  | none => .ok ()
  | some parent =>
    if (catalog.capability id).logicalDevices.isEmpty then .ok ()
    else (catalog.visibleLogicalDevices parent).entries.forM
      (catalog.redeclaresLogicalDevice id parent)

def deviceRule (id : DeviceId) : Except HierarchyError Unit :=
  match (catalog.device id).parents.head? with
  | none => .ok ()
  | some parent =>
    (catalog.device id).attachments.forM (catalog.overridesAttribute (catalog.devicePath id)
      (catalog.deviceAttachments id) (catalog.deviceAttachments parent))

def logicalDeviceRule (id : LogicalDeviceId) : Except HierarchyError Unit :=
  match (catalog.logicalDevice id).parents.head? with
  | none => .ok ()
  | some parent =>
    (catalog.logicalDevice id).attachments.forM
      (catalog.overridesAttribute (catalog.logicalDevicePath id)
        (catalog.logicalDeviceAttachments id) (catalog.logicalDeviceAttachments parent))

def overrideRules : Except HierarchyError Unit := do
  (catalog.ids .container).forM catalog.containerRule
  (catalog.ids .capability).forM catalog.capabilityRule
  (catalog.ids .device).forM catalog.deviceRule
  (catalog.ids .logicalDevice).forM catalog.logicalDeviceRule

def hierarchy : Except HierarchyError Unit := do
  catalog.singleParentsEverywhere
  catalog.overrideRules

end Plain

variable {catalog : Catalog} {family : Family}

/-! ## Members that are declared and inherited -/

section Kinds

variable (hbuilt : Built catalog)

def deviceMembers : MemberKind .container DeviceId where
  name id := (catalog.device id).name
  own id := (catalog.container id).devices
  Refines declared inherited := catalog.isSubtype declared inherited
  names := hbuilt.wellLaidOut.names
  refl := hbuilt.registered.isSubtype_refl
  trans := hbuilt.registered.isSubtype_trans

def logicalDeviceMembers : MemberKind .capability LogicalDeviceId where
  name id := (catalog.logicalDevice id).name
  own id := (catalog.capability id).logicalDevices
  Refines declared inherited := catalog.isSubtype declared inherited
  names := hbuilt.registered.logicalDeviceRoster.names
  refl := hbuilt.registered.isSubtype_refl
  trans := hbuilt.registered.isSubtype_trans

def attributes (own : Id family → List AttachmentId)
    (hattrs : ∀ id, ((own id).map fun id => (catalog.attachment id).attr).Nodup) :
    MemberKind family AttachmentId where
  name id := (catalog.attachment id).attr
  own := own
  Refines declared inherited :=
    catalog.isSubtype (catalog.attachment declared).capability
      (catalog.attachment inherited).capability
  names := hattrs
  refl _ := hbuilt.registered.isSubtype_refl _
  trans := hbuilt.registered.isSubtype_trans

def deviceAttributes : MemberKind .device AttachmentId :=
  attributes hbuilt (fun id => (catalog.device id).attachments) fun id =>
    hbuilt.registered.attachmentRoster.names (.device id)

def logicalDeviceAttributes : MemberKind .logicalDevice AttachmentId :=
  attributes hbuilt (fun id => (catalog.logicalDevice id).attachments) fun id =>
    hbuilt.registered.attachmentRoster.names (.logicalDevice id)

end Kinds

/-! ## One member -/

/-- Among members with different names, looking one up finds exactly the one of that name. -/
theorem find?_name_eq_some_iff {Member : Type} {members : List Member} {nameOf : Member → String}
    (hnames : (members.map nameOf).Nodup) {name : String} {member : Member} :
    members.find? (fun candidate => nameOf candidate == name) = some member ↔
      member ∈ members ∧ nameOf member = name := by
  constructor
  · intro hfound
    exact ⟨List.mem_of_find?_eq_some hfound, by simpa using List.find?_some hfound⟩
  · intro hmember
    obtain ⟨hmember, rfl⟩ := hmember
    have hsome : (members.find? fun candidate => nameOf candidate == nameOf member).isSome :=
      List.find?_isSome.mpr ⟨member, hmember, by simp⟩
    obtain ⟨found, hfound⟩ := Option.isSome_iff_exists.mp hsome
    have hname : nameOf found = nameOf member := by simpa using List.find?_some hfound
    rw [hfound, List.inj_on_of_nodup_map hnames (List.mem_of_find?_eq_some hfound) hmember hname]

theorem MemberKind.find?_own_eq_some_iff {Member : Type} (kind : MemberKind family Member)
    {id : Id family} {name : String} {member : Member} :
    (kind.own id).find? (fun candidate => kind.name candidate == name) = some member ↔
      member ∈ kind.own id ∧ kind.name member = name :=
  find?_name_eq_some_iff (kind.names id)

theorem redeclaresDevice_eq_ok_iff (hbuilt : Built catalog) {container parent : ContainerId}
    {inherited : DeviceId} :
    catalog.redeclaresDevice container parent inherited = .ok () ↔
      ∃ declared ∈ (catalog.container container).devices,
        (catalog.device declared).name = (catalog.device inherited).name ∧
          catalog.isSubtype declared inherited := by
  have hfound : ∀ declared,
      catalog.deviceNamed? container (catalog.device inherited).name = some declared ↔
        declared ∈ (catalog.container container).devices ∧
          (catalog.device declared).name = (catalog.device inherited).name :=
    fun _ => (deviceMembers hbuilt).find?_own_eq_some_iff
  simp only [← and_assoc, ← hfound]
  rw [redeclaresDevice]
  cases catalog.deviceNamed? container (catalog.device inherited).name with
  | none => simp
  | some again => by_cases hsubtype : catalog.isSubtype again inherited <;> simp [hsubtype]

theorem redeclaresLogicalDevice_eq_ok_iff (hbuilt : Built catalog)
    {capability parent : CapabilityId} {inherited : String × LogicalDeviceId} :
    catalog.redeclaresLogicalDevice capability parent inherited = .ok () ↔
      ∃ declared ∈ (catalog.capability capability).logicalDevices,
        (catalog.logicalDevice declared).name = inherited.1 ∧
          catalog.isSubtype declared inherited.2 := by
  have hfound : ∀ declared, catalog.logicalDeviceNamed? capability inherited.1 = some declared ↔
      declared ∈ (catalog.capability capability).logicalDevices ∧
        (catalog.logicalDevice declared).name = inherited.1 :=
    fun _ => (logicalDeviceMembers hbuilt).find?_own_eq_some_iff
  simp only [← and_assoc, ← hfound]
  rw [redeclaresLogicalDevice]
  cases catalog.logicalDeviceNamed? capability inherited.1 with
  | none => simp
  | some again => by_cases hsubtype : catalog.isSubtype again inherited.2 <;> simp [hsubtype]

/-- An attribute that is visible in the form in which it is declared is compared
with the inherited one. -/
theorem overridesAttribute_eq_ok_iff {entity : String}
    {own inherited : SortedMap String AttachmentId}
    {declared : AttachmentId}
    (hown : own.get? (catalog.attachment declared).attr = some declared) :
    catalog.overridesAttribute entity own inherited declared = .ok () ↔
      ∀ theirs, inherited.get? (catalog.attachment declared).attr = some theirs →
        catalog.isSubtype (catalog.attachment declared).capability
          (catalog.attachment theirs).capability := by
  rw [overridesAttribute, hown]
  cases inherited.get? (catalog.attachment declared).attr with
  | none => simp
  | some theirs =>
    by_cases hsubtype : catalog.isSubtype (catalog.attachment declared).capability
        (catalog.attachment theirs).capability <;> simp [hsubtype]

/-! ## One entity -/

/-- The rule for containers: all devices of the first parent are declared again, or none. -/
theorem containerRule_eq_ok_iff (hbuilt : Built catalog) {id : ContainerId} :
    catalog.containerRule id = .ok () ↔
      ∀ parent, (catalog.parents .container id).head? = some parent →
        (deviceMembers hbuilt).Redeclares catalog id parent := by
  rw [containerRule, parents]
  cases (catalog.container id).parents.head? with
  | none => simp
  | some parent =>
    simp only [Option.some.injEq, forall_eq']
    by_cases hempty : (catalog.container id).devices = []
    · simp [MemberKind.Redeclares, deviceMembers, hempty]
    simp only [List.isEmpty_iff, if_neg hempty, forM_eq_ok_iff]
    constructor
    · intro hall _ name inherited hinherited
      obtain ⟨rfl, -⟩ := of_get?_nearest hinherited
      exact (redeclaresDevice_eq_ok_iff hbuilt).mp
        (hall inherited (mem_visibleDevices.mpr hinherited))
    · intro hredeclares inherited hinherited
      rw [redeclaresDevice_eq_ok_iff hbuilt]
      exact hredeclares hempty _ inherited (mem_visibleDevices.mp hinherited)

/-- The rule for capability types: all logical devices of the first parent are declared again, or
none. -/
theorem capabilityRule_eq_ok_iff (hbuilt : Built catalog) {id : CapabilityId} :
    catalog.capabilityRule id = .ok () ↔
      ∀ parent, (catalog.parents .capability id).head? = some parent →
        (logicalDeviceMembers hbuilt).Redeclares catalog id parent := by
  rw [capabilityRule, parents]
  cases (catalog.capability id).parents.head? with
  | none => simp
  | some parent =>
    simp only [Option.some.injEq, forall_eq']
    by_cases hempty : (catalog.capability id).logicalDevices = []
    · simp [MemberKind.Redeclares, logicalDeviceMembers, hempty]
    simp only [List.isEmpty_iff, if_neg hempty, forM_eq_ok_iff]
    constructor
    · intro hall _ name inherited hinherited
      exact (redeclaresLogicalDevice_eq_ok_iff hbuilt).mp
        (hall (name, inherited) ((SortedMap.get?_eq_some_iff _ _ _).mp hinherited))
    · intro hredeclares inherited hinherited
      rw [redeclaresLogicalDevice_eq_ok_iff hbuilt]
      exact hredeclares hempty _ _ ((SortedMap.get?_eq_some_iff _ _ _).mpr hinherited)

theorem forM_overridesAttribute_eq_ok_iff (hbuilt : Built catalog) {entity : String}
    (own : Id family → List AttachmentId)
    {hattrs : ∀ id, ((own id).map fun id => (catalog.attachment id).attr).Nodup}
    {id parent : Id family} :
    (own id).forM (catalog.overridesAttribute entity
      ((attributes hbuilt own hattrs).visible catalog id)
      ((attributes hbuilt own hattrs).visible catalog parent)) = .ok () ↔
        (attributes hbuilt own hattrs).Overrides catalog id parent := by
  rw [forM_eq_ok_iff]
  apply forall₂_congr
  intro declared hdeclared
  exact overridesAttribute_eq_ok_iff ((attributes hbuilt own hattrs).get?_visible_of_own hdeclared)

/-- The rule for devices: attributes are overridden by subtypes. -/
theorem deviceRule_eq_ok_iff (hbuilt : Built catalog) {id : DeviceId} :
    catalog.deviceRule id = .ok () ↔
      ∀ parent, (catalog.parents .device id).head? = some parent →
        (deviceAttributes hbuilt).Overrides catalog id parent := by
  rw [deviceRule, parents]
  cases (catalog.device id).parents.head? with
  | none => simp
  | some parent =>
    simp only [Option.some.injEq, forall_eq']
    exact forM_overridesAttribute_eq_ok_iff hbuilt fun id => (catalog.device id).attachments

/-- The rule for logical devices: what they ask for is overridden by subtypes. -/
theorem logicalDeviceRule_eq_ok_iff (hbuilt : Built catalog) {id : LogicalDeviceId} :
    catalog.logicalDeviceRule id = .ok () ↔
      ∀ parent, (catalog.parents .logicalDevice id).head? = some parent →
        (logicalDeviceAttributes hbuilt).Overrides catalog id parent := by
  rw [logicalDeviceRule, parents]
  cases (catalog.logicalDevice id).parents.head? with
  | none => simp
  | some parent =>
    simp only [Option.some.injEq, forall_eq']
    exact forM_overridesAttribute_eq_ok_iff hbuilt fun id => (catalog.logicalDevice id).attachments

/-! ## All entities -/

theorem parents_eq_nil {id : Id family} (hunknown : catalog.count family ≤ id.index) :
    catalog.parents family id = [] := by
  cases family with
  | container => rw [parents, container, List.getElem?_eq_none hunknown]; rfl
  | device => rw [parents, device, List.getElem?_eq_none hunknown]; rfl
  | capability => rw [parents, capability, List.getElem?_eq_none hunknown]; rfl
  | logicalDevice => rw [parents, logicalDevice, List.getElem?_eq_none hunknown]; rfl
  | attachment => rfl

theorem IsParent.lt_count {child parent : Id family} (hparent : catalog.IsParent child parent) :
    child.index < catalog.count family := by
  by_contra hunknown
  rw [IsParent, parents_eq_nil (Nat.le_of_not_lt hunknown)] at hparent
  cases hparent

/-- A rule about the first parents of the declared entities is one about all parents. -/
theorem SingleParents.forall_ids_iff (hsingle : catalog.SingleParents)
    {Rule : Id family → Id family → Prop} :
    (∀ id ∈ catalog.ids family, ∀ parent,
      (catalog.parents family id).head? = some parent → Rule id parent) ↔
    ∀ child parent, catalog.IsParent child parent → Rule child parent := by
  simp only [hsingle.head?_eq_some_iff]
  constructor
  · intro hrule child parent hparent
    apply hrule child _ parent hparent
    exact mem_ids.mpr hparent.lt_count
  · intro hrule id _ parent hparent
    exact hrule id parent hparent

/-! ## Multiple parents -/

theorem singleParents_eq_ok_iff {label : Id family → String} :
    catalog.singleParents family label = .ok () ↔
      ∀ id : Id family, (catalog.parents family id).length ≤ 1 := by
  rw [singleParents]
  cases hfound : (catalog.ids family).find? fun id => 1 < (catalog.parents family id).length with
  | none =>
    rw [List.find?_eq_none] at hfound
    simp only [true_iff]
    intro id
    by_cases hid : id.index < catalog.count family
    · simpa using hfound id (mem_ids.mpr hid)
    · simp [parents_eq_nil (Nat.le_of_not_lt hid)]
  | some id =>
    have hmany : 1 < (catalog.parents family id).length := by simpa using List.find?_some hfound
    simp only [reduceCtorEq, false_iff]
    exact fun hsingle => Nat.not_le_of_lt hmany (hsingle id)

theorem failsWith_singleParents (label : Id family → String) :
    FailsWith HierarchyError.IsMultiple (catalog.singleParents family label) := by
  rw [singleParents]
  split
  · exact failsWith_error ⟨_, _, rfl⟩
  · exact failsWith_ok ()

theorem failsWith_singleParentsEverywhere :
    FailsWith HierarchyError.IsMultiple catalog.singleParentsEverywhere := by
  apply (failsWith_singleParents _).bind
  intro _
  apply (failsWith_singleParents _).bind
  intro _
  apply (failsWith_singleParents _).bind
  intro _
  exact failsWith_singleParents _

/-- The check for single parents passes exactly if no entity has several parents. -/
theorem singleParentsEverywhere_eq_ok_iff :
    catalog.singleParentsEverywhere = .ok () ↔ catalog.SingleParents := by
  rw [singleParentsEverywhere, bind_eq_ok_iff, bind_eq_ok_iff, bind_eq_ok_iff]
  simp only [singleParents_eq_ok_iff]
  constructor
  · intro hsingle family
    obtain ⟨hcontainers, hdevices, hcapabilities, hlogicalDevices⟩ := hsingle
    cases family with
    | container => exact hcontainers
    | device => exact hdevices
    | capability => exact hcapabilities
    | logicalDevice => exact hlogicalDevices
    | attachment => exact fun _ => Nat.zero_le 1
  · intro hsingle
    exact ⟨hsingle .container, hsingle .device, hsingle .capability, hsingle .logicalDevice⟩

/-! ## Other violations -/

theorem failsWith_redeclaresDevice (container parent : ContainerId) (inherited : DeviceId) :
    FailsWith (¬ ·.IsMultiple) (catalog.redeclaresDevice container parent inherited) := by
  rw [redeclaresDevice]
  cases catalog.deviceNamed? container (catalog.device inherited).name with
  | none => exact failsWith_error (HierarchyError.not_isMultiple_missingRedeclaration _ _ _)
  | some again =>
    dsimp only
    split
    · exact failsWith_ok ()
    · exact failsWith_error (HierarchyError.not_isMultiple_notSubtype _ _ _ _)

theorem failsWith_redeclaresLogicalDevice (capability parent : CapabilityId)
    (inherited : String × LogicalDeviceId) :
    FailsWith (¬ ·.IsMultiple) (catalog.redeclaresLogicalDevice capability parent inherited) := by
  rw [redeclaresLogicalDevice]
  cases catalog.logicalDeviceNamed? capability inherited.1 with
  | none => exact failsWith_error (HierarchyError.not_isMultiple_missingRedeclaration _ _ _)
  | some again =>
    dsimp only
    split
    · exact failsWith_ok ()
    · exact failsWith_error (HierarchyError.not_isMultiple_notSubtype _ _ _ _)

theorem failsWith_overridesAttribute (entity : String)
    (own inherited : SortedMap String AttachmentId) (declared : AttachmentId) :
    FailsWith (¬ ·.IsMultiple) (catalog.overridesAttribute entity own inherited declared) := by
  rw [overridesAttribute]
  split
  · dsimp only
    split
    · exact failsWith_ok ()
    · exact failsWith_error (HierarchyError.not_isMultiple_notSubtype _ _ _ _)
  · exact failsWith_ok ()

theorem failsWith_containerRule (id : ContainerId) :
    FailsWith (¬ ·.IsMultiple) (catalog.containerRule id) := by
  rw [containerRule]
  split
  · exact failsWith_ok ()
  · split
    · exact failsWith_ok ()
    · exact failsWith_forM (failsWith_redeclaresDevice _ _) _

theorem failsWith_capabilityRule (id : CapabilityId) :
    FailsWith (¬ ·.IsMultiple) (catalog.capabilityRule id) := by
  rw [capabilityRule]
  split
  · exact failsWith_ok ()
  · split
    · exact failsWith_ok ()
    · exact failsWith_forM (failsWith_redeclaresLogicalDevice _ _) _

theorem failsWith_deviceRule (id : DeviceId) :
    FailsWith (¬ ·.IsMultiple) (catalog.deviceRule id) := by
  rw [deviceRule]
  split
  · exact failsWith_ok ()
  · exact failsWith_forM (failsWith_overridesAttribute _ _ _) _

theorem failsWith_logicalDeviceRule (id : LogicalDeviceId) :
    FailsWith (¬ ·.IsMultiple) (catalog.logicalDeviceRule id) := by
  rw [logicalDeviceRule]
  split
  · exact failsWith_ok ()
  · exact failsWith_forM (failsWith_overridesAttribute _ _ _) _

/-- The rules never report multiple parents. -/
theorem failsWith_overrideRules : FailsWith (¬ ·.IsMultiple) catalog.overrideRules := by
  apply (failsWith_forM failsWith_containerRule _).bind
  intro _
  apply (failsWith_forM failsWith_capabilityRule _).bind
  intro _
  apply (failsWith_forM failsWith_deviceRule _).bind
  intro _
  exact failsWith_forM failsWith_logicalDeviceRule _

end Catalog

end LabMatch
