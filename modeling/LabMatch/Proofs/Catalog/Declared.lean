import LabMatch.Proofs.Catalog.Change
import Mathlib.Data.List.Nodup

/-!
# Declared catalogues

A catalogue is built by declarations, one after the other, and complete at the end.  For each
kind of declaration there is a lemma that says which checks it passed if it was accepted, and
what became of the catalogue.
-/

namespace LabMatch.Catalog

/-- The catalogue after some accepted declarations. -/
inductive Declared : Catalog → Prop
  | empty : Declared Catalog.empty
  | declare {catalog next : Catalog} {declaration : Declaration} {answer : Option Nat}
      (hdeclared : Declared catalog)
      (haccepted : catalog.declare declaration = .ok (answer, next)) : Declared next

/-- The catalogue was declared and found complete. -/
def Built (catalog : Catalog) : Prop :=
  ∃ declared, Declared declared ∧ declared.complete = .ok catalog

def declareAll (declarations : List Declaration) : Except DeclarationError Catalog :=
  declarations.foldlM (fun catalog declaration => Prod.snd <$> catalog.declare declaration) empty

/-! ## Lists of entities -/

section Lookup

variable {Entity : Type} [Inhabited Entity]

theorem getD_modify (entities : List Entity) (change : Entity → Entity) {position : Nat}
    (hposition : position < entities.length) (other : Nat) :
    (entities.modify position change)[other]?.getD default =
      if other = position then change (entities[position]?.getD default)
      else entities[other]?.getD default := by
  rw [List.getElem?_modify]
  by_cases hsame : other = position
  · subst hsame
    simp [hposition]
  · simp [hsame, Ne.symm hsame]

/-- A change that keeps a field keeps it for every entity. -/
theorem field_getD_modify {Field : Type} (field : Entity → Field) {change : Entity → Entity}
    (hfield : ∀ entity, field (change entity) = field entity) (entities : List Entity)
    (position other : Nat) :
    field ((entities.modify position change)[other]?.getD default) =
      field (entities[other]?.getD default) := by
  rw [List.getElem?_modify]
  cases entities[other]? with
  | none => rfl
  | some entity =>
    by_cases hsame : position = other
    · simp [hsame, hfield]
    · simp [hsame]

theorem getD_append (entities : List Entity) (entity : Entity) (other : Nat) :
    (entities ++ [entity])[other]?.getD default =
      if other = entities.length then entity else entities[other]?.getD default := by
  by_cases hsame : other = entities.length
  · simp [hsame]
  · rw [if_neg hsame]
    by_cases hbefore : other < entities.length
    · rw [List.getElem?_append_left hbefore]
    · rw [List.getElem?_eq_none (by simp; omega), List.getElem?_eq_none (by omega)]

/-- An entity that was looked up was declared or has no content. -/
theorem lookup_mem_or_eq_default (entities : List Entity) (position : Nat) :
    entities[position]?.getD default ∈ entities ∨ entities[position]?.getD default = default := by
  cases hfound : entities[position]? with
  | none => exact Or.inr rfl
  | some entity => exact Or.inl (List.mem_of_getElem? hfound)

end Lookup

/-- The identifiers that were handed out are those below the number of entities. -/
theorem mem_ids {catalog : Catalog} {family : Family} {id : Id family} :
    id ∈ catalog.ids family ↔ id.index < catalog.count family := by
  rw [ids, List.mem_map]
  constructor
  · intro hid
    obtain ⟨index, hindex, rfl⟩ := hid
    exact List.mem_range.mp hindex
  · intro hid
    exact ⟨id.index, List.mem_range.mpr hid, rfl⟩

/-! ## Accepted declarations -/

theorem exists_of_bind_eq_ok {Failure First Second : Type} {first : Except Failure First}
    {next : First → Except Failure Second} {result : Second}
    (hbind : first >>= next = .ok result) :
    ∃ answer, first = .ok answer ∧ next answer = .ok result := by
  cases first with
  | error reason => cases hbind
  | ok answer => exact ⟨answer, rfl, hbind⟩

theorem exists_of_map_eq_ok {Failure First Second : Type} {first : Except Failure First}
    {convert : First → Second} {result : Second} (hmap : first.map convert = .ok result) :
    ∃ answer, first = .ok answer ∧ convert answer = result := by
  cases first with
  | error reason => cases hmap
  | ok answer => exact ⟨answer, rfl, Except.ok.inj hmap⟩

/-- A computation that passes a guard was not refused by it. -/
theorem of_guard_eq_ok {Failure First : Type} {refused : Prop} [Decidable refused]
    {reason : Failure} {next : PUnit → Except Failure First} {rest : Except Failure First}
    {result : First}
    (hguarded : (if refused then throw reason >>= next else rest) = .ok result) :
    ¬ refused ∧ rest = .ok result := by
  by_cases hrefused : refused
  · rw [if_pos hrefused] at hguarded
    cases hguarded
  · rw [if_neg hrefused] at hguarded
    exact ⟨hrefused, hguarded⟩

variable {catalog next : Catalog}

theorem known_eq_ok {family : Family} {id : Id family} {nothing : Unit}
    (hknown : catalog.known id = .ok nothing) : id.index < catalog.count family := by
  rw [known] at hknown
  split at hknown
  · assumption
  · cases hknown

theorem fresh_eq_ok {taken : Bool} {thing : NamedThing} {name scope : String} {nothing : Unit}
    (hfresh : fresh taken thing name scope = .ok nothing) : taken = false := by
  rw [fresh] at hfresh
  split at hfresh
  · cases hfresh
  · simpa using ‹¬ taken = true›

/-- A container that is accepted has a name that no other one has. -/
theorem declareContainer_eq_ok {kind : ContainerKind} {name : String} {id : ContainerId}
    (haccepted : catalog.declareContainer kind name = .ok (id, next)) :
    id = ⟨catalog.containers.length⟩ ∧ (catalog.containerNamed? name).isSome = false ∧
      next = Declaration.result (.container kind name) catalog := by
  obtain ⟨_, hfresh, haccepted⟩ := exists_of_bind_eq_ok haccepted
  cases haccepted
  exact ⟨rfl, fresh_eq_ok hfresh, rfl⟩

/-- A container only extends an earlier one of its kind. -/
theorem extendContainer_eq_ok {child parent : ContainerId}
    (haccepted : catalog.extendContainer child parent = .ok next) :
    child.index < catalog.containers.length ∧ parent < child ∧
      (catalog.container child).kind = (catalog.container parent).kind ∧
      next = Declaration.result (.extendContainer child parent) catalog := by
  obtain ⟨_, hchild, haccepted⟩ := exists_of_bind_eq_ok haccepted
  obtain ⟨_, hparent, haccepted⟩ := exists_of_bind_eq_ok haccepted
  obtain ⟨horder, haccepted⟩ := of_guard_eq_ok haccepted
  obtain ⟨hkind, haccepted⟩ := of_guard_eq_ok haccepted
  cases haccepted
  exact ⟨known_eq_ok hchild, not_not.mp horder, not_not.mp hkind, rfl⟩

/-- A device that is accepted has a name that is new in its container. -/
theorem declareDevice_eq_ok {container : ContainerId} {name : String} {id : DeviceId}
    (haccepted : catalog.declareDevice container name = .ok (id, next)) :
    id = ⟨catalog.devices.length⟩ ∧ container.index < catalog.containers.length ∧
      (catalog.deviceNamed? container name).isSome = false ∧
      next = Declaration.result (.device container name) catalog := by
  obtain ⟨_, hcontainer, haccepted⟩ := exists_of_bind_eq_ok haccepted
  obtain ⟨_, hfresh, haccepted⟩ := exists_of_bind_eq_ok haccepted
  cases haccepted
  exact ⟨rfl, known_eq_ok hcontainer, fresh_eq_ok hfresh, rfl⟩

/-- A device only extends an earlier one, whose container is of the same kind. -/
theorem extendDevice_eq_ok {child parent : DeviceId}
    (haccepted : catalog.extendDevice child parent = .ok next) :
    child.index < catalog.devices.length ∧ parent < child ∧
      catalog.kindOfDevice child = catalog.kindOfDevice parent ∧
      next = Declaration.result (.extendDevice child parent) catalog := by
  obtain ⟨_, hchild, haccepted⟩ := exists_of_bind_eq_ok haccepted
  obtain ⟨_, hparent, haccepted⟩ := exists_of_bind_eq_ok haccepted
  obtain ⟨horder, haccepted⟩ := of_guard_eq_ok haccepted
  obtain ⟨hkind, haccepted⟩ := of_guard_eq_ok haccepted
  cases haccepted
  exact ⟨known_eq_ok hchild, not_not.mp horder, not_not.mp hkind, rfl⟩

theorem declareCapability_eq_ok {name : String} {id : CapabilityId}
    (haccepted : catalog.declareCapability name = .ok (id, next)) :
    id = ⟨catalog.capabilities.length⟩ ∧ (catalog.capabilityNamed? name).isSome = false ∧
      next = Declaration.result (.capability name) catalog := by
  obtain ⟨_, hfresh, haccepted⟩ := exists_of_bind_eq_ok haccepted
  cases haccepted
  exact ⟨rfl, fresh_eq_ok hfresh, rfl⟩

theorem extendCapability_eq_ok {child parent : CapabilityId}
    (haccepted : catalog.extendCapability child parent = .ok next) :
    child.index < catalog.capabilities.length ∧ parent < child ∧
      next = Declaration.result (.extendCapability child parent) catalog := by
  obtain ⟨_, hchild, haccepted⟩ := exists_of_bind_eq_ok haccepted
  obtain ⟨_, hparent, haccepted⟩ := exists_of_bind_eq_ok haccepted
  obtain ⟨horder, haccepted⟩ := of_guard_eq_ok haccepted
  cases haccepted
  exact ⟨known_eq_ok hchild, not_not.mp horder, rfl⟩

theorem declareLogicalDevice_eq_ok {capability : CapabilityId} {name : String}
    {id : LogicalDeviceId}
    (haccepted : catalog.declareLogicalDevice capability name = .ok (id, next)) :
    id = ⟨catalog.logicalDevices.length⟩ ∧ capability.index < catalog.capabilities.length ∧
      (catalog.logicalDeviceNamed? capability name).isSome = false ∧
      next = Declaration.result (.logicalDevice capability name) catalog := by
  obtain ⟨_, hcapability, haccepted⟩ := exists_of_bind_eq_ok haccepted
  obtain ⟨_, hfresh, haccepted⟩ := exists_of_bind_eq_ok haccepted
  cases haccepted
  exact ⟨rfl, known_eq_ok hcapability, fresh_eq_ok hfresh, rfl⟩

theorem extendLogicalDevice_eq_ok {child parent : LogicalDeviceId}
    (haccepted : catalog.extendLogicalDevice child parent = .ok next) :
    child.index < catalog.logicalDevices.length ∧ parent < child ∧
      next = Declaration.result (.extendLogicalDevice child parent) catalog := by
  obtain ⟨_, hchild, haccepted⟩ := exists_of_bind_eq_ok haccepted
  obtain ⟨_, hparent, haccepted⟩ := exists_of_bind_eq_ok haccepted
  obtain ⟨horder, haccepted⟩ := of_guard_eq_ok haccepted
  cases haccepted
  exact ⟨known_eq_ok hchild, not_not.mp horder, rfl⟩

theorem require_eq_ok {logicalDevice : LogicalDeviceId} {connection : Connection}
    (haccepted : catalog.require logicalDevice connection = .ok next) :
    logicalDevice.index < catalog.logicalDevices.length ∧
      next = Declaration.result (.require logicalDevice connection) catalog := by
  obtain ⟨_, hknown, haccepted⟩ := exists_of_bind_eq_ok haccepted
  cases haccepted
  exact ⟨known_eq_ok hknown, rfl⟩

/-- A variant that is accepted has a label that is new for its method. -/
theorem declareVariant_eq_ok {capability : CapabilityId} {method label : String}
    {conditions : List Condition}
    (haccepted : catalog.declareVariant capability method label conditions = .ok next) :
    capability.index < catalog.capabilities.length ∧
      (((catalog.capability capability).variantsOf method).any fun variant =>
        variant.label == label) = false ∧
      next = Declaration.result (.variant capability method label conditions) catalog := by
  obtain ⟨_, hknown, haccepted⟩ := exists_of_bind_eq_ok haccepted
  obtain ⟨_, hfresh, haccepted⟩ := exists_of_bind_eq_ok haccepted
  cases haccepted
  exact ⟨known_eq_ok hknown, fresh_eq_ok hfresh, rfl⟩

/-- An attachment that is accepted has an attribute that is new for its owner. -/
theorem attach_eq_ok {owner : Owner} {attr : String} {capability : CapabilityId}
    {id : AttachmentId} (haccepted : catalog.attach owner attr capability = .ok (id, next)) :
    id = ⟨catalog.attachments.length⟩ ∧ capability.index < catalog.capabilities.length ∧
      catalog.knownOwner owner = .ok () ∧
      ((catalog.attachmentsOf owner).any fun id => (catalog.attachment id).attr == attr) = false ∧
      next = Declaration.result (.attach owner attr capability) catalog := by
  obtain ⟨_, hknown, haccepted⟩ := exists_of_bind_eq_ok haccepted
  obtain ⟨_, howner, haccepted⟩ := exists_of_bind_eq_ok haccepted
  obtain ⟨_, hfresh, haccepted⟩ := exists_of_bind_eq_ok haccepted
  cases owner with
  | device device =>
    cases haccepted
    exact ⟨rfl, known_eq_ok hknown, howner, fresh_eq_ok hfresh, rfl⟩
  | logicalDevice logicalDevice =>
    cases haccepted
    exact ⟨rfl, known_eq_ok hknown, howner, fresh_eq_ok hfresh, rfl⟩

/-- Only an attachment of a device is bound, and only to another device of the same container. -/
theorem bind_eq_ok {attachment : AttachmentId} {logicalDevice : String} {target : DeviceId}
    (haccepted : catalog.bind attachment logicalDevice target = .ok next) :
    attachment.index < catalog.attachments.length ∧ target.index < catalog.devices.length ∧
      (∃ carrier, (catalog.attachment attachment).owner = .device carrier ∧ carrier ≠ target ∧
        (catalog.device carrier).owner = (catalog.device target).owner) ∧
      next = Declaration.result (.bind attachment logicalDevice target) catalog := by
  obtain ⟨_, hattachment, haccepted⟩ := exists_of_bind_eq_ok haccepted
  obtain ⟨_, htarget, haccepted⟩ := exists_of_bind_eq_ok haccepted
  dsimp only at haccepted
  cases howner : (catalog.attachment attachment).owner with
  | logicalDevice owner =>
    rw [howner] at haccepted
    cases haccepted
  | device carrier =>
    rw [howner] at haccepted
    obtain ⟨hcarrier, haccepted⟩ := of_guard_eq_ok haccepted
    obtain ⟨hcontainer, haccepted⟩ := of_guard_eq_ok haccepted
    cases haccepted
    exact ⟨known_eq_ok hattachment, known_eq_ok htarget,
      ⟨carrier, rfl, hcarrier, not_not.mp hcontainer⟩, rfl⟩

/-- A link is declared between different devices of one container. -/
theorem connect_eq_ok {source target : Endpoint} {connection : Connection} {oneWay : Bool}
    (haccepted : catalog.connect source target connection oneWay = .ok next) :
    source.device.index < catalog.devices.length ∧ target.device.index < catalog.devices.length ∧
      source.device ≠ target.device ∧
      (catalog.device source.device).owner = (catalog.device target.device).owner ∧
      ¬ source.node.isEmpty ∧ ¬ target.node.isEmpty ∧
      next = Declaration.result (.connect source target connection oneWay) catalog := by
  obtain ⟨_, hsource, haccepted⟩ := exists_of_bind_eq_ok haccepted
  obtain ⟨_, htarget, haccepted⟩ := exists_of_bind_eq_ok haccepted
  obtain ⟨hdevices, haccepted⟩ := of_guard_eq_ok haccepted
  obtain ⟨howner, haccepted⟩ := of_guard_eq_ok haccepted
  obtain ⟨hnode, haccepted⟩ := of_guard_eq_ok haccepted
  obtain ⟨hnode', haccepted⟩ := of_guard_eq_ok haccepted
  cases haccepted
  exact ⟨known_eq_ok hsource, known_eq_ok htarget, hdevices, not_not.mp howner, hnode, hnode', rfl⟩

theorem answer_of_introduced_eq_ok {family : Family}
    {outcome : Except DeclarationError (Id family × Catalog)} {answer : Option Nat}
    (haccepted : declare.introduced outcome = .ok (answer, next)) :
    ∃ id, outcome = .ok (id, next) ∧ answer = some id.index := by
  obtain ⟨⟨id, made⟩, hmade, hresult⟩ := exists_of_map_eq_ok haccepted
  cases hresult
  exact ⟨id, hmade, rfl⟩

theorem answer_of_changed_eq_ok {outcome : Except DeclarationError Catalog} {answer : Option Nat}
    (haccepted : declare.changed outcome = .ok (answer, next)) :
    outcome = .ok next ∧ answer = none := by
  obtain ⟨made, hmade, hresult⟩ := exists_of_map_eq_ok haccepted
  cases hresult
  exact ⟨hmade, rfl⟩

/-! ## Built catalogues -/

/-- Completing a catalogue changes nothing; every name that is referred to leads to a
logical device. -/
theorem complete_eq_ok {declared : Catalog} (hcomplete : declared.complete = .ok catalog) :
    catalog = declared ∧ ∀ reference ∈ declared.referredLogicalDevices,
      declared.hasLogicalDevice reference.1 reference.2 := by
  rw [complete] at hcomplete
  split at hcomplete
  · cases hcomplete
  · rename_i hfound
    refine ⟨(Except.ok.inj hcomplete).symm, fun reference hreference => ?_⟩
    simpa using List.find?_eq_none.mp hfound reference hreference

theorem Built.declared (hbuilt : Built catalog) : Declared catalog := by
  obtain ⟨declared, hdeclared, hcomplete⟩ := hbuilt
  exact (complete_eq_ok hcomplete).1 ▸ hdeclared

theorem declared_of_declareAll {declarations : List Declaration}
    (haccepted : declareAll declarations = .ok catalog) : Declared catalog := by
  have hfold : ∀ (declarations : List Declaration) (earlier : Catalog), Declared earlier →
      declarations.foldlM (fun catalog declaration => Prod.snd <$> catalog.declare declaration)
        earlier = .ok catalog → Declared catalog := by
    intro declarations
    induction declarations with
    | nil =>
      intro earlier hearlier hsame
      cases hsame
      exact hearlier
    | cons declaration others ih =>
      intro earlier hearlier haccepted
      rw [List.foldlM_cons] at haccepted
      obtain ⟨next, hnext, haccepted⟩ := exists_of_bind_eq_ok haccepted
      obtain ⟨⟨answer, _⟩, hdeclared, rfl⟩ := exists_of_map_eq_ok hnext
      exact ih _ (hearlier.declare hdeclared) haccepted
  exact hfold declarations empty .empty haccepted

theorem exists_of_isOk {Failure First : Type} {outcome : Except Failure First}
    (hok : outcome.isOk = true) : ∃ answer, outcome = .ok answer := by
  cases outcome with
  | error reason => cases hok
  | ok answer => exact ⟨answer, rfl⟩

theorem exists_of_map_toOption {Failure First Second : Type} {outcome : Except Failure First}
    {see : First → Second} {seen : Second} (hseen : outcome.toOption.map see = some seen) :
    ∃ answer, outcome = .ok answer ∧ see answer = seen := by
  cases outcome with
  | error reason => cases hseen
  | ok answer => exact ⟨answer, rfl, Option.some.inj hseen⟩

theorem eq_error_of_map {Failure First Second : Type} {outcome : Except Failure First}
    {see : First → Second} {reason : Failure} (hfails : outcome.map see = .error reason) :
    outcome = .error reason := by
  cases outcome with
  | error other => exact congrArg Except.error (Except.error.inj hfails)
  | ok answer => cases hfails

/-- What declarations make is built if all of them are accepted and it is complete. -/
theorem built_of_declareAll {declarations : List Declaration}
    (haccepted : (declareAll declarations).isOk = true)
    (hcomplete : ((declareAll declarations).toOption.getD empty).complete.isOk = true) :
    Built ((declareAll declarations).toOption.getD empty) := by
  obtain ⟨declared, haccepted⟩ := exists_of_isOk haccepted
  obtain ⟨catalog, hcomplete⟩ := exists_of_isOk hcomplete
  rw [haccepted] at hcomplete ⊢
  obtain ⟨hsame, -⟩ := complete_eq_ok hcomplete
  exact ⟨declared, declared_of_declareAll haccepted, hsame ▸ hcomplete⟩

/-- A bench whose two devices are to ping each other, and a rack with a switch
between its outer devices. -/
def pingDeclarations : List Declaration :=
  let lan := Connection.ofTags (TagSet.ofList ["lan"])
  let lanOrUart : Connection :=
    ⟨.either (.link (TagSet.ofList ["lan"])) (.link (TagSet.ofList ["uart"])) [], none⟩
  [.container .scenario "Bench", .device ⟨0⟩ "Tester", .device ⟨0⟩ "Target",
    .container .setup "Rack", .device ⟨1⟩ "Host", .device ⟨1⟩ "Switch", .device ⟨1⟩ "Board",
    .capability "Ping", .logicalDevice ⟨0⟩ "peer", .require ⟨0⟩ lan,
    .attach (.device ⟨0⟩) "ping" ⟨0⟩, .bind ⟨0⟩ "peer" ⟨1⟩,
    .connect ⟨⟨0⟩, "n0"⟩ ⟨⟨1⟩, "n0"⟩ lanOrUart false,
    .connect ⟨⟨2⟩, "n0"⟩ ⟨⟨3⟩, "n0"⟩ lan false,
    .connect ⟨⟨3⟩, "n0"⟩ ⟨⟨4⟩, "n0"⟩ lan false]

def pingLab : Catalog := (declareAll pingDeclarations).toOption.getD empty

theorem built_pingLab : Built pingLab := by
  apply built_of_declareAll
  · decide +kernel
  · decide +kernel

end LabMatch.Catalog
