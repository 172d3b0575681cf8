import LabMatch.Proofs.DeclarationFile.Loading

/-!
# Loading capability types

What loading the entries of capability types adds to the outline of a catalogue.
-/

namespace LabMatch.Catalog

open DeclarationFile

variable {catalog next : Catalog} {home name owner site : String} {capability : CapabilityId}

/-! ## Logical devices -/

def loadRequirement (id : LogicalDeviceId) (site : String) (catalog : Catalog)
    (entry : AttachEntry) : Except LoadError Catalog := do
  let attached ← catalog.capabilityAt site entry.capability
  let (_, catalog) ← declaredAt site (catalog.attach (.logicalDevice id) entry.attr attached)
  return catalog

/-- Sets what a logical device explicitly asks for, if anything. -/
def withRequirement (catalog : Catalog) (id : LogicalDeviceId) (site : String) :
    Option String → Except LoadError Catalog
  | some text => do declaredAt site (catalog.require id (← connectionAt site text))
  | none => .ok catalog

theorem loadLogicalDevice_eq (capability : CapabilityId) (owner : String) (catalog : Catalog)
    (entry : LogicalDeviceEntry) :
    loadLogicalDevice capability owner catalog entry = (do
      let site := owner ++ "." ++ entry.name
      let (id, catalog) ← declaredAt site (catalog.declareLogicalDevice capability entry.name)
      let catalog ← catalog.withParent entry.parent fun path => do
        declaredAt site (catalog.extendLogicalDevice id (← catalog.logicalDeviceAt site path))
      let catalog ← catalog.withRequirement id site entry.requirement
      entry.attachments.foldlM (loadRequirement id site) catalog) := by
  rw [loadLogicalDevice]
  cases entry.requirement with
  | none => rfl
  | some text =>
    simp only [withRequirement, bind_assoc]
    rfl

theorem loadRequirement_outline (hdeclared : Declared catalog) {id : LogicalDeviceId}
    {entry : AttachEntry} (hhome : catalog.NamesCapability owner capability)
    (hid : catalog.NamesLogicalDevice capability name id)
    (hloaded : loadRequirement id site catalog entry = .ok next) :
    catalog.Continues next ∧ ∃ made,
      next.outline =
        { catalog.outline with attachments := catalog.outline.attachments ++ [made] } ∧
      DescribesAttachment next (.logicalDevice owner name, entry) made := by
  obtain ⟨attached, hattached, hloaded⟩ := exists_of_bind_eq_ok hloaded
  obtain ⟨⟨made, after⟩, hmade, hsame⟩ := exists_of_bind_eq_ok hloaded
  cases hsame
  rw [hdeclared.capabilityAt_eq_ok_iff] at hattached
  obtain ⟨hcontinues, -, houtline⟩ :=
    outline_of_introduced (.attach (.logicalDevice id) entry.attr attached) rfl rfl hmade
  exact ⟨hcontinues, _, houtline, .logicalDevice (hhome.later hcontinues) (hid.later hcontinues)
    ⟨rfl, rfl, hattached.later hcontinues⟩ rfl⟩

/-- What a logical device asks for is attached to it in the order of the entries. -/
theorem loadRequirements_outline (hdeclared : Declared catalog) {id : LogicalDeviceId}
    {entries : List AttachEntry} (hhome : catalog.NamesCapability owner capability)
    (hid : catalog.NamesLogicalDevice capability name id)
    (hloaded : entries.foldlM (loadRequirement id site) catalog = .ok next) :
    catalog.Continues next ∧ ∃ made,
      next.outline =
        { catalog.outline with attachments := catalog.outline.attachments ++ made } ∧
      List.Forall₂ (DescribesAttachment next)
        (entries.map fun entry => (.logicalDevice owner name, entry)) made := by
  simp only [List.forall₂_map_left_iff]
  refine foldlM_outline
    (fun outline made => { outline with attachments := outline.attachments ++ made })
    (fun catalog entry => DescribesAttachment catalog (.logicalDevice owner name, entry))
    (by simp) (by simp) (fun hdescribes hcontinues => hdescribes.later hcontinues) ?_ hloaded
  intro middle next entry hearlier haccepted
  exact loadRequirement_outline (hdeclared.continues hearlier) (hhome.later hearlier)
    (hid.later hearlier) haccepted

theorem withRequirement_outline {id : LogicalDeviceId} {requirement : Option String}
    (hloaded : catalog.withRequirement id site requirement = .ok next) :
    catalog.Continues next ∧ ∃ connection,
      next.outline = { catalog.outline with
        logicalDevices := catalog.outline.logicalDevices.modify id.index fun entry =>
          { entry with requirement := connection.or entry.requirement } } ∧
      Option.Rel (fun text connection => Connection.parse text = .ok connection)
        requirement connection := by
  cases requirement with
  | none =>
    cases hloaded
    exact ⟨.refl, none, by simp [modify_of_same], .none⟩
  | some text =>
    obtain ⟨connection, hread, haccepted⟩ := exists_of_bind_eq_ok hloaded
    obtain ⟨hcontinues, houtline⟩ := outline_of_changed (.require id connection) rfl haccepted
    exact ⟨hcontinues, some connection, houtline, .some (of_connectionAt_eq_ok hread)⟩

theorem extendLogicalDevice_outline (hdeclared : Declared catalog) {id : LogicalDeviceId}
    {path : Option String}
    (hloaded : (catalog.withParent path fun path => do
      declaredAt site (catalog.extendLogicalDevice id (← catalog.logicalDeviceAt site path))) =
        .ok next) :
    catalog.Continues next ∧ ∃ parents,
      next.outline = { catalog.outline with
        logicalDevices := catalog.outline.logicalDevices.modify id.index fun entry =>
          { entry with parents := entry.parents ++ parents } } ∧
      List.Forall₂ next.LeadsToLogicalDevice path.toList parents := by
  refine withParent_outline
    (fun outline (parents : List LogicalDeviceId) => { outline with
      logicalDevices := outline.logicalDevices.modify id.index fun entry =>
        { entry with parents := entry.parents ++ parents } })
    LeadsToLogicalDevice (by simp [modify_of_same]) ?_ hloaded
  intro path haccepted
  obtain ⟨parent, hparent, haccepted⟩ := exists_of_bind_eq_ok haccepted
  rw [hdeclared.logicalDeviceAt_eq_ok_iff] at hparent
  obtain ⟨hcontinues, houtline⟩ :=
    outline_of_changed (.extendLogicalDevice id parent) rfl haccepted
  exact ⟨hcontinues, parent, houtline, hparent.later hcontinues⟩

/-- Loading a logical device adds it and what it asks for, as its entry says. -/
theorem loadLogicalDevice_outline (hdeclared : Declared catalog)
    (hhome : catalog.NamesCapability owner capability) {entry : LogicalDeviceEntry}
    (hloaded : loadLogicalDevice capability owner catalog entry = .ok next) :
    catalog.Continues next ∧ ∃ made attachments,
      next.outline = { catalog.outline with
        logicalDevices := catalog.outline.logicalDevices ++ [made]
        attachments := catalog.outline.attachments ++ attachments } ∧
      entry.Describes next owner made ∧
      List.Forall₂ (DescribesAttachment next)
        (entry.attachments.map fun attachment => (.logicalDevice owner entry.name, attachment))
        attachments := by
  rw [loadLogicalDevice_eq] at hloaded
  obtain ⟨⟨id, named⟩, hnamed, hloaded⟩ := exists_of_bind_eq_ok hloaded
  obtain ⟨extended, hextended, hloaded⟩ := exists_of_bind_eq_ok hloaded
  obtain ⟨required, hrequired, hloaded⟩ := exists_of_bind_eq_ok hloaded
  obtain ⟨hnamedLater, rfl, hnamedOutline⟩ :=
    outline_of_introduced (.logicalDevice capability entry.name) rfl rfl hnamed
  have hmade : named.outline.logicalDevices[catalog.outline.count .logicalDevice]? =
      some ⟨entry.name, capability, [], [], none⟩ := by
    rw [hnamedOutline]
    exact List.getElem?_concat_length
  have hid := namesLogicalDevice_of_outline hmade
  obtain ⟨hextendedLater, parents, hextendedOutline, hparents⟩ :=
    extendLogicalDevice_outline (hdeclared.continues hnamedLater) hextended
  obtain ⟨hrequiredLater, requirement, hrequiredOutline, hrequirement⟩ :=
    withRequirement_outline hrequired
  have hearlier := (hnamedLater.trans hextendedLater).trans hrequiredLater
  obtain ⟨hlater, attachments, houtline, hattachments⟩ := loadRequirements_outline
    (hdeclared.continues hearlier) (hhome.later hearlier)
    (hid.later (hextendedLater.trans hrequiredLater)) hloaded
  refine ⟨hearlier.trans hlater, ⟨entry.name, capability, parents, [], requirement⟩, attachments,
    ?_, ?_, hattachments⟩
  · rw [houtline, hrequiredOutline, hextendedOutline, hnamedOutline]
    simp [Declaration.effect, Changes.apply, Change.apply, count, modify_last]
  · exact ⟨rfl, hhome.later (hearlier.trans hlater),
      hparents.imp fun _ _ hleads => hleads.later (hrequiredLater.trans hlater), hrequirement⟩

/-! ## Variants -/

def addVariants (made : List (String × Variant)) (methods : List Method) : List Method :=
  made.foldl (fun methods variant => addVariant variant.1 variant.2 methods) methods

theorem eraseDups_concat (earlier : List String) (last : String) :
    (earlier ++ [last]).eraseDups =
      if last ∈ earlier then earlier.eraseDups else earlier.eraseDups ++ [last] := by
  rw [List.eraseDups_append]
  by_cases hknown : last ∈ earlier
  · simp [List.removeAll, hknown]
  · simp [List.removeAll, hknown, List.eraseDups_cons]

/-- The methods come in the order of their first variants. -/
theorem names_addVariants (made : List (String × Variant)) :
    (addVariants made []).map Method.name = (made.map Prod.fst).eraseDups := by
  induction made using List.reverseRecOn with
  | nil => rfl
  | append_singleton earlier variant ih =>
    rw [addVariants, List.foldl_append, List.foldl_cons, List.foldl_nil, names_addVariant,
      ← addVariants, ih, List.map_append, List.map_singleton, eraseDups_concat]
    simp only [List.mem_eraseDups]

theorem variantsOf_addVariant (capability : Capability) (method other : String)
    (variant : Variant) (methods : List Method) :
    { capability with methods := addVariant method variant methods }.variantsOf other =
      { capability with methods }.variantsOf other ++ if method = other then [variant] else [] := by
  induction methods with
  | nil =>
    by_cases hsame : method = other
    · simp [addVariant, Capability.variantsOf, hsame]
    · simp [addVariant, Capability.variantsOf, hsame]
  | cons first others ih =>
    rw [addVariant]
    by_cases hmethod : first.name = method
    · subst hmethod
      by_cases hother : first.name = other
      · simp [Capability.variantsOf, hother]
      · simp [Capability.variantsOf, hother]
    · rw [if_neg hmethod]
      by_cases hother : first.name = other
      · subst hother
        simp [Capability.variantsOf, Ne.symm hmethod]
      · simpa [Capability.variantsOf, hother] using ih

/-- A method has its variants in the order in which they were added. -/
theorem variantsOf_addVariants (capability : Capability) (method : String)
    (made : List (String × Variant)) :
    { capability with methods := addVariants made [] }.variantsOf method =
      (made.filter fun variant => variant.1 == method).map Prod.snd := by
  induction made using List.reverseRecOn with
  | nil => rfl
  | append_singleton earlier variant ih =>
    rw [addVariants, List.foldl_append, List.foldl_cons, List.foldl_nil, ← addVariants,
      variantsOf_addVariant, ih, List.filter_append, List.map_append, List.filter_cons,
      List.filter_nil]
    by_cases hsame : variant.1 = method
    · simp [hsame]
    · simp [hsame]

/-- Loading a variant adds it to its capability type and changes nothing else. -/
theorem loadVariant_outline {entry : VariantEntry}
    (hloaded : loadVariant capability owner catalog entry = .ok next) :
    catalog.Continues next ∧ ∃ made,
      next.outline = { catalog.outline with
        capabilities := catalog.outline.capabilities.modify capability.index fun capability =>
          { capability with methods := addVariant entry.method made capability.methods } } ∧
      entry.Describes made := by
  obtain ⟨conditions, hconditions, haccepted⟩ := exists_of_bind_eq_ok hloaded
  obtain ⟨hcontinues, houtline⟩ :=
    outline_of_changed (.variant capability entry.method entry.name conditions) rfl haccepted
  refine ⟨hcontinues, ⟨entry.name, conditions⟩, houtline, rfl, ?_⟩
  apply (forall₂_of_mapM_eq_ok hconditions).imp
  intro condition made hmade
  obtain ⟨connection, hread, hmade⟩ := exists_of_bind_eq_ok hmade
  cases hmade
  exact ⟨rfl, of_connectionAt_eq_ok hread⟩

/-- The variants of a capability type are added in the order of the entries. -/
theorem loadVariants_outline {entries : List VariantEntry}
    (hloaded : entries.foldlM (loadVariant capability owner) catalog = .ok next) :
    catalog.Continues next ∧ ∃ made,
      next.outline = { catalog.outline with
        capabilities := catalog.outline.capabilities.modify capability.index fun capability =>
          { capability with methods := addVariants made capability.methods } } ∧
      List.Forall₂ (fun entry made => made.1 = entry.method ∧ entry.Describes made.2)
        entries made := by
  refine foldlM_outline
    (fun outline (made : List (String × Variant)) => { outline with
      capabilities := outline.capabilities.modify capability.index fun capability =>
        { capability with methods := addVariants made capability.methods } })
    (fun _ (entry : VariantEntry) made => made.1 = entry.method ∧ entry.Describes made.2)
    (by simp [addVariants, modify_of_same]) ?_ (fun hmade _ => hmade) ?_ hloaded
  · intro outline made others
    simp only [List.modify_modify_eq]
    rfl
  · intro middle next entry _ haccepted
    obtain ⟨hcontinues, made, houtline, hdescribes⟩ := loadVariant_outline haccepted
    exact ⟨hcontinues, (entry.method, made), houtline, rfl, hdescribes⟩

/-! ## Capability types -/

/-- Declares what a capability type extends. -/
theorem extendCapability_outline (hdeclared : Declared catalog) {path : Option String}
    (hloaded : (catalog.withParent path fun name => do
      let parent ← catalog.capabilityAt site name
      declaredAt site (catalog.extendCapability capability parent)) = .ok next) :
    catalog.Continues next ∧ ∃ parents,
      next.outline = { catalog.outline with
        capabilities := catalog.outline.capabilities.modify capability.index fun entry =>
          { entry with parents := entry.parents ++ parents } } ∧
      List.Forall₂ next.NamesCapability path.toList parents := by
  refine withParent_outline
    (fun outline (parents : List CapabilityId) => { outline with
      capabilities := outline.capabilities.modify capability.index fun entry =>
        { entry with parents := entry.parents ++ parents } })
    NamesCapability (by simp [modify_of_same]) ?_ hloaded
  intro name haccepted
  obtain ⟨parent, hparent, haccepted⟩ := exists_of_bind_eq_ok haccepted
  rw [hdeclared.capabilityAt_eq_ok_iff] at hparent
  obtain ⟨hcontinues, houtline⟩ :=
    outline_of_changed (.extendCapability capability parent) rfl haccepted
  exact ⟨hcontinues, parent, houtline, hparent.later hcontinues⟩

/-- The logical devices of a capability type are declared in the order of the entries. -/
theorem loadLogicalDevices_outline (hdeclared : Declared catalog)
    (hhome : catalog.NamesCapability owner capability) {entries : List LogicalDeviceEntry}
    (hloaded : entries.foldlM (loadLogicalDevice capability owner) catalog = .ok next) :
    catalog.Continues next ∧ ∃ made attachments,
      next.outline = { catalog.outline with
        logicalDevices := catalog.outline.logicalDevices ++ made
        attachments := catalog.outline.attachments ++ attachments } ∧
      List.Forall₂ (LogicalDeviceEntry.Describes next owner) entries made ∧
      List.Forall₂ (DescribesAttachment next)
        (entries.flatMap fun entry => entry.attachments.map fun attachment =>
          (.logicalDevice owner entry.name, attachment))
        attachments := by
  have hmade := foldlM_outline
    (fun outline (made : List (LogicalDevice × List Attachment)) => { outline with
      logicalDevices := outline.logicalDevices ++ made.map Prod.fst
      attachments := outline.attachments ++ made.flatMap Prod.snd })
    (fun catalog (entry : LogicalDeviceEntry) made => entry.Describes catalog owner made.1 ∧
      List.Forall₂ (DescribesAttachment catalog)
        (entry.attachments.map fun attachment => (.logicalDevice owner entry.name, attachment))
        made.2)
    (by simp) (by simp)
    (fun hfits hcontinues => ⟨hfits.1.later hcontinues,
      hfits.2.imp fun _ _ hdescribes => hdescribes.later hcontinues⟩)
    (fun hmiddle haccepted => by
      obtain ⟨hcontinues, made, attachments, houtline, hdescribes, hattachments⟩ :=
        loadLogicalDevice_outline (hdeclared.continues hmiddle) (hhome.later hmiddle) haccepted
      exact ⟨hcontinues, (made, attachments), by simpa using houtline, hdescribes, hattachments⟩)
    hloaded
  obtain ⟨hcontinues, made, houtline, hfits⟩ := hmade
  refine ⟨hcontinues, _, _, houtline, ?_, ?_⟩
  · rw [List.forall₂_map_right_iff]
    exact hfits.imp fun _ _ hboth => hboth.1
  · exact List.rel_flatMap hfits fun _ _ hboth => hboth.2

/-- A capability type is described once its parents and its variants are. -/
theorem describes_of_parents_of_variants {entry : CapabilityEntry} {parents : List CapabilityId}
    {variants : List (String × Variant)}
    (hparents : List.Forall₂ catalog.NamesCapability entry.parent.toList parents)
    (hvariants : List.Forall₂ (fun (entry : VariantEntry) made =>
      made.1 = entry.method ∧ entry.Describes made.2) entry.variants variants) :
    entry.Describes catalog ⟨entry.name, parents, [], addVariants variants []⟩ where
  name := rfl
  parents := hparents
  methods := by
    have hnames : List.Forall₂ (· = ·) (variants.map Prod.fst)
        (entry.variants.map VariantEntry.method) := by
      rw [List.forall₂_map_left_iff, List.forall₂_map_right_iff]
      exact hvariants.flip.imp fun _ _ hmade => hmade.1
    rw [List.forall₂_eq_eq_eq] at hnames
    rw [names_addVariants, hnames]
  variants method := by
    rw [variantsOf_addVariants ⟨entry.name, parents, [], []⟩, List.forall₂_map_right_iff]
    have hfiltered := List.rel_filter (p := fun variant => variant.method == method)
      (q := fun made => made.1 == method) (fun _ _ hmade => by simp [hmade.1]) hvariants
    exact hfiltered.imp fun _ _ hmade => hmade.2

/-- Filling in a capability type changes it as the entry says, and declares its logical
devices. -/
theorem loadCapability_outline (hdeclared : Declared catalog) {entry : CapabilityEntry}
    (hloaded : loadCapability catalog entry = .ok next) :
    ∃ id, catalog.NamesCapability entry.name id ∧ catalog.Continues next ∧
      ∃ change logicalDevices attachments,
        next.outline = { catalog.outline with
          capabilities := catalog.outline.capabilities.modify id.index change
          logicalDevices := catalog.outline.logicalDevices ++ logicalDevices
          attachments := catalog.outline.attachments ++ attachments } ∧
        entry.Describes next (change ⟨entry.name, [], [], []⟩) ∧
        List.Forall₂ (LogicalDeviceEntry.Describes next entry.name) entry.logicalDevices
          logicalDevices ∧
        List.Forall₂ (DescribesAttachment next) entry.attachments attachments := by
  obtain ⟨id, hid, hloaded⟩ := exists_of_bind_eq_ok hloaded
  obtain ⟨extended, hextended, hloaded⟩ := exists_of_bind_eq_ok hloaded
  obtain ⟨peopled, hpeopled, hloaded⟩ := exists_of_bind_eq_ok hloaded
  rw [hdeclared.capabilityAt_eq_ok_iff] at hid
  obtain ⟨hextendedLater, parents, hextendedOutline, hparents⟩ :=
    extendCapability_outline hdeclared hextended
  obtain ⟨hpeopledLater, logicalDevices, attachments, hpeopledOutline, hlogicalDevices,
    hattachments⟩ := loadLogicalDevices_outline (hdeclared.continues hextendedLater)
      (hid.later hextendedLater) hpeopled
  obtain ⟨hlater, variants, houtline, hvariants⟩ := loadVariants_outline hloaded
  have hrest := hpeopledLater.trans hlater
  refine ⟨id, hid, hextendedLater.trans hrest,
    fun capability => { capability with
      parents := capability.parents ++ parents
      methods := addVariants variants capability.methods },
    logicalDevices, attachments, ?_, ?_, ?_, ?_⟩
  · rw [houtline, hpeopledOutline, hextendedOutline]
    simp only [List.modify_modify_eq]
    rfl
  · exact describes_of_parents_of_variants
      (hparents.imp fun _ _ hnames => hnames.later hrest) hvariants
  · exact hlogicalDevices.imp fun _ _ hdescribes => hdescribes.later hlater
  · exact hattachments.imp fun _ _ hdescribes => hdescribes.later hlater

/-! ## All capability types -/

def blankCapability (entry : CapabilityEntry) : Capability := ⟨entry.name, [], [], []⟩

/-- All capability types are declared before any of them is filled in. -/
theorem loadCapabilityNames_outline {entries : List CapabilityEntry}
    (hloaded : entries.foldlM loadCapabilityName catalog = .ok next) :
    catalog.Continues next ∧ next.outline = { catalog.outline with
      capabilities := catalog.outline.capabilities ++ entries.map blankCapability } := by
  have hmade := foldlM_outline
    (fun outline (made : List Capability) =>
      { outline with capabilities := outline.capabilities ++ made })
    (fun _ entry made => blankCapability entry = made)
    (by simp) (by simp) (fun hsame _ => hsame)
    (fun _ haccepted => by
      obtain ⟨⟨id, made⟩, hmade, hsame⟩ := exists_of_bind_eq_ok haccepted
      cases hsame
      obtain ⟨hcontinues, -, houtline⟩ := outline_of_introduced (.capability _) rfl rfl hmade
      exact ⟨hcontinues, _, houtline, rfl⟩)
    hloaded
  obtain ⟨hcontinues, made, houtline, hsame⟩ := hmade
  rw [← List.forall₂_map_left_iff, List.forall₂_eq_eq_eq] at hsame
  exact ⟨hcontinues, hsame ▸ houtline⟩

/-- The blank capability types at the end are filled in, one after the other. -/
theorem loadCapabilities_outline (hdeclared : Declared catalog) {entries : List CapabilityEntry}
    {front : List Capability}
    (hblank : catalog.outline.capabilities = front ++ entries.map blankCapability)
    (hloaded : entries.foldlM loadCapability catalog = .ok next) :
    catalog.Continues next ∧ ∃ capabilities logicalDevices attachments,
      next.outline = { catalog.outline with
        capabilities := front ++ capabilities
        logicalDevices := catalog.outline.logicalDevices ++ logicalDevices
        attachments := catalog.outline.attachments ++ attachments } ∧
      List.Forall₂ (CapabilityEntry.Describes next) entries capabilities ∧
      List.Forall₂ (fun entry => LogicalDeviceEntry.Describes next entry.1 entry.2)
        (entries.flatMap CapabilityEntry.ownedLogicalDevices) logicalDevices ∧
      List.Forall₂ (DescribesAttachment next) (entries.flatMap CapabilityEntry.attachments)
        attachments := by
  induction entries generalizing catalog front with
  | nil =>
    cases hloaded
    rw [List.map_nil, List.append_nil] at hblank
    exact ⟨.refl, [], [], [], by simp [← hblank], .nil, .nil, .nil⟩
  | cons entry others ih =>
    rw [List.foldlM_cons] at hloaded
    obtain ⟨middle, hfirst, hloaded⟩ := exists_of_bind_eq_ok hloaded
    obtain ⟨id, hid, hmiddle, change, logicalDevices, attachments, houtline, hdescribes,
      hlogicalDevices, hattachments⟩ := loadCapability_outline hdeclared hfirst
    have hposition : catalog.outline.capabilities[front.length]? =
        some (blankCapability entry) := by
      rw [hblank]
      simp
    obtain rfl : id = ⟨front.length⟩ :=
      hdeclared.namesUnique.capabilities hid (namesCapability_of_outline hposition)
    have hfilled : middle.outline.capabilities =
        (front ++ [change (blankCapability entry)]) ++ others.map blankCapability := by
      rw [houtline]
      simp [hblank, modify_middle]
    obtain ⟨hlater, restCapabilities, restLogicalDevices, restAttachments, hrestOutline,
      hrestCapabilities, hrestLogicalDevices, hrestAttachments⟩ :=
        ih (hdeclared.continues hmiddle) hfilled hloaded
    refine ⟨hmiddle.trans hlater, change (blankCapability entry) :: restCapabilities,
      logicalDevices ++ restLogicalDevices, attachments ++ restAttachments, ?_, ?_, ?_, ?_⟩
    · rw [hrestOutline, houtline]
      simp
    · exact .cons (hdescribes.later hlater) hrestCapabilities
    · rw [List.flatMap_cons]
      apply List.rel_append _ hrestLogicalDevices
      rw [CapabilityEntry.ownedLogicalDevices, List.forall₂_map_left_iff]
      exact hlogicalDevices.imp fun _ _ hone => hone.later hlater
    · rw [List.flatMap_cons]
      apply List.rel_append _ hrestAttachments
      exact hattachments.imp fun _ _ hone => hone.later hlater

/-- Both passes over the capability types declare them from the start, and nothing else. -/
theorem loadCapabilityTypes_outline {entries : List CapabilityEntry} {named : Catalog}
    (hnamed : entries.foldlM loadCapabilityName empty = .ok named)
    (hloaded : entries.foldlM loadCapability named = .ok next) :
    Declared next ∧ ∃ capabilities logicalDevices attachments,
      next.outline = ⟨[], [], attachments, capabilities, logicalDevices⟩ ∧
      List.Forall₂ (CapabilityEntry.Describes next) entries capabilities ∧
      List.Forall₂ (fun entry => LogicalDeviceEntry.Describes next entry.1 entry.2)
        (entries.flatMap CapabilityEntry.ownedLogicalDevices) logicalDevices ∧
      List.Forall₂ (DescribesAttachment next) (entries.flatMap CapabilityEntry.attachments)
        attachments := by
  obtain ⟨hnamedLater, hnamedOutline⟩ := loadCapabilityNames_outline hnamed
  have hdeclared := Declared.empty.continues hnamedLater
  have hblank : named.outline.capabilities = [] ++ entries.map blankCapability := by
    rw [hnamedOutline]
    rfl
  obtain ⟨hlater, capabilities, logicalDevices, attachments, houtline, hdescribed⟩ :=
    loadCapabilities_outline hdeclared hblank hloaded
  refine ⟨hdeclared.continues hlater, capabilities, logicalDevices, attachments, ?_, hdescribed⟩
  rw [houtline, hnamedOutline]
  rfl

end LabMatch.Catalog
