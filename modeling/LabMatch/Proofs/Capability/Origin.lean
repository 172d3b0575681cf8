import LabMatch.Proofs.Capability.Requirement
import LabMatch.Proofs.Session.Transparency

/-!
# Where requirements come from

Requirements are resolved type by type: a type takes its own explicit requirement, or else
what its parent resolved, or else makes one up.  Unrolled along the ancestry, a requirement
is the nearest explicit one among the types on which the logical device is visible.  If there
is none, it was made up on the topmost of these types, from the variants declared there; a
type leaves a hint exactly for what it made up.
-/

namespace LabMatch

/-- The connections that the variant asks for towards the logical device, in declared order. -/
def Variant.askedOf (variant : Variant) (name : String) : List Connection :=
  (variant.conditions.filter fun condition => condition.logicalDevice = name).map
    Condition.connection

namespace Catalog

variable {catalog : Catalog} {capability parent type : CapabilityId} {name : String}
  {connection : Connection} {inherited requirements : Requirements} {hints : List Warning}

/-! ## The closed form -/

def sees (catalog : Catalog) (name : String) (capability : CapabilityId) : Bool :=
  ((catalog.visibleLogicalDevices capability).get? name).isSome

/-- The types of the ancestry on which the logical device is visible, the nearest first. -/
def seeing (catalog : Catalog) (name : String) (capability : CapabilityId) : List CapabilityId :=
  (catalog.ancestry capability).filter (catalog.sees name)

/-- The last one of them. -/
def topmost? (catalog : Catalog) (name : String) (capability : CapabilityId) :
    Option CapabilityId :=
  (catalog.seeing name capability).getLast?

/-- The explicit requirement of the logical device that is visible on the type. -/
def explicitRequirement? (catalog : Catalog) (name : String) (capability : CapabilityId) :
    Option Connection :=
  ((catalog.visibleLogicalDevices capability).get? name).bind fun id =>
    (catalog.logicalDevice id).requirement

def askedOf (catalog : Catalog) (name : String) (capability : CapabilityId) : List Connection :=
  (catalog.capability capability).methods.flatMap fun method =>
    method.variants.flatMap fun variant => variant.askedOf name

/-- The connection is any of those that the conditions declared on the type ask for towards the
logical device, or the bare one if no condition mentions it. -/
def Accepts (catalog : Catalog) (name : String) (capability : CapabilityId)
    (connection : Connection) : Prop :=
  match catalog.askedOf name capability with
  | [] => connection = .bare
  | asked => Connection.anyOf asked = .ok connection

/-- The nearest explicit requirement, or what the topmost type accepts if there is none. -/
def Requires (catalog : Catalog) (name : String) (capability : CapabilityId)
    (connection : Connection) : Prop :=
  let explicit := (catalog.seeing name capability).findSome? (catalog.explicitRequirement? name)
  explicit = some connection ∨
    explicit = none ∧ ∃ top, catalog.topmost? name capability = some top ∧
      catalog.Accepts name top connection

/-- The type is the topmost one to see the logical device, and has no explicit requirement
for it. -/
def MakesUp (catalog : Catalog) (name : String) (capability : CapabilityId) : Prop :=
  catalog.topmost? name capability = some capability ∧
    catalog.explicitRequirement? name capability = none

/-! ## One step up the ancestry -/

theorem sees_iff : catalog.sees name capability ↔
    ∃ type ∈ catalog.ancestry capability,
      ∃ id ∈ (catalog.capability type).logicalDevices, (catalog.logicalDevice id).name = name := by
  simp only [sees, visibleLogicalDevices, isSome_get?_nearest_iff, List.mem_map,
    exists_exists_and_eq_and]

theorem sees_of_mem_ancestry (htype : type ∈ catalog.ancestry capability)
    (hsees : catalog.sees name type) : catalog.sees name capability := by
  obtain ⟨top, htop, hdeclared⟩ := sees_iff.mp hsees
  exact sees_iff.mpr ⟨top, trans_mem_ancestry htype htop, hdeclared⟩

theorem sees_of_parent (hsees : catalog.sees name parent)
    (hparent : catalog.parent? capability = some parent) : catalog.sees name capability :=
  sees_of_mem_ancestry (mem_ancestry_of_parent hparent (mem_ancestry_self parent)) hsees

theorem seeing_eq_nil_iff :
    catalog.seeing name capability = [] ↔ ¬ catalog.sees name capability := by
  rw [seeing, List.filter_eq_nil_iff]
  constructor
  · intro hnone
    exact hnone capability (mem_ancestry_self capability)
  · intro hunseen type htype hsees
    exact hunseen (sees_of_mem_ancestry htype hsees)

/-- What comes after a type that sees the logical device is what its parent has. -/
theorem seeing_eq (hsees : catalog.sees name capability) :
    catalog.seeing name capability =
      capability :: ((catalog.parent? capability).map (catalog.seeing name)).getD [] := by
  rw [seeing, ancestry_eq, List.filter_cons_of_pos hsees]
  cases catalog.parent? capability <;> rfl

theorem topmost?_eq_none_iff :
    catalog.topmost? name capability = none ↔ ¬ catalog.sees name capability := by
  rw [topmost?, List.getLast?_eq_none_iff, seeing_eq_nil_iff]

theorem of_topmost?_eq_some (htop : catalog.topmost? name capability = some type) :
    type ∈ catalog.ancestry capability ∧ catalog.sees name type :=
  List.mem_filter.mp (List.mem_of_getLast? htop)

/-- The topmost type is found from the parent, if the parent sees the logical device. -/
theorem topmost?_of_parent (hsees : catalog.sees name parent)
    (hparent : catalog.parent? capability = some parent) :
    catalog.topmost? name capability = catalog.topmost? name parent := by
  obtain ⟨top, htop⟩ := Option.ne_none_iff_exists'.mp
    (mt topmost?_eq_none_iff.mp (not_not_intro hsees))
  calc
    catalog.topmost? name capability =
        (capability :: catalog.seeing name parent).getLast? := by
      rw [topmost?, seeing_eq (sees_of_parent hsees hparent), hparent]
      rfl
    _ = some ((catalog.topmost? name parent).getD capability) := List.getLast?_cons
    _ = catalog.topmost? name parent := by rw [htop, Option.getD_some]

/-- A type is alone in seeing the logical device if its parent does not. -/
theorem seeing_eq_singleton (hsees : catalog.sees name capability)
    (hparent : ∀ parent, catalog.parent? capability = some parent → ¬ catalog.sees name parent) :
    catalog.seeing name capability = [capability] := by
  rw [seeing_eq hsees]
  cases habove : catalog.parent? capability with
  | none => rfl
  | some parent => simp [seeing_eq_nil_iff.mpr (hparent parent habove)]

/-- A type is the topmost one for itself exactly if its parent does not see the logical device. -/
theorem topmost?_eq_self_iff : catalog.topmost? name capability = some capability ↔
    catalog.sees name capability ∧
      ∀ parent, catalog.parent? capability = some parent → ¬ catalog.sees name parent := by
  constructor
  · intro htop
    constructor
    · by_contra hunseen
      rw [topmost?_eq_none_iff.mpr hunseen] at htop
      cases htop
    · intro parent hparent hsees
      rw [topmost?_of_parent hsees hparent] at htop
      have hle := index_le_of_mem_ancestry (of_topmost?_eq_some htop).1
      exact Nat.not_lt_of_le hle (parent?_lt hparent)
  · intro htop
    rw [topmost?, seeing_eq_singleton htop.1 htop.2]
    rfl

/-- Whether a type is the topmost one does not depend on where the way up begins. -/
theorem topmost?_eq_some_iff_of_mem_ancestry (htype : type ∈ catalog.ancestry capability) :
    catalog.topmost? name capability = some type ↔ catalog.topmost? name type = some type := by
  induction capability using catalog.parent_induction with
  | step capability ih =>
    rcases mem_ancestry_cases htype with rfl | ⟨parent, hparent, hfurther⟩
    · exact Iff.rfl
    by_cases hsees : catalog.sees name parent
    · rw [topmost?_of_parent hsees hparent, ih parent hparent hfurther]
    · have hunseen : ¬ catalog.sees name type :=
        fun htypeSees => hsees (sees_of_mem_ancestry hfurther htypeSees)
      rw [topmost?_eq_none_iff.mpr hunseen]
      simp only [reduceCtorEq, iff_false]
      exact fun htop => hunseen (of_topmost?_eq_some htop).2

theorem requires_of_explicit {explicit : Connection}
    (hexplicit : catalog.explicitRequirement? name capability = some explicit) :
    catalog.Requires name capability connection ↔ explicit = connection := by
  have hsees : catalog.sees name capability := by
    obtain ⟨id, hid, -⟩ := Option.bind_eq_some_iff.mp hexplicit
    exact Option.isSome_of_eq_some hid
  simp [Requires, seeing_eq hsees, hexplicit]

/-- Without an explicit requirement, what the parent requires is required. -/
theorem requires_of_parent (hnone : catalog.explicitRequirement? name capability = none)
    (hparent : catalog.parent? capability = some parent) (hsees : catalog.sees name parent) :
    catalog.Requires name capability connection ↔ catalog.Requires name parent connection := by
  have hseeing := seeing_eq (sees_of_parent hsees hparent)
  have htop := topmost?_of_parent hsees hparent
  simp [Requires, hseeing, hparent, hnone, htop]

theorem MakesUp.requires_iff (hmakesUp : catalog.MakesUp name capability) :
    catalog.Requires name capability connection ↔ catalog.Accepts name capability connection := by
  obtain ⟨htop, hnone⟩ := hmakesUp
  obtain ⟨hsees, hparent⟩ := topmost?_eq_self_iff.mp htop
  simp [Requires, seeing_eq_singleton hsees hparent, hnone, htop]

theorem Requires.sees (hrequires : catalog.Requires name capability connection) :
    catalog.sees name capability := by
  by_contra hunseen
  have hnone := topmost?_eq_none_iff.mpr hunseen
  simp [Requires, seeing_eq_nil_iff.mpr hunseen, hnone] at hrequires

/-! ## Gathering the requirements of one type -/

/-- What variants accept is what the declared conditions ask for. -/
theorem acceptedConnections_eq_askedOf :
    catalog.acceptedConnections capability name = catalog.askedOf name capability := by
  rw [acceptedConnections, askedOf, List.flatMap_assoc, List.filterMap_flatMap]
  apply List.flatMap_congr
  intro method _
  rw [List.filterMap_flatMap]
  apply List.flatMap_congr
  intro variant _
  rw [Variant.askedOf, ← List.filterMap_eq_map, List.filterMap_filter]
  simp

/-- What a type accepts is the requirement that is made up for it. -/
theorem accepts_iff : catalog.Accepts name capability connection ↔
    ∃ message, catalog.madeUpRequirement capability name = .ok (connection, message) := by
  rw [Accepts, madeUpRequirement, acceptedConnections_eq_askedOf]
  cases catalog.askedOf name capability with
  | nil =>
    constructor
    · intro hbare
      exact ⟨_, by rw [hbare]⟩
    · intro hmade
      obtain ⟨message, hmade⟩ := hmade
      cases hmade
      rfl
  | cons first others =>
    constructor
    · intro hunion
      have hunion : Connection.anyOf (first :: others) = .ok connection := hunion
      dsimp only
      rw [hunion]
      exact ⟨_, rfl⟩
    · intro hmade
      obtain ⟨message, hmade⟩ := hmade
      obtain ⟨union, hunion, hmade⟩ := exists_of_bind_eq_ok hmade
      cases hmade
      exact hunion

/-- Each logical device gets its own requirement, and each hint stems from one of them. -/
theorem of_requirementsFor_eq_ok {logicalDevices : List (String × LogicalDeviceId)}
    (hnames : (logicalDevices.map Prod.fst).Nodup)
    (hgathered : catalog.requirementsFor capability inherited logicalDevices =
      .ok (requirements, hints)) :
    (∀ name connection, requirements.get? name = some connection ↔
      ∃ id hint, (name, id) ∈ logicalDevices ∧
        catalog.requirementFor capability inherited (name, id) = .ok (connection, hint)) ∧
    ∀ hint, hint ∈ hints ↔ ∃ entry ∈ logicalDevices, ∃ connection,
      catalog.requirementFor capability inherited entry = .ok (connection, some hint) := by
  rw [requirementsFor_eq] at hgathered
  induction logicalDevices using List.reverseRecOn generalizing requirements hints with
  | nil =>
    cases hgathered
    simp
  | append_singleton earlier last ih =>
    rw [List.map_append, List.nodup_append] at hnames
    obtain ⟨hearlier, -, hapart⟩ := hnames
    rw [List.foldlM_append] at hgathered
    obtain ⟨⟨before, hintsBefore⟩, hbefore, hgathered⟩ := exists_of_bind_eq_ok hgathered
    obtain ⟨hget, hmem⟩ := ih hearlier hbefore
    obtain ⟨after, hadded, hlast⟩ := exists_of_bind_eq_ok hgathered
    cases hlast
    obtain ⟨⟨made, madeHint⟩, hmade, hadded⟩ := exists_of_bind_eq_ok hadded
    cases hadded
    obtain ⟨lastName, lastId⟩ := last
    constructor
    · intro name connection
      have hunlisted : ∀ id, (lastName, id) ∉ earlier := by
        intro id hid
        exact hapart lastName (List.mem_map_of_mem hid) lastName (by simp) rfl
      rw [SortedMap.get?_insert]
      by_cases hsame : name = lastName
      · subst hsame
        simp [hunlisted, hmade]
      · simp [hsame, hget]
    · intro hint
      simp [hmem, or_and_right, exists_or, hmade]

/-! ## Unrolling the recursion -/

/-- What is inherited is what the parent requires, for the logical devices it sees. -/
structure Inherits (catalog : Catalog) (capability : CapabilityId) (inherited : Requirements) :
    Prop where
  requires : ∀ name connection, inherited.get? name = some connection ↔
    ∃ parent, catalog.parent? capability = some parent ∧ catalog.Requires name parent connection
  sees : ∀ name, (inherited.get? name).isSome ↔
    ∃ parent, catalog.parent? capability = some parent ∧ catalog.sees name parent

/-- The requirement towards a visible logical device is explicit, inherited or made up. -/
theorem Inherits.requirementFor_cases (hinherits : catalog.Inherits capability inherited)
    {id : LogicalDeviceId}
    (hid : (catalog.visibleLogicalDevices capability).get? name = some id) :
    (∃ explicit, catalog.explicitRequirement? name capability = some explicit ∧
      catalog.requirementFor capability inherited (name, id) = .ok (explicit, none)) ∨
    (∃ value, catalog.explicitRequirement? name capability = none ∧
      inherited.get? name = some value ∧
      catalog.requirementFor capability inherited (name, id) = .ok (value, none)) ∨
    (catalog.MakesUp name capability ∧ ∀ connection hint,
      catalog.requirementFor capability inherited (name, id) = .ok (connection, hint) ↔
        ∃ message, catalog.madeUpRequirement capability name = .ok (connection, message) ∧
          hint = some ⟨(catalog.capability capability).name ++ "." ++ name, message⟩) := by
  have hexplicit : catalog.explicitRequirement? name capability =
      (catalog.logicalDevice id).requirement := by
    rw [explicitRequirement?, hid, Option.bind_some]
  rw [hexplicit, requirementFor]
  cases hrequirement : (catalog.logicalDevice id).requirement with
  | some explicit => exact Or.inl ⟨explicit, rfl, rfl⟩
  | none =>
    cases hvalue : inherited.get? name with
    | some value => exact Or.inr (Or.inl ⟨value, rfl, rfl, rfl⟩)
    | none =>
      have htop : catalog.topmost? name capability = some capability := by
        rw [topmost?_eq_self_iff]
        refine ⟨Option.isSome_of_eq_some hid, fun parent hparent hsees => ?_⟩
        have hsome := (hinherits.sees name).mpr ⟨parent, hparent, hsees⟩
        rw [hvalue] at hsome
        cases hsome
      refine Or.inr (Or.inr ⟨⟨htop, hexplicit.trans hrequirement⟩, fun connection hint => ?_⟩)
      constructor
      · intro hfor
        dsimp only at hfor
        obtain ⟨made, hmade, hfor⟩ := exists_of_bind_eq_ok hfor
        cases hfor
        exact ⟨made.2, hmade, rfl⟩
      · intro hmade
        obtain ⟨message, hmade, rfl⟩ := hmade
        dsimp only
        rw [hmade]
        rfl

/-- The requirement of a visible logical device is found from those of the parent. -/
theorem Inherits.exists_requirementFor_iff (hinherits : catalog.Inherits capability inherited)
    {id : LogicalDeviceId}
    (hid : (catalog.visibleLogicalDevices capability).get? name = some id) :
    (∃ hint, catalog.requirementFor capability inherited (name, id) = .ok (connection, hint)) ↔
      catalog.Requires name capability connection := by
  rcases hinherits.requirementFor_cases hid with
    ⟨explicit, hexplicit, hfor⟩ | ⟨value, hnone, hvalue, hfor⟩ | ⟨hmakesUp, hfor⟩
  · rw [hfor, requires_of_explicit hexplicit]
    simp
  · obtain ⟨parent, hparent, hrequires⟩ := (hinherits.requires name value).mp hvalue
    have hinherited : inherited.get? name = some connection ↔
        catalog.Requires name parent connection := by
      rw [hinherits.requires]
      simp [hparent]
    rw [hfor, requires_of_parent hnone hparent hrequires.sees, ← hinherited, hvalue]
    simp
  · rw [hmakesUp.requires_iff, accepts_iff]
    simp only [hfor]
    constructor
    · intro hmade
      obtain ⟨hint, message, hmade, -⟩ := hmade
      exact ⟨message, hmade⟩
    · intro hmade
      obtain ⟨message, hmade⟩ := hmade
      exact ⟨_, message, hmade, rfl⟩

/-- A hint is left exactly where a requirement is made up. -/
theorem Inherits.exists_requirementFor_hint_iff (hinherits : catalog.Inherits capability inherited)
    {id : LogicalDeviceId}
    (hid : (catalog.visibleLogicalDevices capability).get? name = some id) {hint : Warning} :
    (∃ connection,
      catalog.requirementFor capability inherited (name, id) = .ok (connection, some hint)) ↔
      catalog.MakesUp name capability ∧ ∃ connection message,
        catalog.madeUpRequirement capability name = .ok (connection, message) ∧
        hint = ⟨(catalog.capability capability).name ++ "." ++ name, message⟩ := by
  rcases hinherits.requirementFor_cases hid with
    ⟨explicit, hexplicit, hfor⟩ | ⟨value, hnone, hvalue, hfor⟩ | ⟨hmakesUp, hfor⟩
  · rw [hfor]
    simp [MakesUp, hexplicit]
  · obtain ⟨parent, hparent, hrequires⟩ := (hinherits.requires name value).mp hvalue
    rw [hfor]
    simp only [Except.ok.injEq, Prod.mk.injEq, reduceCtorEq, and_false, exists_false, false_iff]
    intro hmakesUp
    exact (topmost?_eq_self_iff.mp hmakesUp.1.1).2 parent hparent hrequires.sees
  · simp only [hfor, Option.some.injEq, hmakesUp, true_and]

/-- The resolved requirements are those of the closed form, and the hints are those on what
is made up. -/
theorem requirements_closedForm (hresolved : catalog.requirements capability =
      .ok (requirements, hints)) :
    (∀ name connection, requirements.get? name = some connection ↔
      catalog.Requires name capability connection) ∧
    ∀ hint, hint ∈ hints ↔ ∃ name, catalog.MakesUp name capability ∧ ∃ connection message,
      catalog.madeUpRequirement capability name = .ok (connection, message) ∧
      hint = ⟨(catalog.capability capability).name ++ "." ++ name, message⟩ := by
  induction capability using catalog.parent_induction generalizing requirements hints with
  | step capability ih =>
    rw [requirements_eq] at hresolved
    obtain ⟨inherited, hinherited, hown⟩ := exists_of_bind_eq_ok hresolved
    have hinherits : catalog.Inherits capability inherited := by
      rw [inheritedRequirements] at hinherited
      cases hparent : catalog.parent? capability with
      | none =>
        rw [hparent] at hinherited
        cases hinherited
        constructor <;> simp [hparent]
      | some parent =>
        rw [hparent] at hinherited
        obtain ⟨⟨required, hintsAbove⟩, hrequired, rfl⟩ := exists_of_map_eq_ok hinherited
        obtain ⟨hrequires, -⟩ := ih parent hparent hrequired
        constructor
        · intro name connection
          simp [hparent, hrequires]
        · intro name
          simp [hparent, isSome_get?_requirements_iff hrequired, sees]
    obtain ⟨hget, hmem⟩ := of_requirementsFor_eq_ok
      (catalog.visibleLogicalDevices capability).nodup_keys (of_ownRequirements_eq_ok hown)
    constructor
    · intro name connection
      rw [hget]
      constructor
      · intro hfor
        obtain ⟨id, hint, hid, hfor⟩ := hfor
        have hid := (SortedMap.get?_eq_some_iff _ _ _).mpr hid
        exact (hinherits.exists_requirementFor_iff hid).mp ⟨hint, hfor⟩
      · intro hrequires
        obtain ⟨id, hid⟩ := Option.isSome_iff_exists.mp hrequires.sees
        obtain ⟨hint, hfor⟩ := (hinherits.exists_requirementFor_iff hid).mpr hrequires
        exact ⟨id, hint, (SortedMap.get?_eq_some_iff _ _ _).mp hid, hfor⟩
    · intro hint
      rw [hmem]
      constructor
      · intro hfor
        obtain ⟨⟨name, id⟩, hid, hfor⟩ := hfor
        have hid := (SortedMap.get?_eq_some_iff _ _ _).mpr hid
        exact ⟨name, (hinherits.exists_requirementFor_hint_iff hid).mp hfor⟩
      · intro hmade
        obtain ⟨name, hmade⟩ := hmade
        have hsees := (topmost?_eq_self_iff.mp hmade.1.1).1
        obtain ⟨id, hid⟩ := Option.isSome_iff_exists.mp hsees
        exact ⟨(name, id), (SortedMap.get?_eq_some_iff _ _ _).mp hid,
          (hinherits.exists_requirementFor_hint_iff hid).mpr hmade⟩

/-- A type has a hint of the logical device exactly if it makes its requirement up. -/
theorem exists_hint_iff (hconditions : catalog.UnanchoredConditions)
    (hresolved : catalog.requirements capability = .ok (requirements, hints)) :
    (∃ hint ∈ hints, hint.subject = (catalog.capability capability).name ++ "." ++ name) ↔
      catalog.MakesUp name capability := by
  obtain ⟨-, hmem⟩ := requirements_closedForm hresolved
  constructor
  · intro hhint
    obtain ⟨hint, hhint, hsubject⟩ := hhint
    obtain ⟨other, hmakesUp, connection, message, -, rfl⟩ := (hmem hint).mp hhint
    rw [← (String.append_right_inj _).mp hsubject]
    exact hmakesUp
  · intro hmakesUp
    obtain ⟨made, hmade⟩ := hconditions.madeUpRequirement_eq_ok capability name
    exact ⟨_, (hmem _).mpr ⟨name, hmakesUp, made.1, made.2, hmade, rfl⟩, rfl⟩

end Catalog

namespace Session

variable {catalog : Catalog}

/-- Once the requirements of a type are noted, so are those of everything it extends. -/
theorem Faithful.requirements_noted {session : Session} (hfaithful : Faithful catalog session)
    {capability type : CapabilityId}
    (hnoted : (session.capabilityNotes capability).requirements.isSome)
    (htype : type ∈ catalog.ancestry capability) :
    (session.capabilityNotes type).requirements.isSome := by
  induction capability using catalog.parent_induction with
  | step capability ih =>
    rcases Catalog.mem_ancestry_cases htype with rfl | ⟨parent, hparent, hfurther⟩
    · exact hnoted
    · exact ih parent hparent (hfaithful.inherited capability parent hnoted hparent) hfurther

/-- The requirements of a capability type in closed form.  Where no condition is anchored they
can be resolved, and there is one for each visible logical device: the nearest explicit one
along the ancestry, or else any of the connections that the variants of the topmost type
accept.  Afterwards each type of the ancestry has a hint of what it made up, as the topmost type
without an explicit requirement, and of nothing else; types without requirements have no
hints. -/
theorem requirementsOf_closedForm (hconditions : catalog.UnanchoredConditions)
    (questions : List Question) (capability : CapabilityId) :
    let run := (requirementsOf catalog capability).run.run (afterAsking catalog questions)
    (∃ requirements, run.1 = .ok requirements ∧
      (∀ name, (requirements.get? name).isSome ↔
        ((catalog.visibleLogicalDevices capability).get? name).isSome) ∧
      ∀ name connection, requirements.get? name = some connection ↔
        catalog.Requires name capability connection) ∧
    (∀ type ∈ catalog.ancestry capability, ∀ name,
      (∃ hint ∈ (run.2.capabilityNotes type).hints,
        hint.subject = (catalog.capability type).name ++ "." ++ name) ↔
      catalog.topmost? name capability = some type ∧
        catalog.explicitRequirement? name type = none) ∧
    ∀ type, (run.2.capabilityNotes type).requirements = none →
      (run.2.capabilityNotes type).hints = [] := by
  intro run
  have hsettled : Settles catalog _ capability run :=
    settles_requirementsOf capability ⟨faithful_afterAsking catalog questions, fun _ => rfl⟩
  obtain ⟨⟨requirements, hints⟩, hresolved⟩ := hconditions.requirements_eq_ok capability
  have hanswer : run.1 = .ok requirements := by
    rw [hsettled.answer, hresolved]
    rfl
  refine ⟨⟨requirements, hanswer, fun name => Catalog.isSome_get?_requirements_iff hresolved,
    (Catalog.requirements_closedForm hresolved).1⟩, ?_, hsettled.faithful.hints⟩
  intro type htype name
  have hnoted := Option.isSome_of_eq_some (hsettled.noted requirements hanswer)
  obtain ⟨noted, htypeNoted⟩ := Option.isSome_iff_exists.mp
    (hsettled.faithful.requirements_noted hnoted htype)
  rw [Catalog.exists_hint_iff hconditions (hsettled.faithful.requirements type noted htypeNoted),
    Catalog.MakesUp, Catalog.topmost?_eq_some_iff_of_mem_ancestry htype]

/-- Three capability types in a row.  The root requires `lan` of its bus and mentions its peer
in a variant; the middle one declares the peer again and mentions it in another variant; the
lowest one declares the bus again. -/
def meterDeclarations : List Declaration :=
  let lan := Connection.ofTags (TagSet.ofList ["lan"])
  let tcp := Connection.ofTags (TagSet.ofList ["tcp"])
  let usb := Connection.ofTags (TagSet.ofList ["usb"])
  [.capability "Meter", .logicalDevice ⟨0⟩ "bus", .require ⟨0⟩ lan, .logicalDevice ⟨0⟩ "peer",
    .variant ⟨0⟩ "read" "remote" [⟨"peer", tcp⟩],
    .capability "CableMeter", .extendCapability ⟨1⟩ ⟨0⟩, .logicalDevice ⟨1⟩ "peer",
    .extendLogicalDevice ⟨2⟩ ⟨1⟩, .variant ⟨1⟩ "read" "cable" [⟨"peer", usb⟩],
    .capability "DeskMeter", .extendCapability ⟨2⟩ ⟨1⟩, .logicalDevice ⟨2⟩ "bus",
    .extendLogicalDevice ⟨3⟩ ⟨0⟩]

def meterLab : Catalog := (Catalog.declareAll meterDeclarations).toOption.getD .empty

/-- The root makes up the requirement towards the peer from its own variant alone, and leaves
the hint.  The requirement towards the bus is the explicit one of the root. -/
theorem requirementsOf_closedForm_meterLab :
    let run := (requirementsOf meterLab ⟨2⟩).run.run (afterAsking meterLab [.requirements ⟨1⟩])
    meterLab.UnanchoredConditions ∧
    (∃ requirements, run.1 = .ok requirements ∧
      requirements.get? "peer" = some (.ofTags (TagSet.ofList ["tcp"])) ∧
      requirements.get? "bus" = some (.ofTags (TagSet.ofList ["lan"]))) ∧
    (∃ hint ∈ (run.2.capabilityNotes ⟨0⟩).hints, hint.subject = "Meter" ++ "." ++ "peer") ∧
    ¬ ∃ hint ∈ (run.2.capabilityNotes ⟨1⟩).hints, hint.subject = "CableMeter" ++ "." ++ "peer" := by
  have hconditions : meterLab.UnanchoredConditions := by
    unfold Catalog.UnanchoredConditions
    decide +kernel
  obtain ⟨⟨requirements, hanswer, -, hrequires⟩, hhints, -⟩ :=
    requirementsOf_closedForm hconditions [.requirements ⟨1⟩] ⟨2⟩
  have hpeer : meterLab.Requires "peer" ⟨2⟩ (.ofTags (TagSet.ofList ["tcp"])) := by
    exact Or.inr ⟨by decide +kernel, ⟨0⟩, by decide +kernel, rfl⟩
  have hbus : meterLab.Requires "bus" ⟨2⟩ (.ofTags (TagSet.ofList ["lan"])) := by
    have hid : (meterLab.visibleLogicalDevices ⟨1⟩).get? "bus" = some ⟨0⟩ := by decide +kernel
    have hexplicit : meterLab.explicitRequirement? "bus" ⟨1⟩ =
        some (.ofTags (TagSet.ofList ["lan"])) := by
      rw [Catalog.explicitRequirement?, hid]
      rfl
    have hparent : meterLab.parent? (⟨2⟩ : CapabilityId) = some ⟨1⟩ := by decide +kernel
    rw [Catalog.requires_of_parent (by decide +kernel) hparent (by decide +kernel),
      Catalog.requires_of_explicit hexplicit]
  have hroot : (meterLab.capability ⟨0⟩).name = "Meter" := by decide +kernel
  have hmiddle : (meterLab.capability ⟨1⟩).name = "CableMeter" := by decide +kernel
  refine ⟨hconditions, ⟨requirements, hanswer, (hrequires "peer" _).mpr hpeer,
    (hrequires "bus" _).mpr hbus⟩, ?_, ?_⟩
  · rw [← hroot]
    apply (hhints ⟨0⟩ (by decide +kernel) "peer").mpr
    exact ⟨by decide +kernel, by decide +kernel⟩
  · rw [← hmiddle, hhints ⟨1⟩ (by decide +kernel) "peer"]
    intro hmade
    exact absurd hmade.1 (by decide +kernel)

end Session

end LabMatch
