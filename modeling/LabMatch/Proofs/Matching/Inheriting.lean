import LabMatch.Proofs.Catalog.Subtype
import LabMatch.Proofs.Catalog.Visible
import LabMatch.Proofs.Matching.Outcome

/-!
# Containers that only inherit

A container without devices of its own is its first parent under another name.  It shows
the same devices with the same bindings, is wired and reduced in the same way, and
matches whatever its parent matches.  What is said along the way may differ: warnings
name the container that they were raised for.
-/

namespace LabMatch

/-- The outcome with other containers named in it, and everything else as it is. -/
def PairOutcome.between (outcome : PairOutcome) (scenario setup : ContainerId) : PairOutcome :=
  { outcome with
    scenario
    setup
    applicable := outcome.applicable.map fun variation => { variation with scenario, setup } }

namespace Catalog

/-- The container declares no devices of its own, and this is its first parent. -/
structure InheritsAll (catalog : Catalog) (container parent : ContainerId) : Prop where
  noDevices : (catalog.container container).devices = []
  firstParent : (catalog.container container).parents.head? = some parent

variable {catalog : Catalog} {container parent other : ContainerId}

theorem Built.parent?_eq (hbuilt : Built catalog)
    (hinherits : catalog.InheritsAll container parent) :
    catalog.parent? container = some parent := by
  rw [hbuilt.registered.parent?_eq_head?]
  exact hinherits.firstParent

section Inherits

variable (hparent : catalog.parent? container = some parent)
  (hempty : (catalog.container container).devices.isEmpty)

include hparent hempty

theorem absolute_of_isEmpty : (catalog.absolute container).1 = (catalog.absolute parent).1 := by
  rw [absolute_eq, hparent, Option.map_some, settleWiring, if_pos hempty]

theorem activeBinding_of_isEmpty :
    catalog.activeBinding container = catalog.activeBinding parent := by
  funext device attr
  rw [activeBinding, activeBinding]
  simp only [visibleDeviceNamed?, visibleDevices_of_isEmpty hempty hparent]

theorem reduceBy_of_isEmpty : catalog.reduceBy container = catalog.reduceBy parent := by
  funext device reduced attachment
  rw [reduceBy, reduceBy, activeBinding_of_isEmpty hparent hempty]

end Inherits

theorem links_reduceBy_congr {device : DeviceId} (reduced reduced' : ReducedWiring)
    (attachment : String × AttachmentId) (hlinks : reduced.links = reduced'.links) :
    (catalog.reduceBy container device reduced attachment).map ReducedWiring.links =
      (catalog.reduceBy container device reduced' attachment).map ReducedWiring.links := by
  rw [reduceBy, reduceBy]
  cases catalog.activeBinding container device attachment.1 with
  | none => exact congrArg Except.ok hlinks
  | some binding =>
    apply map_bind_congr
    intro requirements
    cases requirements.get? binding.logicalDevice with
    | none => exact congrArg Except.ok hlinks
    | some requirement =>
      dsimp only
      rw [hlinks]
      apply map_bind_congr
      exact fun left => rfl

theorem links_reduceLinks_of_isEmpty (hparent : catalog.parent? container = some parent)
    (hempty : (catalog.container container).devices.isEmpty) (links : Wiring) :
    (catalog.reduceLinks container links).map ReducedWiring.links =
      (catalog.reduceLinks parent links).map ReducedWiring.links := by
  rw [reduceLinks, reduceLinks, visibleDevices_of_isEmpty hempty hparent,
    reduceBy_of_isEmpty hparent hempty]
  apply map_foldlM_congr
  · intro reduced reduced' device hlinks
    exact map_foldlM_congr links_reduceBy_congr _ hlinks
  · rfl

/-- A container without devices of its own has the reduced links of its parent. -/
theorem links_reduced_of_isEmpty (hparent : catalog.parent? container = some parent)
    (hempty : (catalog.container container).devices.isEmpty) :
    (catalog.reduced container).map ReducedWiring.links =
      (catalog.reduced parent).map ReducedWiring.links := by
  rw [reduced, reduced, absolute_of_isEmpty hparent hempty]
  cases (catalog.absolute parent).1.expand.mapError ResolveError.connection with
  | error reason => rfl
  | ok links => exact links_reduceLinks_of_isEmpty hparent hempty links

/-- Two containers show the same devices, with the same bindings and the same links. -/
structure Alike (catalog : Catalog) (container other : ContainerId) : Prop where
  visibleDevices_eq : catalog.visibleDevices container = catalog.visibleDevices other
  activeBinding_eq : catalog.activeBinding container = catalog.activeBinding other
  links_absolute_eq : (catalog.absolute container).1 = (catalog.absolute other).1
  links_reduced_eq : (catalog.reduced container).map ReducedWiring.links =
    (catalog.reduced other).map ReducedWiring.links

theorem Alike.refl (catalog : Catalog) (container : ContainerId) :
    catalog.Alike container container :=
  ⟨rfl, rfl, rfl, rfl⟩

/-- A container that only inherits is like its parent. -/
theorem InheritsAll.alike (hbuilt : Built catalog)
    (hinherits : catalog.InheritsAll container parent) : catalog.Alike container parent := by
  have hparent := hbuilt.parent?_eq hinherits
  have hempty : (catalog.container container).devices.isEmpty :=
    List.isEmpty_iff.mpr hinherits.noDevices
  exact {
    visibleDevices_eq := visibleDevices_of_isEmpty hempty hparent
    activeBinding_eq := activeBinding_of_isEmpty hparent hempty
    links_absolute_eq := absolute_of_isEmpty hparent hempty
    links_reduced_eq := links_reduced_of_isEmpty hparent hempty }

section Alike

variable {scenario scenario' setup setup' : ContainerId}
  (hscenario : catalog.Alike scenario scenario') (hsetup : catalog.Alike setup setup')

include hscenario hsetup

/-- A placement is checked alike between containers that are alike. -/
theorem checkPlacement_of_alike (scenarioWiring setupWiring : Wiring) (placement : Placement) :
    catalog.checkPlacement scenario setup scenarioWiring setupWiring placement =
      (catalog.checkPlacement scenario' setup' scenarioWiring setupWiring placement).map
        fun variation => { variation with scenario, setup } := by
  have hsettle : catalog.settleBinding scenario setup placement =
      catalog.settleBinding scenario' setup' placement := by
    funext service
    rw [settleBinding, settleBinding, hscenario.activeBinding_eq, hsetup.activeBinding_eq]
  rw [checkPlacement, checkPlacement, hsettle]
  apply bind_eq_map_bind
  intro opened
  apply bind_eq_map_bind
  intro bound
  apply bind_eq_map_bind
  intro nothing
  apply bind_eq_map_bind
  intro deliveries
  apply bind_eq_map_bind
  exact fun services => rfl

/-- Outcomes for containers that are alike only differ in their names. -/
theorem recordPlacement_of_alike (scenarioWiring setupWiring : Wiring) (outcome : PairOutcome)
    (placement : Placement) :
    catalog.recordPlacement scenario setup scenarioWiring setupWiring
        (outcome.between scenario setup) placement =
      (catalog.recordPlacement scenario' setup' scenarioWiring setupWiring outcome
        placement).between scenario setup := by
  rw [recordPlacement, recordPlacement,
    checkPlacement_of_alike hscenario hsetup scenarioWiring setupWiring placement]
  cases catalog.checkPlacement scenario' setup' scenarioWiring setupWiring placement with
  | error reason => rfl
  | ok variation => simp [PairOutcome.between, Except.map]

theorem reducedPair_of_alike :
    catalog.reducedPair scenario setup = catalog.reducedPair scenario' setup' := by
  have hpair : ∀ scenario setup, catalog.reducedPair scenario setup =
      (catalog.reduced scenario).map ReducedWiring.links >>= fun scenarioWiring =>
        ((catalog.reduced setup).map ReducedWiring.links).map (Prod.mk scenarioWiring) := by
    intro scenario setup
    rw [reducedPair]
    cases catalog.reduced scenario with
    | error reason => rfl
    | ok scenarioWiring =>
      cases catalog.reduced setup with
      | error reason => rfl
      | ok setupWiring => rfl
  rw [hpair, hpair, hscenario.links_reduced_eq, hsetup.links_reduced_eq]

/-- Containers that are alike match the same, whichever side they are on. -/
theorem matchPair_of_alike :
    catalog.matchPair scenario setup =
      (catalog.matchPair scenario' setup').between scenario setup := by
  rw [matchPair, matchPair, reducedPair_of_alike hscenario hsetup]
  cases catalog.reducedPair scenario' setup' with
  | error reason => rfl
  | ok wirings =>
    have hstart : (⟨scenario, setup, [], [], none⟩ : PairOutcome) =
        PairOutcome.between ⟨scenario', setup', [], [], none⟩ scenario setup := rfl
    dsimp only
    rw [hscenario.visibleDevices_eq, hsetup.visibleDevices_eq, hstart]
    exact List.foldl_hom (fun outcome => PairOutcome.between outcome scenario setup)
      fun outcome placement =>
        recordPlacement_of_alike hscenario hsetup wirings.1 wirings.2 outcome placement

end Alike

end Catalog

namespace Session

open Catalog

variable {catalog : Catalog}

/-- A container that declares no devices is its first parent under another name.  Whatever
was asked before, and in whichever sessions the two are asked about: the same devices are
visible, the same links are there before and after reduction, or reduction fails for the
same reason, and whatever the two are matched with, as the setup or as the scenario, the
outcomes only differ in the container that they name. -/
theorem inheritsAll_transparent (hbuilt : Built catalog) {container parent : ContainerId}
    (hinherits : catalog.InheritsAll container parent) (questions questions' : List Question) :
    let session := afterAsking catalog questions
    let session' := afterAsking catalog questions'
    ((devicesOf catalog container).run session).1 = ((devicesOf catalog parent).run session').1 ∧
    ((absoluteWiring catalog container).run session).1 =
      ((absoluteWiring catalog parent).run session').1 ∧
    ((reducedWiring catalog container).run.run session).1.map ReducedWiring.links =
      ((reducedWiring catalog parent).run.run session').1.map ReducedWiring.links ∧
    ∀ other,
      ((matchPair catalog other container).run session).1 =
        ((matchPair catalog other parent).run session').1.between other container ∧
      ((matchPair catalog container other).run session).1 =
        ((matchPair catalog parent other).run session').1.between container other := by
  have halike := hinherits.alike hbuilt
  have hdevices : ∀ container questions, ((devicesOf catalog container).run
      (afterAsking catalog questions)).1 = catalog.visibleDevices container :=
    fun container => run_afterAsking fun _ => answers_devicesOf container
  have habsolute : ∀ container questions, ((absoluteWiring catalog container).run
      (afterAsking catalog questions)).1 = (catalog.absolute container).1 :=
    fun container => run_afterAsking fun _ => answers_absoluteWiring container
  have hreduced : ∀ container questions, ((reducedWiring catalog container).run.run
      (afterAsking catalog questions)).1 = catalog.reduced container :=
    fun container => run_afterAsking fun _ => resolves_reducedWiring container
  have hpair : ∀ scenario setup questions, ((matchPair catalog scenario setup).run
      (afterAsking catalog questions)).1 = catalog.matchPair scenario setup :=
    fun scenario setup => run_afterAsking fun _ => answers_matchPair scenario setup
  intro session session'
  simp only [session, session', hdevices, habsolute, hreduced, hpair]
  refine ⟨halike.visibleDevices_eq, halike.links_absolute_eq, halike.links_reduced_eq, ?_⟩
  intro other
  have hother := Alike.refl catalog other
  exact ⟨matchPair_of_alike hother halike, matchPair_of_alike halike hother⟩

/-- The bench and the rack, and an annex that has nothing but what it inherits from the
rack. -/
def annexDeclarations : List Declaration :=
  benchDeclarations ++ [.container .setup "Annex", .extendContainer ⟨2⟩ ⟨1⟩]

def annexLab : Catalog := (declareAll annexDeclarations).toOption.getD empty

theorem built_annexLab : Built annexLab := by
  apply built_of_declareAll
  · decide +kernel
  · decide +kernel

/-- The annex is matched as the rack is. -/
theorem inheritsAll_transparent_annexLab :
    annexLab.InheritsAll ⟨2⟩ ⟨1⟩ ∧
      let outcome := ((matchPair annexLab ⟨0⟩ ⟨2⟩).run (afterAsking annexLab [.pair ⟨0⟩ ⟨1⟩])).1
      outcome = ((matchPair annexLab ⟨0⟩ ⟨1⟩).run
        (afterAsking annexLab [])).1.between ⟨0⟩ ⟨2⟩ ∧
      straightPlacement ∈ outcome.applicable.map Variation.placement := by
  have hinherits : annexLab.InheritsAll ⟨2⟩ ⟨1⟩ := ⟨by decide +kernel, by decide +kernel⟩
  have htransparent :=
    inheritsAll_transparent built_annexLab hinherits [.pair ⟨0⟩ ⟨1⟩] []
  exact ⟨hinherits, (htransparent.2.2.2 ⟨0⟩).1, by decide +kernel⟩

end Session

end LabMatch
