import LabMatch.Proofs.Capability.Variant
import LabMatch.Proofs.Matching.Outcome
import LabMatch.Proofs.Wiring.Ambiguity
import LabMatch.Proofs.Wiring.Duplicates

/-!
# Nothing is composed in vain

Connections are composed all along a resolution: when requirements are made up, when the
variants of a method compete, when the links of a scenario are delivered and when services
look for their bound devices.  Each composition is one of something, and of connections that
are anchored nowhere, so none of them fails.  All that is left to go wrong with connections
is a link that is declared twice.
-/

namespace LabMatch

theorem failsWith_otherError {Answer : Type} {reason : ResolveError}
    (hother : ∀ error, reason ≠ .connection error) :
    FailsWith (¬ ·.IsConnection) (.error reason : Except ResolveError Answer) :=
  failsWith_error fun ⟨error, hsame⟩ => hother error hsame

/-- If a connection is to blame then it is a link that is declared twice. -/
def ResolveError.IsDuplicateOrOther (reason : ResolveError) : Prop :=
  ∀ error, reason = .connection error → error.IsDuplicate

theorem ResolveError.isDuplicateOrOther {reason : ResolveError} (hother : ¬ reason.IsConnection) :
    reason.IsDuplicateOrOther :=
  fun error hsame => absurd ⟨error, hsame⟩ hother

/-- Connections that are anchored nowhere can be composed, unless there are none. -/
theorem failsWith_anyOf {Allowed : ResolveError → Prop} {items : List Connection}
    (hne : items ≠ []) (hanchors : ∀ item ∈ items, item.anchor = none) :
    FailsWith Allowed ((Connection.anyOf items).mapError ResolveError.connection) := by
  obtain ⟨connection, hconnection, -⟩ := Connection.anyOf_eq_ok hne hanchors
  rw [hconnection]
  exact failsWith_ok connection

namespace Catalog

variable {catalog : Catalog} {container scenario setup : ContainerId} {placement : Placement}

/-! ## Reducing wirings -/

theorem failsWith_reducePair (wiring : Wiring) (demand : PairDemand) :
    FailsWith (¬ ·.IsConnection) (catalog.reducePair wiring demand) := by
  rcases reducePair_cases catalog wiring demand with
    ⟨-, hunclear⟩ | ⟨-, hunsuitable⟩ | ⟨-, -, met, hmet⟩
  · rw [hunclear]
    exact failsWith_otherError (by simp)
  · rw [hunsuitable]
    exact failsWith_otherError (by simp)
  · rw [hmet]
    exact failsWith_ok met

variable (hconditions : catalog.UnanchoredConditions)

include hconditions

/-- Without anchors in conditions, requirements never fail. -/
theorem UnanchoredConditions.failsWith_requirements {Allowed : ResolveError → Prop}
    (capability : CapabilityId) :
    FailsWith Allowed (Prod.fst <$> catalog.requirements capability) := by
  obtain ⟨requirements, hrequirements⟩ := hconditions.requirements_eq_ok capability
  rw [hrequirements]
  exact failsWith_ok requirements.1

theorem UnanchoredConditions.failsWith_reduceBy (device : DeviceId) (reduced : ReducedWiring)
    (attachment : String × AttachmentId) :
    FailsWith (¬ ·.IsConnection) (catalog.reduceBy container device reduced attachment) := by
  rw [reduceBy]
  split
  · exact failsWith_ok _
  · refine FailsWith.bind (hconditions.failsWith_requirements _) fun requirements => ?_
    split
    · exact failsWith_ok _
    · exact (failsWith_reducePair _ _).bind fun _ => failsWith_ok _

theorem UnanchoredConditions.failsWith_reduceLinks (links : Wiring) :
    FailsWith (¬ ·.IsConnection) (catalog.reduceLinks container links) := by
  apply failsWith_foldlM
  intro reduced device
  apply failsWith_foldlM
  exact fun reduced attachment => hconditions.failsWith_reduceBy device reduced attachment

/-- A reduction only fails over a connection if that is a duplicate. -/
theorem UnanchoredConditions.failsWith_reduced (container : ContainerId) :
    FailsWith ResolveError.IsDuplicateOrOther (catalog.reduced container) := by
  rw [reduced]
  have hexpand := (catalog.absolute container).1.failsWith_expand
  cases hresult : (catalog.absolute container).1.expand with
  | error error =>
    apply failsWith_error
    rintro _ ⟨⟩
    exact hexpand error hresult
  | ok links =>
    intro reason hreason
    exact ResolveError.isDuplicateOrOther (hconditions.failsWith_reduceLinks links reason hreason)

/-- A reduction blames a connection exactly if some endpoints hold several ones. -/
theorem UnanchoredConditions.exists_reduced_eq_connection_iff :
    (∃ error, catalog.reduced container = .error (.connection error)) ↔
      (catalog.absolute container).1.HasParallels := by
  rw [← Wiring.exists_expand_eq_error_iff, reduced]
  cases (catalog.absolute container).1.expand with
  | error error => exact iff_of_true ⟨error, rfl⟩ ⟨error, rfl⟩
  | ok links =>
    simp only [reduceCtorEq, exists_false, iff_false]
    rintro ⟨error, herror⟩
    exact hconditions.failsWith_reduceLinks links _ herror ⟨error, rfl⟩

omit hconditions

/-! ## Checking placements -/

theorem failsWith_implementation (device : DeviceId) (offered : List AttachmentId)
    (capability : CapabilityId) :
    FailsWith (¬ ·.IsConnection) (catalog.implementation device offered capability) := by
  rw [implementation]
  split
  · exact failsWith_otherError (by simp)
  · exact failsWith_ok _
  · exact failsWith_otherError (by simp)

theorem failsWith_openServices (placed : DeviceId × DeviceId) :
    FailsWith (¬ ·.IsConnection) (catalog.openServices placed) := by
  apply failsWith_mapM
  intro wanted _
  exact (failsWith_implementation _ _ _).bind fun _ => failsWith_ok _

theorem failsWith_agreedBinding (service : Service) (wanted own : Option Binding) :
    FailsWith (¬ ·.IsConnection) (catalog.agreedBinding placement service wanted own) := by
  cases wanted with
  | none => exact failsWith_ok own
  | some wanted =>
    rw [agreedBinding]
    cases placement.get? wanted.target with
    | none => exact failsWith_otherError (by simp)
    | some target =>
      cases own with
      | none => exact failsWith_ok _
      | some own =>
        dsimp only
        split
        · exact failsWith_ok _
        · exact failsWith_otherError (by simp)

theorem failsWith_settleBinding (service : Service) :
    FailsWith (¬ ·.IsConnection) (catalog.settleBinding scenario setup placement service) :=
  (failsWith_agreedBinding service _ _).bind fun _ => failsWith_ok _

theorem failsWith_checkBoundDevice (service : Service) :
    FailsWith (¬ ·.IsConnection) (catalog.checkBoundDevice service) := by
  rw [checkBoundDevice]
  split
  · exact failsWith_ok ()
  · dsimp only
    split
    · exact failsWith_ok ()
    · apply failsWith_forM
      intro attachment
      dsimp only
      split
      · exact failsWith_ok ()
      · exact failsWith_otherError (by simp)

theorem failsWith_deliver (setup : Wiring) {entry : Span × List Connection}
    (hlinks : entry.2 ≠ []) :
    FailsWith (¬ ·.IsConnection) (catalog.deliver placement setup entry) := by
  obtain ⟨⟨ends, bothWays⟩, hends⟩ : ∃ delivered, deliveryEnds entry.1 entry.2 = delivered :=
    ⟨_, rfl⟩
  cases hstart : placement.get? ends.source.device with
  | none =>
    rw [deliver, hends]
    dsimp only
    rw [hstart]
    exact failsWith_ok none
  | some start =>
    cases htarget : placement.get? ends.target.device with
    | none =>
      rw [deliver, hends]
      dsimp only
      rw [hstart, htarget]
      exact failsWith_ok none
    | some target =>
      obtain ⟨requirement, hrequirement, -⟩ := exists_requirement hlinks
      rw [deliver_eq catalog hends hstart htarget hrequirement]
      split
      · exact failsWith_otherError (by simp)
      · rename_i hroutes
        exact FailsWith.map (failsWith_anyOf (mt List.isEmpty_iff.mpr hroutes)
          fun _ => anchor_of_mem_deliveredBy) _

theorem failsWith_deliverAll (scenario setup : Wiring) :
    FailsWith (¬ ·.IsConnection) (catalog.deliverAll placement scenario setup) := by
  rw [deliverAll_eq]
  apply FailsWith.map
  apply failsWith_mapM
  intro entry hentry
  obtain ⟨hlinks, hne, -⟩ := Wiring.of_mem_linkEntries hentry
  exact failsWith_deliver setup (hlinks ▸ hne)

theorem mem_of_mem_deliveriesTo {deliveries : List Delivery} {device target : DeviceId}
    {delivery : Delivery} (hdelivery : delivery ∈ placement.deliveriesTo deliveries device target) :
    delivery ∈ deliveries := by
  rw [Placement.deliveriesTo] at hdelivery
  split at hdelivery
  · cases hdelivery
  · exact List.mem_of_mem_filter hdelivery

theorem failsWith_availableTo {Allowed : ResolveError → Prop} {deliveries : List Delivery}
    (hanchors : ∀ delivery ∈ deliveries, delivery.connection.anchor = none) (setup : Wiring)
    (service : Service) (target : DeviceId) :
    FailsWith Allowed (availableTo placement setup deliveries service target) := by
  rw [availableTo_eq]
  split
  · exact failsWith_ok _
  · rename_i hsome
    have hne : (placement.deliveriesTo deliveries service.scenarioDevice target).map
        Delivery.connection ≠ [] := by
      simpa using hsome
    refine FailsWith.map (failsWith_anyOf hne fun connection hconnection => ?_) some
    obtain ⟨delivery, hdelivery, rfl⟩ := List.mem_map.mp hconnection
    exact hanchors delivery (mem_of_mem_deliveriesTo hdelivery)

section Checks

variable (hconditions : catalog.UnanchoredConditions)

include hconditions

theorem UnanchoredConditions.failsWith_settleAvailable {deliveries : List Delivery}
    (hanchors : ∀ delivery ∈ deliveries, delivery.connection.anchor = none) (setup : Wiring)
    (service : Service) :
    FailsWith (¬ ·.IsConnection) (catalog.settleAvailable placement setup deliveries service) := by
  rw [settleAvailable]
  split
  · exact failsWith_ok service
  · refine FailsWith.bind (hconditions.failsWith_requirements _) fun requirements => ?_
    split
    · exact failsWith_ok service
    · refine FailsWith.bind (failsWith_availableTo hanchors setup service _) fun found => ?_
      split
      · exact failsWith_ok _
      · exact failsWith_otherError (by simp)

/-- No check of a placement fails over a connection. -/
theorem UnanchoredConditions.failsWith_checkPlacement (scenarioWiring setupWiring : Wiring) :
    FailsWith (¬ ·.IsConnection)
      (catalog.checkPlacement scenario setup scenarioWiring setupWiring placement) := by
  refine FailsWith.bind (failsWith_mapM fun placed _ => failsWith_openServices placed)
    fun opened => ?_
  refine FailsWith.bind (failsWith_mapM fun service _ => failsWith_settleBinding service)
    fun bound => ?_
  refine FailsWith.bind (failsWith_forM failsWith_checkBoundDevice bound) fun _ => ?_
  refine FailsWith.bind_of_eq_ok (failsWith_deliverAll scenarioWiring setupWiring)
    fun deliveries hdeliveries => ?_
  have hanchors : ∀ delivery ∈ deliveries, delivery.connection.anchor = none :=
    fun delivery => anchor_of_mem_deliverAll hdeliveries
  refine FailsWith.bind (failsWith_mapM fun service _ =>
    hconditions.failsWith_settleAvailable hanchors setupWiring service) fun services => ?_
  exact failsWith_ok _

/-- No placement is discarded over a connection. -/
theorem UnanchoredConditions.discarded_recordPlacement {scenarioWiring setupWiring : Wiring}
    {outcome : PairOutcome}
    (houtcome : ∀ discarded ∈ outcome.discarded, ¬ discarded.reason.IsConnection)
    (placement : Placement) :
    ∀ discarded ∈ (catalog.recordPlacement scenario setup scenarioWiring setupWiring outcome
      placement).discarded, ¬ discarded.reason.IsConnection := by
  rw [recordPlacement]
  cases hcheck : catalog.checkPlacement scenario setup scenarioWiring setupWiring placement with
  | ok variation => exact houtcome
  | error reason =>
    simp only [List.forall_mem_append, List.forall_mem_singleton]
    exact ⟨houtcome, hconditions.failsWith_checkPlacement _ _ reason hcheck⟩

/-- No placement is discarded over a connection. -/
theorem UnanchoredConditions.discarded_foldl_recordPlacement
    {scenarioWiring setupWiring : Wiring} (tried : List Placement) {outcome : PairOutcome}
    (houtcome : ∀ discarded ∈ outcome.discarded, ¬ discarded.reason.IsConnection) :
    ∀ discarded ∈ (tried.foldl (catalog.recordPlacement scenario setup scenarioWiring setupWiring)
      outcome).discarded, ¬ discarded.reason.IsConnection := by
  induction tried generalizing outcome with
  | nil => exact houtcome
  | cons placement others ih =>
    exact ih (hconditions.discarded_recordPlacement houtcome placement)

theorem UnanchoredConditions.failsWith_reducedPair :
    FailsWith ResolveError.IsDuplicateOrOther (catalog.reducedPair scenario setup) := by
  refine FailsWith.bind (hconditions.failsWith_reduced scenario) fun scenarioWiring => ?_
  refine FailsWith.bind (hconditions.failsWith_reduced setup) fun setupWiring => ?_
  exact failsWith_ok _

/-- A pair fails over a connection only for a link that is declared twice, and no placement
is discarded over one. -/
theorem UnanchoredConditions.matchPair_blames (scenario setup : ContainerId) :
    (∀ reason, (catalog.matchPair scenario setup).error = some reason →
      reason.IsDuplicateOrOther) ∧
    ∀ discarded ∈ (catalog.matchPair scenario setup).discarded,
      ¬ discarded.reason.IsConnection := by
  rw [matchPair]
  cases hpair : catalog.reducedPair scenario setup with
  | error error =>
    constructor
    · rintro _ ⟨⟩
      exact hconditions.failsWith_reducedPair error hpair
    · exact fun discarded hdiscarded => by cases hdiscarded
  | ok wirings =>
    constructor
    · intro reason hreason
      rw [(sorts_foldl_recordPlacement _).error] at hreason
      cases hreason
    · exact hconditions.discarded_foldl_recordPlacement _ fun discarded hdiscarded => by
        cases hdiscarded

end Checks

end Catalog

namespace Session

open Catalog

variable {catalog : Catalog} {method logicalDevice : String} {available : Connection}

/-! ## Choosing variants -/

/-- On no session the computation fails for another reason. -/
def EverFailsWith {Failure Answer : Type} (Allowed : Failure → Prop)
    (computation : Resolving Failure Answer) : Prop :=
  ∀ session, FailsWith Allowed (computation.run.run session).1

theorem EverFailsWith.bind {Failure First Second : Type} {Allowed : Failure → Prop}
    {first : Resolving Failure First} {next : First → Resolving Failure Second}
    (hfirst : EverFailsWith Allowed first) (hnext : ∀ answer, EverFailsWith Allowed (next answer)) :
    EverFailsWith Allowed (first >>= next) := by
  intro session
  have hreason := hfirst session
  rw [run_bind]
  generalize first.run.run session = result at hreason ⊢
  obtain ⟨outcome, after⟩ := result
  cases outcome with
  | error reason => exact failsWith_error (hreason reason rfl)
  | ok answer => exact hnext answer after

/-- The labels noted on a session only ever add answers, so nothing is assumed of them. -/
theorem everFailsWith_variantFor (hconditions : catalog.UnanchoredConditions)
    (capability : CapabilityId) :
    EverFailsWith (¬ ·.IsConnection)
      (variantFor catalog capability method logicalDevice available) := by
  induction capability using catalog.parent_induction with
  | step capability ih =>
    have hsettled : EverFailsWith (¬ ·.IsConnection)
        (settledVariant catalog capability method logicalDevice available) := by
      obtain ⟨candidates, hcandidates, -⟩ :=
        hconditions.exists_applicableVariants_eq_ok method logicalDevice available capability
      rw [settledVariant, hcandidates]
      refine EverFailsWith.bind (fun session => failsWith_ok candidates) fun candidates => ?_
      cases Choice.mostSpecific candidates with
      | one label matched => exact fun session => failsWith_ok label
      | ambiguous labels =>
        exact fun session => failsWith_otherError (by simp)
      | nothing =>
        cases hparent : catalog.parent? capability with
        | none => exact fun session => failsWith_otherError (by simp)
        | some parent => exact ih parent hparent
    rw [variantFor_eq]
    refine EverFailsWith.bind (fun session => failsWith_ok _) fun notes => ?_
    split
    · exact fun session => failsWith_ok _
    · refine hsettled.bind fun label => ?_
      exact fun session => failsWith_ok label

/-! ## Connections to blame -/

/-- Where no condition is anchored, connections are to blame only if links are declared
twice.  A reduction fails over a connection exactly if, on the nearest container of the
ancestry with declared links, two of them join the same endpoints.  Requirements are always
resolved, no variant is refused over a connection, and neither is a placement. -/
theorem resolution_blames_duplicates_only (hbuilt : Built catalog)
    (hconditions : catalog.UnanchoredConditions) (before : List Question) :
    (∀ container,
      let outcome := ((reducedWiring catalog container).run.run (afterAsking catalog before)).1
      ((∃ error, outcome = .error (.connection error)) ↔
        ∃ source, (catalog.ancestry container).find? catalog.declaresLinks = some source ∧
          catalog.DeclaresTwice source) ∧
      FailsWith ResolveError.IsDuplicateOrOther outcome) ∧
    (∀ capability, ∃ requirements,
      ((requirementsOf catalog capability).run.run (afterAsking catalog before)).1 =
        .ok requirements) ∧
    (∀ capability method logicalDevice available, FailsWith (¬ ·.IsConnection)
      ((variantFor catalog capability method logicalDevice available).run.run
        (afterAsking catalog before)).1) ∧
    ∀ scenario setup,
      let outcome := ((matchPair catalog scenario setup).run (afterAsking catalog before)).1
      (∀ reason, outcome.error = some reason → reason.IsDuplicateOrOther) ∧
      ∀ discarded ∈ outcome.discarded, ¬ discarded.reason.IsConnection := by
  refine ⟨fun container => ?_, fun capability => ?_,
    fun capability method logicalDevice available =>
      everFailsWith_variantFor hconditions capability _, fun scenario setup => ?_⟩
  · rw [run_afterAsking (fun _ => resolves_reducedWiring container)]
    refine ⟨?_, hconditions.failsWith_reduced container⟩
    rw [hconditions.exists_reduced_eq_connection_iff,
      hasParallels_absolute_iff hbuilt.wellLaidOut]
  · obtain ⟨requirements, hrequirements⟩ := hconditions.requirements_eq_ok capability
    rw [run_afterAsking (fun _ => resolves_requirementsOf capability), hrequirements]
    exact ⟨requirements.1, rfl⟩
  · rw [run_afterAsking (fun _ => answers_matchPair scenario setup)]
    exact hconditions.matchPair_blames scenario setup

/-- A site that declares a link in both directions, and a wing that declares the devices
again but no links. -/
def doubleDeclarations : List Declaration :=
  let lan := Connection.ofTags (TagSet.ofList ["lan"])
  [.container .setup "Site", .device ⟨0⟩ "Host", .device ⟨0⟩ "Board",
    .connect ⟨⟨0⟩, "n0"⟩ ⟨⟨1⟩, "n0"⟩ lan false, .connect ⟨⟨1⟩, "n0"⟩ ⟨⟨0⟩, "n0"⟩ lan true,
    .container .setup "Wing", .extendContainer ⟨1⟩ ⟨0⟩, .device ⟨1⟩ "Board", .device ⟨1⟩ "Host",
    .extendDevice ⟨2⟩ ⟨1⟩, .extendDevice ⟨3⟩ ⟨0⟩]

def doubleLab : Catalog := (declareAll doubleDeclarations).toOption.getD empty

/-- The wing, which takes over the links of the site, is refused over the duplicate there. -/
theorem resolution_blames_duplicates_doubleLab :
    (doubleLab.ancestry (⟨1⟩ : ContainerId)).find? doubleLab.declaresLinks = some ⟨0⟩ ∧
      doubleLab.DeclaresTwice ⟨0⟩ ∧
      ∃ source target, ((reducedWiring doubleLab ⟨1⟩).run.run
        (afterAsking doubleLab [.absoluteWiring ⟨1⟩])).1 =
          .error (.connection (.duplicateLink source target)) := by
  have hbuilt : Built doubleLab := by
    apply built_of_declareAll
    · decide +kernel
    · decide +kernel
  have hconditions : doubleLab.UnanchoredConditions := by
    unfold UnanchoredConditions
    decide +kernel
  have hsource : (doubleLab.ancestry (⟨1⟩ : ContainerId)).find? doubleLab.declaresLinks =
      some ⟨0⟩ := by
    decide +kernel
  have htwice : doubleLab.DeclaresTwice ⟨0⟩ :=
    ⟨⟨⟨⟨0⟩, "n0"⟩, ⟨⟨1⟩, "n0"⟩⟩, by decide +kernel⟩
  obtain ⟨hreduced, -⟩ :=
    resolution_blames_duplicates_only hbuilt hconditions [.absoluteWiring ⟨1⟩]
  obtain ⟨hblames, hduplicate⟩ := hreduced ⟨1⟩
  obtain ⟨error, herror⟩ := hblames.mpr ⟨⟨0⟩, hsource, htwice⟩
  obtain ⟨source, target, rfl⟩ := hduplicate _ herror error rfl
  exact ⟨hsource, htwice, source, target, herror⟩

end Session

end LabMatch
