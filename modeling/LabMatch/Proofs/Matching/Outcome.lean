import LabMatch.Proofs.Matching.Checked

/-!
# Matching sorts all placements

Matching a scenario with a setup tries every placement of the visible devices of the
scenario on those of the setup.  Each of them is listed once, as applicable or as
discarded, and the applicable ones are listed as such.
-/

namespace LabMatch

/-- The placements that were sorted, the applicable ones first. -/
def PairOutcome.sorted (outcome : PairOutcome) : List Placement :=
  outcome.applicable.map Variation.placement ++ outcome.discarded.map Discarded.placement

namespace Catalog

variable {catalog : Catalog} {scenario setup : ContainerId} {placement : Placement}

section Sorting

variable {scenarioWiring setupWiring : Wiring}

theorem placement_of_checkPlacement {variation : Variation}
    (hpasses : catalog.checkPlacement scenario setup scenarioWiring setupWiring placement =
      .ok variation) : variation.placement = placement := by
  -- only the result of the last of the five steps mentions the placement
  obtain ⟨_, -, hpasses⟩ := exists_of_bind_eq_ok hpasses
  obtain ⟨_, -, hpasses⟩ := exists_of_bind_eq_ok hpasses
  obtain ⟨_, -, hpasses⟩ := exists_of_bind_eq_ok hpasses
  obtain ⟨_, -, hpasses⟩ := exists_of_bind_eq_ok hpasses
  obtain ⟨_, -, hpasses⟩ := exists_of_bind_eq_ok hpasses
  cases hpasses
  rfl

def passes (catalog : Catalog) (scenario setup : ContainerId)
    (scenarioWiring setupWiring : Wiring) (placement : Placement) : Bool :=
  (catalog.checkPlacement scenario setup scenarioWiring setupWiring placement).isOk

/-- The outcome lists the placements that pass apart from the others. -/
structure Sorts (catalog : Catalog) (scenario setup : ContainerId)
    (scenarioWiring setupWiring : Wiring) (outcome : PairOutcome) (tried : List Placement) :
    Prop where
  error : outcome.error = none
  applicable : outcome.applicable.map Variation.placement =
    tried.filter (catalog.passes scenario setup scenarioWiring setupWiring)
  discarded : outcome.discarded.map Discarded.placement =
    tried.filter fun placement =>
      !catalog.passes scenario setup scenarioWiring setupWiring placement

theorem Sorts.recordPlacement {outcome : PairOutcome} {tried : List Placement}
    (hsorts : catalog.Sorts scenario setup scenarioWiring setupWiring outcome tried)
    (placement : Placement) :
    catalog.Sorts scenario setup scenarioWiring setupWiring
      (catalog.recordPlacement scenario setup scenarioWiring setupWiring outcome placement)
      (tried ++ [placement]) := by
  rw [Catalog.recordPlacement]
  cases hcheck : catalog.checkPlacement scenario setup scenarioWiring setupWiring placement with
  | ok variation =>
    have hpasses : catalog.passes scenario setup scenarioWiring setupWiring placement = true := by
      rw [passes, hcheck]
      rfl
    refine ⟨hsorts.error, ?_, ?_⟩
    · simp [hsorts.applicable, hpasses, placement_of_checkPlacement hcheck]
    · simp [hsorts.discarded, hpasses]
  | error reason =>
    have hfails : catalog.passes scenario setup scenarioWiring setupWiring placement = false := by
      rw [passes, hcheck]
      rfl
    refine ⟨hsorts.error, ?_, ?_⟩
    · simp [hsorts.applicable, hfails]
    · simp [hsorts.discarded, hfails]

/-- Recording placements one after the other sorts all of them. -/
theorem sorts_foldl_recordPlacement (tried : List Placement) :
    catalog.Sorts scenario setup scenarioWiring setupWiring
      (tried.foldl (catalog.recordPlacement scenario setup scenarioWiring setupWiring)
        ⟨scenario, setup, [], [], none⟩) tried := by
  induction tried using List.reverseRecOn with
  | nil => exact ⟨rfl, rfl, rfl⟩
  | append_singleton earlier placement ih =>
    rw [List.foldl_concat]
    exact ih.recordPlacement placement

/-- No placement is lost or listed twice. -/
theorem Sorts.perm {outcome : PairOutcome} {tried : List Placement}
    (hsorts : catalog.Sorts scenario setup scenarioWiring setupWiring outcome tried) :
    outcome.sorted.Perm tried := by
  rw [PairOutcome.sorted, hsorts.applicable, hsorts.discarded]
  exact List.filter_append_perm _ tried

end Sorting

/-- Once both containers are reduced, all placements are sorted. -/
theorem sorts_matchPair {scenarioWiring setupWiring : ReducedWiring}
    (hscenario : catalog.reduced scenario = .ok scenarioWiring)
    (hsetup : catalog.reduced setup = .ok setupWiring) :
    catalog.Sorts scenario setup scenarioWiring.links setupWiring.links
      (catalog.matchPair scenario setup)
      (placements (catalog.visibleDevices scenario) (catalog.visibleDevices setup)) := by
  have hpair : catalog.reducedPair scenario setup =
      .ok (scenarioWiring.links, setupWiring.links) := by
    rw [reducedPair, hscenario, hsetup]
    rfl
  rw [matchPair, hpair]
  exact sorts_foldl_recordPlacement _

/-- Every placement of the visible devices is tried once, and no other one. -/
theorem nodup_and_mem_iff_of_perm {sorted : List Placement}
    (hperm : sorted.Perm
      (placements (catalog.visibleDevices scenario) (catalog.visibleDevices setup))) :
    sorted.Nodup ∧ ∀ placement, placement ∈ sorted ↔
      placement.Places (catalog.visibleDevices scenario) (catalog.visibleDevices setup) := by
  have hdevices := (Ascending.isAscending_ofList
    (catalog.visibleDevicesByName scenario).values).imp KeyOrder.ne_of_lt
  have hplaces := (Ascending.isAscending_ofList (catalog.visibleDevicesByName setup).values).imp
    KeyOrder.ne_of_lt
  constructor
  · rw [hperm.nodup_iff]
    exact nodup_placements hdevices hplaces
  · intro placement
    rw [hperm.mem_iff]
    exact mem_placements_iff hdevices hplaces

theorem separates_of_places (hlaidOut : WellLaidOut catalog) {reduced : ReducedWiring}
    (hreduced : catalog.reduced scenario = .ok reduced) (hmirrored : reduced.links.IsMirrored)
    {places : List DeviceId}
    (hplaces : placement.Places (catalog.visibleDevices scenario) places) :
    placement.Separates reduced.links := by
  have hplaced : ∀ device ∈ catalog.visibleDevices scenario, ∃ place,
      placement.get? device = some place :=
    fun device hdevice => Option.isSome_iff_exists.mp ((hplaces.total device).mpr hdevice)
  apply separates_of_placed hlaidOut hreduced hmirrored hplaced
  intro device hdevice other _ hsame
  obtain ⟨place, hplace⟩ := hplaced device hdevice
  exact hplaces.injective device other place hplace (hsame ▸ hplace)

/-- A placement of the visible devices passes exactly if it is applicable. -/
theorem passes_iff {scenarioWiring setupWiring : ReducedWiring} (hbuilt : Built catalog)
    (hconditions : catalog.UnanchoredConditions) (haccepted : catalog.hierarchy = .ok ())
    (hscenario : catalog.reduced scenario = .ok scenarioWiring)
    (hsetup : catalog.reduced setup = .ok setupWiring)
    (hplaces : placement.Places (catalog.visibleDevices scenario)
      (catalog.visibleDevices setup)) :
    catalog.passes scenario setup scenarioWiring.links setupWiring.links placement ↔
      catalog.Applicable scenario setup scenarioWiring.links setupWiring.links placement := by
  obtain ⟨-, -, -, hmirrored, -⟩ := filteredFrom_reduced hbuilt.wellLaidOut hscenario
  obtain ⟨-, -, -, hsetupMirrored, -⟩ := filteredFrom_reduced hbuilt.wellLaidOut hsetup
  have hshares := sharesAnchors_reduced hbuilt.wellLaidOut hscenario
  have hseparates := separates_of_places hbuilt.wellLaidOut hscenario hmirrored hplaces
  rw [← exists_checkPlacement_iff hbuilt haccepted hconditions hplaces.injective hmirrored
    hsetupMirrored hshares hseparates]
  constructor
  · exact exists_of_isOk
  · intro hpasses
    obtain ⟨variation, hpasses⟩ := hpasses
    rw [passes, hpasses]
    rfl

end Catalog

namespace Session

variable {catalog : Catalog}

/-- Matching decides which placements are applicable.  On a catalogue that keeps the
override discipline and whose conditions are unanchored, every placement that gives the
visible devices of the scenario places of their own is listed exactly once, and it is
listed as applicable exactly if it is. -/
theorem matchPair_decides_applicability (hbuilt : Catalog.Built catalog)
    (hconditions : catalog.UnanchoredConditions) {before asked between later : List Question}
    (haccepted : ((checkHierarchy catalog).run.run (afterAsking catalog before)).1 = .ok ())
    {scenario setup : ContainerId} {scenarioWiring setupWiring : ReducedWiring}
    (hscenario : ((reducedWiring catalog scenario).run.run (afterAsking catalog asked)).1 =
      .ok scenarioWiring)
    (hsetup : ((reducedWiring catalog setup).run.run (afterAsking catalog between)).1 =
      .ok setupWiring) :
    let outcome := ((matchPair catalog scenario setup).run (afterAsking catalog later)).1
    outcome.error = none ∧ outcome.sorted.Nodup ∧
    (∀ placement : Placement, placement ∈ outcome.sorted ↔
      placement.Places (catalog.visibleDevices scenario) (catalog.visibleDevices setup)) ∧
    ∀ placement : Placement, placement ∈ outcome.applicable.map Variation.placement ↔
      placement.Places (catalog.visibleDevices scenario) (catalog.visibleDevices setup) ∧
      catalog.Applicable scenario setup scenarioWiring.links setupWiring.links placement := by
  have hplain : catalog.hierarchy = .ok () := by
    rw [← checkHierarchy_afterAsking catalog before, haccepted]
  have hreduced := Catalog.reduced_of_reducedWiring hscenario
  have hsetupReduced := Catalog.reduced_of_reducedWiring hsetup
  rw [run_afterAsking (fun _ => answers_matchPair scenario setup)]
  have hsorts := Catalog.sorts_matchPair hreduced hsetupReduced
  obtain ⟨hnodup, hmem⟩ := Catalog.nodup_and_mem_iff_of_perm hsorts.perm
  refine ⟨hsorts.error, hnodup, hmem, fun placement => ?_⟩
  rw [hsorts.applicable, List.mem_filter, ← hsorts.perm.mem_iff, hmem]
  exact and_congr_right
    (Catalog.passes_iff hbuilt hconditions hplain hreduced hsetupReduced)

/-- A bench whose tester is to ping the target, and a rack whose host implements the
ping and whose board has the port that the ping needs. -/
def benchDeclarations : List Declaration :=
  let lan := Connection.ofTags (TagSet.ofList ["lan"])
  [.capability "Port",
    .capability "Ping", .logicalDevice ⟨1⟩ "peer", .attach (.logicalDevice ⟨0⟩) "port" ⟨0⟩,
    .require ⟨0⟩ lan,
    .container .scenario "Bench", .device ⟨0⟩ "Tester", .device ⟨0⟩ "Target",
    .attach (.device ⟨0⟩) "ping" ⟨1⟩, .bind ⟨1⟩ "peer" ⟨1⟩,
    .connect ⟨⟨0⟩, "n0"⟩ ⟨⟨1⟩, "n0"⟩ lan false,
    .container .setup "Rack", .device ⟨1⟩ "Host", .device ⟨1⟩ "Board",
    .attach (.device ⟨2⟩) "icmp" ⟨1⟩, .attach (.device ⟨3⟩) "port" ⟨0⟩,
    .connect ⟨⟨2⟩, "n0"⟩ ⟨⟨3⟩, "n0"⟩ lan false]

def benchLab : Catalog := (Catalog.declareAll benchDeclarations).toOption.getD .empty

theorem built_benchLab : Catalog.Built benchLab := by
  apply Catalog.built_of_declareAll
  · decide +kernel
  · decide +kernel

def straightPlacement : Placement := SortedMap.ofList [(⟨0⟩, ⟨2⟩), (⟨1⟩, ⟨3⟩)]

def crossedPlacement : Placement := SortedMap.ofList [(⟨0⟩, ⟨3⟩), (⟨1⟩, ⟨2⟩)]

/-- On the bench the target is to write a log as well.  In the rack the board does, to a
recorder that nothing is placed on. -/
def loggedDeclarations : List Declaration :=
  let usb := Connection.ofTags (TagSet.ofList ["usb"])
  benchDeclarations ++
    [.capability "Log", .logicalDevice ⟨2⟩ "sink", .require ⟨1⟩ usb,
      .attach (.device ⟨1⟩) "log" ⟨2⟩,
      .device ⟨1⟩ "Recorder", .attach (.device ⟨3⟩) "log" ⟨2⟩, .bind ⟨5⟩ "sink" ⟨4⟩,
      .connect ⟨⟨3⟩, "n1"⟩ ⟨⟨4⟩, "n0"⟩ usb false]

def loggedLab : Catalog := (Catalog.declareAll loggedDeclarations).toOption.getD .empty

theorem built_loggedLab : Catalog.Built loggedLab := by
  apply Catalog.built_of_declareAll
  · decide +kernel
  · decide +kernel

def logService : Service := ⟨⟨1⟩, "log", ⟨4⟩, ⟨5⟩, ⟨3⟩, none, none⟩

/-- The log of the board is served by its link to the recorder alone, which stands for no
device of the bench. -/
theorem matchPair_loggedLab :
    ∃ scenarioWiring setupWiring : ReducedWiring,
      loggedLab.UnanchoredConditions ∧
      ((checkHierarchy loggedLab).run.run (afterAsking loggedLab [])).1 = .ok () ∧
      ((reducedWiring loggedLab ⟨0⟩).run.run (afterAsking loggedLab [])).1 = .ok scenarioWiring ∧
      ((reducedWiring loggedLab ⟨1⟩).run.run (afterAsking loggedLab [.reducedWiring ⟨0⟩])).1 =
        .ok setupWiring ∧
      loggedLab.Applicable ⟨0⟩ ⟨1⟩ scenarioWiring.links setupWiring.links straightPlacement ∧
      (∀ ends, ¬ straightPlacement.LinksTo scenarioWiring.links ⟨1⟩ ⟨4⟩ ends) ∧
      (∃ span : Span, span.source.device = ⟨3⟩ ∧ span.target.device = ⟨4⟩ ∧
        setupWiring.links.get span ≠ []) ∧
      ¬ loggedLab.Applicable ⟨0⟩ ⟨1⟩ scenarioWiring.links setupWiring.links crossedPlacement := by
  have hconditions : loggedLab.UnanchoredConditions := by
    unfold Catalog.UnanchoredConditions
    decide +kernel
  have hok : ((checkHierarchy loggedLab).run.run (afterAsking loggedLab [])).1.isOk = true := by
    decide +kernel
  have hall : (do
      let scenarioWiring ← ((reducedWiring loggedLab ⟨0⟩).run.run (afterAsking loggedLab [])).1
      let setupWiring ← ((reducedWiring loggedLab ⟨1⟩).run.run
        (afterAsking loggedLab [.reducedWiring ⟨0⟩])).1
      return (scenarioWiring, setupWiring)).isOk = true := by
    decide +kernel
  have hlisted : straightPlacement ∈ (((matchPair loggedLab ⟨0⟩ ⟨1⟩).run
      (afterAsking loggedLab [])).1.applicable.map Variation.placement) := by
    decide +kernel
  have hcrossed : crossedPlacement ∈
      ((matchPair loggedLab ⟨0⟩ ⟨1⟩).run (afterAsking loggedLab [])).1.sorted ∧
      crossedPlacement ∉ ((matchPair loggedLab ⟨0⟩ ⟨1⟩).run
        (afterAsking loggedLab [])).1.applicable.map Variation.placement := by
    decide +kernel
  obtain ⟨nothing, haccepted⟩ := Catalog.exists_of_isOk hok
  obtain ⟨wirings, hall⟩ := Catalog.exists_of_isOk hall
  obtain ⟨scenarioWiring, hscenario, hall⟩ := Catalog.exists_of_bind_eq_ok hall
  obtain ⟨setupWiring, hsetup, -⟩ := Catalog.exists_of_bind_eq_ok hall
  obtain ⟨-, -, hsorted, happlicable⟩ :=
    matchPair_decides_applicability built_loggedLab hconditions haccepted hscenario hsetup
  have happlies := ((happlicable straightPlacement).mp hlisted).2
  have hunlinked : ∀ ends, ¬ straightPlacement.LinksTo scenarioWiring.links ⟨1⟩ ⟨4⟩ ends :=
    fun _ => Placement.not_linksTo (by decide)
  have hcandidate : loggedLab.Candidate straightPlacement logService := by
    constructor
    · decide +kernel
    · decide +kernel
    · decide +kernel
    · decide +kernel
  have hwanted : ((activeBinding loggedLab ⟨0⟩ ⟨1⟩ "log").run fresh).1 = none := by
    decide +kernel
  have hown : ((activeBinding loggedLab ⟨1⟩ ⟨3⟩ (loggedLab.attachment ⟨5⟩).attr).run fresh).1 =
      some ⟨"sink", ⟨4⟩⟩ := by
    decide +kernel
  have hbinds : loggedLab.BindsTo ⟨0⟩ ⟨1⟩ straightPlacement logService
      (some ⟨"sink", ⟨4⟩⟩) := by
    change straightPlacement.Agrees ((activeBinding loggedLab ⟨0⟩ ⟨1⟩ "log").run fresh).1
      ((activeBinding loggedLab ⟨1⟩ ⟨3⟩ (loggedLab.attachment ⟨5⟩).attr).run fresh).1 _
    rw [hwanted, hown]
    rfl
  have hdirect := happlies.exists_direct hcandidate hbinds hunlinked
  refine ⟨scenarioWiring, setupWiring, hconditions, haccepted, hscenario, hsetup, happlies,
    hunlinked, hdirect, fun hcrosses => hcrossed.2 ?_⟩
  exact (happlicable crossedPlacement).mpr ⟨(hsorted crossedPlacement).mp hcrossed.1, hcrosses⟩

end Session

end LabMatch
