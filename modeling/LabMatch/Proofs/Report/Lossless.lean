import LabMatch.Proofs.Matching.Outcome
import LabMatch.Proofs.Session.Discipline
import LabMatch.Report.Basic

/-!
# Reports lose no placed device

A report lists a placement by the bare names of the scenario devices and writes the paths of
the setup devices.  Names are unique only within a container, so entries could get lost
where devices of several containers are visible together.

An accepted hierarchy excludes this.  A container that declares devices declares again
everything that it would inherit, so what is visible on a container stems from one level of
its ancestry: the nearest one with devices of its own.
-/

namespace LabMatch

namespace Catalog

variable {catalog : Catalog} {container : ContainerId} {device other : DeviceId}

/-! ## Visible devices have one source -/

def declaresDevices (catalog : Catalog) (container : ContainerId) : Bool :=
  !(catalog.container container).devices.isEmpty

/-- The nearest container of the ancestry that declares devices. -/
def deviceSource? (catalog : Catalog) (container : ContainerId) : Option ContainerId :=
  (catalog.ancestry container).find? catalog.declaresDevices

theorem deviceSource?_of_own (hown : (catalog.container container).devices ≠ []) :
    catalog.deviceSource? container = some container := by
  have hdeclares : catalog.declaresDevices container = true := by
    simpa [declaresDevices] using hown
  rw [deviceSource?, ancestry_eq, List.find?_cons_of_pos hdeclares]

theorem deviceSource?_of_isEmpty (hempty : (catalog.container container).devices = []) :
    catalog.deviceSource? container =
      (catalog.parent? container).bind catalog.deviceSource? := by
  have hdeclares : ¬ catalog.declaresDevices container = true := by
    simp [declaresDevices, hempty]
  rw [deviceSource?, ancestry_eq, List.find?_cons_of_neg hdeclares]
  cases catalog.parent? container with
  | none => rfl
  | some parent => rfl

/-- Without a parent nothing is visible but the own devices. -/
theorem mem_devices_of_parent?_eq_none (hparent : catalog.parent? container = none)
    (hvisible : device ∈ catalog.visibleDevices container) :
    device ∈ (catalog.container container).devices := by
  rw [mem_visibleDevices, visibleDevicesByName, ancestry_eq, hparent] at hvisible
  obtain ⟨-, level, hlevel, hdevice⟩ := of_get?_nearest hvisible
  rwa [List.mem_singleton.mp hlevel] at hdevice

/-- A container that keeps the discipline and declares devices shows no others. -/
theorem OverrideDiscipline.mem_visibleDevices_iff_of_own (hdiscipline : OverrideDiscipline catalog)
    (hbuilt : Built catalog) (hown : (catalog.container container).devices ≠ []) :
    device ∈ catalog.visibleDevices container ↔
      device ∈ (catalog.container container).devices := by
  refine ⟨fun hvisible => ?_, hbuilt.wellLaidOut.mem_visibleDevices_of_own⟩
  by_cases hdeclared : ∃ declared ∈ (catalog.container container).devices,
      (catalog.device declared).name = (catalog.device device).name
  · obtain ⟨declared, hmember, hname⟩ := hdeclared
    have hsame : declared = device :=
      eq_of_mem_visibleDevices (hbuilt.wellLaidOut.mem_visibleDevices_of_own hmember) hvisible hname
    exact hsame ▸ hmember
  · -- a name that is not declared again is not visible on the parent either
    have hundeclared : ∀ declared ∈ (catalog.container container).devices,
        (catalog.device declared).name ≠ (catalog.device device).name :=
      fun declared hmember hname => hdeclared ⟨declared, hmember, hname⟩
    cases hparent : catalog.parent? container with
    | none => exact mem_devices_of_parent?_eq_none hparent hvisible
    | some parent =>
      have hinherited : (catalog.visibleDevicesByName container).get? (catalog.device device).name =
          (catalog.visibleDevicesByName parent).get? (catalog.device device).name :=
        (deviceMembers hbuilt).get?_visible_of_parent hparent hundeclared
      rw [mem_visibleDevices, hinherited] at hvisible
      have hancestor : catalog.IsAncestor container parent := .single (isParent_of_parent? hparent)
      obtain ⟨declared, hmember, hname, -⟩ :=
        hdiscipline.devices container parent hancestor hown _ device hvisible
      exact absurd hname (hundeclared declared hmember)

/-- The devices visible on a container are those of the nearest container of its ancestry
that declares any. -/
theorem OverrideDiscipline.mem_visibleDevices_iff (hdiscipline : OverrideDiscipline catalog)
    (hbuilt : Built catalog) (container : ContainerId) :
    device ∈ catalog.visibleDevices container ↔
      ∃ source, catalog.deviceSource? container = some source ∧
        device ∈ (catalog.container source).devices := by
  induction container using catalog.parent_induction with
  | step container ih =>
    by_cases hown : (catalog.container container).devices = []
    · rw [deviceSource?_of_isEmpty hown]
      cases hparent : catalog.parent? container with
      | none =>
        simp only [Option.bind_none, reduceCtorEq, false_and, exists_false, iff_false]
        intro hvisible
        have hdevice := mem_devices_of_parent?_eq_none hparent hvisible
        rw [hown] at hdevice
        cases hdevice
      | some parent =>
        rw [visibleDevices_of_isEmpty (List.isEmpty_iff.mpr hown) hparent, Option.bind_some]
        exact ih parent hparent
    · rw [hdiscipline.mem_visibleDevices_iff_of_own hbuilt hown, deviceSource?_of_own hown]
      simp

/-- Visible devices have one owner. -/
theorem OverrideDiscipline.owner_eq (hdiscipline : OverrideDiscipline catalog)
    (hbuilt : Built catalog) (hdevice : device ∈ catalog.visibleDevices container)
    (hother : other ∈ catalog.visibleDevices container) :
    (catalog.device device).owner = (catalog.device other).owner := by
  obtain ⟨source, hsource, hdevice⟩ :=
    (hdiscipline.mem_visibleDevices_iff hbuilt container).mp hdevice
  obtain ⟨source', hsource', hother⟩ :=
    (hdiscipline.mem_visibleDevices_iff hbuilt container).mp hother
  obtain rfl : source = source' := Option.some.inj (hsource.symm.trans hsource')
  rw [(hbuilt.wellLaidOut.owner _ _ hdevice).1, (hbuilt.wellLaidOut.owner _ _ hother).1]

/-- Visible devices are told apart by their paths. -/
theorem OverrideDiscipline.eq_of_devicePath_eq (hdiscipline : OverrideDiscipline catalog)
    (hbuilt : Built catalog) (hdevice : device ∈ catalog.visibleDevices container)
    (hother : other ∈ catalog.visibleDevices container)
    (hpath : catalog.devicePath device = catalog.devicePath other) : device = other := by
  rw [devicePath, devicePath, hdiscipline.owner_eq hbuilt hdevice hother] at hpath
  exact eq_of_mem_visibleDevices hdevice hother ((String.append_right_inj _).mp hpath)

/-! ## Written placements -/

/-- What is written of a placement has an entry for each placed device, with the path of its
place, and tells the places apart. -/
structure Lossless (catalog : Catalog) (placement : Placement) (written : PlacementReport) :
    Prop where
  size : written.size = placement.size
  kept : ∀ device place, placement.get? device = some place →
    written.get? (catalog.device device).name = some (catalog.devicePath place)
  apart : ∀ device other place place', placement.get? device = some place →
    placement.get? other = some place' → place ≠ place' →
      catalog.devicePath place ≠ catalog.devicePath place'

/-- A placement on visible devices is written without loss. -/
theorem lossless_reportPlacement (hdiscipline : OverrideDiscipline catalog)
    (hbuilt : Built catalog) {scenario setup : ContainerId} {placement : Placement}
    (hplaces : placement.Places (catalog.visibleDevices scenario)
      (catalog.visibleDevices setup)) :
    catalog.Lossless placement (catalog.reportPlacement placement) := by
  have hvisible : ∀ entry ∈ placement.entries, entry.1 ∈ catalog.visibleDevices scenario := by
    intro entry hentry
    have hfound := (SortedMap.get?_eq_some_iff _ _ _).mpr hentry
    exact (hplaces.total entry.1).mp (Option.isSome_of_eq_some hfound)
  have hnames : ((placement.entries.map fun entry =>
      ((catalog.device entry.1).name, catalog.devicePath entry.2)).map Prod.fst).Nodup := by
    rw [List.map_map]
    apply placement.nodup_entries.map_on
    intro entry hentry other hother hname
    have hkey : entry.1 = other.1 :=
      eq_of_mem_visibleDevices (hvisible entry hentry) (hvisible other hother) hname
    exact List.inj_on_of_nodup_map placement.nodup_keys hentry hother hkey
  refine ⟨?_, fun device place hplaced => ?_,
    fun device other place place' hplaced hplaced' hne hpath => ?_⟩
  · rw [reportPlacement, SortedMap.size, (SortedMap.perm_entries_ofList hnames).length_eq,
      List.length_map, SortedMap.size]
  · rw [reportPlacement, SortedMap.get?_ofList_eq_some_iff hnames, List.mem_map]
    exact ⟨(device, place), (SortedMap.get?_eq_some_iff _ _ _).mp hplaced, rfl⟩
  · exact hne (hdiscipline.eq_of_devicePath_eq hbuilt (hplaces.within _ _ hplaced)
      (hplaces.within _ _ hplaced') hpath)

/-- The placements that matching sorts place the visible devices. -/
theorem places_of_mem_sorted {scenario setup : ContainerId} {placement : Placement}
    (hsorted : placement ∈ (catalog.matchPair scenario setup).sorted) :
    placement.Places (catalog.visibleDevices scenario) (catalog.visibleDevices setup) := by
  cases hscenario : catalog.reduced scenario with
  | error reason =>
    rw [matchPair, reducedPair, hscenario] at hsorted
    cases hsorted
  | ok scenarioWiring =>
    cases hsetup : catalog.reduced setup with
    | error reason =>
      rw [matchPair, reducedPair, hscenario, hsetup] at hsorted
      cases hsorted
    | ok setupWiring =>
      have hperm := (sorts_matchPair hscenario hsetup).perm
      exact ((nodup_and_mem_iff_of_perm hperm).2 placement).mp hsorted

/-- What is written of a pair loses nothing of its placements.  Discarded ones are written
where they are asked for. -/
structure WrittenWhole (catalog : Catalog) (showDiscarded : Bool) (outcome : PairOutcome)
    (written : PairReport) : Prop where
  applicable : List.Forall₂ (fun variation line =>
    catalog.Lossless variation.placement line.placement) outcome.applicable written.applicable
  discarded : List.Forall₂ (fun discarded line =>
    catalog.Lossless discarded.placement line.placement)
      (if showDiscarded then outcome.discarded else []) written.discarded

/-- The placements of a pair are all written. -/
theorem writtenWhole_reportPair (hdiscipline : OverrideDiscipline catalog)
    (hbuilt : Built catalog) (showDiscarded : Bool) {scenario setup : ContainerId} :
    catalog.WrittenWhole showDiscarded (catalog.matchPair scenario setup)
      (catalog.reportPair showDiscarded (catalog.matchPair scenario setup)) := by
  have hlossless : ∀ placement ∈ (catalog.matchPair scenario setup).sorted,
      catalog.Lossless placement (catalog.reportPlacement placement) :=
    fun _ hsorted => lossless_reportPlacement hdiscipline hbuilt (places_of_mem_sorted hsorted)
  constructor
  · rw [reportPair, List.forall₂_map_right_iff, List.forall₂_same]
    intro variation hvariation
    exact hlossless _ (List.mem_append_left _ (List.mem_map_of_mem hvariation))
  · cases showDiscarded with
    | false => exact .nil
    | true =>
      rw [reportPair, if_pos rfl, if_pos rfl, List.forall₂_map_right_iff, List.forall₂_same]
      intro discarded hdiscarded
      exact hlossless _ (List.mem_append_right _ (List.mem_map_of_mem hdiscarded))

end Catalog

namespace Session

open Catalog

variable {catalog : Catalog}

theorem pairs_report (runId : String) (outcomes : List PairOutcome) (showDiscarded : Bool)
    (session : Session) :
    ((report catalog runId outcomes showDiscarded).run session).1.pairs =
      outcomes.map (catalog.reportPair showDiscarded) := rfl

/-- Once the hierarchy is accepted, the devices visible on a container are those that the
nearest container of its ancestry with devices declares, so they share their owner.  Then
everything is matched, and the report on it loses no entry of a placement and writes
different paths for different setup devices. -/
theorem report_loses_nothing (hbuilt : Built catalog) {before : List Question}
    (haccepted : ((checkHierarchy catalog).run.run (afterAsking catalog before)).1 = .ok ()) :
    (∀ container device, device ∈ catalog.visibleDevices container ↔
      ∃ source, catalog.deviceSource? container = some source ∧
        device ∈ (catalog.container source).devices) ∧
    (∀ container, ∀ device ∈ catalog.visibleDevices container,
      ∀ other ∈ catalog.visibleDevices container,
        (catalog.device device).owner = (catalog.device other).owner) ∧
    ∀ later, ∃ outcomes, ((matchAll catalog).run.run (afterAsking catalog later)).1 = .ok outcomes ∧
      ∀ runId showDiscarded session, List.Forall₂ (catalog.WrittenWhole showDiscarded) outcomes
        ((report catalog runId outcomes showDiscarded).run session).1.pairs := by
  rw [checkHierarchy_afterAsking] at haccepted
  obtain ⟨-, hdiscipline⟩ := (hierarchy_eq_ok_iff hbuilt).mp haccepted
  refine ⟨fun container _ => hdiscipline.mem_visibleDevices_iff hbuilt container,
    fun _ _ hdevice _ hother => hdiscipline.owner_eq hbuilt hdevice hother, fun later => ?_⟩
  rw [run_afterAsking (fun _ => resolves_matchAll catalog), Catalog.matchAll, haccepted]
  refine ⟨_, rfl, fun runId showDiscarded session => ?_⟩
  rw [pairs_report, List.forall₂_map_right_iff, List.forall₂_same]
  intro outcome houtcome
  obtain ⟨pair, -, rfl⟩ := List.mem_map.mp houtcome
  exact writtenWhole_reportPair hdiscipline hbuilt showDiscarded

/-- A bench to be matched with the site of `layeredLab`, its wing and its room. -/
def layeredBenchLab : Catalog :=
  (declareAll (layeredDeclarations ++
    [.container .scenario "Bench", .device ⟨3⟩ "Probe"])).toOption.getD empty

/-- The probe finds a place on two devices of the site, twice, and on two of the room. -/
theorem report_layeredBenchLab :
    ∃ outcomes,
      ((matchAll layeredBenchLab).run.run (afterAsking layeredBenchLab [.hierarchy])).1 =
        .ok outcomes ∧
      (outcomes.flatMap PairOutcome.sorted).length = 6 ∧
      List.Forall₂ (layeredBenchLab.WrittenWhole true) outcomes
        ((report layeredBenchLab "run" outcomes true).run fresh).1.pairs := by
  have hbuilt : Built layeredBenchLab := by
    apply built_of_declareAll
    · decide +kernel
    · decide +kernel
  have hok : ((checkHierarchy layeredBenchLab).run.run
      (afterAsking layeredBenchLab [])).1.isOk = true := by decide +kernel
  have hcount : ((matchAll layeredBenchLab).run.run
      (afterAsking layeredBenchLab [.hierarchy])).1.toOption.map
        (fun outcomes => (outcomes.flatMap PairOutcome.sorted).length) = some 6 := by
    decide +kernel
  obtain ⟨nothing, haccepted⟩ := exists_of_isOk hok
  obtain ⟨-, -, hreport⟩ := report_loses_nothing hbuilt haccepted
  obtain ⟨outcomes, hmatched, hwritten⟩ := hreport [.hierarchy]
  rw [hmatched] at hcount
  exact ⟨outcomes, hmatched, Option.some.inj hcount, hwritten "run" true fresh⟩

end Session

end LabMatch
