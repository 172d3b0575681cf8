import LabMatch.Proofs.Capability.Target
import LabMatch.Proofs.Matching.Outcome

/-!
# Services bound to the device that carries them

No device can be bound to itself: the target of a declared binding is another device of
the same container, with another name.  A device that inherits the binding may still have
the name of its target.  On a container where such a device is visible, the binding leads
back to the device, and nothing in the matching of a scenario with a setup rules this out.
-/

namespace LabMatch

namespace Catalog

variable {catalog : Catalog} {container scenario setup : ContainerId} {placement : Placement}
  {device : DeviceId} {attr : String} {binding : Binding} {service : Service}
  {variation : Variation}

/-! ## Bindings that lead back -/

/-- The binding that the device declares or inherits names the device itself. -/
def LeadsBack (catalog : Catalog) (device : DeviceId) (attr : String) : Prop :=
  ∃ declared, catalog.declaredBinding? device attr = some declared ∧
    (catalog.device declared.target).name = (catalog.device device).name

/-- On a container where the device is visible, its binding in effect targets the device
itself exactly if the binding leads back. -/
theorem target_eq_self_iff (hdevice : device ∈ catalog.visibleDevices container)
    (hactive : catalog.activeBinding container device attr = some binding) :
    binding.target = device ↔ catalog.LeadsBack device attr := by
  obtain ⟨declared, hdeclared, rfl⟩ := activeBinding_eq_some_iff.mp hactive
  constructor
  · intro hself
    have hself : catalog.namesake container declared.target = device := hself
    exact ⟨declared, hdeclared, by rw [← hself, name_namesake]⟩
  · intro hback
    obtain ⟨found, hfound, hname⟩ := hback
    obtain rfl : declared = found := Option.some.inj (hdeclared.symm.trans hfound)
    have hnamesake : catalog.HasNamesake container declared.target :=
      ⟨device, hdevice, hname.symm⟩
    exact eq_of_mem_visibleDevices hnamesake.mem_visibleDevices hdevice
      (hnamesake.name_namesake.trans hname)

/-- A binding that leads back is inherited from a device of another name. -/
theorem LeadsBack.exists_renamed (hbuilt : Built catalog) (hback : catalog.LeadsBack device attr) :
    ∃ carrier ∈ catalog.ancestry device,
      (catalog.device carrier).name ≠ (catalog.device device).name := by
  obtain ⟨declared, hdeclared, hname⟩ := hback
  obtain ⟨carrier, hcarrier, hbinds⟩ := exists_of_declaredBinding? hdeclared
  obtain ⟨hne, -, hlisted, htarget⟩ := hbuilt.declared.of_binds hbinds
  refine ⟨carrier, hcarrier, fun hsame => hne ?_⟩
  exact List.inj_on_of_nodup_map (hbuilt.wellLaidOut.names _) hlisted htarget
    (hsame.trans hname.symm)

/-! ## The services of a variation -/

/-- What is recorded as applicable passed the check. -/
theorem exists_checkPlacement_of_mem_applicable {scenarioWiring setupWiring : Wiring}
    {tried : List Placement}
    (hvariation : variation ∈ (tried.foldl
      (catalog.recordPlacement scenario setup scenarioWiring setupWiring)
      ⟨scenario, setup, [], [], none⟩).applicable) :
    ∃ placement ∈ tried,
      catalog.checkPlacement scenario setup scenarioWiring setupWiring placement =
        .ok variation := by
  induction tried using List.reverseRecOn with
  | nil => cases hvariation
  | append_singleton earlier last ih =>
    rw [List.foldl_concat, recordPlacement] at hvariation
    have hearlier : ∀ placement ∈ earlier, placement ∈ earlier ++ [last] :=
      fun _ => List.mem_append_left _
    cases hcheck : catalog.checkPlacement scenario setup scenarioWiring setupWiring last with
    | error reason =>
      rw [hcheck] at hvariation
      obtain ⟨placement, hplacement, hpasses⟩ := ih hvariation
      exact ⟨placement, hearlier placement hplacement, hpasses⟩
    | ok checked =>
      rw [hcheck, List.mem_append, List.mem_singleton] at hvariation
      rcases hvariation with hbefore | rfl
      · obtain ⟨placement, hplacement, hpasses⟩ := ih hbefore
        exact ⟨placement, hearlier placement hplacement, hpasses⟩
      · exact ⟨last, List.mem_append_right _ (List.mem_singleton_self last), hcheck⟩

/-- Settling what is available changes nothing else. -/
theorem of_settleAvailable_eq_ok {setupWiring : Wiring} {deliveries : List Delivery}
    {settled : Service}
    (hserved : catalog.settleAvailable placement setupWiring deliveries settled = .ok service) :
    service = { settled with available := service.available } := by
  obtain ⟨device, attr, wanted, implementation, place, binding, available⟩ := settled
  cases binding with
  | none =>
    cases hserved
    rfl
  | some binding =>
    obtain ⟨requirements, -, hserved⟩ := exists_of_bind_eq_ok hserved
    split at hserved
    · cases hserved
      rfl
    · obtain ⟨found, -, hserved⟩ := exists_of_bind_eq_ok hserved
      split at hserved
      · cases hserved
        rfl
      · cases hserved

/-- The services of a variation are candidates on its placement, with the bindings in
effect. -/
theorem of_mem_services {scenarioWiring setupWiring : Wiring}
    (hpasses : catalog.checkPlacement scenario setup scenarioWiring setupWiring placement =
      .ok variation) (hservice : service ∈ variation.services) :
    catalog.Candidate placement service ∧
      catalog.BindsTo scenario setup placement service service.binding := by
  obtain ⟨opened, hopened, hpasses⟩ := exists_of_bind_eq_ok hpasses
  obtain ⟨bound, hbound, hpasses⟩ := exists_of_bind_eq_ok hpasses
  obtain ⟨_, -, hpasses⟩ := exists_of_bind_eq_ok hpasses
  obtain ⟨deliveries, -, hpasses⟩ := exists_of_bind_eq_ok hpasses
  obtain ⟨services, hservices, hpasses⟩ := exists_of_bind_eq_ok hpasses
  cases hpasses
  obtain ⟨settled, hsettled, hserved⟩ := (mem_iff_of_mapM_eq_ok hservices).mp hservice
  obtain ⟨hcandidate, hbinds, -⟩ := (mem_bound_iff hopened hbound).mp hsettled
  rw [of_settleAvailable_eq_ok hserved]
  exact ⟨⟨hcandidate.placed, hcandidate.wanted, hcandidate.offered, hcandidate.implements⟩, hbinds⟩

/-- A service is bound to the device that carries it if the binding of its scenario device
leads back, or if the scenario leaves it to the implementation and its own binding leads
back. -/
theorem target_eq_device_iff
    (hplaces : placement.Places (catalog.visibleDevices scenario) (catalog.visibleDevices setup))
    (hcandidate : catalog.Candidate placement service)
    (hbinds : catalog.BindsTo scenario setup placement service (some binding)) :
    binding.target = service.device ↔
      catalog.LeadsBack service.scenarioDevice service.attr ∨
      catalog.declaredBinding? service.scenarioDevice service.attr = none ∧
        catalog.LeadsBack service.device (catalog.attachment service.implementation).attr := by
  have hscenarioDevice : service.scenarioDevice ∈ catalog.visibleDevices scenario :=
    (hplaces.total _).mp (Option.isSome_of_eq_some hcandidate.placed)
  have hdevice : service.device ∈ catalog.visibleDevices setup :=
    hplaces.within _ _ hcandidate.placed
  rcases bindsTo_some_cases hbinds with ⟨wanted, hwanted, hplaced, -⟩ | ⟨hnone, hown⟩
  · have hcarried : binding.target = service.device ↔ wanted.target = service.scenarioDevice := by
      constructor
      · intro hself
        exact hplaces.injective _ _ _ hplaced (hself ▸ hcandidate.placed)
      · intro hself
        rw [hself, hcandidate.placed] at hplaced
        exact (Option.some.inj hplaced).symm
    have hdeclared : catalog.declaredBinding? service.scenarioDevice service.attr ≠ none := by
      obtain ⟨declared, hdeclared, -⟩ := activeBinding_eq_some_iff.mp hwanted
      rw [hdeclared]
      exact Option.some_ne_none declared
    rw [hcarried, target_eq_self_iff hscenarioDevice hwanted]
    simp only [hdeclared, false_and, or_false]
  · have hundeclared : catalog.declaredBinding? service.scenarioDevice service.attr = none :=
      Option.map_eq_none_iff.mp hnone
    have hstays : ¬ catalog.LeadsBack service.scenarioDevice service.attr := by
      intro hback
      obtain ⟨declared, hdeclared, -⟩ := hback
      rw [hundeclared] at hdeclared
      cases hdeclared
    rw [target_eq_self_iff hdevice hown]
    simp only [hundeclared, hstays, true_and, false_or]

/-- The services of the applicable variations are candidates on a placement of the visible
devices, with the bindings in effect. -/
theorem exists_of_mem_applicable
    (hvariation : variation ∈ (catalog.matchPair scenario setup).applicable)
    (hservice : service ∈ variation.services) :
    ∃ placement : Placement,
      placement.Places (catalog.visibleDevices scenario) (catalog.visibleDevices setup) ∧
      catalog.Candidate placement service ∧
      catalog.BindsTo scenario setup placement service service.binding := by
  rw [matchPair] at hvariation
  split at hvariation
  · cases hvariation
  · obtain ⟨placement, htried, hpasses⟩ := exists_checkPlacement_of_mem_applicable hvariation
    have hplaces := ((nodup_and_mem_iff_of_perm (List.Perm.refl _)).2 placement).mp htried
    exact ⟨placement, hplaces, of_mem_services hpasses hservice⟩

end Catalog

namespace Session

open Catalog

variable {catalog : Catalog}

/-- Which services of the applicable variations are bound to the device that carries them.
It is those whose scenario device has a binding that leads back, and those that the scenario
leaves unbound and whose own binding leads back.  Where a device and everything it extends
have one name, no binding does. -/
theorem target_eq_carrier_iff (hbuilt : Built catalog) {questions : List Question}
    {scenario setup : ContainerId} {variation : Variation} {service : Service} {binding : Binding}
    (hvariation : variation ∈ ((matchPair catalog scenario setup).run
      (afterAsking catalog questions)).1.applicable)
    (hservice : service ∈ variation.services) (hbinding : service.binding = some binding) :
    let own := (catalog.attachment service.implementation).attr
    (binding.target = service.device ↔
      catalog.LeadsBack service.scenarioDevice service.attr ∨
      catalog.declaredBinding? service.scenarioDevice service.attr = none ∧
        catalog.LeadsBack service.device own) ∧
    ((∀ device ∈ [service.scenarioDevice, service.device],
      ∀ ancestor ∈ catalog.ancestry device,
        (catalog.device ancestor).name = (catalog.device device).name) →
      binding.target ≠ service.device) := by
  rw [run_afterAsking (fun _ => answers_matchPair scenario setup)] at hvariation
  obtain ⟨placement, hplaces, hcandidate, hbinds⟩ := exists_of_mem_applicable hvariation hservice
  rw [hbinding] at hbinds
  have hself := target_eq_device_iff hplaces hcandidate hbinds
  refine ⟨hself, ?_⟩
  intro hnames htarget
  have hstays : ∀ device ∈ [service.scenarioDevice, service.device], ∀ attr,
      ¬ catalog.LeadsBack device attr := by
    intro device hdevice attr hback
    obtain ⟨carrier, hcarrier, hname⟩ := hback.exists_renamed hbuilt
    exact hname (hnames device hdevice carrier hcarrier)
  rcases hself.mp htarget with hback | ⟨-, hback⟩
  · exact hstays service.scenarioDevice (by simp) _ hback
  · exact hstays service.device (by simp) _ hback

/-- The ping of the tester is served by the host and bound to the board. -/
theorem target_eq_carrier_benchLab :
    ∃ variation ∈ ((matchPair benchLab ⟨0⟩ ⟨1⟩).run (afterAsking benchLab [])).1.applicable,
      ∃ service ∈ variation.services, service.binding = some ⟨"peer", ⟨3⟩⟩ ∧
        ((⟨3⟩ : DeviceId) = service.device ↔
          benchLab.LeadsBack service.scenarioDevice service.attr ∨
          benchLab.declaredBinding? service.scenarioDevice service.attr = none ∧
            benchLab.LeadsBack service.device
              (benchLab.attachment service.implementation).attr) := by
  have hserved : ∃ variation ∈
      ((matchPair benchLab ⟨0⟩ ⟨1⟩).run (afterAsking benchLab [])).1.applicable,
        ∃ service ∈ variation.services, service.binding = some ⟨"peer", ⟨3⟩⟩ := by
    decide +kernel
  obtain ⟨variation, hvariation, service, hservice, hbinding⟩ := hserved
  exact ⟨variation, hvariation, service, hservice, hbinding,
    (target_eq_carrier_iff built_benchLab hvariation hservice hbinding).1⟩

/-- A sender that is to reach a receiver which extends it, and a scenario of two linked
devices one of which is to send. -/
def echoedDeclarations : List Declaration :=
  let tcp := Connection.ofTags (TagSet.ofList ["tcp"])
  [.capability "Messaging", .logicalDevice ⟨0⟩ "peer", .require ⟨0⟩ tcp,
    .container .setup "Desk", .device ⟨0⟩ "Sender", .device ⟨0⟩ "Receiver",
    .extendDevice ⟨1⟩ ⟨0⟩, .attach (.device ⟨0⟩) "msg" ⟨0⟩, .bind ⟨0⟩ "peer" ⟨1⟩,
    .connect ⟨⟨0⟩, "n0"⟩ ⟨⟨1⟩, "n0"⟩ tcp false,
    .container .scenario "Talk", .device ⟨1⟩ "A", .device ⟨1⟩ "B",
    .attach (.device ⟨2⟩) "msg" ⟨0⟩, .connect ⟨⟨2⟩, "n0"⟩ ⟨⟨3⟩, "n0"⟩ tcp false]

def echoedLab : Catalog := (declareAll echoedDeclarations).toOption.getD empty

theorem built_echoedLab : Built echoedLab := by
  apply built_of_declareAll
  · decide +kernel
  · decide +kernel

/-- The receiver serves the scenario, and is bound to itself. -/
theorem target_eq_carrier_echoedLab :
    Built echoedLab ∧
    ((checkHierarchy echoedLab).run.run (afterAsking echoedLab [])).1 = .ok () ∧
    ∃ variation ∈ ((matchPair echoedLab ⟨1⟩ ⟨0⟩).run (afterAsking echoedLab [])).1.applicable,
      ∃ service ∈ variation.services, service.binding = some ⟨"peer", service.device⟩ := by
  have hok : ((checkHierarchy echoedLab).run.run (afterAsking echoedLab [])).1.isOk = true := by
    decide +kernel
  obtain ⟨nothing, haccepted⟩ := exists_of_isOk hok
  exact ⟨built_echoedLab, haccepted, by decide +kernel⟩

end Session

end LabMatch
