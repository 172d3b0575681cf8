import LabMatch.Proofs.Catalog.Discipline
import LabMatch.Proofs.Session.Transparency

/-!
# The hierarchy check of a session

Whatever a session was asked before, its hierarchy check decides the override
discipline along whole chains.
-/

namespace LabMatch.Session

open Catalog

variable {catalog : Catalog}

/-- The hierarchy is judged alike after any questions. -/
theorem checkHierarchy_afterAsking (catalog : Catalog) (questions : List Question) :
    ((checkHierarchy catalog).run.run (afterAsking catalog questions)).1 = catalog.hierarchy :=
  run_afterAsking (fun _ => resolves_checkHierarchy catalog) questions

/-- The check is passed exactly if no entity has multiple parents and every entity
keeps the discipline towards all of its ancestors.  It reports multiple parents
exactly if there are any.  On a catalogue that passes, what is visible on an entity
specialises what is visible on each of its ancestors. -/
theorem checkHierarchy_decides_overrideDiscipline (hbuilt : Built catalog)
    (questions : List Question) :
    let outcome := ((checkHierarchy catalog).run.run (afterAsking catalog questions)).1
    (outcome = .ok () ↔ catalog.SingleParents ∧ OverrideDiscipline catalog) ∧
    ((∃ entity parents, outcome = .error (.multipleParents entity parents)) ↔
      ∃ family, ∃ id : Id family, 1 < (catalog.parents family id).length) ∧
    (outcome = .ok () → VisiblySpecializes catalog) := by
  have hmultiple : ¬ catalog.SingleParents ↔
      ∃ family, ∃ id : Id family, 1 < (catalog.parents family id).length := by
    simp only [SingleParents, not_forall, Nat.not_le]
  rw [checkHierarchy_afterAsking]
  exact ⟨hierarchy_eq_ok_iff hbuilt, exists_multipleParents_iff.trans hmultiple,
    visiblySpecializes_of_hierarchy hbuilt⟩

/-- A site, a wing of it without devices of its own, and a room of the wing that
declares the devices of the site again.  The room offers a faster link, but it takes
the binding over from the site. -/
def layeredDeclarations : List Declaration :=
  let lan := Connection.ofTags (TagSet.ofList ["lan"])
  [.capability "Port",
    .capability "Link", .logicalDevice ⟨1⟩ "peer", .attach (.logicalDevice ⟨0⟩) "port" ⟨0⟩,
    .require ⟨0⟩ lan,
    .capability "FastLink", .extendCapability ⟨2⟩ ⟨1⟩, .logicalDevice ⟨2⟩ "peer",
    .extendLogicalDevice ⟨1⟩ ⟨0⟩,
    .container .setup "Site", .device ⟨0⟩ "Host", .device ⟨0⟩ "Board",
    .attach (.device ⟨0⟩) "net" ⟨1⟩, .bind ⟨1⟩ "peer" ⟨1⟩,
    .container .setup "Wing", .extendContainer ⟨1⟩ ⟨0⟩,
    .container .setup "Room", .extendContainer ⟨2⟩ ⟨1⟩, .device ⟨2⟩ "Host", .device ⟨2⟩ "Board",
    .extendDevice ⟨2⟩ ⟨0⟩, .extendDevice ⟨3⟩ ⟨1⟩, .attach (.device ⟨2⟩) "net" ⟨2⟩]

def layeredLab : Catalog := (declareAll layeredDeclarations).toOption.getD empty

theorem built_layeredLab : Built layeredLab := by
  apply built_of_declareAll
  · decide +kernel
  · decide +kernel

/-- The wing and the room keep the discipline, and show in a refined form what is visible on the
site. -/
theorem checkHierarchy_layeredLab :
    let outcome := ((checkHierarchy layeredLab).run.run
      (afterAsking layeredLab [.visibleDevices ⟨2⟩])).1
    outcome = .ok () ∧ OverrideDiscipline layeredLab ∧ VisiblySpecializes layeredLab := by
  have hok : ((checkHierarchy layeredLab).run.run
      (afterAsking layeredLab [.visibleDevices ⟨2⟩])).1.isOk = true := by decide +kernel
  obtain ⟨nothing, haccepted⟩ := exists_of_isOk hok
  obtain ⟨hdecides, -, hvisible⟩ :=
    checkHierarchy_decides_overrideDiscipline built_layeredLab [.visibleDevices ⟨2⟩]
  exact ⟨haccepted, (hdecides.mp haccepted).2, hvisible haccepted⟩

end LabMatch.Session
