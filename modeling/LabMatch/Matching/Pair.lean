import LabMatch.Matching.Check
import LabMatch.Session.Hierarchy
import LabMatch.Wiring.Reduction

/-!
# Matching scenarios with setups

Both containers of a pair are reduced first; if that fails, no placement is
tried.  Otherwise every placement of the visible scenario devices on the visible
setup devices is checked, and becomes a variation or is discarded.
-/

namespace LabMatch.Session

variable (catalog : Catalog)

def recordPlacement (scenario setup : ContainerId) (scenarioWiring setupWiring : Wiring)
    (outcome : PairOutcome) (placement : Placement) : StateM Session PairOutcome := do
  match ← (checkPlacement catalog scenario setup scenarioWiring setupWiring placement).run with
  | .ok variation => return { outcome with applicable := outcome.applicable ++ [variation] }
  | .error reason =>
    return { outcome with discarded := outcome.discarded ++ [⟨placement, reason⟩] }

/-- The reduced wirings of both containers of a pair. -/
def reducedPair (scenario setup : ContainerId) : Resolving ResolveError (Wiring × Wiring) := do
  let scenarioWiring ← reducedWiring catalog scenario
  let setupWiring ← reducedWiring catalog setup
  return (scenarioWiring.links, setupWiring.links)

/-- Resolves a scenario against a setup. -/
def matchPair (scenario setup : ContainerId) : StateM Session PairOutcome := do
  match ← (reducedPair catalog scenario setup).run with
  | .error error => return ⟨scenario, setup, [], [], some error⟩
  | .ok (scenarioWiring, setupWiring) =>
    let scenarioDevices ← devicesOf catalog scenario
    let setupDevices ← devicesOf catalog setup
    (placements scenarioDevices setupDevices).foldlM
      (recordPlacement catalog scenario setup scenarioWiring setupWiring)
      ⟨scenario, setup, [], [], none⟩

/-- Checks the override discipline, then resolves every scenario against every
setup in the order of declaration. -/
def matchAll : Resolving HierarchyError (List PairOutcome) := do
  checkHierarchy catalog
  let pairs := (catalog.containersOfKind .scenario).flatMap fun scenario =>
    (catalog.containersOfKind .setup).map fun setup => (scenario, setup)
  pairs.mapM fun pair => (matchPair catalog pair.1 pair.2 : StateM Session PairOutcome)

end LabMatch.Session
