import LabMatch.Id
import LabMatch.Ordered.SortedMap

/-!
# Placements

A placement assigns a setup device to every scenario device, and no setup device
twice.  `placements` enumerates them: the first scenario device takes each of the
setup devices in turn, and the others are placed on what is left.
-/

namespace LabMatch

/-- Where scenario devices are placed. -/
abbrev Placement := SortedMap DeviceId DeviceId

/-- Every way to take one member out of a list, with what is left. -/
def picks {Item : Type} : List Item → List (Item × List Item)
  | [] => []
  | first :: others =>
    (first, others) :: (picks others).map fun pick => (pick.1, first :: pick.2)

/-- Every way to assign a place of its own to each of the devices. -/
def assignments : List DeviceId → List DeviceId → List (List (DeviceId × DeviceId))
  | [], _ => [[]]
  | device :: others, places =>
    (picks places).flatMap fun pick =>
      (assignments others pick.2).map fun assigned => (device, pick.1) :: assigned

/-- Every placement of the scenario devices on the setup devices. -/
def placements (scenarioDevices setupDevices : List DeviceId) : List Placement :=
  if scenarioDevices.length ≤ setupDevices.length then
    (assignments scenarioDevices setupDevices).map SortedMap.ofList
  else []

def Placement.placedOn? (placement : Placement) (setupDevice : DeviceId) : Option DeviceId :=
  (placement.entries.find? fun entry => entry.2 == setupDevice).map (·.1)

end LabMatch
