import LabMatch.Matching.Pair

/-!
# Reports

A report names everything that a run resolved.  Scenario devices are named by
their bare names and setup devices by their paths, so the entries of a placement
are listed by the names of the scenario devices.  The warnings of all reduced
containers come first, the hints of all capability types after them.
-/

namespace LabMatch

/-- Where scenario devices are placed, by name. -/
abbrev PlacementReport := SortedMap String String

structure DeliveryReport where
  source : String
  target : String
  requirement : String
  connection : String
  routes : List String

structure ServiceReport where
  capability : String
  implementation : String
  logicalDevice : Option String
  target : Option String
  available : Option String

structure VariationReport where
  placement : PlacementReport
  deliveries : List DeliveryReport
  services : List ServiceReport

structure DiscardedReport where
  placement : PlacementReport
  reason : String

structure PairReport where
  scenario : String
  setup : String
  applicable : List VariationReport
  /-- Empty unless discarded placements are asked for. -/
  discarded : List DiscardedReport
  error : Option String

/-- What a run resolved. -/
structure Report where
  runId : String
  pairs : List PairReport
  warnings : List Warning

namespace Catalog

variable (catalog : Catalog)

def reportPlacement (placement : Placement) : PlacementReport :=
  SortedMap.ofList (placement.entries.map fun entry =>
    ((catalog.device entry.1).name, catalog.devicePath entry.2))

/-- The endpoints of a route, joined by arrows. -/
def reportRoute (route : Route) : String :=
  " -> ".intercalate (route.stops.map catalog.endpointPath)

def reportDelivery (delivery : Delivery) : DeliveryReport :=
  { source := catalog.endpointPath delivery.source
    target := catalog.endpointPath delivery.target
    requirement := delivery.requirement.text
    connection := delivery.connection.text
    routes := delivery.routes.map catalog.reportRoute }

def reportService (service : Service) : ServiceReport :=
  { capability := catalog.attachmentPath service.scenarioAttachment
    implementation := catalog.attachmentPath service.implementation
    logicalDevice := service.binding.map Binding.logicalDevice
    target := service.binding.map fun binding => catalog.devicePath binding.target
    available := service.available.map Connection.text }

def reportVariation (variation : Variation) : VariationReport :=
  { placement := catalog.reportPlacement variation.placement
    deliveries := variation.deliveries.map catalog.reportDelivery
    services := variation.services.map catalog.reportService }

def reportDiscarded (discarded : Discarded) : DiscardedReport :=
  { placement := catalog.reportPlacement discarded.placement
    reason := discarded.reason.message }

def reportPair (showDiscarded : Bool) (outcome : PairOutcome) : PairReport :=
  { scenario := (catalog.container outcome.scenario).name
    setup := (catalog.container outcome.setup).name
    applicable := outcome.applicable.map catalog.reportVariation
    discarded := if showDiscarded then outcome.discarded.map catalog.reportDiscarded else []
    error := outcome.error.map ResolveError.message }

end Catalog

namespace Session

variable (catalog : Catalog)

def warningsOfContainer (id : ContainerId) : StateM Session (List Warning) := do
  let notes ← visitContainer id
  return (notes.reduced.map ReducedWiring.warnings).getD []

def hintsOf (id : CapabilityId) : StateM Session (List Warning) := do
  return (← visitCapability id).hints

/-- Every warning and hint noted so far. -/
def allWarnings : StateM Session (List Warning) := do
  let warnings ← (catalog.ids .container).mapM warningsOfContainer
  let hints ← (catalog.ids .capability).mapM hintsOf
  return warnings.flatten ++ hints.flatten

def report (runId : String) (outcomes : List PairOutcome) (showDiscarded : Bool) :
    StateM Session Report := do
  let warnings ← allWarnings catalog
  return ⟨runId, outcomes.map (catalog.reportPair showDiscarded), warnings⟩

end Session

end LabMatch
