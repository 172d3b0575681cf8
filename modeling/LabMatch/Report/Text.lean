import LabMatch.Report.Basic

/-!
# Reports as text

The written form of a report for people: one paragraph per pair, then the
warnings.  Every line ends with a line feed.
-/

namespace LabMatch

def PlacementReport.text (placement : PlacementReport) : String :=
  ", ".intercalate (placement.entries.map fun entry => entry.1 ++ " -> " ++ entry.2)

def DeliveryReport.lines (delivery : DeliveryReport) : List String :=
  ("    " ++ delivery.source ++ " <-> " ++ delivery.target ++ ": `" ++ delivery.requirement
    ++ "` over `" ++ delivery.connection ++ "`")
  :: delivery.routes.map fun route => "      via " ++ route

def ServiceReport.line (service : ServiceReport) : String :=
  let binding := match service.logicalDevice, service.target with
    | some logicalDevice, some target => " (" ++ logicalDevice ++ " -> " ++ target ++ ")"
    | _, _ => ""
  "    " ++ service.capability ++ " => " ++ service.implementation ++ binding

def VariationReport.lines (variation : VariationReport) (number : Nat) : List String :=
  ("  variation " ++ toString number ++ ": " ++ variation.placement.text)
  :: (variation.deliveries.flatMap DeliveryReport.lines
    ++ variation.services.map ServiceReport.line)

def DiscardedReport.line (discarded : DiscardedReport) : String :=
  "  discarded " ++ discarded.placement.text ++ ": " ++ discarded.reason

def PairReport.lines (pair : PairReport) : List String :=
  let status := if pair.applicable.isEmpty then "not applicable" else "applicable"
  ["", pair.scenario ++ " on " ++ pair.setup ++ ": " ++ status]
    ++ (pair.error.toList.map fun error => "  error: " ++ error)
    ++ (pair.applicable.zipIdx 1).flatMap (fun numbered => numbered.1.lines numbered.2)
    ++ pair.discarded.map DiscardedReport.line

def Report.lines (report : Report) : List String :=
  ("run " ++ report.runId)
  :: (report.pairs.flatMap PairReport.lines
    ++ (if report.warnings.isEmpty then []
      else "" :: "warnings:" :: report.warnings.map fun warning => "  " ++ warning.text))

def Report.text (report : Report) : String :=
  String.join (report.lines.map fun line => line ++ "\n")

end LabMatch
