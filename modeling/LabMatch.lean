import LabMatch.Ordered.Ascending
import LabMatch.Ordered.SortedMap
import LabMatch.Connection.Relations
import LabMatch.Connection.Text
import LabMatch.Connection.Expression
import LabMatch.Wiring.Route
import LabMatch.Wiring.Reduction
import LabMatch.Capability.Choice
import LabMatch.Capability.Variant
import LabMatch.Catalog.Declare
import LabMatch.Session.Hierarchy
import LabMatch.Matching.Pair
import LabMatch.Report.Text
import LabMatch.Report.Json
import LabMatch.Toml.Document
import LabMatch.Toml.Quoted
import LabMatch.Toml.Record
import LabMatch.DeclarationFile.Read
import LabMatch.DeclarationFile.Load
import LabMatch.Settings
import LabMatch.CommandLine.Arguments
import LabMatch.CommandLine.Run
import LabMatch.RunId
import LabMatch.Main
import LabMatch.Proofs.Connection.Lattice
import LabMatch.Proofs.Wiring.Search
import LabMatch.Proofs.Wiring.Rounds
import LabMatch.Proofs.Wiring.Reduced
import LabMatch.Proofs.Session.Transparency
import LabMatch.Proofs.Session.Discipline
import LabMatch.Proofs.Capability.Bound
import LabMatch.Proofs.Matching.Connectivity
import LabMatch.Proofs.Matching.Outcome
import LabMatch.Proofs.Connection.Choice
import LabMatch.Proofs.Connection.Equivalence
import LabMatch.Proofs.Wiring.Attached
import LabMatch.Proofs.Wiring.Inherited
import LabMatch.Proofs.Connection.Printed
import LabMatch.Proofs.Matching.Inheriting
import LabMatch.Proofs.Matching.Isolated
import LabMatch.Proofs.Catalog.WellFormed
import LabMatch.Proofs.Wiring.Attempts
import LabMatch.Proofs.Wiring.Ambiguity
import LabMatch.Proofs.Matching.Direction
import LabMatch.Proofs.Capability.Choice
import LabMatch.Proofs.Capability.Variant
import LabMatch.Proofs.Wiring.Losses
import LabMatch.Proofs.Wiring.Served
import LabMatch.Proofs.Matching.Enumeration
import LabMatch.Proofs.Capability.Target
import LabMatch.Proofs.Matching.Carrier
import LabMatch.Proofs.Capability.Origin
import LabMatch.Proofs.Capability.Signature
import LabMatch.Proofs.Connection.Expansion
import LabMatch.Proofs.Connection.Offence
import LabMatch.Proofs.Connection.Reread
import LabMatch.Proofs.DeclarationFile.Bindings
import LabMatch.Proofs.DeclarationFile.Paths
import LabMatch.Proofs.Connection.Composed
import LabMatch.Proofs.Report.Lossless
import LabMatch.Proofs.Wiring.Duplicates
import LabMatch.Proofs.Matching.Composable
import LabMatch.Proofs.Ordered.Nested
import LabMatch.Proofs.Wiring.Rows
import LabMatch.Proofs.Wiring.Functorial
import LabMatch.Proofs.Catalog.SubtypeOrder
import LabMatch.Proofs.Catalog.Nearest
