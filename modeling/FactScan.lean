import FactScan.Main
import FactScan.Proofs.Parametricity
import FactScan.Proofs.Dispatch
import FactScan.Proofs.WorldChanges
import FactScan.Proofs.ExpansionCache
import FactScan.Proofs.Simplify.Agreement
import FactScan.Proofs.Simplify.Refinement
import FactScan.Proofs.Simplify.Rules
import FactScan.Proofs.Simplify.Scan
import FactScan.Proofs.Simplify.Settled
import FactScan.Proofs.Simplify.Folding
import FactScan.Proofs.Simplify.Hosting
import FactScan.Proofs.Simplify.Reduction
import FactScan.Proofs.Breadcrumb.Blame
import FactScan.Proofs.Breadcrumb.Trail
import FactScan.Proofs.Reading.RoundTrip
import FactScan.Proofs.Reading.Image
import FactScan.Proofs.Reading.Simplified
import FactScan.Proofs.Reading.Slashes
import FactScan.Proofs.Reading.Locality
import FactScan.Proofs.DepthLimit
import FactScan.Proofs.Purity
import FactScan.Proofs.Interchange
import FactScan.Proofs.Copies
import FactScan.Proofs.Caches
import FactScan.Proofs.Facts.Growth
import FactScan.Proofs.Facts.Unnamed
import FactScan.Proofs.Facts.Clients
import FactScan.Proofs.Facts.Documents
import FactScan.Proofs.Facts.Workbench
import FactScan.Proofs.Registry.Upkeep
import FactScan.Proofs.KeptState
import FactScan.Proofs.Inlining.Calls
import FactScan.Proofs.Generators
import FactScan.Proofs.Aggregates.Extremes
import FactScan.Proofs.Aggregates.Totals
import FactScan.Proofs.Comparisons
import FactScan.Proofs.Placeholders
import FactScan.Proofs.DeMorgan
import FactScan.Proofs.Aggregates.Selection
import FactScan.Proofs.Composition
import FactScan.Proofs.Lines
import FactScan.Proofs.Scalars.Identity
import FactScan.Proofs.Tracing.Undisturbed
