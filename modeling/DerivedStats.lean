import DerivedStats.Engine
import DerivedStats.Main
import DerivedStats.Proofs.Attribute.Listing
import DerivedStats.Proofs.ClassTree.Ancestors
import DerivedStats.Proofs.ClassTree.Arena
import DerivedStats.Proofs.Engine.Reloading
import DerivedStats.Proofs.Engine.Seeding
import DerivedStats.Proofs.Formula.CompileComplete
import DerivedStats.Proofs.Formula.CompileSound
import DerivedStats.Proofs.Formula.Grammar
import DerivedStats.Proofs.Formula.Numerals
import DerivedStats.Proofs.Formula.Scanning
import DerivedStats.Proofs.Pipeline.Calls
import DerivedStats.Proofs.Pipeline.Clashes
import DerivedStats.Proofs.Pipeline.Evaluation
import DerivedStats.Proofs.Pipeline.Isolation
import DerivedStats.Proofs.Pipeline.Report
import DerivedStats.Proofs.Pipeline.Served
import DerivedStats.Proofs.Pipeline.Transparency
import DerivedStats.Proofs.Profile.History
import DerivedStats.Proofs.Profile.Saved
import DerivedStats.Proofs.Roster.Settled
import DerivedStats.Proofs.Roster.Updates
import DerivedStats.Proofs.Formula.Depth
import DerivedStats.Proofs.Formula.FaultLevels
import DerivedStats.Proofs.Formula.FaultPrimaries
import DerivedStats.Proofs.Formula.CompileFaults
import DerivedStats.Proofs.Config.Flaws
import DerivedStats.Proofs.Config.Validation
import DerivedStats.Proofs.Formula.RandomFree
import DerivedStats.Proofs.Pipeline.Interference
import DerivedStats.Proofs.Pipeline.Interleaving
import DerivedStats.Proofs.Pipeline.ParallelUpdates
import DerivedStats.Proofs.Formula.References
import DerivedStats.Proofs.Pipeline.WrittenBack
import DerivedStats.Proofs.Formula.Limits
import DerivedStats.Proofs.Decimal.Magnitude
import DerivedStats.Proofs.Decimal.Rounding
import DerivedStats.Proofs.Decimal.Shortest
import DerivedStats.Proofs.Decimal.Bits
import DerivedStats.Proofs.Decimal.Nearness
import DerivedStats.Proofs.Formula.Constants
import DerivedStats.Proofs.Pipeline.BareNumbers
import DerivedStats.Proofs.Pipeline.Multipliers
import DerivedStats.Proofs.Formula.Spellings
import DerivedStats.Proofs.Pipeline.Bindings
import DerivedStats.Proofs.Pipeline.Exchange
import DerivedStats.Proofs.Formula.Memo
import DerivedStats.Proofs.Formula.Scopes
import DerivedStats.Proofs.Roster.Containment
import DerivedStats.Proofs.Lifecycle.Isolation
import DerivedStats.Proofs.Attribute.Paths
import DerivedStats.Proofs.Formula.DescentRuns
