import Multigrad.Histogram
import Multigrad.Meta.Description
import Multigrad.Meta.Fields
import Multigrad.Model.Coordinatewise
import Multigrad.Model.Regression
import Multigrad.Model.Rosenbrock
import Multigrad.Proofs.Bounds.Classification
import Multigrad.Proofs.Bounds.Partition
import Multigrad.Proofs.Counters
import Multigrad.Proofs.Counters.History
import Multigrad.Proofs.Counters.Tally
import Multigrad.Proofs.Decimal.Rounding
import Multigrad.Proofs.Double.Arithmetic
import Multigrad.Proofs.Double.Exact
import Multigrad.Proofs.Double.Faithful
import Multigrad.Proofs.Double.Nearest
import Multigrad.Proofs.Double.Order
import Multigrad.Proofs.Histogram
import Multigrad.Proofs.Meta.Checks
import Multigrad.Proofs.Meta.Declared
import Multigrad.Proofs.Meta.Describable
import Multigrad.Proofs.Meta.Outcome
import Multigrad.Proofs.Meta.Predicates
import Multigrad.Proofs.Meta.Rebuilding
import Multigrad.Proofs.Meta.Soundness
import Multigrad.Proofs.Meta.Stages
import Multigrad.Proofs.Meta.Table
import Multigrad.Proofs.Model.Distance
import Multigrad.Proofs.Model.Evaluations
import Multigrad.Proofs.Model.Expansion
import Multigrad.Proofs.Model.Gradients
import Multigrad.Proofs.Model.Regression
import Multigrad.Proofs.Model.Slopes
import Multigrad.Proofs.Model.Straight
import Multigrad.Proofs.Reading
import Multigrad.Proofs.Scalar.Exact
import Multigrad.Proofs.Scalar.Floor
import Multigrad.Proofs.Solver.Accounting
import Multigrad.Proofs.Solver.Approach
import Multigrad.Proofs.Solver.ClosedForm
import Multigrad.Proofs.Solver.Course
import Multigrad.Proofs.Solver.Decay
import Multigrad.Proofs.Solver.Descent
import Multigrad.Proofs.Solver.EarlierUse
import Multigrad.Proofs.Solver.Independence
import Multigrad.Proofs.Solver.Iteration
import Multigrad.Proofs.Solver.Journal
import Multigrad.Proofs.Solver.Loop
import Multigrad.Proofs.Solver.Mixing
import Multigrad.Proofs.Solver.Opposite
import Multigrad.Proofs.Solver.Orders
import Multigrad.Proofs.Solver.Parts
import Multigrad.Proofs.Solver.Progress
import Multigrad.Proofs.Solver.Registry
import Multigrad.Proofs.Solver.Reordering
import Multigrad.Proofs.Solver.Resumption
import Multigrad.Proofs.Solver.Solve
import Multigrad.Proofs.Solver.Stopping
import Multigrad.Proofs.Solver.Termination
import Multigrad.Proofs.Solver.Trajectory
import Multigrad.Proofs.Stats.Equality
import Multigrad.Proofs.Stats.Rebuilding
import Multigrad.Proofs.Value.Content
import Multigrad.Proofs.Value.Equivalence
import Multigrad.Proofs.Value.Integer
import Multigrad.Proofs.Value.Nested
import Multigrad.Proofs.Value.RecordEquality
import Multigrad.Proofs.Value.Typed
import Multigrad.Proofs.Width
import Multigrad.Solver.Log
import Multigrad.Stats.Build
import Multigrad.Stats.Fields
import Multigrad.Stats.Text
import Multigrad.Value.TypedRecord
