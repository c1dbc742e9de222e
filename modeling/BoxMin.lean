import BoxMin.Binary.Format
import BoxMin.Binary.Rounding
import BoxMin.Bounds
import BoxMin.Cancellation
import BoxMin.Client
import BoxMin.Decimal.Layout
import BoxMin.Decimal.Rounded
import BoxMin.Decimal.Shortest
import BoxMin.Error
import BoxMin.Error.Family
import BoxMin.History.Basic
import BoxMin.History.Progress
import BoxMin.Journal
import BoxMin.Log.Level
import BoxMin.Log.Registry
import BoxMin.Log.Template
import BoxMin.Minimize
import BoxMin.Number
import BoxMin.Options.Basic
import BoxMin.Options.Check
import BoxMin.Proofs.Arguments
import BoxMin.Proofs.Bounds
import BoxMin.Proofs.Diagnostics
import BoxMin.Proofs.Extent
import BoxMin.Proofs.History
import BoxMin.Proofs.Rehearsal
import BoxMin.Proofs.Run.Backends
import BoxMin.Proofs.Run.Cancelling
import BoxMin.Proofs.Run.Consistency
import BoxMin.Proofs.Run.Counting
import BoxMin.Proofs.Run.Course
import BoxMin.Proofs.Run.Exit
import BoxMin.Proofs.Run.Journal
import BoxMin.Proofs.Run.Limits
import BoxMin.Proofs.Run.Noting
import BoxMin.Proofs.Run.Observers
import BoxMin.Proofs.Run.Raising
import BoxMin.Proofs.Run.Safety
import BoxMin.Proofs.Run.Schedule
import BoxMin.Proofs.Run.Setup
import BoxMin.Proofs.Run.Simulation
import BoxMin.Proofs.Run.Turn
import BoxMin.Proofs.Run.Values
import BoxMin.Proofs.Task
import BoxMin.Rehearsal.Memory
import BoxMin.Rehearsal.Script
import BoxMin.Rehearsal.StandIn
import BoxMin.Run.Loop
import BoxMin.Run.State
import BoxMin.Shape
import BoxMin.Solver.Adapter
import BoxMin.Solver.Basic
import BoxMin.Solver.Opening
import BoxMin.Solver.Version
import BoxMin.Status
import BoxMin.Task
import BoxMin.Task.Code
import BoxMin.Task.Field
import BoxMin.Task.Reading
import BoxMin.Tensor.Basic
import BoxMin.Tensor.Gradient
import BoxMin.Tensor.Kind
import BoxMin.Text.Blank
import BoxMin.Text.Digit
import BoxMin.Text.Hex
import BoxMin.Text.Lines
import BoxMin.Text.Numeral
import BoxMin.Text.Padding
import BoxMin.Text.Printable
import BoxMin.Text.Quoted
import BoxMin.Text.Word
import BoxMin.Value.Basic
import BoxMin.Value.Cast
import BoxMin.Value.Comparison
import BoxMin.Value.Element
import BoxMin.Value.Exact
import BoxMin.Value.Extent
import BoxMin.Value.Framed
import BoxMin.Value.Operand
import BoxMin.Value.Printed
import BoxMin.Value.Reading
import BoxMin.Value.Tabular
import BoxMin.Workspace
import BoxMin.Proofs.Reply
import BoxMin.Proofs.Run.Repeated
import BoxMin.History.Slots
import BoxMin.Proofs.Row
import BoxMin.Proofs.Slots
import BoxMin.Proofs.Registry
import BoxMin.Proofs.Outputs
import BoxMin.Proofs.Binary.Rounding
import BoxMin.Proofs.Binary.Packing
import BoxMin.Proofs.Binary.Nearest
import BoxMin.Proofs.Numbers
import BoxMin.Proofs.OptionValues
import BoxMin.Proofs.Run.Evaluating
import BoxMin.Proofs.Binary.Order
import BoxMin.Proofs.Box
import BoxMin.Proofs.Columns
import BoxMin.Proofs.Field
import BoxMin.Proofs.Resolving
import BoxMin.Proofs.Run.Forms
import BoxMin.Proofs.Reconfiguring
import BoxMin.Proofs.Naming
import BoxMin.Proofs.WholeParts
import BoxMin.Proofs.Run.LineSearch
import BoxMin.Proofs.FieldWords
import BoxMin.Proofs.WordTable
