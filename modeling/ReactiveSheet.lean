import ReactiveSheet.CellId
import ReactiveSheet.IdSet
import ReactiveSheet.Text.Blank
import ReactiveSheet.Text.WordChar
import ReactiveSheet.Text.Quoted
import ReactiveSheet.Binary64.Magnitude
import ReactiveSheet.Binary64.Equality
import ReactiveSheet.Binary64.Decimal
import ReactiveSheet.Formula
import ReactiveSheet.Postfix
import ReactiveSheet.Cell
import ReactiveSheet.Grid
import ReactiveSheet.Grid.Links
import ReactiveSheet.Grid.Recompute
import ReactiveSheet.Settings
import ReactiveSheet.Sheet
import ReactiveSheet.Sheet.Run
import ReactiveSheet.View
import ReactiveSheet.Text.Reader
import ReactiveSheet.Toml.Value
import ReactiveSheet.Toml.Quoted
import ReactiveSheet.Toml.Scalar
import ReactiveSheet.Toml.Document
import ReactiveSheet.Settings.File
import ReactiveSheet.Json.Value
import ReactiveSheet.Json.Reading
import ReactiveSheet.Json.Codec
import ReactiveSheet.Proofs.Reach
import ReactiveSheet.Proofs.CellValue
import ReactiveSheet.Proofs.Grid.Reads
import ReactiveSheet.Proofs.Grid.Shape
import ReactiveSheet.Proofs.Grid.Downstream
import ReactiveSheet.Proofs.Grid.CycleSearch
import ReactiveSheet.Proofs.Grid.Schedule
import ReactiveSheet.Proofs.Grid.Links
import ReactiveSheet.Proofs.Grid.Values
import ReactiveSheet.Proofs.Grid.Pass
import ReactiveSheet.Proofs.Grid.Settled
import ReactiveSheet.Proofs.Sheet.Edit
import ReactiveSheet.Proofs.Grid.Fresh
import ReactiveSheet.Proofs.Sheet.Run
import ReactiveSheet.Proofs.Sheet.Links
import ReactiveSheet.Proofs.Sheet.Recalculate
import ReactiveSheet.Proofs.Sheet.Settled
import ReactiveSheet.Proofs.Sheet.CycleMarks
import ReactiveSheet.Proofs.Grid.Assignments
import ReactiveSheet.Proofs.Sheet.Effects
import ReactiveSheet.Proofs.Sheet.Independence
import ReactiveSheet.Proofs.Grid.Changes
import ReactiveSheet.Proofs.Sheet.History
import ReactiveSheet.Proofs.Sheet.Notifications
import ReactiveSheet.Proofs.Sheet.Host
import ReactiveSheet.Proofs.Sheet.RoundTrip
import ReactiveSheet.Proofs.Sheet.Reversal
import ReactiveSheet.Proofs.Sheet.Recovery
import ReactiveSheet.Proofs.Sheet.LateCells
import ReactiveSheet.Proofs.Sheet.HiddenErrors
import ReactiveSheet.Proofs.Sheet.BoundedHistory
import ReactiveSheet.Proofs.Grid.Padded
import ReactiveSheet.Proofs.Sheet.SpareCells
import ReactiveSheet.Proofs.Binary64.ReadBack
import ReactiveSheet.Proofs.Formula.Words
import ReactiveSheet.Proofs.Stack
import ReactiveSheet.Proofs.Sheet.Flatten
import ReactiveSheet.Proofs.ExpressionTree
import ReactiveSheet.Proofs.Sheet.Failures
import ReactiveSheet.Proofs.Grid.ShortestCycle
import ReactiveSheet.Proofs.Grid.Rescan
import ReactiveSheet.Proofs.Binary64.Spelling
import ReactiveSheet.Proofs.Formula.Pieces
import ReactiveSheet.Proofs.Formula.Literals
import ReactiveSheet.Proofs.Formula.Kinds
import ReactiveSheet.Proofs.Formula.Environment
import ReactiveSheet.Proofs.Formula.Tracking
import ReactiveSheet.Proofs.Formula.Normal
import ReactiveSheet.Proofs.Sheet.StoredFormulas
import ReactiveSheet.Proofs.Sheet.EditFrame
import ReactiveSheet.Proofs.Sheet.UndoFrame
import ReactiveSheet.Proofs.Binary64.Shown
import ReactiveSheet.Proofs.Sheet.Loading
import ReactiveSheet.Proofs.Json.RoundTrip
import ReactiveSheet.Proofs.Json.Views
import ReactiveSheet.Proofs.Grid.Loop
import ReactiveSheet.Proofs.Sheet.Passes
import ReactiveSheet.Proofs.Grid.Worklist
