import CellScript.BackgroundTask
import CellScript.Bytes
import CellScript.CommandLine.Invocation
import CellScript.CommandLine.Outcome
import CellScript.CommandLine.Topic
import CellScript.Config
import CellScript.Config.Document
import CellScript.Decimal.Format
import CellScript.Decimal.Numeral
import CellScript.Diagnostics
import CellScript.Dictionary
import CellScript.Engine
import CellScript.Eval.Block
import CellScript.Eval.Call
import CellScript.Eval.Step
import CellScript.Fault
import CellScript.Files.Tree
import CellScript.Heap.Basic
import CellScript.Heap.Container
import CellScript.Heap.Text
import CellScript.Host.Builtin
import CellScript.Host.Class
import CellScript.Host.Marshal
import CellScript.Host.Registry
import CellScript.Host.Value
import CellScript.Io.Console
import CellScript.Io.Handle
import CellScript.Io.Port
import CellScript.Json.Basic
import CellScript.Json.Printer
import CellScript.Json.Reader
import CellScript.Json.Record
import CellScript.Library.Basic
import CellScript.Library.Collection
import CellScript.Library.Function
import CellScript.Library.Handles
import CellScript.Library.Name
import CellScript.Library.Operator
import CellScript.Library.Predicate
import CellScript.Library.Strings
import CellScript.Machine.Basic
import CellScript.Machine.HostCall
import CellScript.Machine.Policy
import CellScript.Main
import CellScript.Panic
import CellScript.Pattern.Basic
import CellScript.Pattern.CharSet
import CellScript.Pattern.Reader
import CellScript.Program.Basic
import CellScript.Program.Binary
import CellScript.Program.Build
import CellScript.Program.Contents
import CellScript.Program.Format
import CellScript.Program.Image
import CellScript.Program.Listing
import CellScript.Proofs.BackgroundTask
import CellScript.Proofs.Chronicle.Account
import CellScript.Proofs.Chronicle.Depth
import CellScript.Proofs.Chronicle.Event
import CellScript.Proofs.Chronicle.Flags
import CellScript.Proofs.Chronicle.Profile
import CellScript.Proofs.Chronicle.Run
import CellScript.Proofs.Depth
import CellScript.Proofs.Diagnostics.Call
import CellScript.Proofs.Diagnostics.Counted
import CellScript.Proofs.Diagnostics.Inert
import CellScript.Proofs.Diagnostics.Log
import CellScript.Proofs.Engine.Account
import CellScript.Proofs.Engine.Depth
import CellScript.Proofs.Engine.Fatal
import CellScript.Proofs.Engine.House
import CellScript.Proofs.Engine.Isolation
import CellScript.Proofs.Engine.Neighbours
import CellScript.Proofs.Engine.Outcome
import CellScript.Proofs.Engine.Reachable
import CellScript.Proofs.Engine.Run
import CellScript.Proofs.Eval.Assignment
import CellScript.Proofs.Eval.Block
import CellScript.Proofs.Eval.Call
import CellScript.Proofs.Eval.Carried
import CellScript.Proofs.Eval.Condition
import CellScript.Proofs.Eval.Control
import CellScript.Proofs.Eval.Dispatch
import CellScript.Proofs.Eval.Expression
import CellScript.Proofs.Eval.Foreach
import CellScript.Proofs.Eval.Hook
import CellScript.Proofs.Eval.Operand
import CellScript.Proofs.Eval.Plain
import CellScript.Proofs.Eval.Raised
import CellScript.Proofs.Eval.Related
import CellScript.Proofs.Eval.Target
import CellScript.Proofs.Eval.Watch
import CellScript.Proofs.Generator.Call
import CellScript.Proofs.Generator.Drive
import CellScript.Proofs.Generator.Inline
import CellScript.Proofs.Generator.Resume
import CellScript.Proofs.Heap.Finite
import CellScript.Proofs.Heap.Growth
import CellScript.Proofs.Heap.Number
import CellScript.Proofs.Heap.Printout
import CellScript.Proofs.Heap.Walk
import CellScript.Proofs.Host.Ancestry
import CellScript.Proofs.Host.Assignable
import CellScript.Proofs.Host.Call
import CellScript.Proofs.Host.Conversion
import CellScript.Proofs.Host.Import
import CellScript.Proofs.Host.Lookup
import CellScript.Proofs.Host.Overload
import CellScript.Proofs.Host.Proxy
import CellScript.Proofs.Host.RoundTrip
import CellScript.Proofs.Json.Number
import CellScript.Proofs.Json.Text
import CellScript.Proofs.Library.Function
import CellScript.Proofs.Library.Operation
import CellScript.Proofs.Machine.Ended
import CellScript.Proofs.Machine.Frame
import CellScript.Proofs.Machine.Sound
import CellScript.Proofs.Machine.Stack
import CellScript.Proofs.Machine.Steps
import CellScript.Proofs.Map.Aged
import CellScript.Proofs.Map.Entries
import CellScript.Proofs.Map.Failure
import CellScript.Proofs.Map.Follow
import CellScript.Proofs.Map.Moment
import CellScript.Proofs.Map.Order
import CellScript.Proofs.Map.Recency
import CellScript.Proofs.Map.Request
import CellScript.Proofs.Mirror.Call
import CellScript.Proofs.Mirror.Data
import CellScript.Proofs.Mirror.Document
import CellScript.Proofs.Mirror.Eval
import CellScript.Proofs.Mirror.Heap
import CellScript.Proofs.Mirror.Host
import CellScript.Proofs.Mirror.House
import CellScript.Proofs.Mirror.Library
import CellScript.Proofs.Mirror.Link
import CellScript.Proofs.Mirror.Machine
import CellScript.Proofs.Mirror.Reading
import CellScript.Proofs.Mirror.Request
import CellScript.Proofs.Mirror.Sequence
import CellScript.Proofs.Mirror.Simulation
import CellScript.Proofs.Program.Binary
import CellScript.Proofs.Program.Course
import CellScript.Proofs.Program.Image
import CellScript.Proofs.Program.Shape
import CellScript.Proofs.Run.Agrees
import CellScript.Proofs.Run.Calm
import CellScript.Proofs.Run.General
import CellScript.Proofs.Run.Monitor
import CellScript.Proofs.Run.Relation
import CellScript.Proofs.Run.Tidy
import CellScript.Proofs.Scope.Chain
import CellScript.Proofs.Scope.Confined
import CellScript.Proofs.Scope.Guard
import CellScript.Proofs.Scope.Level
import CellScript.Proofs.Sequence.Change
import CellScript.Proofs.Sequence.History
import CellScript.Proofs.Sequence.Lineage
import CellScript.Proofs.Sequence.Operation
import CellScript.Proofs.Sequence.Removal
import CellScript.Proofs.Sequence.Request
import CellScript.Proofs.Sequence.Rewrite
import CellScript.Proofs.Sequence.Ring
import CellScript.Proofs.Sequence.Step
import CellScript.Proofs.Sequence.Window
import CellScript.Proofs.Sort.Comparison
import CellScript.Proofs.Sort.Function
import CellScript.Proofs.Sort.Natural
import CellScript.Proofs.Taint.Copy
import CellScript.Proofs.Taint.Deep
import CellScript.Proofs.Taint.Flow
import CellScript.Proofs.Taint.Sanitizer
import CellScript.Proofs.Text.Wildcard
import CellScript.Proofs.Throw.Block
import CellScript.Proofs.Throw.Caught
import CellScript.Proofs.Throw.Evaluator
import CellScript.Proofs.Throw.Exposed
import CellScript.Proofs.Throw.Handler
import CellScript.Proofs.Throw.Traced
import CellScript.Scope
import CellScript.Sequence.Store
import CellScript.Sequence.View
import CellScript.Session.Basic
import CellScript.Session.Command
import CellScript.Settings
import CellScript.Sort
import CellScript.Table
import CellScript.Text.Case
import CellScript.Text.Category
import CellScript.Text.Category.Table
import CellScript.Text.Quoted
import CellScript.Text.Search
import CellScript.Toml.Basic
import CellScript.Toml.Reader
import CellScript.Value
import CellScript.Wire.Host
import CellScript.Wire.Script
import CellScript.Wire.Value
