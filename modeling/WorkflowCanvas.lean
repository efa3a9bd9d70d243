import WorkflowCanvas.Event.Bus
import WorkflowCanvas.Event.Reader
import WorkflowCanvas.Main
import WorkflowCanvas.Proofs.Order.Walk
import WorkflowCanvas.Proofs.Order.Plan
import WorkflowCanvas.Proofs.Order.Release
import WorkflowCanvas.Proofs.Run.Input
import WorkflowCanvas.Proofs.Run.Marks
import WorkflowCanvas.Proofs.Run.Course
import WorkflowCanvas.Proofs.Run.Accounting
import WorkflowCanvas.Proofs.Run.Dataflow
import WorkflowCanvas.Proofs.Run.Flight
import WorkflowCanvas.Proofs.Run.Log
import WorkflowCanvas.Proofs.Run.Dependence
import WorkflowCanvas.Proofs.Run.Calm
import WorkflowCanvas.Proofs.Run.Cyclicity
import WorkflowCanvas.Proofs.Float.Finite
import WorkflowCanvas.Proofs.Json.KeyMap
import WorkflowCanvas.Proofs.Json.Reading
import WorkflowCanvas.Proofs.Json.Proper
import WorkflowCanvas.Proofs.Validation.Config
import WorkflowCanvas.Proofs.Graph.Editing
import WorkflowCanvas.Proofs.Graph.Saving
import WorkflowCanvas.Proofs.Graph.Removal
import WorkflowCanvas.Proofs.Record.Reading
import WorkflowCanvas.Proofs.Canvas.Connect
import WorkflowCanvas.Proofs.Canvas.FreshId
import WorkflowCanvas.Proofs.Canvas.History
import WorkflowCanvas.Proofs.Canvas.Admission
import WorkflowCanvas.Proofs.Canvas.Procedure
import WorkflowCanvas.Proofs.Canvas.Atomicity
import WorkflowCanvas.Proofs.Canvas.NewNode
import WorkflowCanvas.Proofs.Canvas.Frame
import WorkflowCanvas.Proofs.Canvas.Reload
import WorkflowCanvas.Proofs.CommandLine.Script
import WorkflowCanvas.Proofs.CommandLine.Running
import WorkflowCanvas.Proofs.Order.Cycles
import WorkflowCanvas.Proofs.Order.Components
import WorkflowCanvas.Proofs.Order.Counting
import WorkflowCanvas.Proofs.Run.Clock
import WorkflowCanvas.Proofs.Run.Handling
import WorkflowCanvas.Proofs.Run.Cancelling
import WorkflowCanvas.Proofs.Validation.Defaults
import WorkflowCanvas.Proofs.Validation.Connection
import WorkflowCanvas.Proofs.Validation.Independence
import WorkflowCanvas.Proofs.Validation.Exact
import WorkflowCanvas.Proofs.CommandLine.Checking
import WorkflowCanvas.Proofs.Store.Memory
import WorkflowCanvas.Proofs.Json.Absent
import WorkflowCanvas.Proofs.Record.Nulls
import WorkflowCanvas.Proofs.Web.Percent
import WorkflowCanvas.Proofs.Web.Path
import WorkflowCanvas.Proofs.Web.Address
import WorkflowCanvas.Proofs.Store.Saving
import WorkflowCanvas.Proofs.Json.Scanning
import WorkflowCanvas.Proofs.Json.Numeral
import WorkflowCanvas.Proofs.Json.Spelling
import WorkflowCanvas.Proofs.Float.Quotient
import WorkflowCanvas.Proofs.Json.Range
import WorkflowCanvas.Proofs.Json.Keeping
import WorkflowCanvas.Proofs.Json.Mirror
import WorkflowCanvas.Proofs.Json.Compact
import WorkflowCanvas.Proofs.Record.Text
import WorkflowCanvas.Proofs.Store.Listing
import WorkflowCanvas.Proofs.Registry.Calls
import WorkflowCanvas.Proofs.Registry.Parts
import WorkflowCanvas.Proofs.Registry.Categories
import WorkflowCanvas.Proofs.Canvas.Snapshot
import WorkflowCanvas.Proofs.Event.Reading
import WorkflowCanvas.Proofs.Event.Delivery
import WorkflowCanvas.Proofs.Run.Broadcast
import WorkflowCanvas.Proofs.CommandLine.Pace
