import FlowTrace.Act
import FlowTrace.Arguments.Grammar
import FlowTrace.Block.Basic
import FlowTrace.Block.File
import FlowTrace.Block.Index
import FlowTrace.Block.Scan
import FlowTrace.Block.Table
import FlowTrace.Bridge.Basic
import FlowTrace.Bridge.Events
import FlowTrace.Bridge.Operations
import FlowTrace.Catalog
import FlowTrace.Compiler
import FlowTrace.Console.BreakRequest
import FlowTrace.Console.Command
import FlowTrace.Console.Dispatch
import FlowTrace.Console.Printed
import FlowTrace.Console.Prompt
import FlowTrace.Console.Scopes
import FlowTrace.Console.Session
import FlowTrace.Console.Words
import FlowTrace.Debug.Breakpoint
import FlowTrace.Debug.Event
import FlowTrace.Debug.Notification
import FlowTrace.Debug.Pause
import FlowTrace.Event.Bus
import FlowTrace.Fault
import FlowTrace.Flow.Basic
import FlowTrace.Flow.Directive
import FlowTrace.Json.Access
import FlowTrace.Json.Basic
import FlowTrace.Json.Display
import FlowTrace.Json.Nesting
import FlowTrace.Json.Reader
import FlowTrace.Json.Text
import FlowTrace.Link.Basic
import FlowTrace.Link.Endpoint
import FlowTrace.Link.HostPlan
import FlowTrace.Link.Operations
import FlowTrace.Link.Rehearsal
import FlowTrace.Main
import FlowTrace.Number.Binary64
import FlowTrace.Number.Numeral
import FlowTrace.Number.Shortest
import FlowTrace.Program.Attach
import FlowTrace.Program.Compile
import FlowTrace.Program.Folder
import FlowTrace.Program.History
import FlowTrace.Program.Request
import FlowTrace.Proofs.Act
import FlowTrace.Proofs.Block.Call
import FlowTrace.Proofs.Block.Decoding
import FlowTrace.Proofs.Block.Flaws
import FlowTrace.Proofs.Block.Floor
import FlowTrace.Proofs.Block.Index
import FlowTrace.Proofs.Block.Lookup
import FlowTrace.Proofs.Block.Persistence
import FlowTrace.Proofs.Block.ReadBack
import FlowTrace.Proofs.Block.Rescan
import FlowTrace.Proofs.Bridge.Agreement
import FlowTrace.Proofs.Bridge.Arming
import FlowTrace.Proofs.Bridge.Attribution
import FlowTrace.Proofs.Bridge.FailedStart
import FlowTrace.Proofs.Bridge.Given
import FlowTrace.Proofs.Bridge.Listeners
import FlowTrace.Proofs.Bridge.Mirror
import FlowTrace.Proofs.Bridge.Outward
import FlowTrace.Proofs.Bridge.Readiness
import FlowTrace.Proofs.Bridge.Reporting
import FlowTrace.Proofs.Bridge.Restart
import FlowTrace.Proofs.Bridge.Sockets
import FlowTrace.Proofs.Bridge.Sources
import FlowTrace.Proofs.Bridge.Terminal
import FlowTrace.Proofs.Compiler.Backfill
import FlowTrace.Proofs.Compiler.CallRow
import FlowTrace.Proofs.Compiler.Flaws
import FlowTrace.Proofs.Compiler.Layout
import FlowTrace.Proofs.Compiler.Totality
import FlowTrace.Proofs.Console.Expression
import FlowTrace.Proofs.Console.Registration
import FlowTrace.Proofs.Console.Words
import FlowTrace.Proofs.Debug.PlaceText
import FlowTrace.Proofs.Debug.Places
import FlowTrace.Proofs.Debug.Renewal
import FlowTrace.Proofs.Event.Delivery
import FlowTrace.Proofs.Event.Pumping
import FlowTrace.Proofs.Event.Unsubscribing
import FlowTrace.Proofs.Json.Fields
import FlowTrace.Proofs.Json.Halves
import FlowTrace.Proofs.Json.Indented
import FlowTrace.Proofs.Json.StringToken
import FlowTrace.Proofs.Link.Conversation
import FlowTrace.Proofs.Link.Correlation
import FlowTrace.Proofs.Link.Junk
import FlowTrace.Proofs.Link.Loss
import FlowTrace.Proofs.Link.Mirror
import FlowTrace.Proofs.Link.Move
import FlowTrace.Proofs.Link.Relay
import FlowTrace.Proofs.Link.Reopening
import FlowTrace.Proofs.Link.Run
import FlowTrace.Proofs.Link.Severed
import FlowTrace.Proofs.Link.Sockets
import FlowTrace.Proofs.Link.Turn
import FlowTrace.Proofs.Number.Decimal
import FlowTrace.Proofs.Outcome
import FlowTrace.Proofs.Program.Attaching
import FlowTrace.Proofs.Program.Closing
import FlowTrace.Proofs.Program.Compiling
import FlowTrace.Proofs.Program.Saving
import FlowTrace.Proofs.Script.Lossless
import FlowTrace.Proofs.Script.Numbers
import FlowTrace.Proofs.Simulation
import FlowTrace.Proofs.Text.Order
import FlowTrace.Proofs.Text.Rows
import FlowTrace.Proofs.Text.Trimming
import FlowTrace.Script.Generator
import FlowTrace.Script.Literal
import FlowTrace.Script.Statement
import FlowTrace.Text.Blank
import FlowTrace.Text.CodePoint
import FlowTrace.Text.DecimalDigit
import FlowTrace.Text.Lines
import FlowTrace.Text.Printable
import FlowTrace.Text.Quoted
import FlowTrace.Text.Search
