import EditorShell.Bridge.State
import EditorShell.Builtin.EditorStatus
import EditorShell.Builtin.HelloWorld
import EditorShell.Builtin.Panels
import EditorShell.Cancellation
import EditorShell.Chord
import EditorShell.Codec
import EditorShell.Command.Descriptor
import EditorShell.Command.Registry
import EditorShell.CommandLine
import EditorShell.Config
import EditorShell.Decimal.Digits
import EditorShell.Decimal.Shortest
import EditorShell.Event.Bus
import EditorShell.Extension.State
import EditorShell.Host.Message
import EditorShell.Host.Slots
import EditorShell.Host.Transport
import EditorShell.Json.Decode
import EditorShell.Json.Document
import EditorShell.Json.Number
import EditorShell.Json.Parser
import EditorShell.Json.Printer
import EditorShell.Json.Value
import EditorShell.Key.Dispatcher
import EditorShell.Keymap
import EditorShell.LogFilter
import EditorShell.LogFilter.Pattern
import EditorShell.Main
import EditorShell.Panel.State
import EditorShell.Proofs.Command.Finding
import EditorShell.Proofs.Event.Delivery
import EditorShell.Proofs.Extension.Accounting
import EditorShell.Proofs.Extension.Bindings
import EditorShell.Proofs.Extension.BringUp
import EditorShell.Proofs.Extension.Contributions
import EditorShell.Proofs.Extension.Lifecycle
import EditorShell.Proofs.Extension.Replacement
import EditorShell.Proofs.Extension.Retirement
import EditorShell.Proofs.Handle.Consistency
import EditorShell.Proofs.Handle.Delivery
import EditorShell.Proofs.Handle.Freshness
import EditorShell.Proofs.Handle.History
import EditorShell.Proofs.Handle.Lasting
import EditorShell.Proofs.Handle.Ledger
import EditorShell.Proofs.Handle.Ownership
import EditorShell.Proofs.Handle.Supply
import EditorShell.Proofs.Handle.Supplying
import EditorShell.Proofs.Host.Account
import EditorShell.Proofs.Host.Lines
import EditorShell.Proofs.Host.Recording
import EditorShell.Proofs.Json.Layouts
import EditorShell.Proofs.Json.Numbers
import EditorShell.Proofs.Json.Reading
import EditorShell.Proofs.Json.Records
import EditorShell.Proofs.Json.Strings
import EditorShell.Proofs.Key.Deciding
import EditorShell.Proofs.Key.Dispatching
import EditorShell.Proofs.Key.Documents
import EditorShell.Proofs.Key.Grammar
import EditorShell.Proofs.Key.Handling
import EditorShell.Proofs.Key.Spelling
import EditorShell.Proofs.Key.Strictness
import EditorShell.Proofs.Key.Versions
import EditorShell.Proofs.Panel.Arranging
import EditorShell.Proofs.Panel.Composing
import EditorShell.Proofs.Run.Course
import EditorShell.Proofs.Run.ExtensionLaw
import EditorShell.Proofs.Run.Governing
import EditorShell.Proofs.Run.Histories
import EditorShell.Proofs.Run.Making
import EditorShell.Proofs.Run.Operations
import EditorShell.Proofs.Run.Reaching
import EditorShell.Proofs.Run.Registries
import EditorShell.Proofs.Run.Requests
import EditorShell.Proofs.Run.Steps
import EditorShell.Proofs.Run.Stepwise
import EditorShell.Proofs.Run.StepwiseBridge
import EditorShell.Proofs.Run.Turns
import EditorShell.Proofs.Run.Upholding
import EditorShell.Proofs.Run.Views
import EditorShell.Proofs.Script.Arguments
import EditorShell.Proofs.Script.Joining
import EditorShell.Proofs.Shell.Builtins
import EditorShell.Proofs.Shell.Configuration
import EditorShell.Proofs.Shell.Displaying
import EditorShell.Proofs.Shell.Fixtures
import EditorShell.Proofs.Shell.Focusing
import EditorShell.Proofs.Shell.Greeting
import EditorShell.Proofs.Shell.Managing
import EditorShell.Proofs.Shell.Panels
import EditorShell.Proofs.Shell.Readout
import EditorShell.Proofs.Shell.Rendering
import EditorShell.Proofs.Shell.Starting
import EditorShell.Proofs.Sorting
import EditorShell.Proofs.Task.Batch
import EditorShell.Proofs.Task.Bursts
import EditorShell.Proofs.Task.Calls
import EditorShell.Proofs.Task.Dealings
import EditorShell.Proofs.Task.Debouncing
import EditorShell.Proofs.Task.Dropping
import EditorShell.Proofs.Task.Passes
import EditorShell.Proofs.Task.Roster
import EditorShell.Proofs.Task.Rostering
import EditorShell.Proofs.Task.Stepping
import EditorShell.Proofs.Task.Turns
import EditorShell.Proofs.Text.Lowercase
import EditorShell.Proofs.Text.Trimming
import EditorShell.Proofs.Widget.Ancestry
import EditorShell.Proofs.Widget.Asking
import EditorShell.Proofs.Widget.Declaring
import EditorShell.Proofs.Widget.Granting
import EditorShell.Proofs.Widget.Interaction
import EditorShell.Proofs.Widget.Mounting
import EditorShell.Proofs.Widget.Nesting
import EditorShell.Proofs.Widget.Positions
import EditorShell.Proofs.Widget.Rendering
import EditorShell.Proofs.Widget.Sending
import EditorShell.Proofs.Widget.Subtrees
import EditorShell.Proofs.Widget.Unmounting
import EditorShell.Proofs.Widget.Walk
import EditorShell.Script
import EditorShell.Session.Act
import EditorShell.Session.Callback
import EditorShell.Session.Commands
import EditorShell.Session.Engine
import EditorShell.Session.Events
import EditorShell.Session.Extensions
import EditorShell.Session.Panels
import EditorShell.Session.Pass
import EditorShell.Session.Program
import EditorShell.Session.Request
import EditorShell.Session.Shell
import EditorShell.Session.State
import EditorShell.Session.Tasks
import EditorShell.Session.Widgets
import EditorShell.Sorting
import EditorShell.Table
import EditorShell.Task.Scheduler
import EditorShell.Text.Alphanumeric
import EditorShell.Text.Blank
import EditorShell.Text.CaseData
import EditorShell.Text.Lowercase
import EditorShell.Text.Parts
import EditorShell.Text.Ranges
import EditorShell.Time
import EditorShell.Widget.Kind
import EditorShell.Widget.Node
