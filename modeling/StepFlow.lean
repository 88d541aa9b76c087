import StepFlow.Action.Builtin
import StepFlow.Action.Job
import StepFlow.Action.Registry
import StepFlow.Action.Request
import StepFlow.Calendar.Basic
import StepFlow.Calendar.Iso
import StepFlow.Config
import StepFlow.Engine.Basic
import StepFlow.Engine.Stream
import StepFlow.Event.Basic
import StepFlow.Event.Bus
import StepFlow.Event.Channel
import StepFlow.Event.Exchange
import StepFlow.Fault.Basic
import StepFlow.Fault.Kind
import StepFlow.Flow.Basic
import StepFlow.Flow.Decode
import StepFlow.Flow.Describe
import StepFlow.Flow.Lookup
import StepFlow.Flow.Parse
import StepFlow.Flow.References
import StepFlow.Json.Reader
import StepFlow.Json.Writer
import StepFlow.Kind
import StepFlow.Number.Binary64
import StepFlow.Number.Decimal
import StepFlow.Number.Reading
import StepFlow.Number.Shortest
import StepFlow.Output.Format
import StepFlow.Output.Frame
import StepFlow.Output.Render
import StepFlow.Prompt.Input
import StepFlow.Prompt.Template
import StepFlow.Proofs.Event.Emission
import StepFlow.Proofs.Prompt.Interpolation
import StepFlow.Proofs.Run.Alignment
import StepFlow.Proofs.Run.Cancellation
import StepFlow.Proofs.Run.Classification
import StepFlow.Proofs.Run.Course
import StepFlow.Proofs.Run.Declared
import StepFlow.Proofs.Run.Ending
import StepFlow.Proofs.Run.Escape
import StepFlow.Proofs.Run.Execution
import StepFlow.Proofs.Run.History
import StepFlow.Proofs.Run.Inputs
import StepFlow.Proofs.Run.Linear
import StepFlow.Proofs.Run.Mirror
import StepFlow.Proofs.Run.Observers
import StepFlow.Proofs.Run.Path
import StepFlow.Proofs.Run.Performance
import StepFlow.Proofs.Run.Progress
import StepFlow.Proofs.Run.Record
import StepFlow.Proofs.Run.Requests
import StepFlow.Proofs.Run.Shape
import StepFlow.Proofs.Run.Trace
import StepFlow.Proofs.Run.Transition
import StepFlow.Proofs.Run.Untimed
import StepFlow.Run.Context
import StepFlow.Run.Desk
import StepFlow.Run.Drive
import StepFlow.Run.Execute
import StepFlow.Run.Perform
import StepFlow.Run.Result
import StepFlow.Run.Token
import StepFlow.Run.World
import StepFlow.Schema.Checked
import StepFlow.Schema.Coerce
import StepFlow.Schema.Issue
import StepFlow.Schema.Numeral
import StepFlow.Selection
import StepFlow.Source.Basic
import StepFlow.Source.Catalog
import StepFlow.Source.Directory
import StepFlow.Source.File
import StepFlow.Table
import StepFlow.Text.Base64
import StepFlow.Text.Blank
import StepFlow.Text.CharSet
import StepFlow.Text.Digit
import StepFlow.Text.Hex
import StepFlow.Text.Lower
import StepFlow.Text.Order
import StepFlow.Text.Printable
import StepFlow.Text.Quoted
import StepFlow.Text.Utf16
import StepFlow.Text.Utf8
import StepFlow.Text.Word
import StepFlow.Transition
import StepFlow.Value.Access
import StepFlow.Value.Basic
import StepFlow.Value.Literal
import StepFlow.Vocabulary
import StepFlow.Worker.Basic
import StepFlow.Worker.Registry
import StepFlow.Worker.Script
import StepFlow.Yaml.Content
import StepFlow.Yaml.Cursor
import StepFlow.Yaml.Document
import StepFlow.Yaml.Lexer
import StepFlow.Yaml.Merge
import StepFlow.Yaml.Node
import StepFlow.Yaml.Reader
import StepFlow.Yaml.Reading
import StepFlow.Yaml.Scalar
import StepFlow.Yaml.Tag
import StepFlow.Yaml.Token
import StepFlow.Proofs.Flow.References
import StepFlow.Proofs.Prompt.Template
import StepFlow.Proofs.Prompt.Input
import StepFlow.Proofs.Event.Channel
import StepFlow.Proofs.Event.Emitter
import StepFlow.Proofs.Event.Drain
import StepFlow.Proofs.Event.Sending
import StepFlow.Proofs.Event.Delivery
import StepFlow.Proofs.Flow.Acceptance
import StepFlow.Proofs.Engine.Stream
import StepFlow.Proofs.Fault.Sequence
import StepFlow.Proofs.Source.Catalog
import StepFlow.Proofs.Source.Definitions
import StepFlow.Proofs.Source.Directory
import StepFlow.Proofs.Source.Refusal
import StepFlow.Proofs.Engine.Catalog
import StepFlow.Proofs.Json.Ascii
import StepFlow.Proofs.Json.Quoted
import StepFlow.Proofs.Json.Number
import StepFlow.Proofs.Json.RoundTrip
import StepFlow.Proofs.Output.Frame
import StepFlow.Proofs.Output.Decoding
import StepFlow.Proofs.Engine.Isolation
import StepFlow.Proofs.Run.Transition
import StepFlow.Proofs.Run.Linear
import StepFlow.Proofs.Value.Entries
import StepFlow.Proofs.Prompt.Ownership
import StepFlow.Proofs.Action.Options
import StepFlow.Proofs.Run.Selection
import StepFlow.Proofs.Flow.Respelling
import StepFlow.Proofs.Run.Lifecycle
import StepFlow.Proofs.Run.Forward
import StepFlow.Proofs.Run.Scopes
import StepFlow.Proofs.Output.Listing
import StepFlow.Proofs.Worker.Dispatch
