import Stepwise.Action
import Stepwise.Binary64
import Stepwise.Binary64.Arithmetic
import Stepwise.Binary64.Reading
import Stepwise.Binary64.Rounded
import Stepwise.Binary64.Shortest
import Stepwise.Bindings
import Stepwise.Capability
import Stepwise.Condition
import Stepwise.Config
import Stepwise.Controller
import Stepwise.Definition
import Stepwise.Fault
import Stepwise.Handler
import Stepwise.Http.Client
import Stepwise.Json.Reader
import Stepwise.Json.Writer
import Stepwise.Listener
import Stepwise.Path
import Stepwise.Pattern
import Stepwise.Pattern.Fault
import Stepwise.Pattern.Layout
import Stepwise.Pattern.Presentation
import Stepwise.Platform
import Stepwise.Preflight
import Stepwise.Proofs.Run.Accounting
import Stepwise.Proofs.Run.Stages
import Stepwise.Registry
import Stepwise.Report
import Stepwise.Run
import Stepwise.Settings
import Stepwise.Simulation
import Stepwise.Steps.Arithmetic
import Stepwise.Steps.Choice
import Stepwise.Steps.Clipboard
import Stepwise.Steps.Conditional
import Stepwise.Steps.Delay
import Stepwise.Steps.Location
import Stepwise.Steps.Loop
import Stepwise.Steps.Messages
import Stepwise.Steps.Notification
import Stepwise.Steps.Opening
import Stepwise.Steps.Scripted
import Stepwise.Steps.TextOperation
import Stepwise.Steps.Variables
import Stepwise.Steps.Webhook
import Stepwise.Store
import Stepwise.Template
import Stepwise.Text
import Stepwise.Text.Encoded
import Stepwise.Text.Quoted
import Stepwise.Timestamp
import Stepwise.Unicode.Blank
import Stepwise.Unicode.CaseTable
import Stepwise.Unicode.Digit
import Stepwise.Unicode.LetterCase
import Stepwise.Unicode.Printable
import Stepwise.Url.Address
import Stepwise.Url.Parts
import Stepwise.Url.Percent
import Stepwise.Value
import Stepwise.Value.Display
import Stepwise.Value.Entries
import Stepwise.Value.Reading
import Stepwise.Proofs.Run.Composition
import Stepwise.Proofs.Template.Blocks
import Stepwise.Proofs.Template.Resolution
import Stepwise.Proofs.Validation.Agreement
import Stepwise.Proofs.Validation.Handlers
import Stepwise.Proofs.Validation.Sampling
import Stepwise.Proofs.Path.Addresses
import Stepwise.Proofs.Template.Totality
import Stepwise.Proofs.Validation.Refusals
import Stepwise.Proofs.Validation.Forecast
import Stepwise.Proofs.Validation.FalseAlarms
import Stepwise.Proofs.Execution.Settling
import Stepwise.Proofs.Execution.Endings
import Stepwise.Proofs.Run.Moments
import Stepwise.Proofs.Run.Lifecycle
import Stepwise.Proofs.Run.Cancellation
import Stepwise.Proofs.Value.Spelling
import Stepwise.Proofs.Condition.OwnText
import Stepwise.Proofs.Run.Persistence
import Stepwise.Proofs.Run.Relevance
import Stepwise.Proofs.Execution.Faults
import Stepwise.Proofs.Execution.Restraint
import Stepwise.Proofs.Run.Replay
import Stepwise.Proofs.Run.Rejection
import Stepwise.Proofs.Run.Shortfall
import Stepwise.Proofs.Execution.Handover
import Stepwise.Proofs.Run.Notices
import Stepwise.Proofs.Run.Likeness
import Stepwise.Proofs.Run.Listening
import Stepwise.Proofs.Run.Environments
import Stepwise.Proofs.Template.Dependence
import Stepwise.Proofs.Execution.ReadBack
import Stepwise.Http.Service
import Stepwise.Proofs.Execution.Posting
import Stepwise.Proofs.Run.Outlook
import Stepwise.Proofs.Binary64.Integers
import Stepwise.Proofs.Binary64.Normal
import Stepwise.Proofs.Condition.Outcomes
import Stepwise.Proofs.Text.Numerals
import Stepwise.Proofs.Condition.IntegerOrder
import Stepwise.Proofs.Path.Written
import Stepwise.Proofs.Validation.Directives
import Stepwise.Proofs.Bindings.Lookup
import Stepwise.Proofs.Value.Sameness
import Stepwise.Proofs.Condition.Laws
import Stepwise.Proofs.Bindings.History
import Stepwise.Proofs.Store.Operations
import Stepwise.Proofs.Registry.Registrations
import Stepwise.Proofs.Execution.Mailing
import Stepwise.Proofs.Text.Utf8
import Stepwise.Proofs.Url.Escapes
import Stepwise.Proofs.Execution.Containment
import Stepwise.Proofs.Definition.Canonical
import Stepwise.Proofs.Report.Decoding
