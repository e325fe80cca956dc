import DropletClient.Base64
import DropletClient.CommandLine.Command
import DropletClient.CommandLine.Help
import DropletClient.CommandLine.KeyFile
import DropletClient.CommandLine.Listing
import DropletClient.CommandLine.Option
import DropletClient.CommandLine.Program
import DropletClient.Compute.Credentials
import DropletClient.Compute.Imaging
import DropletClient.Compute.Nodes
import DropletClient.Double.Basic
import DropletClient.Double.Shortest
import DropletClient.Envelope
import DropletClient.Environment
import DropletClient.EventKind
import DropletClient.Failure
import DropletClient.FileTree
import DropletClient.Http.Client
import DropletClient.Http.Message
import DropletClient.Http.Percent
import DropletClient.Http.Url
import DropletClient.Identifier
import DropletClient.Json.Basic
import DropletClient.Json.Numeral
import DropletClient.Json.Printer
import DropletClient.Json.Reader
import DropletClient.Json.Token
import DropletClient.Key.Component
import DropletClient.Key.Fault
import DropletClient.Key.Line
import DropletClient.Key.Reader
import DropletClient.Key.Wire
import DropletClient.Main
import DropletClient.Naming
import DropletClient.Poll.Policy
import DropletClient.Poll.Wait
import DropletClient.Portable.Catalog
import DropletClient.Portable.Node
import DropletClient.Portable.OperatingSystem
import DropletClient.Proofs.Base64.Canonical
import DropletClient.Proofs.Base64.RoundTrip
import DropletClient.Proofs.CommandLine.Accomplishment
import DropletClient.Proofs.CommandLine.AllOrNothing
import DropletClient.Proofs.CommandLine.Files
import DropletClient.Proofs.CommandLine.Rows
import DropletClient.Proofs.Compute.Addressing
import DropletClient.Proofs.Compute.Attempt
import DropletClient.Proofs.Compute.Capture
import DropletClient.Proofs.Compute.Course
import DropletClient.Proofs.Compute.Creation
import DropletClient.Proofs.Compute.Description
import DropletClient.Proofs.Compute.Duration
import DropletClient.Proofs.Compute.FreshName
import DropletClient.Proofs.Compute.Provisioning
import DropletClient.Proofs.Compute.Selection
import DropletClient.Proofs.Compute.Sharing
import DropletClient.Proofs.Compute.Waiting
import DropletClient.Proofs.Envelope.Arrangement
import DropletClient.Proofs.Envelope.Classification
import DropletClient.Proofs.Envelope.Explanation
import DropletClient.Proofs.Envelope.Partition
import DropletClient.Proofs.Envelope.Silence
import DropletClient.Proofs.Http.Hearing
import DropletClient.Proofs.Http.Looks
import DropletClient.Proofs.Http.Shapes
import DropletClient.Proofs.Identifier
import DropletClient.Proofs.Identifier.Canonical
import DropletClient.Proofs.Identifier.Spelling
import DropletClient.Proofs.Json.Arrangement
import DropletClient.Proofs.Json.Derivation
import DropletClient.Proofs.Json.Lexeme
import DropletClient.Proofs.Json.Same
import DropletClient.Proofs.Json.Spelling
import DropletClient.Proofs.Json.WholeNumber
import DropletClient.Proofs.Json.WrittenText
import DropletClient.Proofs.Key.Framing
import DropletClient.Proofs.Key.Grammar
import DropletClient.Proofs.Key.Integer
import DropletClient.Proofs.Key.NormalForm
import DropletClient.Proofs.Key.Reading
import DropletClient.Proofs.Key.RoundTrip
import DropletClient.Proofs.Key.Truncation
import DropletClient.Proofs.Key.Walk
import DropletClient.Proofs.Naming
import DropletClient.Proofs.Outcome
import DropletClient.Proofs.Poll.Bound
import DropletClient.Proofs.Poll.Completion
import DropletClient.Proofs.Poll.Extension
import DropletClient.Proofs.Poll.Period
import DropletClient.Proofs.Poll.Repetition
import DropletClient.Proofs.Poll.Round
import DropletClient.Proofs.Poll.Schedule
import DropletClient.Proofs.Poll.Settlement
import DropletClient.Proofs.Poll.Undisturbed
import DropletClient.Proofs.Poll.Vigil
import DropletClient.Proofs.Portable.ImageName
import DropletClient.Proofs.Position
import DropletClient.Proofs.Record.EventState
import DropletClient.Proofs.Record.Field
import DropletClient.Proofs.Record.KeyHolder
import DropletClient.Proofs.Record.Order
import DropletClient.Proofs.Record.RegionId
import DropletClient.Proofs.Request.Reading
import DropletClient.Proofs.ScriptedCloud.Order
import DropletClient.Proofs.ScriptedCloud.Refusal
import DropletClient.Proofs.ScriptedCloud.Scripts
import DropletClient.Proofs.Settings.Accepted
import DropletClient.Proofs.Settings.Advice
import DropletClient.Proofs.Settings.Check
import DropletClient.Proofs.Settings.Repair
import DropletClient.Proofs.Text.Ascii
import DropletClient.Proofs.Text.Hexadecimal
import DropletClient.Proofs.Text.Numeral
import DropletClient.Proofs.Text.Parts
import DropletClient.Proofs.Text.Pattern
import DropletClient.Proofs.Text.Positional
import DropletClient.Proofs.Text.Run
import DropletClient.Proofs.Workflow.Course
import DropletClient.Proofs.Workflow.Crowd
import DropletClient.Proofs.Workflow.Discipline
import DropletClient.Proofs.Workflow.Duration
import DropletClient.Proofs.Workflow.Exchange
import DropletClient.Proofs.Workflow.Play
import DropletClient.Proofs.Workflow.Timed
import DropletClient.Record.Catalog
import DropletClient.Record.Droplet
import DropletClient.Record.Event
import DropletClient.Record.Field
import DropletClient.Record.Mismatch
import DropletClient.Record.Scalar
import DropletClient.Record.SshKey
import DropletClient.Rehearsal
import DropletClient.Request.Action
import DropletClient.Request.Basic
import DropletClient.Request.NewDroplet
import DropletClient.ScriptedCloud
import DropletClient.Settings.Basic
import DropletClient.Settings.Candidate
import DropletClient.Settings.File
import DropletClient.Settings.Load
import DropletClient.Settings.Source
import DropletClient.Settings.Validate
import DropletClient.Settings.Variable
import DropletClient.Text.Blank
import DropletClient.Text.Decimal
import DropletClient.Text.DecimalDigit
import DropletClient.Text.Escape
import DropletClient.Text.Hexadecimal
import DropletClient.Text.Invisible
import DropletClient.Text.Quoted
import DropletClient.Text.Split
import DropletClient.Text.Utf8
import DropletClient.Timestamp
import DropletClient.Toml.Basic
import DropletClient.Toml.Document
import DropletClient.Toml.Line
import DropletClient.Toml.Moment
import DropletClient.Toml.Name
import DropletClient.Toml.Numeral
import DropletClient.Toml.Quoted
import DropletClient.Toml.Table
import DropletClient.Toml.Value
import DropletClient.Workflow.Basic
import DropletClient.Workflow.Run
