import LockFleet.Api.Bodies
import LockFleet.Api.Document
import LockFleet.Api.Operation
import LockFleet.Api.Problem
import LockFleet.Api.Service
import LockFleet.Binary64
import LockFleet.Body
import LockFleet.Broker.Address
import LockFleet.Broker.Bridge
import LockFleet.Broker.Client
import LockFleet.Command
import LockFleet.Device
import LockFleet.Dispatch.Basic
import LockFleet.Dispatch.Concurrent
import LockFleet.Dispatch.History
import LockFleet.Dispatch.Publisher
import LockFleet.Failure
import LockFleet.Firmware
import LockFleet.Instant.Basic
import LockFleet.Instant.Calendar
import LockFleet.Instant.Text
import LockFleet.Issue
import LockFleet.Json.Basic
import LockFleet.Json.Fault
import LockFleet.Json.Numeral
import LockFleet.Json.Pointer
import LockFleet.Json.Printer
import LockFleet.Json.Reader
import LockFleet.Json.Shape
import LockFleet.Json.StringToken
import LockFleet.Lifecycle
import LockFleet.Main
import LockFleet.Plan
import LockFleet.Refusal
import LockFleet.Registry.Basic
import LockFleet.Registry.History
import LockFleet.Report
import LockFleet.Roster
import LockFleet.Settings.Basic
import LockFleet.Settings.Description
import LockFleet.Settings.File
import LockFleet.Settings.Node
import LockFleet.Text.Blank
import LockFleet.Text.Decimal
import LockFleet.Text.DecimalDigit
import LockFleet.Text.Hex
import LockFleet.Text.Levels
import LockFleet.Text.Percent
import LockFleet.Text.Printable
import LockFleet.Text.Quoted
import LockFleet.Text.Utf8
import LockFleet.Toml.Printer
import LockFleet.Toml.Quoted
import LockFleet.Toml.Reader
import LockFleet.Toml.Scalar
import LockFleet.Toml.Table
import LockFleet.Toml.Value
import LockFleet.Topic.Basic
import LockFleet.Topic.Filter
import LockFleet.Transition
import LockFleet.Word
import LockFleet.Proofs.Api.Acceptance
import LockFleet.Proofs.Api.Request
import LockFleet.Proofs.Body
import LockFleet.Proofs.Body.Decision
import LockFleet.Proofs.Body.Decoding
import LockFleet.Proofs.Body.Padding
import LockFleet.Proofs.Broker.Faithful
import LockFleet.Proofs.Broker.Ledger
import LockFleet.Proofs.Broker.RoundTrip
import LockFleet.Proofs.Broker.Step
import LockFleet.Proofs.Broker.Url
import LockFleet.Proofs.Concurrent.Acceptance
import LockFleet.Proofs.Concurrent.Answers
import LockFleet.Proofs.Concurrent.Omission
import LockFleet.Proofs.Concurrent.Order
import LockFleet.Proofs.Concurrent.Outlook
import LockFleet.Proofs.Concurrent.Retention
import LockFleet.Proofs.Concurrent.Serial
import LockFleet.Proofs.Concurrent.Slots
import LockFleet.Proofs.Concurrent.Tidy
import LockFleet.Proofs.Concurrent.Turn
import LockFleet.Proofs.Device
import LockFleet.Proofs.Device.Spelling
import LockFleet.Proofs.Dispatch.Addressing
import LockFleet.Proofs.Dispatch.Chain
import LockFleet.Proofs.Dispatch.Concern
import LockFleet.Proofs.Dispatch.Isolation
import LockFleet.Proofs.Dispatch.Pending
import LockFleet.Proofs.Dispatch.Submit
import LockFleet.Proofs.Dispatch.Supersession
import LockFleet.Proofs.Dispatch.Traffic
import LockFleet.Proofs.Dispatch.Unknown
import LockFleet.Proofs.Dispatch.Unnoticed
import LockFleet.Proofs.Json.Agreement
import LockFleet.Proofs.Json.Grammar
import LockFleet.Proofs.Json.Machine
import LockFleet.Proofs.Json.Members
import LockFleet.Proofs.Json.Numbers
import LockFleet.Proofs.Json.Padding
import LockFleet.Proofs.Json.Reading
import LockFleet.Proofs.Json.SkimmedTokens
import LockFleet.Proofs.Json.Skimming
import LockFleet.Proofs.Json.Strings
import LockFleet.Proofs.Plan
import LockFleet.Proofs.Registry.Attribution
import LockFleet.Proofs.Registry.Coherence
import LockFleet.Proofs.Registry.Convergence
import LockFleet.Proofs.Registry.Delivery
import LockFleet.Proofs.Registry.Frame
import LockFleet.Proofs.Registry.LastReport
import LockFleet.Proofs.Registry.Numbering
import LockFleet.Proofs.Registry.Recording
import LockFleet.Proofs.Registry.Routing
import LockFleet.Proofs.Report
import LockFleet.Proofs.Report.Language
import LockFleet.Proofs.Report.Ordinals
import LockFleet.Proofs.Roster
import LockFleet.Proofs.Settings.Loading
import LockFleet.Proofs.Settings.Saving
import LockFleet.Proofs.Settings.Validation
import LockFleet.Proofs.Settings.Violations
import LockFleet.Proofs.Text.Blank
import LockFleet.Proofs.Text.Decimal
import LockFleet.Proofs.Text.Hex
import LockFleet.Proofs.Text.Utf8
import LockFleet.Proofs.Toml.Document
import LockFleet.Proofs.Toml.Lines
import LockFleet.Proofs.Toml.Strings
import LockFleet.Proofs.Topic
import LockFleet.Proofs.Topic.Classification
import LockFleet.Proofs.Topic.Subscription
import LockFleet.Proofs.Topic.Within
import LockFleet.Proofs.Topic.Order
import LockFleet.Proofs.Api.Devices
import LockFleet.Proofs.Api.Declared
import LockFleet.Proofs.Json.Printing
import LockFleet.Proofs.Instant.Calendar
import LockFleet.Proofs.Instant.Text
import LockFleet.Proofs.Api.Wire
