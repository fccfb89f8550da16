import CallTrace.Amount
import CallTrace.Bytes.Fixed
import CallTrace.Bytes.Hex
import CallTrace.Bytes.Keccak
import CallTrace.CallTree
import CallTrace.Classifier
import CallTrace.Command.Arguments
import CallTrace.Command.Information
import CallTrace.Command.Replay
import CallTrace.Command.Validation
import CallTrace.CommandLine.Invocation
import CallTrace.CommandLine.Options
import CallTrace.CommandLine.Program
import CallTrace.Config
import CallTrace.Config.Settings
import CallTrace.Decimal
import CallTrace.DepthBuffers
import CallTrace.Event
import CallTrace.File.Disk
import CallTrace.File.Path
import CallTrace.File.Tree
import CallTrace.Frame
import CallTrace.InPlace
import CallTrace.Journal
import CallTrace.Json.Basic
import CallTrace.Json.Fields
import CallTrace.Json.Lexer
import CallTrace.Json.Reader
import CallTrace.Json.Writer
import CallTrace.Main
import CallTrace.Merger
import CallTrace.Numeral
import CallTrace.Proofs.Address
import CallTrace.Proofs.Agreement
import CallTrace.Proofs.Allocation
import CallTrace.Proofs.Bounds
import CallTrace.Proofs.Bytes.Decode
import CallTrace.Proofs.Bytes.Grammar
import CallTrace.Proofs.Bytes.Hex
import CallTrace.Proofs.CallPath
import CallTrace.Proofs.CallTree
import CallTrace.Proofs.Classifier
import CallTrace.Proofs.Command.Arguments
import CallTrace.Proofs.Command.Replay
import CallTrace.Proofs.Command.Validation
import CallTrace.Proofs.DepthBuffers
import CallTrace.Proofs.Digits
import CallTrace.Proofs.File.Tree
import CallTrace.Proofs.FinalizedTrace
import CallTrace.Proofs.Forest
import CallTrace.Proofs.GrownArray
import CallTrace.Proofs.Handoff
import CallTrace.Proofs.Isolation
import CallTrace.Proofs.Json.Fields
import CallTrace.Proofs.Json.Lexer
import CallTrace.Proofs.Json.Number
import CallTrace.Proofs.Json.Prefix
import CallTrace.Proofs.Json.Reader
import CallTrace.Proofs.Json.Writer
import CallTrace.Proofs.Machine
import CallTrace.Proofs.Merger
import CallTrace.Proofs.Nesting
import CallTrace.Proofs.Numeral
import CallTrace.Proofs.Observation
import CallTrace.Proofs.Parents
import CallTrace.Proofs.Query
import CallTrace.Proofs.Query.Columns
import CallTrace.Proofs.Refusals
import CallTrace.Proofs.Replay.Accounts
import CallTrace.Proofs.Replay.Independence
import CallTrace.Proofs.Replay.Transaction
import CallTrace.Proofs.Replies
import CallTrace.Proofs.Requests
import CallTrace.Proofs.Rows.Basic
import CallTrace.Proofs.Rows.Classification
import CallTrace.Proofs.Rows.Event
import CallTrace.Proofs.Rows.Faults
import CallTrace.Proofs.Rows.Function
import CallTrace.Proofs.Rows.Lines
import CallTrace.Proofs.Rows.Transfer
import CallTrace.Proofs.Session
import CallTrace.Proofs.SiteTable
import CallTrace.Proofs.Stamps
import CallTrace.Proofs.Store.Additions
import CallTrace.Proofs.Store.BufferedWriter
import CallTrace.Proofs.Store.Lines
import CallTrace.Proofs.Store.Memory
import CallTrace.Proofs.Store.RefusedRecords
import CallTrace.Proofs.Store.TornLine
import CallTrace.Proofs.Store.Visits
import CallTrace.Proofs.Text.Split
import CallTrace.Proofs.Text.Utf8
import CallTrace.Proofs.Tracer
import CallTrace.Proofs.Truncation
import CallTrace.Proofs.Wire.Amount
import CallTrace.Proofs.Wire.Frame
import CallTrace.Proofs.Wire.Record
import CallTrace.Proofs.Wire.Recording
import CallTrace.Query
import CallTrace.Record
import CallTrace.Recording
import CallTrace.Replay
import CallTrace.Replay.Summary
import CallTrace.Rows.Basic
import CallTrace.Rows.Event
import CallTrace.Rows.Function
import CallTrace.Rows.Transfer
import CallTrace.Session
import CallTrace.SiteTable
import CallTrace.Store
import CallTrace.Store.BufferedWriter
import CallTrace.Store.Error
import CallTrace.Store.Lines
import CallTrace.Store.Memory
import CallTrace.Text.Blank
import CallTrace.Text.LowerCase
import CallTrace.Text.LowerCase.Table
import CallTrace.Text.Scan
import CallTrace.Text.Split
import CallTrace.Text.Utf8
import CallTrace.Timestamp
import CallTrace.Toml.Basic
import CallTrace.Toml.Document
import CallTrace.Toml.Scalar
import CallTrace.TraceError
import CallTrace.Tracer
import CallTrace.Wire.Config
import CallTrace.Wire.Event
import CallTrace.Wire.Frame
import CallTrace.Wire.Record
import CallTrace.Wire.Recording
