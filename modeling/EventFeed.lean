import EventFeed.Batch
import EventFeed.Client.Answer
import EventFeed.Client.Call
import EventFeed.Client.Failure
import EventFeed.Client.Perform
import EventFeed.Client.Query
import EventFeed.Client.Rejection
import EventFeed.Client.Settings
import EventFeed.Command.Complaint
import EventFeed.Command.Help
import EventFeed.Command.Order
import EventFeed.Command.Parameter
import EventFeed.Command.Perform
import EventFeed.Command.Words
import EventFeed.Decimal.Binary64
import EventFeed.Decimal.Shortest
import EventFeed.Environment.Basic
import EventFeed.Environment.Entry
import EventFeed.Environment.Gather
import EventFeed.Errand
import EventFeed.Event
import EventFeed.Files.Fault
import EventFeed.Files.Path
import EventFeed.Files.Source
import EventFeed.Files.Tree
import EventFeed.Flow.Course
import EventFeed.Flow.Delivery
import EventFeed.Flow.Fifo
import EventFeed.Flow.Gate
import EventFeed.Flow.Intake
import EventFeed.Flow.Notice
import EventFeed.Flow.Phase
import EventFeed.Flow.Progress
import EventFeed.Flow.Queue
import EventFeed.Flow.Reader
import EventFeed.Flow.Rehearsal
import EventFeed.Flow.Run
import EventFeed.Flow.Sender
import EventFeed.Flow.Settings
import EventFeed.Flow.Shared
import EventFeed.Flow.Summary
import EventFeed.Http.Message
import EventFeed.Http.Status
import EventFeed.Http.Wire
import EventFeed.Json.Fault
import EventFeed.Json.Printer
import EventFeed.Json.Reader
import EventFeed.Json.Scanner
import EventFeed.Json.Skipper
import EventFeed.Json.Value
import EventFeed.Line
import EventFeed.Main
import EventFeed.Metrics.Page
import EventFeed.Metrics.Registry
import EventFeed.Metrics.Series
import EventFeed.Proofs.Errand
import EventFeed.Proofs.Flow.Moves
import EventFeed.Proofs.Flow.SourceLines
import EventFeed.Refusal
import EventFeed.Schema.Basic
import EventFeed.Schema.Document
import EventFeed.Schema.FromJson
import EventFeed.Schema.FromText
import EventFeed.Table.Column
import EventFeed.Table.Name
import EventFeed.Text.Blank
import EventFeed.Text.Quoted
import EventFeed.Text.Thousands
import EventFeed.Text.Utf8
import EventFeed.Throughput
import EventFeed.Unicode.Alphanumeric
import EventFeed.Unicode.Combining
import EventFeed.Unicode.Direction
import EventFeed.Unicode.Invisible
import EventFeed.Unicode.Joining
import EventFeed.Unicode.Mark
import EventFeed.Unicode.Normal
import EventFeed.Unicode.Table
import EventFeed.Url.Authority
import EventFeed.Url.Basic
import EventFeed.Url.Domain
import EventFeed.Url.Form
import EventFeed.Url.FromText
import EventFeed.Url.Host
import EventFeed.Url.Label
import EventFeed.Url.NameChar
import EventFeed.Url.Percent
import EventFeed.Url.Punycode
import EventFeed.Url.Reference
import EventFeed.Proofs.Flow.Course
import EventFeed.Proofs.Flow.HandOver
import EventFeed.Proofs.Flow.Backpressure
import EventFeed.Proofs.Flow.Completion
import EventFeed.Proofs.Flow.Turn
import EventFeed.Proofs.Flow.Stall
import EventFeed.Proofs.Flow.Practice
import EventFeed.Proofs.Flow.Balance
import EventFeed.Proofs.Flow.Batching
import EventFeed.Proofs.Text.Utf8
import EventFeed.Proofs.Url.Segments
import EventFeed.Proofs.Client.Columns
import EventFeed.Proofs.Client.Exchange
import EventFeed.Proofs.Flow.Returns
import EventFeed.Proofs.Flow.Ledgers
import EventFeed.Proofs.Flow.WakeUp
import EventFeed.Proofs.Json.Pieces
import EventFeed.Proofs.Json.Parts
import EventFeed.Proofs.Json.RoundTrip
import EventFeed.Proofs.EventText
import EventFeed.Proofs.Flow.PausedDepths
import EventFeed.Proofs.Json.Apart
import EventFeed.Proofs.Client.Carriage
import EventFeed.Proofs.Client.Nodes
import EventFeed.Proofs.Url.Forms
import EventFeed.Proofs.Command.EnvFile
import EventFeed.Proofs.Client.Parameters
import EventFeed.Proofs.Client.Tally
import EventFeed.Proofs.Flow.Log
import EventFeed.Proofs.Flow.BatchSizes
import EventFeed.Proofs.Flow.Draining
import EventFeed.Proofs.Documents
import EventFeed.Proofs.Flow.Prospect
import EventFeed.Proofs.Flow.QueueHistory
import EventFeed.Proofs.Flow.Recital
import EventFeed.Proofs.Flow.Pausing
import EventFeed.Proofs.Flow.LineBreaks
import EventFeed.Proofs.Flow.FileFaults
import EventFeed.Proofs.Flow.Passage
import EventFeed.Proofs.Flow.PauseCount
import EventFeed.Proofs.Json.Echoes
import EventFeed.Proofs.Json.BlanksBehind
import EventFeed.Proofs.Files.Enumeration
import EventFeed.Proofs.Files.Following
import EventFeed.Proofs.LineKinds
import EventFeed.Proofs.Json.SkippedText
import EventFeed.Proofs.Schema.Strangers
import EventFeed.Proofs.Client.Answers
import EventFeed.Proofs.Text.Thousands
