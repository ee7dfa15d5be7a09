import EndpointWatch.Agenda
import EndpointWatch.Breaker.Basic
import EndpointWatch.Breaker.Session
import EndpointWatch.Check.Checker
import EndpointWatch.Check.Probe
import EndpointWatch.Check.Session
import EndpointWatch.Collector.Basic
import EndpointWatch.Collector.Builtin
import EndpointWatch.Collector.Pool
import EndpointWatch.Collector.Registry
import EndpointWatch.Collector.Schedule
import EndpointWatch.Config.Basic
import EndpointWatch.Config.EnvFile
import EndpointWatch.Config.Override
import EndpointWatch.Config.Read
import EndpointWatch.Decimal.Layout
import EndpointWatch.Decimal.Shortest
import EndpointWatch.Dict
import EndpointWatch.Evaluator.Address
import EndpointWatch.Evaluator.Notifier
import EndpointWatch.Evaluator.Service
import EndpointWatch.Http.Client
import EndpointWatch.Http.Header
import EndpointWatch.Http.Network
import EndpointWatch.Hub.Basic
import EndpointWatch.Hub.Subscriber
import EndpointWatch.Instant.Basic
import EndpointWatch.Instant.Civil
import EndpointWatch.Instant.Rfc3339
import EndpointWatch.Json.Fault
import EndpointWatch.Json.Passed
import EndpointWatch.Json.Reader
import EndpointWatch.Json.Scan
import EndpointWatch.Json.Shape
import EndpointWatch.Json.Writer
import EndpointWatch.Monitor.Basic
import EndpointWatch.Monitor.Cycle
import EndpointWatch.Monitor.Delivery
import EndpointWatch.Monitor.Deployment
import EndpointWatch.Monitor.Scheduler
import EndpointWatch.Monitor.Settings
import EndpointWatch.Monitor.Ticker
import EndpointWatch.Net.SocketAddress
import EndpointWatch.Publisher.Basic
import EndpointWatch.Publisher.Session
import EndpointWatch.Record.CheckResult
import EndpointWatch.Record.Endpoint
import EndpointWatch.Record.Metric
import EndpointWatch.Retry.Policy
import EndpointWatch.Retry.Run
import EndpointWatch.Retry.Transient
import EndpointWatch.Service.Basic
import EndpointWatch.Service.Handshake
import EndpointWatch.Service.Response
import EndpointWatch.Stats.Aggregate
import EndpointWatch.Stats.Results
import EndpointWatch.Storage.Flaky
import EndpointWatch.Storage.Memory
import EndpointWatch.Storage.Operation
import EndpointWatch.Storage.Table
import EndpointWatch.Storage.Window
import EndpointWatch.Text.Base64
import EndpointWatch.Text.Duration
import EndpointWatch.Text.Hex
import EndpointWatch.Text.Number
import EndpointWatch.Text.Quoted
import EndpointWatch.Text.Search
import EndpointWatch.Unicode.Blank
import EndpointWatch.Unicode.Direction
import EndpointWatch.Unicode.DomainMap
import EndpointWatch.Unicode.Joining
import EndpointWatch.Unicode.Normal
import EndpointWatch.Unicode.Printable
import EndpointWatch.Unicode.Span
import EndpointWatch.Url.Basic
import EndpointWatch.Url.Domain
import EndpointWatch.Url.Host
import EndpointWatch.Url.Percent
import EndpointWatch.Url.Punycode
import EndpointWatch.Url.Read
import EndpointWatch.Proofs.Breaker.Course
import EndpointWatch.Proofs.Breaker.Counts
import EndpointWatch.Proofs.Breaker.Rejection
import EndpointWatch.Proofs.Breaker.Abandonment
import EndpointWatch.Proofs.Breaker.Phases
import EndpointWatch.Proofs.Breaker.Trial
import EndpointWatch.Proofs.Breaker.Recovery
import EndpointWatch.Proofs.Dict
import EndpointWatch.Proofs.Monitor.Ledger
import EndpointWatch.Proofs.Check.Pending
import EndpointWatch.Proofs.Monitor.Books
import EndpointWatch.Proofs.Monitor.Accounting
import EndpointWatch.Proofs.Json.StringMap
import EndpointWatch.Proofs.Stats.Double
import EndpointWatch.Proofs.Instant
import EndpointWatch.Proofs.Instant.Calendar
import EndpointWatch.Proofs.Text.Digits
import EndpointWatch.Proofs.Stats.Order
import EndpointWatch.Proofs.Stats.Tally
import EndpointWatch.Proofs.Storage.Rows
import EndpointWatch.Proofs.Storage.History
import EndpointWatch.Proofs.Storage.Mirror
import EndpointWatch.Proofs.Storage.Answers
import EndpointWatch.Proofs.Storage.Agreement
import EndpointWatch.Proofs.Retry.Law
import EndpointWatch.Proofs.Retry.Cut
import EndpointWatch.Proofs.Retry.LastCall
import EndpointWatch.Proofs.Storage.Streams
import EndpointWatch.Proofs.Storage.Consumer
import EndpointWatch.Proofs.Monitor.Trail
import EndpointWatch.Proofs.Monitor.Interruption
import EndpointWatch.Proofs.Hub.Course
import EndpointWatch.Proofs.Hub.Isolation
import EndpointWatch.Proofs.Hub.Delivery
import EndpointWatch.Proofs.Collector.Turns
import EndpointWatch.Proofs.Collector.Schedule
import EndpointWatch.Proofs.Collector.Order
import EndpointWatch.Proofs.Collector.InTurn
import EndpointWatch.Proofs.Collector.Gathering
import EndpointWatch.Proofs.Instant.Rfc3339
import EndpointWatch.Proofs.Json.Value
import EndpointWatch.Proofs.Json.Shape
import EndpointWatch.Proofs.Evaluator.Sent
import EndpointWatch.Proofs.Record.RoundTrip
import EndpointWatch.Proofs.Monitor.Wire
import EndpointWatch.Proofs.Check.Register
import EndpointWatch.Proofs.Check.Course
import EndpointWatch.Proofs.Check.Isolation
import EndpointWatch.Proofs.Monitor.Publication
import EndpointWatch.Proofs.Storage.Retention
import EndpointWatch.Proofs.Publisher.Calls
import EndpointWatch.Proofs.Publisher.Alone
import EndpointWatch.Proofs.Publisher.Handlers
import EndpointWatch.Proofs.Publisher.Prefix
import EndpointWatch.Proofs.Check.Outcome
import EndpointWatch.Proofs.Monitor.Turns
import EndpointWatch.Proofs.Monitor.Breakers
import EndpointWatch.Proofs.Monitor.Pruning
import EndpointWatch.Proofs.Check.Alone
import EndpointWatch.Proofs.Storage.Transaction
import EndpointWatch.Proofs.Storage.Contents
import EndpointWatch.Proofs.Storage.Recency
import EndpointWatch.Proofs.Storage.Latest
import EndpointWatch.Proofs.Storage.Cursor
import EndpointWatch.Proofs.Storage.Batch
import EndpointWatch.Proofs.Storage.Alike
import EndpointWatch.Proofs.Storage.ReadBack
import EndpointWatch.Proofs.Stats.Sums
import EndpointWatch.Proofs.Stats.Mean
import EndpointWatch.Proofs.Http.Header
import EndpointWatch.Proofs.Record.Identity
import EndpointWatch.Proofs.Record.Flattening
import EndpointWatch.Proofs.Retry.Exact
import EndpointWatch.Proofs.Double.Rounding
import EndpointWatch.Proofs.Double.Whole
import EndpointWatch.Proofs.Retry.Band
import EndpointWatch.Proofs.Monitor.Watch
import EndpointWatch.Proofs.Monitor.Pace
import EndpointWatch.Proofs.Monitor.Scheduled
import EndpointWatch.Proofs.Json.Taking
import EndpointWatch.Proofs.Json.Mention
import EndpointWatch.Proofs.Config.Standards
