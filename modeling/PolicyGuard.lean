import PolicyGuard.Cache.Basic
import PolicyGuard.Cache.Bundle
import PolicyGuard.Cache.Call
import PolicyGuard.Cache.Config
import PolicyGuard.Cache.Operation
import PolicyGuard.Cache.Plain
import PolicyGuard.Cache.Reader
import PolicyGuard.Cache.Snapshot
import PolicyGuard.Cache.Source
import PolicyGuard.Cache.Trace
import PolicyGuard.Cache.Worker
import PolicyGuard.Digest.Sha256
import PolicyGuard.Event.Basic
import PolicyGuard.Event.Delivery
import PolicyGuard.Event.Queue
import PolicyGuard.Event.Sink
import PolicyGuard.Event.Timestamp
import PolicyGuard.Event.Uuid
import PolicyGuard.FileTree
import PolicyGuard.Gate.Arguments
import PolicyGuard.Gate.Command
import PolicyGuard.Gate.Component
import PolicyGuard.Gate.Entities
import PolicyGuard.Gate.Report
import PolicyGuard.Gate.Run
import PolicyGuard.Http.Message
import PolicyGuard.Http.Origin
import PolicyGuard.Interceptor.Basic
import PolicyGuard.Interceptor.Mode
import PolicyGuard.Interceptor.Registry
import PolicyGuard.Interceptor.Scope
import PolicyGuard.Interceptor.Settings
import PolicyGuard.Interceptor.Transport
import PolicyGuard.Json.Document
import PolicyGuard.Json.Fields
import PolicyGuard.Json.Text
import PolicyGuard.Json.Token
import PolicyGuard.Json.Value
import PolicyGuard.Main
import PolicyGuard.Number.Binary64
import PolicyGuard.Number.Decimal
import PolicyGuard.Number.Int64
import PolicyGuard.Pattern.Basic
import PolicyGuard.Pattern.Class
import PolicyGuard.Pattern.Escape
import PolicyGuard.Pattern.Read
import PolicyGuard.Policy.Clause
import PolicyGuard.Policy.Comment
import PolicyGuard.Policy.Decision
import PolicyGuard.Policy.Load
import PolicyGuard.Policy.Printer
import PolicyGuard.Policy.Rule
import PolicyGuard.Policy.Statement
import PolicyGuard.Policy.Subject
import PolicyGuard.Policy.Value
import PolicyGuard.Proofs.ActionTarget
import PolicyGuard.Proofs.Annotation
import PolicyGuard.Proofs.Attribute
import PolicyGuard.Proofs.BareValue
import PolicyGuard.Proofs.Bookkeeping
import PolicyGuard.Proofs.BrokenOutput
import PolicyGuard.Proofs.CacheRefinement
import PolicyGuard.Proofs.Calendar
import PolicyGuard.Proofs.Capture
import PolicyGuard.Proofs.Clause
import PolicyGuard.Proofs.ClosingBrace
import PolicyGuard.Proofs.CommandLine
import PolicyGuard.Proofs.Comment
import PolicyGuard.Proofs.CommentRemoval
import PolicyGuard.Proofs.CommentedLine
import PolicyGuard.Proofs.Delivery
import PolicyGuard.Proofs.Digits
import PolicyGuard.Proofs.Domain
import PolicyGuard.Proofs.Enrichment
import PolicyGuard.Proofs.Escape
import PolicyGuard.Proofs.ExactMatch
import PolicyGuard.Proofs.Exclusion
import PolicyGuard.Proofs.ExitCode
import PolicyGuard.Proofs.FanOut
import PolicyGuard.Proofs.Files
import PolicyGuard.Proofs.Grammar
import PolicyGuard.Proofs.IntegerOrder
import PolicyGuard.Proofs.Invalidation
import PolicyGuard.Proofs.Isolation
import PolicyGuard.Proofs.JsonText
import PolicyGuard.Proofs.JsonValue
import PolicyGuard.Proofs.Lifecycle
import PolicyGuard.Proofs.Lines
import PolicyGuard.Proofs.LogFile
import PolicyGuard.Proofs.LogLines
import PolicyGuard.Proofs.Lowercase
import PolicyGuard.Proofs.Mediation
import PolicyGuard.Proofs.Numeral
import PolicyGuard.Proofs.Origin
import PolicyGuard.Proofs.Places
import PolicyGuard.Proofs.PolicyEndpoint
import PolicyGuard.Proofs.PoolHost
import PolicyGuard.Proofs.PoolPort
import PolicyGuard.Proofs.Precedence
import PolicyGuard.Proofs.Provenance
import PolicyGuard.Proofs.Quotation
import PolicyGuard.Proofs.Readers
import PolicyGuard.Proofs.Record
import PolicyGuard.Proofs.RefreshProtocol
import PolicyGuard.Proofs.RepeatedHeader
import PolicyGuard.Proofs.ReportTable
import PolicyGuard.Proofs.RoundTrip
import PolicyGuard.Proofs.Rounding
import PolicyGuard.Proofs.Scan
import PolicyGuard.Proofs.Schedule
import PolicyGuard.Proofs.ScopeEnd
import PolicyGuard.Proofs.SourceText
import PolicyGuard.Proofs.Statement
import PolicyGuard.Proofs.Stopped
import PolicyGuard.Proofs.Threshold
import PolicyGuard.Proofs.Transcript
import PolicyGuard.Proofs.Uuid
import PolicyGuard.Proofs.WireForm
import PolicyGuard.Proofs.WorkerRuns
import PolicyGuard.Table
import PolicyGuard.Text.Blank
import PolicyGuard.Text.Combining
import PolicyGuard.Text.Composition
import PolicyGuard.Text.Digit
import PolicyGuard.Text.Folding
import PolicyGuard.Text.Hex
import PolicyGuard.Text.Lowercase
import PolicyGuard.Text.Mark
import PolicyGuard.Text.Normal
import PolicyGuard.Text.Scan
import PolicyGuard.Text.Word
import PolicyGuard.Toml.Read
import PolicyGuard.Toml.Scalar
import PolicyGuard.Toml.Value
import PolicyGuard.Url.Direction
import PolicyGuard.Url.Domain
import PolicyGuard.Url.DomainMap
import PolicyGuard.Url.Host
import PolicyGuard.Url.Ip
import PolicyGuard.Url.Joining
import PolicyGuard.Url.Parse
import PolicyGuard.Url.Path
import PolicyGuard.Url.Percent
import PolicyGuard.Url.Punycode
