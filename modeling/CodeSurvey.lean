import CodeSurvey.Command.Basic
import CodeSurvey.Command.Survey
import CodeSurvey.CommandLine.Arguments
import CodeSurvey.CommandLine.Run
import CodeSurvey.Config.Basic
import CodeSurvey.Config.Document
import CodeSurvey.Config.Environment
import CodeSurvey.Config.File
import CodeSurvey.Console.Output
import CodeSurvey.Console.Table
import CodeSurvey.Database.Error
import CodeSurvey.Database.Header
import CodeSurvey.Database.Opening
import CodeSurvey.Database.Request
import CodeSurvey.Database.Uri
import CodeSurvey.Discovery.Answer
import CodeSurvey.Discovery.Page
import CodeSurvey.Discovery.RateLimit
import CodeSurvey.Discovery.Walk
import CodeSurvey.Fault
import CodeSurvey.Record
import CodeSurvey.Json.Reader
import CodeSurvey.Json.Value
import CodeSurvey.Main
import CodeSurvey.Mining.Analyzer
import CodeSurvey.Mining.Cloner
import CodeSurvey.Mining.Repository
import CodeSurvey.Mining.Run
import CodeSurvey.Number.Binary64
import CodeSurvey.Number.Duration
import CodeSurvey.Path
import CodeSurvey.Proofs.Discovery.Ranking
import CodeSurvey.Proofs.Discovery.Steps
import CodeSurvey.Proofs.Mining.Calls
import CodeSurvey.Proofs.Mining.Interruption
import CodeSurvey.Proofs.Mining.Pass
import CodeSurvey.Proofs.Mining.Stages
import CodeSurvey.Proofs.Mining.Verdict
import CodeSurvey.Proofs.Number.Elapsed
import CodeSurvey.Proofs.Store.Consistency
import CodeSurvey.Proofs.Store.History
import CodeSurvey.Proofs.Store.Intake
import CodeSurvey.Proofs.Store.Recorded
import CodeSurvey.Proofs.Store.Waiting
import CodeSurvey.Report.Counters
import CodeSurvey.Report.Line
import CodeSurvey.Store.Basic
import CodeSurvey.Store.Completion
import CodeSurvey.Store.Queue
import CodeSurvey.Store.Results
import CodeSurvey.Store.Statistics
import CodeSurvey.System.FileTree
import CodeSurvey.System.Machine
import CodeSurvey.Text.Basic
import CodeSurvey.Text.Canonical
import CodeSurvey.Text.CanonicalTables
import CodeSurvey.Text.CodeTable
import CodeSurvey.Text.Numeral
import CodeSurvey.Text.Utf8
import CodeSurvey.Text.Width
import CodeSurvey.Toml.Item
import CodeSurvey.Toml.Moment
import CodeSurvey.Toml.Number
import CodeSurvey.Toml.Reader
import CodeSurvey.Toml.Writer
import CodeSurvey.Toml.TextReader
import CodeSurvey.Url.Address
import CodeSurvey.Url.Basic
import CodeSurvey.Url.Direction
import CodeSurvey.Url.Host
import CodeSurvey.Url.DomainTables
import CodeSurvey.Url.Error
import CodeSurvey.Url.JoinerTables
import CodeSurvey.Url.Label
import CodeSurvey.Url.Percent
import CodeSurvey.Url.Punycode
import CodeSurvey.Url.Reader
import CodeSurvey.Proofs.Discovery.Coverage
import CodeSurvey.Proofs.Survey.Markers
import CodeSurvey.Proofs.Store.Tally
import CodeSurvey.Proofs.Discovery.Threshold
import CodeSurvey.Proofs.Discovery.Query
import CodeSurvey.Proofs.Discovery.Accounts
import CodeSurvey.Proofs.Discovery.Effort
import CodeSurvey.Proofs.Discovery.Succession
import CodeSurvey.Proofs.Store.Dossier
import CodeSurvey.Proofs.Mining.Isolation
import CodeSurvey.Proofs.Discovery.Quota
import CodeSurvey.Proofs.Discovery.Turning
import CodeSurvey.Proofs.Discovery.Patience
import CodeSurvey.Proofs.Mining.Endings
import CodeSurvey.Proofs.Text.Utf8
import CodeSurvey.Proofs.Text.Numeral
import CodeSurvey.Proofs.Text.Pattern
import CodeSurvey.Proofs.Report.Grammar
import CodeSurvey.Proofs.Report.Transcript
import CodeSurvey.Proofs.Report.Truncation
import CodeSurvey.Proofs.Text.Lenient
import CodeSurvey.Proofs.Report.Counting
import CodeSurvey.Proofs.Report.Attribution
import CodeSurvey.Proofs.Number.Rounding
import CodeSurvey.Proofs.Discovery.Backoff
import CodeSurvey.Proofs.Discovery.Bodies
import CodeSurvey.Proofs.Path
import CodeSurvey.Proofs.Mining.Naming
import CodeSurvey.Proofs.Store.Traversal
import CodeSurvey.Proofs.Mining.Accounting
import CodeSurvey.Proofs.Path.Ancestry
import CodeSurvey.Proofs.System.Following
import CodeSurvey.Proofs.System.Making
import CodeSurvey.Proofs.System.Removing
import CodeSurvey.Proofs.System.Running
import CodeSurvey.Proofs.Mining.Obtaining
import CodeSurvey.Proofs.Mining.Confinement
import CodeSurvey.Proofs.Mining.Clearance
import CodeSurvey.Proofs.Store.Dialogue
import CodeSurvey.Proofs.Store.Batches
import CodeSurvey.Proofs.Survey.Resetting
import CodeSurvey.Proofs.Survey.Yield
import CodeSurvey.Proofs.Discovery.Closing
import CodeSurvey.Proofs.Store.Turns
import CodeSurvey.Proofs.Store.Identities
import CodeSurvey.Proofs.Toml.Quoting
import CodeSurvey.Proofs.Toml.Numerals
import CodeSurvey.Proofs.Toml.Line
import CodeSurvey.Proofs.Toml.Document
import CodeSurvey.Proofs.Config.Document
import CodeSurvey.Proofs.System.Writing
import CodeSurvey.Proofs.Config.Saving
