import RowBridge.Abort
import RowBridge.Binary64
import RowBridge.Bindings
import RowBridge.Closer
import RowBridge.Config.Environment
import RowBridge.Config.Fault
import RowBridge.Config.Layers
import RowBridge.Config.Path
import RowBridge.Config.Reader
import RowBridge.Config.Settings
import RowBridge.Config.Shorthand
import RowBridge.Config.Toml.Document
import RowBridge.Config.Toml.Lexeme
import RowBridge.Config.Toml.Scalar
import RowBridge.Config.Toml.Table
import RowBridge.Config.Tree
import RowBridge.Config.Value
import RowBridge.Config.Wrapped
import RowBridge.Dao
import RowBridge.Document
import RowBridge.Error
import RowBridge.Filter
import RowBridge.Filter.Directive
import RowBridge.Item
import RowBridge.Log
import RowBridge.Observability
import RowBridge.Pattern.Basic
import RowBridge.Pattern.Bracket
import RowBridge.Pattern.Escape
import RowBridge.Pattern.Modes
import RowBridge.Pattern.Reader
import RowBridge.Postgres.DriverError
import RowBridge.Postgres.Pool
import RowBridge.Postgres.Source
import RowBridge.Postgres.Url
import RowBridge.Proofs.Run
import RowBridge.Proofs.Scan.Ledger
import RowBridge.Proofs.Scan.Moves
import RowBridge.Proofs.Schedule.Calling
import RowBridge.Proofs.Schedule.Completion
import RowBridge.Proofs.Schedule.Contexts
import RowBridge.Proofs.Schedule.Deployment
import RowBridge.Proofs.Schedule.Effects
import RowBridge.Proofs.Schedule.Finished
import RowBridge.Proofs.Schedule.Jobs
import RowBridge.Proofs.Schedule.Routing
import RowBridge.Proofs.Schedule.Service
import RowBridge.Proofs.Schedule.Shutdown
import RowBridge.Proofs.Schedule.Simulation
import RowBridge.Proofs.Schedule.Slots
import RowBridge.Proofs.Schedule.Supervising
import RowBridge.Proofs.Schedule.Verdict
import RowBridge.Proofs.Schedule.Waiting
import RowBridge.Proofs.Session.Enqueue
import RowBridge.Proofs.Session.Traffic
import RowBridge.Proofs.Stream.Bounds
import RowBridge.Proofs.Stream.Courses
import RowBridge.Proofs.Stream.Delivery
import RowBridge.Proofs.Stream.Discipline
import RowBridge.Proofs.Stream.Draining
import RowBridge.Proofs.Stream.Ending
import RowBridge.Proofs.Stream.Errors
import RowBridge.Proofs.Stream.Failing
import RowBridge.Proofs.Stream.Fitting
import RowBridge.Proofs.Stream.Invocation
import RowBridge.Proofs.Stream.Marker
import RowBridge.Proofs.Stream.Polling
import RowBridge.Proofs.Stream.Progress
import RowBridge.Proofs.Stream.Quiet
import RowBridge.Proofs.Stream.Rejected
import RowBridge.Proofs.Stream.Terminal
import RowBridge.Proofs.Stream.Veil
import RowBridge.Proofs.Stream.Wakeups
import RowBridge.Proofs.Stream.Winding
import RowBridge.RowSource
import RowBridge.RowStream
import RowBridge.Scan
import RowBridge.ScanError
import RowBridge.Scenario.Closers
import RowBridge.Scenario.Daos
import RowBridge.Scenario.Disk
import RowBridge.Scenario.Loads
import RowBridge.Scenario.Processes
import RowBridge.Scenario.RowMapper
import RowBridge.Scenario.Scans
import RowBridge.Scenario.Sessions
import RowBridge.Scenario.Settle
import RowBridge.Scenario.Stage
import RowBridge.Scenario.Streams
import RowBridge.Scenario.Subscriptions
import RowBridge.Scenario.Tasks
import RowBridge.Scenario.Workers
import RowBridge.Schedule.Broadcast
import RowBridge.Schedule.Call
import RowBridge.Schedule.Elastic
import RowBridge.Schedule.Job
import RowBridge.Schedule.Setup
import RowBridge.Schedule.Supervise
import RowBridge.Schedule.Worker
import RowBridge.Session
import RowBridge.Session.Send
import RowBridge.Subscriber
import RowBridge.Template
import RowBridge.Text.Cut
import RowBridge.Text.Escaped
import RowBridge.Text.Invisible
import RowBridge.Text.Letter
import RowBridge.Text.Quoted
import RowBridge.Text.Record
import RowBridge.Text.Rule
import RowBridge.TimeSpan
import RowBridge.Proofs.Config.Accepted
import RowBridge.Proofs.Stream.ColdStart
import RowBridge.Proofs.Schedule.Pool
import RowBridge.Proofs.Schedule.Upkeep
import RowBridge.Proofs.Schedule.Audience
import RowBridge.Proofs.Scan.Production
import RowBridge.Proofs.Scan.Output
import RowBridge.Proofs.Scan.Outcome
import RowBridge.Proofs.Stream.Agreement
import RowBridge.Proofs.Schedule.Reasons
import RowBridge.Proofs.Postgres.Masking
import RowBridge.Proofs.Postgres.Secrecy
import RowBridge.Proofs.Stream.Driving
import RowBridge.Proofs.Stream.Subscribing
import RowBridge.Proofs.Postgres.Retries
import RowBridge.Proofs.Config.Paths
import RowBridge.Proofs.Config.Sources
import RowBridge.Proofs.Config.Records
import RowBridge.Proofs.Config.Sections
import RowBridge.Proofs.Config.Priority
import RowBridge.Proofs.Config.Extraction
import RowBridge.Proofs.Config.Renaming
import RowBridge.Proofs.Config.Files
import RowBridge.Proofs.Config.Precedence
import RowBridge.Proofs.Config.Quoting
import RowBridge.Proofs.Config.Beside
import RowBridge.Proofs.Config.Overriding
import RowBridge.Proofs.Stream.Starting
import RowBridge.Proofs.Bindings
