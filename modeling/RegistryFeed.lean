import RegistryFeed.Change.Entry
import RegistryFeed.Change.MemoryLog
import RegistryFeed.Change.Operation
import RegistryFeed.Change.Reading
import RegistryFeed.Digest.Sha256
import RegistryFeed.Engine.Health
import RegistryFeed.Engine.Host
import RegistryFeed.Engine.Life
import RegistryFeed.Engine.Lifecycle
import RegistryFeed.Engine.State
import RegistryFeed.Error
import RegistryFeed.Json.Reader
import RegistryFeed.Json.Record
import RegistryFeed.Json.Value
import RegistryFeed.Json.Value.Reader
import RegistryFeed.Metrics
import RegistryFeed.Number.Binary64
import RegistryFeed.Number.Decimal
import RegistryFeed.Number.Shortest
import RegistryFeed.Proofs.Change.Window
import RegistryFeed.Proofs.Engine.Life
import RegistryFeed.Proofs.Engine.Startup
import RegistryFeed.Proofs.Engine.Transitions
import RegistryFeed.Proofs.Json.Records
import RegistryFeed.Proofs.Json.Scalars
import RegistryFeed.Proofs.Json.Values
import RegistryFeed.Proofs.Publication.Agreement
import RegistryFeed.Proofs.Publication.Alone
import RegistryFeed.Proofs.Publication.Belonging
import RegistryFeed.Proofs.Publication.Chain
import RegistryFeed.Proofs.Publication.Completeness
import RegistryFeed.Proofs.Publication.Convergence
import RegistryFeed.Proofs.Publication.Coverage
import RegistryFeed.Proofs.Publication.Documents
import RegistryFeed.Proofs.Publication.Ending
import RegistryFeed.Proofs.Publication.FileNames
import RegistryFeed.Proofs.Publication.Independence
import RegistryFeed.Proofs.Publication.Interleaving
import RegistryFeed.Proofs.Publication.Likeness
import RegistryFeed.Proofs.Publication.Listing
import RegistryFeed.Proofs.Publication.Locking
import RegistryFeed.Proofs.Publication.Naming
import RegistryFeed.Proofs.Publication.NoTrace
import RegistryFeed.Proofs.Publication.ObjectMap
import RegistryFeed.Proofs.Publication.Patience
import RegistryFeed.Proofs.Publication.Quiet
import RegistryFeed.Proofs.Publication.Recording
import RegistryFeed.Proofs.Publication.Snapshot
import RegistryFeed.Proofs.Publication.Turn
import RegistryFeed.Proofs.Publisher.Accounting
import RegistryFeed.Proofs.Publisher.Attempts
import RegistryFeed.Proofs.Publisher.Counting
import RegistryFeed.Proofs.Publisher.Halting
import RegistryFeed.Proofs.Publisher.Stopping
import RegistryFeed.Proofs.Publisher.Undisturbed
import RegistryFeed.Proofs.Request.Acceptance
import RegistryFeed.Proofs.Request.Configured
import RegistryFeed.Proofs.Request.Rejection
import RegistryFeed.Proofs.Request.Selection
import RegistryFeed.Proofs.Server.Occupancy
import RegistryFeed.Proofs.Session.CancelSafety
import RegistryFeed.Proofs.Session.Connection
import RegistryFeed.Proofs.Session.Decoding
import RegistryFeed.Proofs.Session.Delivery
import RegistryFeed.Proofs.Session.Dialogue
import RegistryFeed.Proofs.Session.Keepalive
import RegistryFeed.Proofs.Session.Leading
import RegistryFeed.Proofs.Session.Lines
import RegistryFeed.Proofs.Session.Paging
import RegistryFeed.Proofs.Session.Progress
import RegistryFeed.Proofs.Session.Range
import RegistryFeed.Proofs.Session.Refusing
import RegistryFeed.Proofs.Session.Settling
import RegistryFeed.Proofs.Session.Stages
import RegistryFeed.Proofs.Session.Streaming
import RegistryFeed.Proofs.Session.Transcript
import RegistryFeed.Proofs.Session.Truncation
import RegistryFeed.Proofs.Session.Underway
import RegistryFeed.Proofs.Session.Views
import RegistryFeed.Proofs.Settings.Omissions
import RegistryFeed.Proofs.Store.Commit
import RegistryFeed.Proofs.Store.Exclusion
import RegistryFeed.Proofs.Store.Latest
import RegistryFeed.Proofs.Store.Numbering
import RegistryFeed.Proofs.Store.Stepping
import RegistryFeed.Proofs.Text.ByteOrder
import RegistryFeed.Proofs.Text.Words
import RegistryFeed.Proofs.Time.Overflow
import RegistryFeed.Publication.Document
import RegistryFeed.Publication.Filter
import RegistryFeed.Publication.Follower
import RegistryFeed.Publication.Generation
import RegistryFeed.Publication.Kind
import RegistryFeed.Publication.LockWait
import RegistryFeed.Publication.Notification
import RegistryFeed.Publication.Record
import RegistryFeed.Publication.SharedSite
import RegistryFeed.Publication.Site
import RegistryFeed.Publication.TimedWait
import RegistryFeed.Publication.Version
import RegistryFeed.Publisher.Basic
import RegistryFeed.Publisher.Live
import RegistryFeed.Publisher.Status
import RegistryFeed.Publisher.Task
import RegistryFeed.Request.Fault
import RegistryFeed.Request.Grammar
import RegistryFeed.Request.Parser
import RegistryFeed.Request.Query
import RegistryFeed.Request.Rejection
import RegistryFeed.Retry
import RegistryFeed.Server.Acceptor
import RegistryFeed.Server.Address
import RegistryFeed.Session.Connection
import RegistryFeed.Session.Dialogue
import RegistryFeed.Session.Frame
import RegistryFeed.Session.Frame.Reader
import RegistryFeed.Session.Inbox
import RegistryFeed.Session.Live
import RegistryFeed.Session.LiveSubscription
import RegistryFeed.Session.Machine
import RegistryFeed.Session.Outbox
import RegistryFeed.Session.Signal
import RegistryFeed.Session.Subscribing
import RegistryFeed.Session.Subscription
import RegistryFeed.Session.Transcript
import RegistryFeed.Settings
import RegistryFeed.Settings.Partial
import RegistryFeed.Settings.Removal
import RegistryFeed.Slots
import RegistryFeed.Source
import RegistryFeed.Store.Appending
import RegistryFeed.Store.Basic
import RegistryFeed.Store.ChangeLog
import RegistryFeed.Store.Disk
import RegistryFeed.Store.Files
import RegistryFeed.Store.Leases
import RegistryFeed.Store.Location
import RegistryFeed.Store.LockTable
import RegistryFeed.Store.Opening
import RegistryFeed.Store.Publishing
import RegistryFeed.Store.Repository
import RegistryFeed.Store.Tampering
import RegistryFeed.Store.Versions
import RegistryFeed.Text.Ascii
import RegistryFeed.Text.Blank
import RegistryFeed.Text.Fields
import RegistryFeed.Text.Numeral
import RegistryFeed.Text.Percent
import RegistryFeed.Text.Printable
import RegistryFeed.Text.Quoted
import RegistryFeed.Text.Uppercase
import RegistryFeed.Text.Utf8
import RegistryFeed.Time.Span
import RegistryFeed.Time.SpanText
