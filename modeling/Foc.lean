import Foc.Agreement.Agreed
import Foc.Agreement.Errands
import Foc.Agreement.Exchange
import Foc.Agreement.Repair
import Foc.Agreement.Replies
import Foc.Agreement.Settlement
import Foc.Agreement.Settling
import Foc.Agreement.Standing
import Foc.Agreement.Together
import Foc.Auth.Freshness
import Foc.Auth.IdentityCache
import Foc.Chat.Bookkeeping
import Foc.Chat.HeldSockets
import Foc.Chat.RateLimit
import Foc.Chat.Retention
import Foc.Chat.RetentionSweep
import Foc.Chat.Retries
import Foc.Chat.Sending
import Foc.Chat.SignIn
import Foc.Chat.SocketHub
import Foc.Credit.Audit
import Foc.Credit.Economy
import Foc.Credit.Interleaving
import Foc.Credit.Invariants
import Foc.Credit.Ledger
import Foc.Credit.Paging
import Foc.Credit.Records
import Foc.Credit.Refusals
import Foc.Credit.Repeats
import Foc.Credit.Replays
import Foc.Credit.Statements
import Foc.Credit.Status
import Foc.Library.Base64
import Foc.Library.Calendar
import Foc.Library.Circle
import Foc.Library.Double
import Foc.Library.EventStream
import Foc.Library.Json
import Foc.Library.JsonLiteral
import Foc.Library.JsonText
import Foc.Library.Keyset
import Foc.Library.OpaqueText
import Foc.Library.OrderedMap
import Foc.Library.Pattern
import Foc.Library.Serial
import Foc.Library.Setting
import Foc.Library.SlidingWindow
import Foc.Library.TimerTable
import Foc.Library.Transaction
import Foc.Library.UuidText
import Foc.Library.WorkPool
import Foc.Order.Acceptance
import Foc.Order.Chain
import Foc.Order.Clock
import Foc.Order.Creation
import Foc.Order.Cursor
import Foc.Order.Deadlines
import Foc.Order.Disputes
import Foc.Order.Effects
import Foc.Order.Idempotency
import Foc.Order.Listing
import Foc.Order.LiveDelivery
import Foc.Order.LiveHub
import Foc.Order.Programs
import Foc.Order.Projection
import Foc.Order.Reconciliation
import Foc.Order.Request
import Foc.Order.Runs
import Foc.Order.Service
import Foc.Order.Step
import Foc.Order.Suspension
import Foc.Order.Timers
import Foc.Order.Turns
import Foc.Order.Undelivered
import Foc.Order.Walks
import Foc.Platform.AtMostOnce
import Foc.Platform.BoundValues
import Foc.Platform.BoundedRetry
import Foc.Platform.BrokerConnection
import Foc.Platform.Delivery
import Foc.Platform.ErrorWalk
import Foc.Platform.HandBack
import Foc.Platform.LogMasking
import Foc.Platform.Logging
import Foc.Platform.Parked
import Foc.Platform.Parking
import Foc.Platform.Prefetch
import Foc.Platform.Redrive
import Foc.Platform.RedriveRuns
import Foc.Platform.Redriven
import Foc.Platform.Retry
import Foc.Platform.Sender
import Foc.Supplier.Hours
import Foc.Supplier.Programs
import Foc.Supplier.Service
import Foc.Supplier.Turns
import Foc.Supplier.Writes
import Foc.User.Revocation
import Foc.User.SuspensionLimit
import Foc.User.Suspensions
import Foc.User.TwoPersonRule
import Foc.Web.Composer
import Foc.Web.LiveConnection
import Foc.Web.OrderActions
import Foc.Web.PagedOrders
import Foc.Web.Posting
import Foc.Web.Replays
import Foc.Web.Session
import Foc.Web.SignedIn
import Foc.Web.Sse
