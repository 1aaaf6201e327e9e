import Courtship.Conversation
import Courtship.Error
import Courtship.FriendRequest
import Courtship.Http.Body
import Courtship.Http.Endpoint
import Courtship.Http.Exchange
import Courtship.Http.MediaType
import Courtship.Http.Query
import Courtship.Http.Report
import Courtship.Json.Basic
import Courtship.Json.Form
import Courtship.Json.Printer
import Courtship.Json.Reader
import Courtship.Json.Records
import Courtship.Lock.Acquisition
import Courtship.Lock.Registry
import Courtship.Log.Filter
import Courtship.Log.Line
import Courtship.Main
import Courtship.Match
import Courtship.Notification
import Courtship.Number.Binary64
import Courtship.Operation.Basic
import Courtship.Operation.Command
import Courtship.Operation.Ending
import Courtship.Operation.FriendZone
import Courtship.Operation.Swiping
import Courtship.Proofs.Agreement
import Courtship.Proofs.Answers
import Courtship.Proofs.Apart
import Courtship.Proofs.Barring
import Courtship.Proofs.Blocks
import Courtship.Proofs.Changes
import Courtship.Proofs.Commutation
import Courtship.Proofs.Conversations
import Courtship.Proofs.Crowd
import Courtship.Proofs.Deadlock
import Courtship.Proofs.Drafts
import Courtship.Proofs.Effect.Blocking
import Courtship.Proofs.Effect.Calls
import Courtship.Proofs.Effect.Closing
import Courtship.Proofs.Effect.Command
import Courtship.Proofs.Effect.Ending
import Courtship.Proofs.Effect.FriendZone
import Courtship.Proofs.Effect.Swiping
import Courtship.Proofs.Effect.Undoing
import Courtship.Proofs.Frame
import Courtship.Proofs.FreeLocks
import Courtship.Proofs.History
import Courtship.Proofs.Http.Discretion
import Courtship.Proofs.Http.Exchange
import Courtship.Proofs.Http.Fields
import Courtship.Proofs.InPlace
import Courtship.Proofs.Keyed
import Courtship.Proofs.LatestSwipe
import Courtship.Proofs.Leases
import Courtship.Proofs.Lifecycle
import Courtship.Proofs.Listings
import Courtship.Proofs.Midnight
import Courtship.Proofs.MutualLikes
import Courtship.Proofs.Notices
import Courtship.Proofs.PairName
import Courtship.Proofs.PairUsers
import Courtship.Proofs.Partings
import Courtship.Proofs.PendingRequests
import Courtship.Proofs.Proposals
import Courtship.Proofs.Quota
import Courtship.Proofs.Receipts
import Courtship.Proofs.Renaming
import Courtship.Proofs.Requests
import Courtship.Proofs.Responses
import Courtship.Proofs.Reswipes
import Courtship.Proofs.Retries
import Courtship.Proofs.Rollback
import Courtship.Proofs.Rows
import Courtship.Proofs.Scope
import Courtship.Proofs.Serving
import Courtship.Proofs.Sessions
import Courtship.Proofs.Settings.Fields
import Courtship.Proofs.Settings.Merging
import Courtship.Proofs.Settings.Precedence
import Courtship.Proofs.Sql.Alike
import Courtship.Proofs.Sql.Commands
import Courtship.Proofs.Sql.Errors
import Courtship.Proofs.Sql.Parallel
import Courtship.Proofs.Sql.Transcript
import Courtship.Proofs.Sql.Units
import Courtship.Proofs.Supply
import Courtship.Proofs.Text.Blank
import Courtship.Proofs.Text.Calendar
import Courtship.Proofs.Text.Digits
import Courtship.Proofs.Text.Json
import Courtship.Proofs.Text.Records
import Courtship.Proofs.Text.Rfc3339
import Courtship.Proofs.Traffic
import Courtship.Proofs.UndoLog
import Courtship.Proofs.UndoWindow
import Courtship.Proofs.Withdrawals
import Courtship.Proofs.World
import Courtship.Service
import Courtship.Settings.Basic
import Courtship.Settings.Form
import Courtship.Settings.Layer
import Courtship.Settings.Load
import Courtship.Settings.VariableFile
import Courtship.Sql.Database
import Courtship.Sql.Form
import Courtship.Sql.Migration
import Courtship.Sql.Row
import Courtship.Sql.Script
import Courtship.Sql.Server
import Courtship.Sql.Statement
import Courtship.Startup
import Courtship.Store.Call
import Courtship.Store.Memory
import Courtship.Store.Rows
import Courtship.Store.Storage
import Courtship.Store.Tables
import Courtship.Store.Work
import Courtship.Swipe
import Courtship.Text.Basic
import Courtship.Time.Calendar
import Courtship.Time.Instant
import Courtship.Time.Text
import Courtship.Toml.Basic
import Courtship.Toml.Form
import Courtship.Toml.Number
import Courtship.Toml.Path
import Courtship.Toml.Reader
import Courtship.Toml.Text
import Courtship.User
import Courtship.Uuid
