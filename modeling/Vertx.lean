import Vertx.Lib.FloatFormat
import Vertx.Js.Value
import Vertx.Js.Types
import Vertx.Js.Program
import Vertx.Js.Date
import Vertx.Js.Convert
import Vertx.Js.Uri
import Vertx.Js.Socket
import Vertx.Api
import Vertx.Lib.Runs
import Vertx.Lib.Keyed
import Vertx.Lib.Numbered
import Vertx.Lib.Broadcast
import Vertx.Lib.Promises
import Vertx.Domain.Repository
import Vertx.Domain.Mirror
import Vertx.Domain.Store
import Vertx.Domain.Effects
import Vertx.Domain.Server
import Vertx.Domain.Types
import Vertx.Domain.Inputs
import Vertx.Domain.Ids
import Vertx.Domain.AuditIds
import Vertx.Domain.EntityIds
import Vertx.Domain.RunStatus
import Vertx.Domain.RunIds
import Vertx.Domain.Summaries
import Vertx.Domain.FileRepository
import Vertx.Domain.MirrorTimes
import Vertx.Domain.MirrorFrame
import Vertx.Domain.AuditLog
import Vertx.Http.Url
import Vertx.Http.Server
import Vertx.Http.Client
import Vertx.Http.RoundTrip
import Vertx.Http.Handler
import Vertx.Http.Typing
import Vertx.Adapter.Normalize
import Vertx.Adapter.Bridge
import Vertx.Adapter.Source
import Vertx.Adapter.Steps
import Vertx.Adapter.Links
import Vertx.Adapter.Exceptions
import Vertx.Adapter.OneConnection
import Vertx.Adapter.Calls
import Vertx.Adapter.Promises
import Vertx.Adapter.Callers
import Vertx.Adapter.Waiting
import Vertx.Adapter.Silent
import Vertx.Adapter.Stopped
import Vertx.Adapter.Failures
import Vertx.Web.State
import Vertx.Web.Approvals
import Vertx.Web.Streaming
import Vertx.Web.Client
import Vertx.Web.Page
import Vertx.Web.View
import Vertx.Web.Isolation
import Vertx.Web.Reconnect
import Vertx.Web.Session
import Vertx.Web.Request
import Vertx.Gateway.Sequence
import Vertx.Gateway.Server
import Vertx.Gateway.Fanout
import Vertx.Gateway.Hello
import Vertx.Gateway.Failures
import Vertx.Gateway.Relay
import Vertx.Gateway.Correlation
import Vertx.Web.History
import Vertx.Web.Reload
import Vertx.Web.Events
import Vertx.Web.Delayed
import Vertx.Web.Stale
import Vertx.Web.Stream
import Vertx.Web.Overlap
import Vertx.Domain.MirrorClient
import Vertx.Adapter.ToolEvents
import Vertx.Web.ToolCards
import Vertx.Domain.ToolAudit
import Vertx.Domain.Sessions
import Vertx.Domain.MessageCounts
import Vertx.Domain.Operations
import Vertx.Domain.FailedWrites
import Vertx.Domain.Crashes
import Vertx.Http.Paths
import Vertx.Gateway.Answers
import Vertx.Adapter.Settling
import Vertx.Js.Schema
import Vertx.Gateway.Upstream
import Vertx.Gateway.Identity
import Vertx.Web.Gaps
import Vertx.Web.RunEnds
import Vertx.Web.Status
import Vertx.Domain.Schedules
import Vertx.Web.Queries
import Vertx.Web.StatusPage
import Vertx.Web.StatusActions
import Vertx.Web.StatusSteps
import Vertx.Adapter.Requests
import Vertx.Web.QueryCache
import Vertx.Lib.History
import Vertx.Web.Reducer
import Vertx.Web.CardRegistry
import Vertx.Web.OpenApprovals
import Vertx.Web.RunFields
import Vertx.Lib.OrderedMap
import Vertx.Upstream.Broadcaster
import Vertx.Upstream.ReplyText
import Vertx.Upstream.AgentEvents
import Vertx.Upstream.Lifecycle
import Vertx.Upstream.Chat
import Vertx.Upstream.AgentHandler
import Vertx.Lib.Log
import Vertx.Upstream.Abort
import Vertx.Upstream.ChatEffects
import Vertx.Upstream.ChatOutputs
import Vertx.Upstream.ChatSystem
import Vertx.Upstream.AbortRights
import Vertx.Upstream.AbortedRuns
import Vertx.Upstream.RunNumbers
import Vertx.Upstream.ToolRecipients
import Vertx.Upstream.RetryGrace
