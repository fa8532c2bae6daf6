import Vertx.Upstream.AgentEvents
import Vertx.Upstream.Lifecycle
import Vertx.Upstream.ReplyText
import Vertx.Upstream.Subscribers

/-!
# The state of the upstream chat

The gateway keeps the chat runs that wait for their agent run, the texts of the runs that stream,
the runs that can be aborted and the connections that receive a run's tool events.  `GatewayChat`
is all of it with a log of what was sent.
-/

namespace Vertx

/-! ## Chat runs -/

structure ChatRunEntry where
  sessionKey : String
  clientRunId : String
  deriving DecidableEq, Repr

/-- The chat runs of each agent run, first come first served. -/
abbrev ChatRunRegistry := OrderedMap String (List ChatRunEntry)

namespace ChatRunRegistry

def add (sessionId : String) (entry : ChatRunEntry) (r : ChatRunRegistry) : ChatRunRegistry :=
  r.set sessionId ((r.get? sessionId).getD [] ++ [entry])

def peek (sessionId : String) (r : ChatRunRegistry) : Option ChatRunEntry :=
  (r.get? sessionId).bind (·.head?)

/-- Keeps the queue of a session, unless it is empty. -/
def store (sessionId : String) (queue : List ChatRunEntry) (r : ChatRunRegistry) :
    ChatRunRegistry :=
  if queue = [] then OrderedMap.delete r sessionId else r.set sessionId queue

def shift (sessionId : String) (r : ChatRunRegistry) : Option ChatRunEntry × ChatRunRegistry :=
  match r.get? sessionId with
  | some (entry :: queue) => (some entry, store sessionId queue r)
  | _ => (none, r)

def remove (sessionId clientRunId : String) (sessionKey : Option String) (r : ChatRunRegistry) :
    Option ChatRunEntry × ChatRunRegistry :=
  let queue := (r.get? sessionId).getD []
  match queue.findIdx? fun entry => entry.clientRunId = clientRunId &&
      (match sessionKey with
        | none => true
        | some key => key = "" || entry.sessionKey = key) with
  | none => (none, r)
  | some idx => (queue[idx]?, store sessionId (queue.eraseIdx idx) r)

end ChatRunRegistry

/-- `createChatRunState`. -/
structure ChatRunState where
  registry : ChatRunRegistry
  rawBuffers : OrderedMap String String
  buffers : OrderedMap String String
  deltaSentAt : OrderedMap String ℤ
  deltaLastBroadcastLen : OrderedMap String ℕ
  abortedRuns : OrderedMap String ℤ

def ChatRunState.initial : ChatRunState :=
  ⟨OrderedMap.empty, OrderedMap.empty, OrderedMap.empty, OrderedMap.empty, OrderedMap.empty,
    OrderedMap.empty⟩

structure ChatAbortControllerEntry where
  sessionId : String
  sessionKey : String
  startedAtMs : ℤ
  expiresAtMs : ℤ
  ownerConnId : Option String
  ownerDeviceId : Option String
  deriving DecidableEq

/-! ## Recipients of tool events -/

structure ToolRecipientEntry where
  connIds : OrderedSet String
  updatedAt : ℤ
  finalizedAt : Option ℤ

abbrev ToolEventRecipientRegistry := OrderedMap String ToolRecipientEntry

namespace ToolEventRecipientRegistry

def toolEventRecipientTtlMs : ℤ := 10 * 60 * 1000
def toolEventRecipientFinalGraceMs : ℤ := 30 * 1000

def cutoff (entry : ToolRecipientEntry) : ℤ :=
  match entry.finalizedAt.filter (· ≠ 0) with
  | some finalizedAt => finalizedAt + toolEventRecipientFinalGraceMs
  | none => entry.updatedAt + toolEventRecipientTtlMs

def prune (now : ℤ) (r : ToolEventRecipientRegistry) : ToolEventRecipientRegistry :=
  r.filter fun _ entry => now < cutoff entry

def add (now : ℤ) (runId connId : String) (r : ToolEventRecipientRegistry) :
    ToolEventRecipientRegistry :=
  if runId = "" ∨ connId = "" then r
  else
    let entry := match r.get? runId with
      | some existing => { existing with connIds := existing.connIds.add connId, updatedAt := now }
      | none => ⟨OrderedSet.add OrderedMap.empty connId, now, none⟩
    prune now (r.set runId entry)

/-- `get`: the recipients, and the registry it leaves. -/
def get (now : ℤ) (runId : String) (r : ToolEventRecipientRegistry) :
    Option (OrderedSet String) × ToolEventRecipientRegistry :=
  match r.get? runId with
  | none => (none, r)
  | some entry => (some entry.connIds, prune now (r.set runId { entry with updatedAt := now }))

def markFinal (now : ℤ) (runId : String) (r : ToolEventRecipientRegistry) :
    ToolEventRecipientRegistry :=
  match r.get? runId with
  | none => r
  | some entry => prune now (r.set runId { entry with finalizedAt := some now })

end ToolEventRecipientRegistry

/-! ## What is sent -/

inductive ChatEventState
  | delta
  | final
  | error
  | aborted
  deriving DecidableEq, Repr

/-- The message of a `chat` event: an assistant message with one text, or one from a transcript. -/
inductive ChatEventMessage
  | assistant (text : String) (timestamp : ℤ)
  | stored (message : JsValue)
  deriving DecidableEq

/-- The payload of a `chat` event. -/
structure ChatEventPayload where
  runId : String
  sessionKey : String
  seq : ℕ
  state : ChatEventState
  message : Option ChatEventMessage
  stopReason : Option String
  errorMessage : Option String
  errorKind : Option String
  deriving DecidableEq

/-- A session's row: its lifecycle fields and the others. -/
structure GatewaySessionRow where
  lifecycle : LifecycleSession
  others : List (String × JsValue)
  deriving DecidableEq

/-- `buildSessionEventSnapshot`: the row when there is one, and the lifecycle fields. -/
structure SessionEventSnapshot where
  session : Option GatewaySessionRow
  lifecycle : LifecycleSession
  deriving DecidableEq

/-- The payload of an event that is sent to clients or nodes. -/
inductive GatewayPayload
  | chat (payload : ChatEventPayload)
  /-- An `agent` event, with the session's snapshot for a tool event. -/
  | agent (event : AgentEventPayload) (snapshot : Option SessionEventSnapshot)
  /-- The `agent` event that reports a gap in a run's numbers. -/
  | seqGap (runId : String) (sessionKey : Option String) (expected received : ℕ) (ts : ℤ)
  /-- A `session.tool` event. -/
  | sessionTool (event : AgentEventPayload) (snapshot : SessionEventSnapshot)
  /-- A `sessions.changed` event. -/
  | sessionsChanged (sessionKey phase runId : String) (ts : ℤ) (snapshot : SessionEventSnapshot)
  deriving DecidableEq

inductive AbortOrigin
  | rpc
  | stopCommand
  deriving DecidableEq, Repr

/-- The text of an aborted run that is added to the transcript. -/
structure AbortedPartialSnapshot where
  runId : String
  sessionId : String
  text : String
  abortOrigin : AbortOrigin
  deriving DecidableEq

/-- One thing that the chat sends or stores. -/
inductive ChatOutput
  | broadcast (payload : GatewayPayload) (dropIfSlow : Bool)
  | broadcastToConnIds (payload : GatewayPayload) (connIds : OrderedSet String) (dropIfSlow : Bool)
  | nodeSendToSession (sessionKey : String) (payload : GatewayPayload)
  | persistLifecycle (sessionKey : String) (event : AgentEventPayload)
  | persistPartial (sessionKey : String) (snapshot : AbortedPartialSnapshot)

/-! ## The environment and the state -/

structure HeartbeatStrip where
  shouldSkip : Bool
  text : String
  didStrip : Bool

/-- The functions on texts that the chat applies. -/
structure ReplyTextRules where
  stripInlineDirectiveTagsForDisplay : String → String
  isSuppressedControlReplyText : String → Bool
  isSuppressedControlReplyLeadFragment : String → Bool
  startsWithSilentToken : String → Bool
  stripLeadingSilentToken : String → String
  /-- `stripHeartbeatToken` in heartbeat mode with a `maxAckChars`. -/
  stripHeartbeatToken : ℕ → String → HeartbeatStrip

/-- The rules as upstream has them; `wordStart` is the class `[\p{L}\p{N}]`. -/
def replyTextRules (wordStart : Char → Bool) (stripHeartbeatToken : ℕ → String → HeartbeatStrip) :
    ReplyTextRules where
  stripInlineDirectiveTagsForDisplay := stripInlineDirectiveTagsForDisplay
  isSuppressedControlReplyText := isSuppressedControlReplyText
  isSuppressedControlReplyLeadFragment := isSuppressedControlReplyLeadFragment
  startsWithSilentToken := startsWithSilentToken wordStart
  stripLeadingSilentToken := stripLeadingSilentToken
  stripHeartbeatToken := stripHeartbeatToken

/-- What the chat reads from the configuration, the session store and the clock at one event. -/
structure ChatView where
  now : ℤ
  /-- Heartbeat output is hidden, also when the configuration cannot be read. -/
  hideHeartbeat : Bool
  heartbeatAckMaxChars : ℕ
  loadGatewaySessionRow : String → Option GatewaySessionRow
  /-- The verbose level of a session, or the default. -/
  sessionVerboseLevel : String → VerboseLevel
  storeSessionKey : String → Option String
  formatForLog : JsValue → String
  detectErrorKind : JsValue → Option String

/-- The answer to a request that is kept for its repetitions. -/
structure DedupeEntry where
  ts : ℤ
  ok : Bool
  payload : JsValue
  error : JsValue
  deriving DecidableEq

/-- A lifecycle error that ends its run when its timer fires. -/
structure PendingLifecycleError where
  event : AgentEventPayload
  skipChatErrorFinal : Bool
  dueAt : ℤ

structure GatewayChat where
  agentEvents : AgentEventState
  sessionKeyCache : OrderedMap String RunLookupCacheEntry
  chatRunState : ChatRunState
  agentRunSeq : OrderedMap String ℕ
  chatAbortControllers : OrderedMap String ChatAbortControllerEntry
  toolEventRecipients : ToolEventRecipientRegistry
  sessionSubscribers : SessionSubscribers
  pendingTerminalLifecycleErrors : OrderedMap String PendingLifecycleError
  dedupe : OrderedMap String DedupeEntry
  /-- What was sent, oldest first. -/
  sent : List ChatOutput

namespace GatewayChat

def initial : GatewayChat where
  agentEvents := .initial
  sessionKeyCache := OrderedMap.empty
  chatRunState := .initial
  agentRunSeq := OrderedMap.empty
  chatAbortControllers := OrderedMap.empty
  toolEventRecipients := OrderedMap.empty
  sessionSubscribers := .initial
  pendingTerminalLifecycleErrors := OrderedMap.empty
  dedupe := OrderedMap.empty
  sent := []

def send (output : ChatOutput) (g : GatewayChat) : GatewayChat :=
  { g with sent := g.sent ++ [output] }

/-- A `chat` event goes to every client and to the nodes of its session. -/
def sendChat (payload : ChatEventPayload) (dropIfSlow : Bool) (g : GatewayChat) : GatewayChat :=
  (g.send (.broadcast (.chat payload) dropIfSlow)).send
    (.nodeSendToSession payload.sessionKey (.chat payload))

def modifyChatRunState (f : ChatRunState → ChatRunState) (g : GatewayChat) : GatewayChat :=
  { g with chatRunState := f g.chatRunState }

end GatewayChat

/-- The `chat` event that an output carries. -/
def ChatOutput.frame? : ChatOutput → Option ChatEventPayload
  | .broadcast (.chat payload) _ => some payload
  | .nodeSendToSession _ (.chat payload) => some payload
  | _ => none

end Vertx
