import Vertx.Upstream.AgentHandler

/-!
# Aborted chat runs and maintenance

A client may abort its session's chat runs: each is marked as aborted, its text so far is sent and
stored, and what is kept for it is dropped.  Every minute a maintenance timer aborts the runs whose
time is up and drops what is old.
-/

namespace Vertx

structure ChatAbortRequester where
  connId : Option String
  deviceId : Option String
  isAdmin : Bool

def normalizeOptionalText (value : Option String) : Option String :=
  (value.map jsTrim).filter (· ≠ "")

/-- Both are given and equal. -/
def sameOwner (owner requester : Option String) : Bool := owner.isSome && owner = requester

def canRequesterAbortChatRun (entry : ChatAbortControllerEntry) (requester : ChatAbortRequester) :
    Bool :=
  let ownerDeviceId := normalizeOptionalText entry.ownerDeviceId
  let ownerConnId := normalizeOptionalText entry.ownerConnId
  requester.isAdmin || (ownerDeviceId.isNone && ownerConnId.isNone) ||
    sameOwner ownerDeviceId requester.deviceId || sameOwner ownerConnId requester.connId

def minuteMs : ℤ := 60000

namespace GatewayChat

/-! ## Aborting -/

/-- The text of the run that an abort sends, unless it is blank. -/
def partialText? (runId : String) (g : GatewayChat) : Option String :=
  (g.chatRunState.buffers.get? runId).filter nonBlank

/-- What `abortChatRunById` does to the state of a run that it may abort. -/
def dropAborted (now : ℤ) (runId sessionKey : String) (g : GatewayChat) : GatewayChat :=
  { g with
    chatAbortControllers := g.chatAbortControllers.delete runId
    chatRunState :=
      { g.chatRunState with
        abortedRuns := g.chatRunState.abortedRuns.set runId now
        buffers := g.chatRunState.buffers.delete runId
        deltaSentAt := g.chatRunState.deltaSentAt.delete runId
        deltaLastBroadcastLen := g.chatRunState.deltaLastBroadcastLen.delete runId
        registry := (g.chatRunState.registry.remove runId runId (some sessionKey)).2 } }

def abortedPayload (now : ℤ) (runId sessionKey : String) (stopReason : Option String)
    (g : GatewayChat) : ChatEventPayload where
  runId
  sessionKey
  seq := (g.agentRunSeq.get? runId).getD 0 + 1
  state := .aborted
  message := (g.partialText? runId).map fun text => .assistant text now
  stopReason
  errorMessage := none
  errorKind := none

/-- `abortChatRunById`, with whether it aborted the run. -/
def abortChatRunById (now : ℤ) (runId sessionKey : String) (stopReason : Option String)
    (g : GatewayChat) : Bool × GatewayChat :=
  match g.chatAbortControllers.get? runId with
  | none => (false, g)
  | some active =>
    if active.sessionKey ≠ sessionKey then (false, g)
    else
      let removed := (g.chatRunState.registry.remove runId runId (some sessionKey)).1
      let sent := (g.dropAborted now runId sessionKey).sendChat
        (g.abortedPayload now runId sessionKey stopReason) false
      let agentRunSeq := sent.agentRunSeq.delete runId
      (true, { sent with
        agentRunSeq := match nonEmpty? (removed.map (·.clientRunId)) with
          | some clientRunId => agentRunSeq.delete clientRunId
          | none => agentRunSeq })

/-- The runs of a session that the requester may abort, and whether the session has runs. -/
def resolveAuthorizedRunIdsForSession (sessionKey : String) (requester : ChatAbortRequester)
    (g : GatewayChat) : Bool × List String :=
  let runs := g.chatAbortControllers.entries.filter fun e => e.2.sessionKey = sessionKey
  (!runs.isEmpty, (runs.filter fun e => canRequesterAbortChatRun e.2 requester).map (·.1))

def collectSessionAbortPartials (runIds : List String) (abortOrigin : AbortOrigin)
    (g : GatewayChat) : List AbortedPartialSnapshot :=
  g.chatAbortControllers.entries.filterMap fun e =>
    if e.1 ∈ runIds then
      (g.partialText? e.1).map fun text => ⟨e.1, e.2.sessionId, text, abortOrigin⟩
    else none

/-- Aborts runs one after the other, and lists those that it aborted. -/
def abortRuns (now : ℤ) (sessionKey : String) (stopReason : Option String) :
    List String → GatewayChat → List String × GatewayChat
  | [], g => ([], g)
  | runId :: runIds, g =>
    let (aborted, g) := g.abortChatRunById now runId sessionKey stopReason
    let (more, g) := abortRuns now sessionKey stopReason runIds g
    (if aborted then runId :: more else more, g)

def persistAbortedPartials (sessionKey : String) (snapshots : List AbortedPartialSnapshot)
    (g : GatewayChat) : GatewayChat :=
  { g with sent := g.sent ++ snapshots.map (.persistPartial sessionKey) }

structure AbortResult where
  aborted : Bool
  runIds : List String
  unauthorized : Bool
  deriving DecidableEq, Repr

def abortChatRunsForSessionKeyWithPartials (now : ℤ) (sessionKey : String)
    (abortOrigin : AbortOrigin) (stopReason : Option String) (requester : ChatAbortRequester)
    (g : GatewayChat) : AbortResult × GatewayChat :=
  let (matched, authorizedRunIds) := g.resolveAuthorizedRunIdsForSession sessionKey requester
  if authorizedRunIds = [] then (⟨false, [], matched⟩, g)
  else
    let snapshots := g.collectSessionAbortPartials authorizedRunIds abortOrigin
    let (runIds, g) := g.abortRuns now sessionKey stopReason authorizedRunIds
    if runIds = [] then (⟨false, [], false⟩, g)
    else (⟨true, runIds, false⟩, g.persistAbortedPartials sessionKey snapshots)

inductive ChatAbortAnswer
  | ok (aborted : Bool) (runIds : List String)
  | runIdMismatch
  | unauthorized
  deriving DecidableEq, Repr

/-- The handler of `chat.abort` for accepted parameters. -/
def chatAbort (now : ℤ) (sessionKey : String) (runId : Option String)
    (requester : ChatAbortRequester) (g : GatewayChat) : ChatAbortAnswer × GatewayChat :=
  match nonEmpty? runId with
  | none =>
    let (res, g) :=
      g.abortChatRunsForSessionKeyWithPartials now sessionKey .rpc (some "rpc") requester
    (if res.unauthorized then .unauthorized else .ok res.aborted res.runIds, g)
  | some runId =>
    match g.chatAbortControllers.get? runId with
    | none => (.ok false [], g)
    | some active =>
      if active.sessionKey ≠ sessionKey then (.runIdMismatch, g)
      else if !canRequesterAbortChatRun active requester then (.unauthorized, g)
      else
        let partialText := g.partialText? runId
        let (aborted, g) := g.abortChatRunById now runId sessionKey (some "rpc")
        let snapshots := match partialText with
          | some text => if aborted then [⟨runId, active.sessionId, text, .rpc⟩] else []
          | none => []
        (.ok aborted (if aborted then [runId] else []),
          g.persistAbortedPartials sessionKey snapshots)

/-! ## What `chat.send` broadcasts itself -/

/-- `broadcastChatFinal` and `broadcastChatError`: one terminal event under the run's next number,
which is forgotten with it. -/
def broadcastTerminal (runId sessionKey : String) (state : ChatEventState)
    (message : Option ChatEventMessage) (errorMessage : Option String) (g : GatewayChat) :
    GatewayChat :=
  let sent := g.sendChat
    { runId
      sessionKey
      seq := (g.agentRunSeq.get? runId).getD 0 + 1
      state
      message
      stopReason := none
      errorMessage
      errorKind := none } false
  { sent with agentRunSeq := sent.agentRunSeq.delete runId }

def broadcastChatFinal (runId sessionKey : String) (message : Option JsValue) (g : GatewayChat) :
    GatewayChat :=
  g.broadcastTerminal runId sessionKey .final (message.map .stored) none

def broadcastChatError (runId sessionKey errorMessage : String) (g : GatewayChat) : GatewayChat :=
  g.broadcastTerminal runId sessionKey .error none (some errorMessage)

/-! ## Maintenance -/

def dedupeTtlMs : ℤ := 5 * minuteMs
def dedupeMax : ℕ := 1000
def agentRunSeqMax : ℕ := 10000
def abortedRunTtlMs : ℤ := 60 * minuteMs

/-- The loop that deletes the oldest answers.  Its bound is read again before every round. -/
def evictOldest (maxSize : ℕ) : ℕ → List String → OrderedMap String DedupeEntry →
    OrderedMap String DedupeEntry
  | _, [], dedupe => dedupe
  | i, key :: keys, dedupe =>
    if i < dedupe.size - maxSize then evictOldest maxSize (i + 1) keys (dedupe.delete key) else
      dedupe

/-- The keys of the answers, oldest first. -/
def keysByAge (dedupe : OrderedMap String DedupeEntry) : List String :=
  (dedupe.entries.mergeSort fun a b => a.2.ts ≤ b.2.ts).map (·.1)

def cleanDedupe (now : ℤ) (dedupe : OrderedMap String DedupeEntry) :
    OrderedMap String DedupeEntry :=
  let fresh := dedupe.filter fun _ entry => now - entry.ts ≤ dedupeTtlMs
  evictOldest dedupeMax 0 (keysByAge fresh) fresh

/-- Drops the first numbers that were kept when there are too many. -/
def pruneAgentRunSeq (agentRunSeq : OrderedMap String ℕ) : OrderedMap String ℕ :=
  agentRunSeq.deleteAll (agentRunSeq.keys.take (agentRunSeq.size - agentRunSeqMax))

/-- Aborts the runs whose time is up. -/
def abortExpired (now : ℤ) (g : GatewayChat) : GatewayChat :=
  (g.chatAbortControllers.entries.filter fun e => e.2.expiresAtMs < now).foldl
    (fun g e => (g.abortChatRunById now e.1 e.2.sessionKey (some "timeout")).2) g

/-- Drops the text that runs show, but not the text that it is made of. -/
def dropShownText (runIds : List String) (c : ChatRunState) : ChatRunState :=
  { c with
    buffers := c.buffers.deleteAll runIds
    deltaSentAt := c.deltaSentAt.deleteAll runIds
    deltaLastBroadcastLen := c.deltaLastBroadcastLen.deleteAll runIds }

def dropOldAborted (now : ℤ) (c : ChatRunState) : ChatRunState :=
  let runIds := (c.abortedRuns.filter fun _ abortedAt => abortedRunTtlMs < now - abortedAt).keys
  dropShownText runIds { c with abortedRuns := c.abortedRuns.deleteAll runIds }

/-- Drops the text of runs that went quiet and that nobody can abort any more. -/
def dropQuiet (now : ℤ) (g : GatewayChat) : GatewayChat :=
  let runIds := (g.chatRunState.deltaSentAt.filter fun runId lastSentAt =>
    !g.chatRunState.abortedRuns.has runId && !g.chatAbortControllers.has runId &&
      abortedRunTtlMs < now - lastSentAt).keys
  g.modifyChatRunState (dropShownText runIds)

/-- One round of the maintenance timer. -/
def maintain (now : ℤ) (g : GatewayChat) : GatewayChat :=
  let g := { g with
    dedupe := cleanDedupe now g.dedupe
    agentRunSeq := pruneAgentRunSeq g.agentRunSeq }
  let g := (g.abortExpired now).modifyChatRunState (dropOldAborted now)
  let g := g.dropQuiet now
  let maxAgeMs := AgentEventState.defaultRunContextMaxAgeMs
  { g with agentEvents := g.agentEvents.sweepStaleRunContexts now maxAgeMs }

end GatewayChat

end Vertx
