import Vertx.Upstream.Chat

/-!
# The agent event handler

`createAgentEventHandler` turns the events of agent runs into the events that clients and nodes
receive: the texts of assistant events become `chat` deltas, at most one every 150 ms for each run,
and the end of a run its final or error event.  A run that fails may be tried again under the same
id, so that its error waits for a timer that any other event of the run cancels.
-/

namespace Vertx

namespace AgentEventPayload

/-- The phase of a lifecycle event, when it is a string. -/
def lifecyclePhase? (evt : AgentEventPayload) : Option String :=
  if evt.stream = "lifecycle" then (evt.data.field "phase").asString? else none

def lifecycleEvent (evt : AgentEventPayload) : LifecycleEvent :=
  ⟨.num (.finite evt.ts), evt.data⟩

/-- `typeof evt.sessionKey === "string" && evt.sessionKey.trim()`. -/
def eventSessionKey (evt : AgentEventPayload) : Option String := evt.sessionKey.filter nonBlank

/-- The event without a tool's results. -/
def withoutResults (evt : AgentEventPayload) : AgentEventPayload :=
  { evt with
    data := .obj (evt.data.spread.filter fun f => f.1 ≠ "result" ∧ f.1 ≠ "partialResult") }

end AgentEventPayload

/-- The run that clients know an agent run by. -/
structure RunLink where
  chatLink : Option ChatRunEntry
  sessionKey : Option String
  clientRunId : String
  isControlUiVisible : Bool
  isAborted : Bool

/-- The session key unless it is empty. -/
def RunLink.shownKey (link : RunLink) : Option String := link.sessionKey.filter (· ≠ "")

def lifecycleErrorRetryGraceMs : ℤ := 15000

def chatErrorKinds : List String :=
  ["refusal", "timeout", "rate_limit", "context_length", "unknown"]

def readChatErrorKind (value : JsValue) : Option String :=
  value.asString?.filter (· ∈ chatErrorKinds)

/-- `text ?? undefined` in an object that leaves out an empty text. -/
def nonEmpty? (text : Option String) : Option String := text.filter (· ≠ "")

namespace GatewayChat

section

variable (rules : ReplyTextRules) (view : ChatView)

/-! ## Runs and their sessions -/

def isHeartbeatRun (runId sourceRunId : String) (g : GatewayChat) : Bool :=
  let isHeartbeat (runId : String) :=
    ((g.agentEvents.getAgentRunContext runId).bind (·.isHeartbeat)).getD false
  isHeartbeat runId || (sourceRunId ≠ "" && sourceRunId ≠ runId && isHeartbeat sourceRunId)

def shouldHideHeartbeatChatOutput (runId sourceRunId : String) (g : GatewayChat) : Bool :=
  g.isHeartbeatRun runId sourceRunId && view.hideHeartbeat

/-- What the handler finds out about the event's run, with the state it leaves. -/
def linkRun (evt : AgentEventPayload) (g : GatewayChat) : RunLink × GatewayChat :=
  let chatLink := g.chatRunState.registry.peek evt.runId
  let isControlUiVisible :=
    ((g.agentEvents.getAgentRunContext evt.runId).bind (·.isControlUiVisible)).getD true
  let clientRunId := (chatLink.map (·.clientRunId)).getD evt.runId
  let isAborted := g.chatRunState.abortedRuns.has clientRunId ||
    g.chatRunState.abortedRuns.has evt.runId
  match (chatLink.map (·.sessionKey)).or evt.eventSessionKey with
  | some sessionKey => (⟨chatLink, some sessionKey, clientRunId, isControlUiVisible, isAborted⟩, g)
  | none =>
    let (sessionKey, agentEvents, sessionKeyCache) := resolveSessionKeyForRun view.storeSessionKey
      view.now evt.runId g.agentEvents g.sessionKeyCache
    (⟨chatLink, sessionKey, clientRunId, isControlUiVisible, isAborted⟩,
      { g with agentEvents, sessionKeyCache })

def noLifecycle : LifecycleSession :=
  ⟨.undefined, .undefined, .undefined, .undefined, .undefined, .undefined⟩

def buildSessionEventSnapshot (sessionKey : String) (evt : Option AgentEventPayload) :
    SessionEventSnapshot :=
  let row := view.loadGatewaySessionRow sessionKey
  let patch := evt.bind fun evt =>
    deriveGatewaySessionLifecycleSnapshot (row.map (·.lifecycle)) evt.lifecycleEvent
  match row with
  | some row =>
    let session := { row with lifecycle := patch.getD row.lifecycle }
    ⟨some session, session.lifecycle⟩
  | none => ⟨none, patch.getD noLifecycle⟩

/-- `sessions.changed` for the connections that listen to all sessions. -/
def sendSessionsChanged (sessionKey phase : String) (evt : AgentEventPayload) (g : GatewayChat) :
    GatewayChat :=
  let connIds := g.sessionSubscribers.sessionEventSubscribers
  if connIds.size = 0 then g
  else
    g.send (.broadcastToConnIds
      (.sessionsChanged sessionKey phase evt.runId evt.ts
        (buildSessionEventSnapshot view sessionKey (some evt))) connIds true)

/-! ## Chat events -/

def clearBufferedChatState (clientRunId : String) (g : GatewayChat) : GatewayChat :=
  g.modifyChatRunState fun c =>
    { c with
      rawBuffers := c.rawBuffers.delete clientRunId
      buffers := c.buffers.delete clientRunId
      deltaSentAt := c.deltaSentAt.delete clientRunId
      deltaLastBroadcastLen := c.deltaLastBroadcastLen.delete clientRunId }

/-- Broadcasts a delta and remembers when and how long it was. -/
def sendDelta (sessionKey clientRunId : String) (seq : ℕ) (text : String) (g : GatewayChat) :
    GatewayChat :=
  (g.modifyChatRunState fun c =>
    { c with
      deltaSentAt := c.deltaSentAt.set clientRunId view.now
      deltaLastBroadcastLen := c.deltaLastBroadcastLen.set clientRunId (jsLength text) }).sendChat
    { runId := clientRunId
      sessionKey
      seq
      state := .delta
      message := some (.assistant text view.now)
      stopReason := none
      errorMessage := none
      errorKind := none } true

/-- The text that is shown of a run's merged text. -/
def displayText (mergedRawText : String) : String :=
  if rules.startsWithSilentToken mergedRawText then rules.stripLeadingSilentToken mergedRawText
  else mergedRawText

def emitChatDelta (sessionKey clientRunId sourceRunId : String) (seq : ℕ) (text : String)
    (delta : JsValue) (g : GatewayChat) : GatewayChat :=
  let cleanedText := rules.stripInlineDirectiveTagsForDisplay text
  let cleanedDelta := (delta.asString?.map rules.stripInlineDirectiveTagsForDisplay).getD ""
  let previousRawText := (g.chatRunState.rawBuffers.get? clientRunId).getD ""
  let mergedRawText := resolveMergedAssistantText previousRawText cleanedText cleanedDelta
  let setBuffer (buffer : String) := g.modifyChatRunState fun c =>
    { c with
      rawBuffers := c.rawBuffers.set clientRunId mergedRawText
      buffers := c.buffers.set clientRunId buffer }
  let mergedText := displayText rules mergedRawText
  let lastSentAt := (g.chatRunState.deltaSentAt.get? clientRunId).getD 0
  if mergedRawText = "" then g
  else if rules.isSuppressedControlReplyText mergedRawText then setBuffer ""
  else if rules.isSuppressedControlReplyLeadFragment mergedRawText then setBuffer mergedRawText
  else if rules.isSuppressedControlReplyText mergedText then setBuffer mergedText
  else if rules.isSuppressedControlReplyLeadFragment mergedText then setBuffer mergedText
  else if g.shouldHideHeartbeatChatOutput view clientRunId sourceRunId then setBuffer mergedText
  else if view.now - lastSentAt < 150 then setBuffer mergedText
  else (setBuffer mergedText).sendDelta view sessionKey clientRunId seq mergedText

/-- `normalizeHeartbeatChatFinalText`: whether the text is suppressed, and what is left of it. -/
def normalizeHeartbeatChatFinalText (runId sourceRunId text : String) (g : GatewayChat) :
    Bool × String :=
  if !g.shouldHideHeartbeatChatOutput view runId sourceRunId then (false, text)
  else
    let stripped := rules.stripHeartbeatToken view.heartbeatAckMaxChars text
    if !stripped.didStrip then (false, text)
    else if stripped.shouldSkip then (true, "")
    else (false, stripped.text)

/-- `resolveBufferedChatTextState`: the run's text, and whether it is not to be shown. -/
def resolveBufferedChatTextState (clientRunId sourceRunId : String) (g : GatewayChat) :
    String × Bool :=
  let bufferedText := jsTrim (rules.stripInlineDirectiveTagsForDisplay
    ((g.chatRunState.buffers.get? clientRunId).getD ""))
  let (suppress, normalized) :=
    g.normalizeHeartbeatChatFinalText rules view clientRunId sourceRunId bufferedText
  let text := jsTrim normalized
  (text, suppress || rules.isSuppressedControlReplyText text)

def flushBufferedChatDeltaIfNeeded (sessionKey clientRunId sourceRunId : String) (seq : ℕ)
    (g : GatewayChat) : GatewayChat :=
  let (text, shouldSuppressSilent) :=
    g.resolveBufferedChatTextState rules view clientRunId sourceRunId
  if text = "" || shouldSuppressSilent || rules.isSuppressedControlReplyLeadFragment text ||
      g.shouldHideHeartbeatChatOutput view clientRunId sourceRunId then g
  else if jsLength text ≤ (g.chatRunState.deltaLastBroadcastLen.get? clientRunId).getD 0 then g
  else g.sendDelta view sessionKey clientRunId seq text

/-- `emitChatFinal`; without an error the job is done. -/
def emitChatFinal (sessionKey clientRunId sourceRunId : String) (seq : ℕ) (failed : Bool)
    (error : JsValue) (stopReason errorKind : Option String) (g : GatewayChat) : GatewayChat :=
  let (text, shouldSuppressSilent) :=
    g.resolveBufferedChatTextState rules view clientRunId sourceRunId
  let g := g.flushBufferedChatDeltaIfNeeded rules view sessionKey clientRunId sourceRunId seq
  let g := g.clearBufferedChatState clientRunId
  if failed then
    g.sendChat
      { runId := clientRunId
        sessionKey
        seq
        state := .error
        message := none
        stopReason := none
        errorMessage := if error.truthy then some (view.formatForLog error) else none
        errorKind := nonEmpty? errorKind } false
  else
    g.sendChat
      { runId := clientRunId
        sessionKey
        seq
        state := .final
        message :=
          if text ≠ "" && !shouldSuppressSilent then some (.assistant text view.now) else none
        stopReason := nonEmpty? stopReason
        errorMessage := none
        errorKind := none } false

/-! ## The end of a run -/

def clearPendingTerminalLifecycleError (runId : String) (g : GatewayChat) : GatewayChat :=
  { g with pendingTerminalLifecycleErrors := g.pendingTerminalLifecycleErrors.delete runId }

/-- The chat's part of `finalizeLifecycleEvent`. -/
def finishChat (link : RunLink) (sessionKey : String) (failed skipChatErrorFinal : Bool)
    (evt : AgentEventPayload) (g : GatewayChat) : GatewayChat :=
  let stopReason := (evt.data.field "stopReason").asString?
  let errorKind := (readChatErrorKind (evt.data.field "errorKind")).or
    (view.detectErrorKind (evt.data.field "error"))
  if link.isAborted then
    let g := g.modifyChatRunState fun c =>
      { c with abortedRuns := (c.abortedRuns.delete link.clientRunId).delete evt.runId }
    let g := g.clearBufferedChatState link.clientRunId
    if link.chatLink.isSome then
      g.modifyChatRunState fun c =>
        { c with registry := (c.registry.remove evt.runId link.clientRunId link.sessionKey).2 }
    else g
  else
    let g := match link.chatLink with
      | some _ =>
        g.modifyChatRunState fun c => { c with registry := (c.registry.shift evt.runId).2 }
      | none => g
    if skipChatErrorFinal && failed then g
    else
      g.emitChatFinal rules view sessionKey link.clientRunId evt.runId evt.seq failed
        (evt.data.field "error") stopReason errorKind

/-- The end of a run for all but its chat. -/
def forgetRun (clientRunId runId : String) (g : GatewayChat) : GatewayChat :=
  { g with
    toolEventRecipients := g.toolEventRecipients.markFinal view.now runId
    agentEvents := g.agentEvents.clearAgentRunContext runId
    agentRunSeq := (g.agentRunSeq.delete runId).delete clientRunId }

def finalizeLifecycleEvent (evt : AgentEventPayload) (skipChatErrorFinal : Bool) (g : GatewayChat) :
    GatewayChat :=
  match evt.lifecyclePhase? with
  | some phase =>
    if phase = "end" ∨ phase = "error" then
      let g := g.clearPendingTerminalLifecycleError evt.runId
      let (link, g) := g.linkRun view evt
      let g := match link.shownKey with
        | some sessionKey =>
          if link.isControlUiVisible then
            g.finishChat rules view link sessionKey (phase = "error") skipChatErrorFinal evt
          else g
        | none => g
      let g := g.forgetRun view link.clientRunId evt.runId
      match link.shownKey with
      | some sessionKey =>
        (g.send (.persistLifecycle sessionKey evt)).sendSessionsChanged view sessionKey phase evt
      | none => g
    else g
  | none => g

def scheduleTerminalLifecycleError (evt : AgentEventPayload) (skipChatErrorFinal : Bool)
    (g : GatewayChat) : GatewayChat :=
  { g with
    pendingTerminalLifecycleErrors := (g.pendingTerminalLifecycleErrors.delete evt.runId).set
      evt.runId ⟨evt, skipChatErrorFinal, view.now + lifecycleErrorRetryGraceMs⟩ }

/-- The timer of a run's error fires. -/
def firePendingLifecycleError (runId : String) (g : GatewayChat) : GatewayChat :=
  match g.pendingTerminalLifecycleErrors.get? runId with
  | some pending =>
    if pending.dueAt ≤ view.now then
      (g.clearPendingTerminalLifecycleError runId).finalizeLifecycleEvent rules view pending.event
        pending.skipChatErrorFinal
    else g
  | none => g

/-! ## One event -/

def resolveToolVerboseLevel (runId : String) (sessionKey : Option String) (g : GatewayChat) :
    VerboseLevel :=
  match (g.agentEvents.getAgentRunContext runId).bind (·.verboseLevel) with
  | some level => level
  | none =>
    match sessionKey with
    | some key => view.sessionVerboseLevel key
    | none => .off

/-- The event that clients are sent: under the run's id for clients and with its session. -/
def eventForClients (link : RunLink) (evt : AgentEventPayload) : AgentEventPayload :=
  let evt := if link.chatLink.isSome then { evt with runId := link.clientRunId } else evt
  match link.shownKey with
  | some sessionKey => { evt with sessionKey := some sessionKey }
  | none => evt

def checkSeq (link : RunLink) (evt : AgentEventPayload) (g : GatewayChat) : GatewayChat :=
  let last := (g.agentRunSeq.get? evt.runId).getD 0
  let g := if 0 < last ∧ evt.seq ≠ last + 1 then
      g.send (.broadcast (.seqGap link.clientRunId link.sessionKey (last + 1) evt.seq view.now)
        false)
    else g
  { g with agentRunSeq := g.agentRunSeq.set evt.runId evt.seq }

/-- The text is flushed before a tool or an item starts. -/
def flushBefore (phase : Option String) (link : RunLink) (evt : AgentEventPayload)
    (g : GatewayChat) : GatewayChat :=
  match link.shownKey with
  | some sessionKey =>
    if phase = some "start" ∧ link.isControlUiVisible ∧ ¬ link.isAborted then
      g.flushBufferedChatDeltaIfNeeded rules view sessionKey link.clientRunId evt.runId evt.seq
    else g
  | none => g

/-- A tool event for the connections that are registered for its run. -/
def sendToRecipients (snapshot : Option SessionEventSnapshot) (toolPayload evt : AgentEventPayload)
    (g : GatewayChat) : GatewayChat :=
  let (recipients, toolEventRecipients) := g.toolEventRecipients.get view.now evt.runId
  let g := { g with toolEventRecipients }
  match recipients with
  | some connIds =>
    if connIds.size = 0 then g
    else g.send (.broadcastToConnIds (.agent toolPayload snapshot) connIds false)
  | none => g

/-- A tool event for the connections that listen to all sessions. -/
def sendSessionTool (snapshot : Option SessionEventSnapshot) (toolPayload : AgentEventPayload)
    (g : GatewayChat) : GatewayChat :=
  let sessionSubscribers := g.sessionSubscribers.sessionEventSubscribers
  match snapshot with
  | some snapshot =>
    if sessionSubscribers.size = 0 then g
    else g.send (.broadcastToConnIds (.sessionTool toolPayload snapshot) sessionSubscribers true)
  | none => g

def sendToolEvent (link : RunLink) (toolPayload : AgentEventPayload) (evt : AgentEventPayload)
    (g : GatewayChat) : GatewayChat :=
  let snapshot := link.shownKey.map fun key => buildSessionEventSnapshot view key none
  (g.sendToRecipients view snapshot toolPayload evt).sendSessionTool snapshot toolPayload

/-- Nodes receive tool events only when their session is verbose. -/
def sendToNodes (sessionKey : String) (link : RunLink) (toolVerbose : VerboseLevel)
    (toolPayload evt : AgentEventPayload) (g : GatewayChat) : GatewayChat :=
  if evt.stream = "tool" then
    if toolVerbose = .off then g
    else g.send (.nodeSendToSession sessionKey
      (.agent toolPayload (some (buildSessionEventSnapshot view sessionKey none))))
  else g.send (.nodeSendToSession sessionKey (.agent (eventForClients link evt) none))

/-- The text of an assistant event. -/
def showText (sessionKey : String) (link : RunLink) (evt : AgentEventPayload) (g : GatewayChat) :
    GatewayChat :=
  match (evt.data.field "text").asString? with
  | some text =>
    if evt.stream = "assistant" ∧ ¬ link.isAborted then
      g.emitChatDelta rules view sessionKey link.clientRunId evt.runId evt.seq text
        (evt.data.field "delta")
    else g
  | none => g

/-- What an event of a run that clients may see is sent to nodes, and its text. -/
def sendVisible (link : RunLink) (toolVerbose : VerboseLevel) (toolPayload : AgentEventPayload)
    (evt : AgentEventPayload) (g : GatewayChat) : GatewayChat :=
  match link.shownKey with
  | some sessionKey =>
    if link.isControlUiVisible then
      (g.sendToNodes view sessionKey link toolVerbose toolPayload evt).showText rules view
        sessionKey
        link evt
    else g
  | none => g

/-- What a lifecycle event does once it was sent. -/
def followLifecycle (link : RunLink) (evt : AgentEventPayload) (g : GatewayChat) : GatewayChat :=
  match evt.lifecyclePhase? with
  | some "error" =>
    let g := g.clearBufferedChatState link.clientRunId
    let skipChatErrorFinal := g.chatAbortControllers.has evt.runId && link.chatLink.isNone
    if link.isAborted then g.finalizeLifecycleEvent rules view evt skipChatErrorFinal
    else g.scheduleTerminalLifecycleError view evt skipChatErrorFinal
  | some "end" => g.finalizeLifecycleEvent rules view evt false
  | some "start" =>
    match link.shownKey with
    | some sessionKey =>
      (g.send (.persistLifecycle sessionKey evt)).sendSessionsChanged view sessionKey "start" evt
    | none => g
  | _ => g

/-- The verbose level of a tool event. -/
def toolVerbose (link : RunLink) (evt : AgentEventPayload) (g : GatewayChat) : VerboseLevel :=
  if evt.stream = "tool" then g.resolveToolVerboseLevel view evt.runId link.shownKey else .off

/-- The event that the receivers of tool events are sent: with a tool's results only when the level
is `full`. -/
def toolPayload (link : RunLink) (toolVerbose : VerboseLevel) (evt : AgentEventPayload) :
    AgentEventPayload :=
  if evt.stream = "tool" ∧ toolVerbose ≠ .full then (eventForClients link evt).withoutResults
  else eventForClients link evt

/-- The event for the clients, after the text that belongs before it. -/
def announce (link : RunLink) (toolPayload evt : AgentEventPayload) (g : GatewayChat) :
    GatewayChat :=
  let phase := (evt.data.field "phase").asString?
  if evt.stream = "tool" then
    (g.flushBefore rules view phase link evt).sendToolEvent view link toolPayload evt
  else
    let g := if evt.stream = "item" then g.flushBefore rules view phase link evt else g
    g.send (.broadcast (.agent (eventForClients link evt) none) false)

/-- The handler that `createAgentEventHandler` returns. -/
def handleAgentEvent (evt : AgentEventPayload) (g : GatewayChat) : GatewayChat :=
  let g := if evt.lifecyclePhase? = some "error" then g
    else g.clearPendingTerminalLifecycleError evt.runId
  let (link, g) := g.linkRun view evt
  let toolVerbose := g.toolVerbose view link evt
  let toolPayload := toolPayload link toolVerbose evt
  let g := (g.checkSeq view link evt).announce rules view link toolPayload evt
  let g := g.sendVisible rules view link toolVerbose toolPayload evt
  g.followLifecycle rules view link evt

end

end GatewayChat

end Vertx
