import Vertx.Adapter.Bridge

/-!
# The realtime state of a session page

`realtimeReducer` folds the actions of the page into its state.  Event payloads are JSON of any
shape; reading a field of a payload that is `null` or missing throws, and so does converting an
object with a `toString` property of its own to a string.
-/

namespace Vertx

inductive ConnectionStatus
  | idle
  | connecting
  | connected
  | recovering
  | closed
  | error
  deriving DecidableEq, Repr

inductive ChatRole
  | user
  | assistant
  deriving DecidableEq, Repr

structure ChatMessage where
  id : String
  role : ChatRole
  text : String
  deriving DecidableEq, Repr

structure StreamSegment where
  text : String
  ts : ℤ
  deriving DecidableEq, Repr

structure QueuedTask where
  id : String
  text : String
  createdAt : ℤ
  deriving DecidableEq, Repr

structure PendingApproval where
  id : String
  title : String
  deriving DecidableEq, Repr

/-- The state of a page.  Fields that are copied from payloads hold values of any type. -/
structure RealtimeState where
  chatMessages : List ChatMessage
  chatStream : Option String
  chatStreamSegments : List StreamSegment
  chatStreamStartedAt : JsValue
  chatRunId : JsValue
  chatQueue : List QueuedTask
  chatSending : Bool
  chatLoading : Bool
  toolStreamById : List (String × JsValue)
  toolStreamOrder : List JsValue
  chatToolMessages : List JsValue
  pendingApprovals : List PendingApproval
  connectionStatus : ConnectionStatus
  lastSeq : JsValue
  lastHelloSnapshot : JsValue
  lastError : JsValue
  deriving DecidableEq, Repr

/-- A hello frame, as far as the page reads it. -/
structure HelloFrame where
  snapshot : JsValue
  deriving DecidableEq, Repr

inductive RealtimeAction
  | sessionReset
  | connectStart
  | recoverStart (reason : String)
  | connectError (error : JsValue)
  | connectClose
  | hello (frame : HelloFrame)
  | userQueue (text : String)
  | historyLoaded (messages : List ChatMessage)
  | event (frame : EventFrame)
  deriving Repr

def initialRealtimeState : RealtimeState where
  chatMessages := []
  chatStream := none
  chatStreamSegments := []
  chatStreamStartedAt := .null
  chatRunId := .null
  chatQueue := []
  chatSending := false
  chatLoading := false
  toolStreamById := []
  toolStreamOrder := []
  chatToolMessages := []
  pendingApprovals := []
  connectionStatus := .idle
  lastSeq := .null
  lastHelloSnapshot := .null
  lastError := .null

/-- The stream when it has something to show. -/
def shownStream (stream : Option String) : Option String := stream.filter nonBlank

/-! ## Tool cards -/

/-- The prototype of the table of cards.  Assigning a payload under `__proto__` replaces it until
the state is copied again; otherwise it is the empty object. -/
def cardPrototype (key : String) (payload : JsValue) : JsValue :=
  if key = "__proto__" ∧ payload.isObject then payload else .obj []

/-- `toolStreamById[key] = payload`. -/
def setCard (key : String) (payload : JsValue) (cards : List (String × JsValue)) :
    List (String × JsValue) :=
  if key = "__proto__" then cards else JsValue.setField key payload cards

/-- `toolStreamById[key]`. -/
def getCard (proto : JsValue) (cards : List (String × JsValue)) (key : String) : JsValue :=
  if key = "__proto__" then proto else JsValue.lookup key cards

/-- The cards in order, those that are truthy. -/
def syncToolMessages (proto : JsValue) (cards : List (String × JsValue)) (order : List JsValue) :
    Except JsError (List JsValue) := do
  let entries ← order.mapM fun id => return getCard proto cards (← id.toStr)
  return entries.filter (·.truthy)

/-! ## Events -/

def finalizeChatRun (state : RealtimeState) : RealtimeState :=
  { state with
    chatRunId := .null
    chatSending := false
    chatLoading := false
    chatStream := none
    chatStreamStartedAt := .null
    chatQueue := [] }

def applyAgentStream (state : RealtimeState) (payload : JsValue) :
    Except JsError RealtimeState := do
  let runId ← payload.get "runId"
  let stream ← (payload.field "stream").toStr
  return { state with
    chatRunId := runId
    chatStream := some (state.chatStream.getD "" ++ stream)
    chatStreamStartedAt := state.chatStreamStartedAt.orElse (payload.field "ts") }

/-- The stream becomes a segment when there is something to show. -/
def cutStream (clock : Clock) (state : RealtimeState) : RealtimeState :=
  match shownStream state.chatStream with
  | some text =>
    { state with
      chatStreamSegments := state.chatStreamSegments ++ [⟨text, clock 0⟩]
      chatStream := none
      chatStreamStartedAt := .null }
  | none => state

def applyToolStatus (clock : Clock) (state : RealtimeState) (payload : JsValue) :
    Except JsError RealtimeState := do
  let cut := cutStream clock state
  let runId ← payload.get "runId"
  let toolCallId := payload.field "toolCallId"
  let key ← toolCallId.toStr
  let cards := setCard key payload cut.toolStreamById
  let order :=
    if cut.toolStreamOrder.any (JsValue.sameValueZero toolCallId) then cut.toolStreamOrder
    else cut.toolStreamOrder ++ [toolCallId]
  let messages ← syncToolMessages (cardPrototype key payload) cards order
  return { cut with
    chatRunId := runId
    toolStreamById := cards
    toolStreamOrder := order
    chatToolMessages := messages }

/-- The text that a chat payload carries. -/
def chatText (payload : JsValue) : Option String :=
  ((payload.field "message").stringAt "text").filter (· ≠ "")

/-- `chatRunId` as a chat payload gives it. -/
def chatPayloadRunId (payload : JsValue) : JsValue :=
  ((payload.stringAt "runId").map .str).getD .null

/-- The answer of a run, added to the messages. -/
def pushAnswer (clock : Clock) (state : RealtimeState) (payload : JsValue) (text : String) :
    RealtimeState :=
  { state with
    chatStreamSegments := state.chatStreamSegments ++
      ((shownStream state.chatStream).map fun stream => ⟨stream, clock 0⟩).toList
    chatMessages := state.chatMessages ++
      [{ id := (payload.stringAt "runId").getD "assistant" ++ ":" ++ state.chatMessages.length.repr
         role := .assistant
         text := text }] }

def applyChatEvent (clock : Clock) (state : RealtimeState) (payload : JsValue) :
    Except JsError RealtimeState :=
  if payload.isNullish then .error .typeError
  else
    let chatState := payload.stringAt "state"
    if chatState = some "delta" then
      match chatText payload with
      | some text => .ok { state with
          chatRunId := chatPayloadRunId payload
          chatStream := some (state.chatStream.getD "" ++ text)
          chatStreamStartedAt := state.chatStreamStartedAt.orElse (.num (.finite (clock 0))) }
      | none => .ok state
    else
      let answered :=
        match chatText payload with
        | some text =>
          if chatState = some "final" then pushAnswer clock state payload text else state
        | none => state
      if chatState = some "aborted" ∨ chatState = some "error" ∨ chatState = some "final" then
        .ok (finalizeChatRun answered)
      else .ok answered

/-- A payload with a text field is no `null`. -/
theorem not_isNullish_of_stringAt {payload : JsValue} {key text : String}
    (h : payload.stringAt key = some text) : payload.isNullish = false := by
  cases payload with
  | undefined | null => cases h
  | _ => rfl

/-- A delta appends its text to the stream. -/
theorem applyChatEvent_delta {clock : Clock} {state : RealtimeState} {payload : JsValue}
    {text : String} (hstate : payload.stringAt "state" = some "delta")
    (htext : chatText payload = some text) :
    applyChatEvent clock state payload = .ok { state with
      chatRunId := chatPayloadRunId payload
      chatStream := some (state.chatStream.getD "" ++ text)
      chatStreamStartedAt := state.chatStreamStartedAt.orElse (.num (.finite (clock 0))) } := by
  simp only [applyChatEvent, not_isNullish_of_stringAt hstate, hstate, htext, Bool.false_eq_true,
    if_false, if_true]

/-- The status that a `run.status` payload carries. -/
def runStatusText (payload : JsValue) : Option String :=
  (payload.stringAt "status").or (payload.stringAt "phase")

/-- The words for the end of a run. -/
def endedWords : List String := ["completed", "aborted", "failed", "error"]

def applyRunStatus (state : RealtimeState) (payload : JsValue) : Except JsError RealtimeState :=
  if payload.isNullish then .error .typeError
  else
    match runStatusText payload with
    | some status => if status ∈ endedWords then .ok (finalizeChatRun state) else .ok state
    | none => .ok state

def applyApprovalRequested (state : RealtimeState) (payload : JsValue) :
    Except JsError RealtimeState :=
  if payload.isNullish then .error .typeError
  else
    let title := ((payload.stringAt "title").or (payload.stringAt "name")).getD "待审批操作"
    match (payload.stringAt "id").filter (· ≠ "") with
    | none => .ok state
    | some id =>
      if state.pendingApprovals.any (·.id = id) then .ok state
      else .ok { state with pendingApprovals := state.pendingApprovals ++ [⟨id, title⟩] }

def applyApprovalResolved (state : RealtimeState) (payload : JsValue) :
    Except JsError RealtimeState :=
  if payload.isNullish then .error .typeError
  else
    match (payload.stringAt "id").filter (· ≠ "") with
    | none => .ok state
    | some id => .ok { state with
        pendingApprovals := state.pendingApprovals.filter (·.id ≠ id) }

/-- What an event frame does to the state, besides its number. -/
def applyEvent (clock : Clock) (state : RealtimeState) (frame : EventFrame) :
    Except JsError RealtimeState :=
  match frame.event with
  | .chat => applyChatEvent clock state frame.payload
  | .agent => applyAgentStream state frame.payload
  | .toolStatus => applyToolStatus clock state frame.payload
  | .runStatus => applyRunStatus state frame.payload
  | .approvalRequested => applyApprovalRequested state frame.payload
  | .approvalResolved => applyApprovalResolved state frame.payload
  | .sessionMessage | .sessionsChanged | .shutdown => .ok state

def realtimeReducer (clock : Clock) (state : RealtimeState) (action : RealtimeAction) :
    Except JsError RealtimeState :=
  match action with
  | .sessionReset => .ok initialRealtimeState
  | .connectStart => .ok { state with connectionStatus := .connecting, lastError := .null }
  | .recoverStart reason => .ok { state with
      connectionStatus := .recovering, lastError := .str reason, chatLoading := true }
  | .connectError error => .ok { state with
      connectionStatus := .error, lastError := error, chatLoading := false }
  | .connectClose => .ok { state with connectionStatus := .closed, chatLoading := false }
  | .hello frame => .ok { state with
      connectionStatus := .connected
      lastHelloSnapshot := frame.snapshot.orElse .null
      chatLoading := false
      lastError := .null }
  | .userQueue text => .ok { state with
      chatMessages := state.chatMessages ++
        [{ id := "user:" ++ state.chatMessages.length.repr, role := .user, text }]
      chatQueue := state.chatQueue ++
        [{ id := "queued:" ++ (JsNumber.finite (clock 0)).toString, text, createdAt := clock 1 }]
      chatSending := true
      chatLoading := true }
  | .historyLoaded messages => .ok { state with
      chatMessages := messages, chatLoading := false, connectionStatus := .connected
      lastError := .null }
  | .event frame => applyEvent clock { state with lastSeq := frame.seq } frame

end Vertx
