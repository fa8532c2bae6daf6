import Vertx.Web.History
import Vertx.Web.Session

/-!
# A session page and its requests

The status of a session page is set by what the socket of the current client does, but also by
answers and failures of requests, by error frames, by the stop button, by the clients before the
current one and by the mock stream that a failed task falls back to.  `Tells` is said of the steps
that keep the status in step with the connection.
-/

namespace Vertx

/-! ## The page with its requests -/

/-- Who waits for the answer of a request: the `loadHistory` of a gap, that of a frame on the client
in the ref, the one that the hook returns, `submitTask` or `stopTask`. -/
inductive RequestKind
  | gapHistory
  | currentHistory
  | returnedHistory
  | send
  | stop
  deriving DecidableEq, Repr

namespace RequestKind

def isHistory : RequestKind → Bool
  | gapHistory | currentHistory | returnedHistory => true
  | send | stop => false

/-- The hook itself waits for the history, and dispatches how it went. -/
def decides : RequestKind → Bool
  | gapHistory | currentHistory => true
  | returnedHistory | send | stop => false

end RequestKind

/-- An entry of the map `pending` of a client. -/
structure PageRequest where
  client : ℕ
  kind : RequestKind
  deriving DecidableEq, Repr

/-- A session page, the clients that have received their hello and the requests that wait for an
answer, in the order in which they were sent. -/
structure StatusPage where
  session : SessionPage
  greeted : ℕ → Bool
  requests : List PageRequest
  /-- The `state.chatRunId` of the last render, which the rendered stop button holds. -/
  renderedRunId : JsValue

/-- One thing that happens to the page.  A mock frame is an event, whatever it says. -/
inductive StatusStep
  | connection (step : ConnectionStep)
  /-- The socket of a client fails: it emits an error event before its close event. -/
  | failed (j : ℕ)
  | frame (j : ℕ) (clock : Clock) (frame : GatewayFrame)
  /-- The response to the `r`-th request that waits, with its payload or the text of its error. -/
  | answer (r : ℕ) (clock : Clock) (result : Except String JsValue)
  | submitTask (clock : Clock) (text : String)
  | stopTask
  /-- A call of the `loadHistory` that the hook returns. -/
  | loadHistory
  /-- React has rendered the state and commits it. -/
  | commit
  /-- The timer of a mock frame. -/
  | mockFrame (clock : Clock) (frame : EventFrame)

def mockHelloFrame : HelloFrame := ⟨.obj [("workspace", .str "Vertx Workspace")]⟩

namespace StatusPage

def initial : StatusPage := ⟨.initial, fun _ => false, [], .null⟩

def dispatch (clock : Clock) (action : RealtimeAction) (s : StatusPage) : StatusPage :=
  { s with session := s.session.dispatch clock action }

/-- A request that is sent waits for its answer. -/
def addRequest (j : ℕ) (kind : RequestKind) (s : StatusPage) : StatusPage :=
  { s with requests := s.requests ++ [⟨j, kind⟩] }

/-- `client.close()`. -/
def closeClient (j : ℕ) (s : StatusPage) : StatusPage :=
  { s with session := s.session.step (.connection (.close j)) }

/-- The hello of the mock stream, whose other frames come later. -/
def replayMockFrames (s : StatusPage) : StatusPage :=
  s.dispatch (fun _ => 0) (.hello mockHelloFrame)

variable (fallbackToMock : Bool)

/-- What follows when the promise of a request is rejected. -/
def reject (message : String) (s : StatusPage) (request : PageRequest) : StatusPage :=
  match request.kind with
  | .gapHistory =>
    (s.dispatch (fun _ => 0) (.connectError (.str message))).closeClient request.client
  | .currentHistory => s.dispatch (fun _ => 0) (.connectError (.str message))
  | .returnedHistory => s
  | .send =>
    if fallbackToMock then
      (s.dispatch (fun _ => 0)
        (.recoverStart "Gateway 请求失败，已回退到 mock stream。")).replayMockFrames
    else s.dispatch (fun _ => 0) (.connectError (.str message))
  | .stop => s.closeClient request.client

/-- The requests for the history that a frame on the `j`-th client leads to. -/
def frameRequests (j : ℕ) (frame : GatewayFrame) (s : SessionPage) : List PageRequest :=
  match s.connection.clients[j]? with
  | none => []
  | some c =>
    if c.readyState = .open then
      (if (gapReport (s.lastSeqs j) frame).isSome then [⟨j, .gapHistory⟩] else []) ++
        if { s.page with sessionKey := c.sessionKey }.asksHistory frame then
          (s.connection.clientRef.filter (s.isOpen ·)).toList.map (⟨·, .currentHistory⟩)
        else []
    else []

/-- A message event of the `j`-th client's socket. -/
def receive (j : ℕ) (clock : Clock) (frame : GatewayFrame) (s : StatusPage) : StatusPage where
  session := s.session.receive j clock frame
  greeted :=
    match frame with
    | .hello _ => if s.session.isOpen j then Function.update s.greeted j true else s.greeted
    | _ => s.greeted
  requests := s.requests ++ frameRequests j frame s.session
  renderedRunId := s.renderedRunId

/-- The socket of the `j`-th client has not been closed. -/
def isUnclosed (j : ℕ) (s : StatusPage) : Bool :=
  s.session.connection.clients[j]?.any (·.readyState ≠ .closed)

/-- The requests of the `j`-th client in the order in which their failures are heard of: those of
`submitTask` and `stopTask` come first, since a failed history passes through `loadHistory`. -/
def failing (j : ℕ) (requests : List PageRequest) : List PageRequest :=
  let rejected := requests.filter (·.client = j)
  rejected.filter (!·.kind.isHistory) ++ rejected.filter (·.kind.isHistory)

/-- The close event of the `j`-th client's socket, before its requests fail. -/
def closeSocket (j : ℕ) (s : StatusPage) : StatusPage :=
  { s with
    session := s.session.step (.connection (.closed j))
    requests := s.requests.filter (·.client ≠ j) }

/-- The close event of the `j`-th client's socket. -/
def onClosed (j : ℕ) (s : StatusPage) : StatusPage :=
  if s.isUnclosed j then
    (failing j s.requests).foldl
      (reject fallbackToMock "realtime gateway connection closed") (s.closeSocket j)
  else s

/-- The error event and the close event of the `j`-th client's socket. -/
def onFailed (j : ℕ) (s : StatusPage) : StatusPage :=
  if s.isUnclosed j then
    (s.dispatch (fun _ => 0)
      (.connectError (.str "realtime gateway connection failed"))).onClosed fallbackToMock j
  else s

/-- `resolvePending` for the `r`-th request, and what follows. -/
def onAnswer (r : ℕ) (clock : Clock) (result : Except String JsValue) (s : StatusPage) :
    StatusPage :=
  match s.requests[r]? with
  | none => s
  | some request =>
    if s.session.isOpen request.client then
      let s := { s with requests := s.requests.eraseIdx r }
      match result with
      | .ok payload =>
        if request.kind.isHistory then
          s.dispatch clock (.historyLoaded (toHistoryMessages payload))
        else s
      | .error message => s.reject fallbackToMock message request
    else s

def submitTask (clock : Clock) (text : String) (s : StatusPage) : StatusPage :=
  let s := s.dispatch clock (.userQueue text)
  match s.session.connection.clientRef with
  | some j =>
    if s.session.isOpen j then s.addRequest j .send
    else s.reject fallbackToMock "realtime gateway is not connected" ⟨j, .send⟩
  | none => s.reject fallbackToMock "realtime gateway is not connected" ⟨0, .send⟩

/-- The `stopTask` of the last render. -/
def stopTask (s : StatusPage) : StatusPage :=
  match s.session.connection.clientRef with
  | some j =>
    if s.renderedRunId.truthy then
      if s.session.isOpen j then s.addRequest j .stop
      else s.reject fallbackToMock "realtime gateway is not connected" ⟨j, .stop⟩
    else s.dispatch (fun _ => 0) .connectClose
  | none => s.dispatch (fun _ => 0) .connectClose

/-- `loadHistory` as the hook returns it: its caller hears of a failure. -/
def loadHistory (s : StatusPage) : StatusPage :=
  match s.session.connection.clientRef with
  | some j =>
    if s.session.isOpen j then
      { s with session := s.session.sendHistory j s.session.connection.sessionKey }.addRequest j
        .returnedHistory
    else s
  | none => s

/-- What has been rendered before a change of the connection, which is an effect: a page is mounted
with the state it starts with, and the session key changes by a render. -/
def renderedAt (s : StatusPage) : ConnectionStep → JsValue
  | .mount _ => if s.session.connection.mounted then s.renderedRunId else .null
  | .switch key =>
    if s.session.connection.mounted ∧ key ≠ s.session.connection.sessionKey then
      s.session.page.state.chatRunId
    else s.renderedRunId
  | _ => s.renderedRunId

def step (s : StatusPage) : StatusStep → StatusPage
  | .connection (.closed j) => s.onClosed fallbackToMock j
  | .connection step =>
    { s with session := s.session.step (.connection step), renderedRunId := s.renderedAt step }
  | .failed j => s.onFailed fallbackToMock j
  | .frame j clock frame => s.receive j clock frame
  | .answer r clock result => s.onAnswer fallbackToMock r clock result
  | .submitTask clock text => s.submitTask fallbackToMock clock text
  | .stopTask => s.stopTask fallbackToMock
  | .loadHistory => s.loadHistory
  | .commit =>
    { s with session := s.session.step .commit, renderedRunId := s.session.page.state.chatRunId }
  | .mockFrame clock frame => s.dispatch clock (.event frame)

/-! ## What the status should say -/

def status (s : StatusPage) : ConnectionStatus := s.session.page.state.connectionStatus

/-- The page is mounted and its reducer has not thrown. -/
def Live (s : StatusPage) : Prop :=
  s.session.connection.mounted = true ∧ s.session.page.crashed = false

/-- The `j`-th client is in the ref, its socket is open and its hello has been received. -/
def ConnectedBy (j : ℕ) (s : StatusPage) : Prop :=
  s.session.connection.clientRef = some j ∧ s.session.isOpen j = true ∧ s.greeted j = true

/-- The socket of the current client is open and its hello has been received. -/
def Connected (s : StatusPage) : Prop := ∃ j, s.ConnectedBy j

/-- When no history request waits for its answer, the status says whether the page is connected. -/
def Truthful (s : StatusPage) : Prop :=
  s.Live → (∀ request ∈ s.requests, ¬ request.kind.isHistory) →
    (s.status = .connected ↔ s.Connected)

/-! ## Steps that keep the status truthful -/

/-- A history request that the hook itself waits for is among the requests. -/
def Deciding (requests : List PageRequest) : Prop :=
  ∃ request ∈ requests, request.kind.decides = true

instance (requests : List PageRequest) : Decidable (Deciding requests) :=
  inferInstanceAs (Decidable (∃ request ∈ requests, request.kind.decides = true))

/-- The close of the `j`-th client leaves the page on the mock stream: a task was waiting, and no
history whose failure is heard of later. -/
def ShowsMock (j : ℕ) (s : StatusPage) : Prop :=
  fallbackToMock = true ∧ (∃ request ∈ s.requests, request.client = j ∧ request.kind = .send) ∧
    ¬ Deciding (s.requests.filter (·.client = j))

/-- What the answer of a request finds, so that the status says the same as the connection after
it. -/
def AnswerTells (request : PageRequest) (s : StatusPage) : Except String JsValue → Prop
  | .ok _ => request.kind.isHistory = true → s.Connected
  | .error _ =>
    match request.kind with
    | .gapHistory => ¬ ∃ i ≠ request.client, s.ConnectedBy i
    | .currentHistory => ¬ s.Connected
    | .returnedHistory => True
    | .send => fallbackToMock = true ↔ s.Connected
    | .stop => ¬ s.ConnectedBy request.client

/-- The step is none that sets the status to something else than what the connection is after it,
nor one that ends the connection and leaves the status, unless a history request that the hook waits
for is still to decide. -/
def Tells (s : StatusPage) (step : StatusStep) : Prop :=
  s.Live →
    match step with
    | .connection (.close j) => Deciding s.requests ∨ ¬ s.ConnectedBy j
    | .connection (.closed j) | .failed j =>
      s.isUnclosed j → Deciding (s.requests.filter (·.client ≠ j)) ∨
        (s.ShowsMock fallbackToMock j ↔ ∃ i ≠ j, s.ConnectedBy i)
    | .frame j _ (.hello _) =>
      s.session.isOpen j → Deciding s.requests ∨ s.session.connection.clientRef = some j ∨
        s.Connected
    | .frame j _ (.error _) => s.session.isOpen j → Deciding s.requests ∨ ¬ s.Connected
    | .answer r _ result =>
      ∀ request, s.requests[r]? = some request → s.session.isOpen request.client →
        Deciding (s.requests.eraseIdx r) ∨ s.AnswerTells fallbackToMock request result
    | .submitTask _ _ =>
      fallbackToMock = true → Deciding s.requests ∨
        ∃ j, s.session.connection.clientRef = some j ∧ s.session.isOpen j
    | .stopTask =>
      Deciding s.requests ∨ s.renderedRunId.truthy ∨ ¬ s.Connected
    | _ => True

end StatusPage

end Vertx
