import Vertx.Adapter.Bridge
import Vertx.Js.Socket
import Vertx.Lib.Keyed

/-!
# The upstream source

`OpenClawGatewaySource` keeps one WebSocket to the upstream gateway, answers its challenge, matches
its responses to the requests that are pending and hands its events to the listeners.  The model
is a step function: the environment chooses what the socket, the timers and the callers do next.
An `async` function that waits for a connection is an entry of `waiting`, which goes on in a step of
its own.  Delays, and the URL, which the WebSocket constructor accepts, are left out.
-/

namespace Vertx

/-- The values of `randomUUID`: no two are equal, and none contains a colon. -/
structure RandomUuids where
  draw : ℕ → String
  injective : Function.Injective draw
  noColon : ∀ n, ':' ∉ (draw n).toList

/-- A supply of different values without a colon. -/
def RandomUuids.counting : RandomUuids where
  draw := Nat.repr
  injective _ _ := Nat.repr_inj.1
  noColon n h := by
    rw [Nat.toList_repr] at h
    exact absurd (Nat.isDigit_of_mem_toDigits (by decide) (by decide) h) (by decide)

structure OpenClawClientOptions where
  id : Option String
  displayName : Option String
  version : Option String
  platform : Option String
  mode : Option String
  instanceId : Option String

structure OpenClawGatewaySourceOptions where
  token : Option String
  password : Option String
  role : Option String
  scopes : Option (List String)
  caps : Option (List String)
  protocolVersion : Option JsNumber
  autoSubscribeSessions : Option Bool
  client : Option OpenClawClientOptions

/-- The options when only the URL is given. -/
def OpenClawGatewaySourceOptions.default : OpenClawGatewaySourceOptions :=
  ⟨none, none, none, none, none, none, none, none⟩

/-- The parameters of the connect request. -/
def OpenClawGatewaySourceOptions.connectParams (options : OpenClawGatewaySourceOptions) : JsValue :=
  let client (field : OpenClawClientOptions → Option String) (fallback : String) : JsValue :=
    .str ((options.client.bind field).getD fallback)
  let texts (values : Option (List String)) (fallback : List String) : JsValue :=
    .arr ((values.getD fallback).map JsValue.str)
  let protocol : JsValue := .num (options.protocolVersion.getD (.ofNat 3))
  let secret (key : String) (value : Option String) : List (String × JsValue) :=
    ((value.filter (· ≠ "")).map fun text => (key, JsValue.str text)).toList
  let auth := secret "token" options.token ++ secret "password" options.password
  .obj [
    ("minProtocol", protocol),
    ("maxProtocol", protocol),
    ("client", .obj [
      ("id", client (·.id) "gateway-client"),
      ("displayName", client (·.displayName) "Vertx Realtime Bridge"),
      ("version", client (·.version) "0.1.0"),
      ("platform", client (·.platform) "vertx"),
      ("mode", client (·.mode) "backend"),
      ("instanceId", ((options.client.bind (·.instanceId)).map JsValue.str).getD .undefined)]),
    ("role", .str (options.role.getD "operator")),
    ("scopes", texts options.scopes ["operator.read", "operator.write", "operator.approvals"]),
    ("caps", texts options.caps ["tool-events"]),
    ("auth", if auth = [] then .undefined else .obj auth)]

/-! ## The state -/

/-- A WebSocket made by `ensureConnected`: its state, whether it has emitted its error, the messages
on their way to it under upstream's running number (none when the text is no JSON), and the promise
of the call that made it. -/
structure UpstreamConnection where
  readyState : ReadyState
  errored : Bool
  inbox : List (ℕ × Option JsValue)
  promise : Option (Except JsError JsValue)

/-- The message that arrives next, while the socket is open or closing. -/
def UpstreamConnection.next? (c : UpstreamConnection) : Option (ℕ × Option JsValue) :=
  if c.readyState = .open ∨ c.readyState = .closing then c.inbox.head? else none

/-- Who waits for the answer of a request: the handler that sent the connect request of an attempt,
the `n`-th call from outside, or nobody, for `sessions.subscribe`. -/
inductive Waiter
  | connect (attempt : ℕ)
  | call (n : ℕ)
  | subscribeSessions
  deriving DecidableEq, Repr

/-- An entry of the map `pending`, which holds the number of its timer. -/
structure OpenClawPendingRequest where
  id : String
  method : String
  waiter : Waiter
  timer : ℕ

/-- The timer of a request with what its callback refers to. -/
structure RequestTimer where
  number : ℕ
  id : String
  method : String
  waiter : Waiter

/-- What a call of `ensureConnected` waits for. -/
inductive Awaited
  | hello (value : JsValue)
  | attempt (k : ℕ)

/-- The calls that wait for a connection. -/
inductive SourceCall
  | subscription
  | request (n : ℕ) (method : String) (payload : JsValue)
  | getSnapshot (n : ℕ)

/-- A request frame that was sent, and who waits for its answer. -/
structure SentRequest where
  socket : ℕ
  id : String
  method : String
  params : JsValue
  waiter : Waiter

/-- A call of a listener with an event of upstream's message number `message`. -/
structure Emission where
  listener : ℕ
  message : ℕ
  event : RealtimeSourceEvent

/-- The source with its sockets, promises and timers.  The last fields record what has happened:
the calls from outside (a request with its method and payload), their settlements, the frames sent,
the messages that arrived, the events emitted, the promises left rejected, and how many messages
upstream has sent. -/
structure OpenClawGatewaySource where
  connections : List UpstreamConnection
  socket : Option ℕ
  hello : JsValue
  connectPromise : Option ℕ
  stopped : Bool
  connectSent : Bool
  connectRequestId : Option String
  reconnectTimer : Option ℕ
  pending : List OpenClawPendingRequest
  listeners : List ℕ
  reconnectTimers : List ℕ
  requestTimers : List RequestTimer
  timersMade : ℕ
  uuidsDrawn : ℕ
  waiting : List (Awaited × SourceCall)
  calls : List (Option (String × JsValue))
  settled : List (ℕ × Except JsError JsValue)
  sent : List SentRequest
  arrived : List (ℕ × Option JsValue)
  emitted : List Emission
  unhandled : List JsError
  messages : ℕ

/-- A step of the environment: a call, the continuation of the `i`-th waiting call, an event of the
`k`-th socket, a timer, or a message that upstream sends on one socket or on every open one. -/
inductive SourceStep
  | subscribe (listener : ℕ)
  | unsubscribe (listener : ℕ)
  | request (method : String) (payload : JsValue)
  | getSnapshot
  | close
  | resume (i : ℕ)
  | opened (k : ℕ)
  | received (k : ℕ) (clock : Clock) (reaction : ℕ → RealtimeSourceEvent → Option JsError)
  | errored (k : ℕ) (error : JsError)
  | closing (k : ℕ)
  | closed (k : ℕ)
  | reconnect (timer : ℕ)
  | timeout (timer : ℕ)
  | send (k : ℕ) (raw : Option JsValue)
  | broadcast (raw : Option JsValue)

namespace OpenClawGatewaySource

def initial : OpenClawGatewaySource where
  connections := []
  socket := none
  hello := .null
  connectPromise := none
  stopped := false
  connectSent := false
  connectRequestId := none
  reconnectTimer := none
  pending := []
  listeners := []
  reconnectTimers := []
  requestTimers := []
  timersMade := 0
  uuidsDrawn := 0
  waiting := []
  calls := []
  settled := []
  sent := []
  arrived := []
  emitted := []
  unhandled := []
  messages := 0

/-- `this.socket` is open. -/
def isOpen (s : OpenClawGatewaySource) : Bool :=
  (s.socket.bind (s.connections[·]?)).any (·.readyState = .open)

/-- Changes the `k`-th socket. -/
def modifyConnection (k : ℕ) (f : UpstreamConnection → UpstreamConnection)
    (s : OpenClawGatewaySource) : OpenClawGatewaySource :=
  { s with connections := s.connections.modify k f }

/-! ## Connecting and sending -/

/-- Settles the promise of an attempt, unless it is settled. -/
def settleAttempt (k : ℕ) (result : Except JsError JsValue) : OpenClawGatewaySource →
    OpenClawGatewaySource :=
  modifyConnection k fun c => { c with promise := c.promise.or (some result) }

/-- The function `fail` of an attempt. -/
def fail (k : ℕ) (error : JsError) (s : OpenClawGatewaySource) : OpenClawGatewaySource :=
  { s with connectPromise := none }.settleAttempt k (.error error)

/-- No connection can be used and none is being made. -/
def NeedsConnection (s : OpenClawGatewaySource) : Prop :=
  ¬ (s.hello.truthy ∧ s.isOpen) ∧ s.connectPromise = none

instance (s : OpenClawGatewaySource) : Decidable s.NeedsConnection :=
  inferInstanceAs (Decidable (_ ∧ _))

/-- Opens a WebSocket. -/
def startConnecting (s : OpenClawGatewaySource) : OpenClawGatewaySource :=
  { s with
    connections := s.connections ++ [⟨.connecting, false, [], none⟩]
    socket := some s.connections.length
    connectPromise := some s.connections.length
    connectSent := false
    connectRequestId := none
    hello := .null }

/-- Calls `ensureConnected` and lets `call` wait for it. -/
def ensureConnected (call : SourceCall) (s : OpenClawGatewaySource) : OpenClawGatewaySource :=
  if s.hello.truthy ∧ s.isOpen then
    { s with waiting := s.waiting ++ [(.hello s.hello, call)] }
  else
    match s.connectPromise with
    | some k => { s with waiting := s.waiting ++ [(.attempt k, call)] }
    | none =>
      { s.startConnecting with waiting := s.waiting ++ [(.attempt s.connections.length, call)] }

/-- `pending.set`. -/
def setPending (p : OpenClawPendingRequest) (s : OpenClawGatewaySource) : OpenClawGatewaySource :=
  { s with
    pending :=
      if s.pending.any (·.id = p.id) then Keyed.modifyFirst (·.id = p.id) (fun _ => p) s.pending
      else s.pending ++ [p] }

/-- The part of `sendRequest` that registers the request under `id` and sends it. -/
def sendFrame (socket : ℕ) (id method : String) (payload : JsValue) (waiter : Waiter)
    (s : OpenClawGatewaySource) : OpenClawGatewaySource :=
  setPending ⟨id, method, waiter, s.timersMade⟩
    { s with
      requestTimers := s.requestTimers ++ [⟨s.timersMade, id, method, waiter⟩]
      timersMade := s.timersMade + 1
      sent := s.sent ++ [⟨socket, id, method, payload.wire, waiter⟩] }

def sendRequest (uuids : RandomUuids) (method : String) (payload : JsValue)
    (explicitId : Option String) (waiter : Waiter) (s : OpenClawGatewaySource) :
    Except JsError OpenClawGatewaySource :=
  match s.socket with
  | none => .error (.error "openclaw gateway is not connected")
  | some socket =>
    if ¬ s.isOpen then .error (.error "openclaw gateway is not connected")
    else
      match explicitId with
      | some id => .ok (s.sendFrame socket id method payload waiter)
      | none =>
        let id := method ++ ":" ++ uuids.draw s.uuidsDrawn
        .ok ({ s with uuidsDrawn := s.uuidsDrawn + 1 }.sendFrame socket id method payload waiter)

/-- `sendConnectRequest` as the message handler of the `k`-th socket calls it: what it throws, or
the request's failure, fails the attempt. -/
def sendConnectRequest (uuids : RandomUuids) (options : OpenClawGatewaySourceOptions) (k : ℕ)
    (s : OpenClawGatewaySource) : OpenClawGatewaySource :=
  if s.connectSent then s
  else
    let id := "connect:" ++ uuids.draw s.uuidsDrawn
    let s := { s with
      connectSent := true
      connectRequestId := some id
      uuidsDrawn := s.uuidsDrawn + 1 }
    match s.sendRequest uuids "connect" options.connectParams (some id) (.connect k) with
    | .ok s => s
    | .error e => s.fail k e

/-! ## Settling requests -/

/-- A request is answered. -/
def resolve (waiter : Waiter) (value : JsValue) (s : OpenClawGatewaySource) :
    OpenClawGatewaySource :=
  match waiter with
  | .call n => { s with settled := s.settled ++ [(n, .ok value)] }
  | .connect _ | .subscribeSessions => s

/-- A request fails. -/
def reject (waiter : Waiter) (error : JsError) (s : OpenClawGatewaySource) :
    OpenClawGatewaySource :=
  match waiter with
  | .connect k => s.fail k error
  | .call n => { s with settled := s.settled ++ [(n, .error error)] }
  | .subscribeSessions => { s with unhandled := s.unhandled ++ [error] }

/-- The text of the error of a response, which `new Error` converts to a string. -/
def responseError (method : String) (response : JsValue) : Except JsError String :=
  (((response.field "error").field "message").orElse
    (.str ("openclaw request failed: " ++ method))).toStr

/-- The request is no longer pending and its timer is cleared. -/
def takePending (p : OpenClawPendingRequest) (s : OpenClawGatewaySource) : OpenClawGatewaySource :=
  { s with
    requestTimers := s.requestTimers.filter (·.number ≠ p.timer)
    pending := s.pending.filter (·.id ≠ p.id) }

/-- The `void` call of `sendRequest` after the connection is made. -/
def subscribeSessions (uuids : RandomUuids) (s : OpenClawGatewaySource) : OpenClawGatewaySource :=
  match s.sendRequest uuids "sessions.subscribe" (.obj []) none .subscribeSessions with
  | .ok s => s
  | .error e => { s with unhandled := s.unhandled ++ [e] }

/-- The `k`-th socket brings the response, which is not ok, to a request that was pending. -/
def rejectResponse (k : ℕ) (p : OpenClawPendingRequest) (error : JsError)
    (s : OpenClawGatewaySource) : OpenClawGatewaySource :=
  if s.connectRequestId = some p.id then s.fail k error else s.reject p.waiter error

/-- The `k`-th socket brings the ok response to a request that was pending. -/
def acceptResponse (uuids : RandomUuids) (options : OpenClawGatewaySourceOptions) (k : ℕ)
    (p : OpenClawPendingRequest) (payload : JsValue) (s : OpenClawGatewaySource) :
    OpenClawGatewaySource :=
  if s.connectRequestId = some p.id then
    let s := ({ s with hello := payload }.resolve p.waiter payload).settleAttempt k (.ok payload)
    if options.autoSubscribeSessions = some false then s else s.subscribeSessions uuids
  else s.resolve p.waiter payload

/-- The part of `handleMessage` for responses. -/
def handleResponse (uuids : RandomUuids) (options : OpenClawGatewaySourceOptions) (k : ℕ)
    (response : JsValue) : JsM OpenClawGatewaySource Unit := fun s =>
  match s.pending.find? (fun p => response.field "id" = .str p.id) with
  | none => .ok () s
  | some p =>
    if (response.field "ok").truthy then
      .ok () ((s.takePending p).acceptResponse uuids options k p (response.field "payload"))
    else
      match responseError p.method response with
      | .error e => .error e (s.takePending p)
      | .ok message => .ok () ((s.takePending p).rejectResponse k p (.error message))

/-- Calls the listeners in turn; one that throws ends the loop. -/
def emit (message : ℕ) (reaction : ℕ → RealtimeSourceEvent → Option JsError)
    (event : RealtimeSourceEvent) : List ℕ → JsM OpenClawGatewaySource Unit
  | [] => pure ()
  | listener :: rest => do
    modify fun s => { s with emitted := s.emitted ++ [⟨listener, message, event⟩] }
    match reaction listener event with
    | some e => throw e
    | none => emit message reaction event rest

/-- The event frame of a parsed message. -/
def eventFrame (parsed : JsValue) : OpenClawEventFrame where
  event := parsed.field "event"
  seq := parsed.field "seq"
  payload := parsed.field "payload"
  stateVersion := parsed.field "stateVersion"

/-- The message handler of the `k`-th socket. -/
def handleMessage (uuids : RandomUuids) (options : OpenClawGatewaySourceOptions) (k message : ℕ)
    (clock : Clock) (reaction : ℕ → RealtimeSourceEvent → Option JsError) (raw : Option JsValue) :
    JsM OpenClawGatewaySource Unit :=
  match raw with
  | none => pure ()
  | some parsed =>
    if ¬ parsed.isObject then pure ()
    else if parsed.field "type" = .str "event" then
      if parsed.field "event" = .str "connect.challenge" then
        modify (sendConnectRequest uuids options k)
      else do
        let events ← JsM.ofExcept (normalizeOpenClawEvent clock (eventFrame parsed))
        events.forM fun event => do emit message reaction event (← get).listeners
    else if parsed.field "type" = .str "res" then handleResponse uuids options k parsed
    else pure ()

/-! ## The steps -/

/-- A call that waited for a connection goes on with the outcome. -/
def proceed (uuids : RandomUuids) (result : Except JsError JsValue) (call : SourceCall)
    (s : OpenClawGatewaySource) : OpenClawGatewaySource :=
  match call, result with
  | .subscription, .ok _ => s
  | .subscription, .error e => { s with unhandled := s.unhandled ++ [e] }
  | .request n _ _, .error e => { s with settled := s.settled ++ [(n, .error e)] }
  | .request n method payload, .ok _ =>
    match s.sendRequest uuids method payload none (.call n) with
    | .ok s => s
    | .error e => { s with settled := s.settled ++ [(n, .error e)] }
  | .getSnapshot n, result =>
    { s with settled := s.settled ++ [(n, result.bind fun hello => hello.get "snapshot")] }

/-- The outcome that a call waits for, once it is there. -/
def outcome (s : OpenClawGatewaySource) : Awaited → Option (Except JsError JsValue)
  | .hello value => some (.ok value)
  | .attempt k => s.connections[k]?.bind (·.promise)

/-- The callback of a request's timer. -/
def timeout (timer : RequestTimer) (s : OpenClawGatewaySource) : OpenClawGatewaySource :=
  let s := { s with requestTimers := s.requestTimers.filter (·.number ≠ timer.number) }
  if s.pending.any (·.id = timer.id) then
    { s with pending := s.pending.filter (·.id ≠ timer.id) }.reject timer.waiter
      (.error ("openclaw request timed out: " ++ timer.method))
  else s

/-- The close handler of a socket. -/
def handleClose (s : OpenClawGatewaySource) : OpenClawGatewaySource :=
  let s := { s with socket := none, connectPromise := none, hello := .null }
  if s.stopped = false ∧ s.listeners ≠ [] then
    { s with
      reconnectTimer := some s.timersMade
      reconnectTimers := s.reconnectTimers ++ [s.timersMade]
      timersMade := s.timersMade + 1 }
  else s

/-- Clears the timers of all pending requests and rejects them. -/
def rejectPending (s : OpenClawGatewaySource) : OpenClawGatewaySource :=
  s.pending.foldl
    (fun s p =>
      { s with requestTimers := s.requestTimers.filter (·.number ≠ p.timer) }.reject p.waiter
        (.error "openclaw gateway source closed"))
    { s with pending := [] }

def close (s : OpenClawGatewaySource) : OpenClawGatewaySource :=
  let s := { s with
    stopped := true
    reconnectTimers := s.reconnectTimers.filter (some · ≠ s.reconnectTimer)
    reconnectTimer := none }.rejectPending
  match s.socket with
  | none => s
  | some k =>
    { s with socket := none }.modifyConnection k fun c =>
      { c with readyState := c.readyState.afterClose }

/-- Runs a handler that nobody awaits. -/
def runHandler (p : JsM OpenClawGatewaySource Unit) (s : OpenClawGatewaySource) :
    OpenClawGatewaySource :=
  match p.run s with
  | .ok () s => s
  | .error e s => { s with unhandled := s.unhandled ++ [e] }

/-- The next message arrives on the `k`-th socket. -/
def receive (uuids : RandomUuids) (options : OpenClawGatewaySourceOptions) (k : ℕ) (clock : Clock)
    (reaction : ℕ → RealtimeSourceEvent → Option JsError) (s : OpenClawGatewaySource) :
    OpenClawGatewaySource :=
  match s.connections[k]?.bind (·.next?) with
  | none => s
  | some (message, raw) =>
    runHandler (handleMessage uuids options k message clock reaction raw)
      ({ s with arrived := s.arrived ++ [(k, raw)] }.modifyConnection k fun c =>
        { c with inbox := c.inbox.tail })

/-- Upstream sends a message on the open sockets among the recipients. -/
def deliver (recipient : ℕ → Bool) (raw : Option JsValue) (s : OpenClawGatewaySource) :
    OpenClawGatewaySource :=
  { s with
    messages := s.messages + 1
    connections := s.connections.mapIdx fun k c =>
      if recipient k ∧ c.readyState = .open then { c with inbox := c.inbox ++ [(s.messages, raw)] }
      else c }

def step (uuids : RandomUuids) (options : OpenClawGatewaySourceOptions)
    (s : OpenClawGatewaySource) : SourceStep → OpenClawGatewaySource
  | .subscribe listener =>
    ensureConnected .subscription
      { s with
        listeners := if listener ∈ s.listeners then s.listeners else s.listeners ++ [listener] }
  | .unsubscribe listener => { s with listeners := s.listeners.filter (· ≠ listener) }
  | .request method payload =>
    ensureConnected (.request s.calls.length method payload)
      { s with calls := s.calls ++ [some (method, payload)] }
  | .getSnapshot =>
    ensureConnected (.getSnapshot s.calls.length) { s with calls := s.calls ++ [none] }
  | .close => s.close
  | .resume i =>
    match s.waiting[i]? with
    | none => s
    | some (awaited, call) =>
      match s.outcome awaited with
      | none => s
      | some result => { s with waiting := s.waiting.eraseIdx i }.proceed uuids result call
  | .opened k =>
    s.modifyConnection k fun c =>
      if c.readyState = .connecting then { c with readyState := .open } else c
  | .received k clock reaction => s.receive uuids options k clock reaction
  | .errored k error =>
    match s.connections[k]? with
    | none => s
    | some c =>
      if c.readyState = .closed ∨ c.errored then s
      else
        (s.modifyConnection k fun c =>
          { c with readyState := c.readyState.afterClose, errored := true }).fail k error
  | .closing k =>
    s.modifyConnection k fun c =>
      if c.readyState = .open then { c with readyState := .closing } else c
  | .closed k =>
    match s.connections[k]? with
    | none => s
    | some c =>
      if c.readyState = .closed then s
      else (s.modifyConnection k fun c => { c with readyState := .closed }).handleClose
  | .reconnect timer =>
    if timer ∈ s.reconnectTimers then
      ensureConnected .subscription
        { s with
          reconnectTimers := s.reconnectTimers.filter (· ≠ timer)
          reconnectTimer := none }
    else s
  | .timeout number =>
    match s.requestTimers.find? (·.number = number) with
    | none => s
    | some timer => s.timeout timer
  | .send k raw => s.deliver (· = k) raw
  | .broadcast raw => s.deliver (fun _ => true) raw

end OpenClawGatewaySource

end Vertx
