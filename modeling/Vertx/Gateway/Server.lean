import Vertx.Adapter.Bridge

/-!
# The gateway server

`createRealtimeGatewayServer` keeps the sockets of its clients, sends every client a hello that may
have to wait for a snapshot, answers request frames and sends published events to every client.
The environment chooses when clients connect, send messages and leave, when providers and handlers
settle and with what, and what `recordAudit` throws.
-/

namespace Vertx

/-- The options, with flags for the functions that may be given. -/
structure RealtimeGatewayOptions where
  workspaceId : String
  serverVersion : Option String
  methods : Option (List String)
  events : Option (List GatewayEventName)
  snapshot : Bool
  requestHandler : Bool
  sourceRequest : Bool
  sourceGetSnapshot : Bool

/-- The context of published events. -/
def RealtimeGatewayOptions.baseContext (options : RealtimeGatewayOptions) : RealtimeBridgeContext :=
  ⟨options.workspaceId, none, none⟩

/-- What `resolveContext` returns; nothing is as good as no fields. -/
structure ResolvedContext where
  workspaceId : Option String
  tenantId : Option String
  userId : Option String

def RealtimeGatewayOptions.resolveClientContext (options : RealtimeGatewayOptions)
    (resolved : ResolvedContext) : RealtimeBridgeContext :=
  ⟨resolved.workspaceId.getD options.workspaceId, resolved.tenantId, resolved.userId⟩

/-! ## Frames -/

structure GatewayHello where
  protocol : ℕ
  serverVersion : String
  methods : List String
  events : List GatewayEventName
  snapshot : JsValue

/-- The error of a response; `error` is what was thrown, of which the message is sent. -/
structure ResponseError where
  code : String
  error : JsError

/-- A frame that the gateway sends. -/
inductive ServerFrame
  | hello (frame : GatewayHello)
  | event (frame : EventFrame)
  | res (id : String) (result : Except ResponseError JsValue)
  | error (code message : String)

/-- The event in an event frame. -/
def ServerFrame.event? : ServerFrame → Option EventFrame
  | event frame => some frame
  | _ => none

def ServerFrame.isHello : ServerFrame → Bool
  | hello _ => true
  | _ => false

def defaultEvents : List GatewayEventName :=
  [.chat, .agent, .sessionMessage, .sessionsChanged, .runStatus, .toolStatus, .approvalRequested,
    .approvalResolved, .shutdown]

/-- `buildHelloFrame` as `sendHello` calls it. -/
def buildHelloFrame (options : RealtimeGatewayOptions) (context : RealtimeBridgeContext)
    (snapshot : JsValue) : GatewayHello where
  protocol := 1
  serverVersion := options.serverVersion.getD "0.1.0"
  methods := options.methods.getD ["chat.send", "chat.history"]
  events := options.events.getD defaultEvents
  snapshot := injectContext (snapshot.orElse (.obj [])) context

def isRequestFrame (value : JsValue) : Bool :=
  value.isObject && value.field "type" = .str "req" && (value.field "id").asString?.isSome &&
    (value.field "method").asString?.isSome

def toResponseError (error : JsError) : ResponseError := ⟨"request_failed", error⟩

/-! ## The state -/

/-- How far `sendHello` has come: it waits for the snapshot provider or for the source's snapshot,
it has sent the hello, or it was rejected. -/
inductive HelloStage
  | snapshot
  | source
  | sent
  | failed
  deriving DecidableEq

/-- A call of `handleRequestFrame` that has reached the handler. -/
structure RequestTask where
  id : String
  method : String
  payload : JsValue
  answered : Bool

/-- A connection since its handler ran: `member` while it is one of `clients`, the frames handed to
its socket, and how many events had been published when the handlers of its connection and of its
close ran. -/
structure GatewayConnection where
  context : RealtimeBridgeContext
  member : Bool
  hello : HelloStage
  tasks : List RequestTask
  sent : List ServerFrame
  joined : ℕ
  left : Option ℕ

/-- The gateway, with the events published so far and the promises left rejected. -/
structure RealtimeGateway where
  adapter : RealtimeBridgeAdapter
  connections : List GatewayConnection
  published : List EventFrame
  unhandled : List JsError

/-- What the `n`-th call of `recordAudit` in a step throws. -/
abbrev Audit := ℕ → Option JsError

/-- A step of the environment, at the `i`-th connection or its `r`-th request. -/
inductive GatewayStep
  | connect (resolved : ResolvedContext) (audit : Audit)
  | snapshot (i : ℕ) (result : Except JsError JsValue) (audit : Audit)
  | sourceSnapshot (i : ℕ) (result : Except JsError JsValue) (audit : Audit)
  | message (i : ℕ) (raw : Option JsValue) (audit : Audit)
  | answer (i r : ℕ) (result : Except JsError JsValue) (audit : Audit)
  | publish (event : RealtimeSourceEvent)
  | close (i : ℕ)

namespace RealtimeGateway

/-- The gateway when it has been created. -/
def initial : RealtimeGateway := ⟨.initial, [], [], []⟩

def modifyConnection (i : ℕ) (f : GatewayConnection → GatewayConnection) (g : RealtimeGateway) :
    RealtimeGateway :=
  { g with connections := g.connections.modify i f }

/-- `socket.send` on the `i`-th connection. -/
def send (i : ℕ) (frame : ServerFrame) : RealtimeGateway → RealtimeGateway :=
  modifyConnection i fun c => { c with sent := c.sent ++ [frame] }

def setHello (i : ℕ) (stage : HelloStage) : RealtimeGateway → RealtimeGateway :=
  modifyConnection i fun c => { c with hello := stage }

/-- A promise that nobody awaits is rejected. -/
def leave (error : Option JsError) (g : RealtimeGateway) : RealtimeGateway :=
  { g with unhandled := g.unhandled ++ error.toList }

/-- The end of `sendHello`, when the snapshot is known. -/
def sendHello (options : RealtimeGatewayOptions) (i : ℕ) (snapshot : JsValue) (audit : Audit)
    (g : RealtimeGateway) : RealtimeGateway :=
  match g.connections[i]? with
  | none => g
  | some c =>
    ((g.send i (.hello (buildHelloFrame options c.context snapshot))).setHello i .sent).leave
      (audit 0)

/-- `sendHello` when the snapshot provider, if any, has given `snapshot`. -/
def continueHello (options : RealtimeGatewayOptions) (i : ℕ) (snapshot : JsValue) (audit : Audit)
    (g : RealtimeGateway) : RealtimeGateway :=
  if snapshot.isNullish ∧ options.sourceGetSnapshot then g.setHello i .source
  else g.sendHello options i snapshot audit

def rejectHello (i : ℕ) (error : JsError) (g : RealtimeGateway) : RealtimeGateway :=
  (g.setHello i .failed).leave (some error)

/-- The connection handler. -/
def connect (options : RealtimeGatewayOptions) (resolved : ResolvedContext) (audit : Audit)
    (g : RealtimeGateway) : RealtimeGateway :=
  let joined := { g with
    connections := g.connections ++
      [⟨options.resolveClientContext resolved, true, .snapshot, [], [], g.published.length, none⟩] }
  if options.snapshot then joined
  else joined.continueHello options g.connections.length .undefined audit

/-- A request frame is handed to the handler or to the source, or refused when there is neither. -/
def handleRequestFrame (options : RealtimeGatewayOptions) (i : ℕ) (id method : String)
    (payload : JsValue) (audit : Audit) (g : RealtimeGateway) : RealtimeGateway :=
  if options.requestHandler ∨ options.sourceRequest then
    g.modifyConnection i fun c => { c with tasks := c.tasks ++ [⟨id, method, payload, false⟩] }
  else
    (g.send i (.res id (.error
      ⟨"method_not_supported", .error ("unsupported method: " ++ method)⟩))).leave (audit 0)

def handleSocketMessage (options : RealtimeGatewayOptions) (i : ℕ) (raw : Option JsValue)
    (audit : Audit) (g : RealtimeGateway) : RealtimeGateway :=
  match raw with
  | none => g.send i (.error "invalid_json" "invalid realtime frame")
  | some parsed =>
    match isRequestFrame parsed, parsed.field "id", parsed.field "method" with
    | true, .str id, .str method =>
      g.handleRequestFrame options i id method (parsed.field "payload") audit
    | _, _, _ => g.send i (.error "invalid_frame" "expected request frame")

/-- The handler of the request `id` settles.  A response that cannot be recorded is followed by
another. -/
def respond (i : ℕ) (id : String) (result : Except JsError JsValue) (audit : Audit)
    (g : RealtimeGateway) : RealtimeGateway :=
  match result with
  | .ok value =>
    let g := g.send i (.res id (.ok value))
    match audit 0 with
    | none => g
    | some e => (g.send i (.res id (.error (toResponseError e)))).leave (audit 1)
  | .error e => (g.send i (.res id (.error (toResponseError e)))).leave (audit 0)

/-- Sends the frame of an event to every client.  What `createEventFrame` or `recordAudit` throws
goes to the caller. -/
def publish (options : RealtimeGatewayOptions) (event : RealtimeSourceEvent) (g : RealtimeGateway) :
    RealtimeGateway :=
  match g.adapter.createEventFrame event options.baseContext with
  | .error _ => g
  | .ok (frame, adapter) =>
    { g with
      adapter := adapter
      published := g.published ++ [frame]
      connections := g.connections.map fun c =>
        if c.member then { c with sent := c.sent ++ [.event frame] } else c }

def step (options : RealtimeGatewayOptions) (g : RealtimeGateway) : GatewayStep → RealtimeGateway
  | .connect resolved audit => g.connect options resolved audit
  | .snapshot i result audit =>
    if g.connections[i]?.any (·.hello = .snapshot) then
      match result with
      | .ok snapshot => g.continueHello options i snapshot audit
      | .error e => g.rejectHello i e
    else g
  | .sourceSnapshot i result audit =>
    if g.connections[i]?.any (·.hello = .source) then
      match result with
      | .ok snapshot => g.sendHello options i snapshot audit
      | .error e => g.rejectHello i e
    else g
  | .message i raw audit =>
    if g.connections[i]?.any (·.member) then g.handleSocketMessage options i raw audit else g
  | .answer i r result audit =>
    match g.connections[i]?.bind (·.tasks[r]?) with
    | none => g
    | some task =>
      if task.answered then g
      else
        (g.modifyConnection i fun c =>
          { c with tasks := c.tasks.modify r fun task => { task with answered := true } }).respond i
          task.id result audit
  | .publish event => g.publish options event
  | .close i =>
    g.modifyConnection i fun c =>
      if c.member then { c with member := false, left := some g.published.length } else c

end RealtimeGateway

end Vertx
