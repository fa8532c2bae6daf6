import Vertx.Js.Convert
import Vertx.Js.Date

/-!
# Normalising upstream events

`normalizeOpenClawEvent` turns an event frame of the upstream gateway into the events that the
realtime gateway publishes.  Chat frames are reduced to their text, agent frames become tool or run
events, and kinds that the web client does not know are dropped.
-/

namespace Vertx

/-- The event kinds of the realtime gateway. -/
inductive GatewayEventName
  | chat
  | agent
  | sessionMessage
  | sessionsChanged
  | runStatus
  | toolStatus
  | approvalRequested
  | approvalResolved
  | shutdown
  deriving DecidableEq, Repr

/-- The name as frames spell it. -/
def GatewayEventName.text : GatewayEventName → String
  | chat => "chat"
  | agent => "agent"
  | sessionMessage => "session.message"
  | sessionsChanged => "sessions.changed"
  | runStatus => "run.status"
  | toolStatus => "tool.status"
  | approvalRequested => "approval.requested"
  | approvalResolved => "approval.resolved"
  | shutdown => "shutdown"

/-- An event on its way from a source to the gateway's clients. -/
structure RealtimeSourceEvent where
  event : GatewayEventName
  payload : JsValue
  seq : JsValue
  stateVersion : JsValue
  deriving DecidableEq, Repr

/-- An event frame as it was parsed: any of its fields can be missing or of any type. -/
structure OpenClawEventFrame where
  event : JsValue
  seq : JsValue
  payload : JsValue
  stateVersion : JsValue
  deriving DecidableEq, Repr

/-- A field of an object of unknown shape, when it is a string. -/
def JsValue.stringAt (record : JsValue) (key : String) : Option String :=
  (record.field key).asString?

def normalizeEventName (event : String) : Option GatewayEventName :=
  if event = "chat" then some .chat
  else if event = "session.message" then some .sessionMessage
  else if event = "sessions.changed" then some .sessionsChanged
  else if event = "shutdown" then some .shutdown
  else if event = "exec.approval.requested" ∨ event = "plugin.approval.requested" then
    some .approvalRequested
  else if event = "exec.approval.resolved" ∨ event = "plugin.approval.resolved" then
    some .approvalResolved
  else none

/-- The text of a content block or of a message, when it is a string that is not blank. -/
def blockText (block : JsValue) : Option String := (block.stringAt "text").filter nonBlank

def extractTextParts (value : JsValue) : List String :=
  match value with
  | .str s => if nonBlank s then [s] else []
  | value =>
    match blockText value with
    | some text => [text]
    | none =>
      match value.field "content" with
      | .arr content => content.filterMap blockText
      | _ => []

def extractOpenClawChatPayloadText (payload : JsValue) : JsValue :=
  match extractTextParts (payload.field "message") with
  | [] => .undefined
  | parts => .str (String.intercalate "\n" parts)

def stringifyToolOutput (value : JsValue) : JsValue :=
  match extractTextParts value with
  | [] => if value.isNullish then .undefined else .str (value.pretty 0)
  | parts => .str (String.intercalate "\n" parts)

/-- The time `ts` as an ISO string, or the `k`-th reading of the clock. -/
def toIsoString (clock : Clock) (k : ℕ) (ts : JsValue) : Except JsError String :=
  match ts with
  | .num x => if x.isFinite then toISOString x else .ok (isoNow clock k)
  | _ => .ok (isoNow clock k)

/-- The phases of a tool call. -/
inductive ToolPhase
  | started
  | streaming
  | completed
  | failed
  deriving DecidableEq, Repr

/-- The phase as payloads spell it. -/
def ToolPhase.text : ToolPhase → String
  | started => "started"
  | streaming => "streaming"
  | completed => "completed"
  | failed => "failed"

def mapToolPhase (phase : String) : ToolPhase :=
  if phase = "start" then .started
  else if phase = "update" then .streaming
  else if phase = "error" then .failed
  else .completed

def normalizeToolStatusPayload (clock : Clock) (payload : JsValue) :
    Except JsError (Option JsValue) := do
  let data := if (payload.field "data").isObject then payload.field "data" else payload
  match (data.stringAt "toolCallId").filter (· ≠ ""), (payload.stringAt "runId").filter (· ≠ ""),
      (payload.stringAt "sessionKey").filter (· ≠ "") with
  | some toolCallId, some runId, some sessionKey =>
    let phase := (data.stringAt "phase").getD "result"
    let output :=
      if phase = "update" then stringifyToolOutput (data.field "partialResult")
      else if phase = "error" then
        stringifyToolOutput ((data.field "error").orElse (data.field "result"))
      else stringifyToolOutput ((data.field "result").orElse (data.field "output"))
    let startedAt ← toIsoString clock 0 (payload.field "ts")
    return some (.obj [
      ("runId", .str runId),
      ("sessionKey", .str sessionKey),
      ("toolCallId", .str toolCallId),
      ("name", .str ((data.stringAt "name").getD "tool")),
      ("args", data.field "args"),
      ("output", output),
      ("phase", .str (mapToolPhase phase).text),
      ("startedAt", .str startedAt),
      ("updatedAt", .str (isoNow clock 1))])
  | _, _, _ => return none

def normalizeRunStatusPayload (clock : Clock) (payload : JsValue) : Option JsValue := do
  let phase ← ((payload.field "data").stringAt "phase").or (payload.stringAt "phase")
  let status ←
    if phase = "start" then some "started"
    else if phase = "end" then some "completed"
    else if phase = "error" then some "error"
    else none
  let orNull (key : String) : JsValue := ((payload.stringAt key).map .str).getD .null
  let ts := match payload.field "ts" with
    | .num x => .num x
    | _ => .num (.finite (clock 0))
  return .obj [
    ("runId", orNull "runId"),
    ("sessionKey", orNull "sessionKey"),
    ("status", .str status),
    ("phase", .str phase),
    ("ts", ts)]

/-- A normalised event with the number and version of its frame. -/
def OpenClawEventFrame.normalized (frame : OpenClawEventFrame) (event : GatewayEventName)
    (payload : JsValue) : RealtimeSourceEvent where
  event := event
  payload := payload
  seq := frame.seq
  stateVersion := frame.stateVersion

/-- The kind that an approval event comes from. -/
def approvalKind (event : String) : Option String :=
  if event.startsWith "exec." then some "exec"
  else if event.startsWith "plugin." then some "plugin"
  else none

def normalizeOpenClawEvent (clock : Clock) (frame : OpenClawEventFrame) :
    Except JsError (List RealtimeSourceEvent) :=
  match frame.event.asString? with
  | none => .ok []
  | some "chat" =>
    if ¬ frame.payload.truthy then .ok []
    else
      let message := .obj [("text", extractOpenClawChatPayloadText frame.payload)]
      .ok [frame.normalized .chat (.obj (JsValue.setField "message" message frame.payload.spread))]
  | some "agent" =>
    match frame.payload.stringAt "stream" with
    | some "tool" => do
      let toolPayload ← normalizeToolStatusPayload clock frame.payload
      return (toolPayload.map (frame.normalized .toolStatus)).toList
    | some "lifecycle" =>
      .ok ((normalizeRunStatusPayload clock frame.payload).map (frame.normalized .runStatus)).toList
    | _ => .ok []
  | some "session.tool" =>
    if ¬ frame.payload.truthy then .ok []
    else do
      let toolPayload ← normalizeToolStatusPayload clock frame.payload
      return (toolPayload.map (frame.normalized .toolStatus)).toList
  | some event =>
    match normalizeEventName event with
    | none => .ok []
    | some .approvalRequested => .ok [frame.normalized .approvalRequested (approvalPayload event)]
    | some .approvalResolved => .ok [frame.normalized .approvalResolved (approvalPayload event)]
    | some normalizedEvent => .ok [frame.normalized normalizedEvent frame.payload]
where
  /-- The payload of an approval event, tagged with where it comes from. -/
  approvalPayload (event : String) : JsValue :=
    let fields := if frame.payload.isObject then frame.payload.spread else []
    match approvalKind event with
    | some kind => .obj (JsValue.setField "approvalKind" (.str kind) fields)
    | none => .obj fields

/-- At most one event comes of a frame, with the frame's number. -/
theorem normalizeOpenClawEvent_cases {clock : Clock} {frame : OpenClawEventFrame}
    {events : List RealtimeSourceEvent} (h : normalizeOpenClawEvent clock frame = .ok events) :
    events = [] ∨ ∃ event payload, events = [frame.normalized event payload] := by
  have optional {event : GatewayEventName} (payload? : Option JsValue)
      (he : (payload?.map (frame.normalized event)).toList = events) :
      events = [] ∨ ∃ event payload, events = [frame.normalized event payload] := by
    subst he
    cases payload? with
    | none => exact .inl rfl
    | some payload => exact .inr ⟨event, payload, rfl⟩
  have tool (he : (do
      let toolPayload ← normalizeToolStatusPayload clock frame.payload
      return (toolPayload.map (frame.normalized .toolStatus)).toList : Except JsError _) =
        .ok events) : events = [] ∨ ∃ event payload, events = [frame.normalized event payload] := by
    cases hp : normalizeToolStatusPayload clock frame.payload with
    | error e => rw [hp] at he; cases he
    | ok payload? => rw [hp] at he; exact optional payload? (Except.ok.inj he)
  unfold normalizeOpenClawEvent at h
  split at h
  · exact .inl (Except.ok.inj h).symm
  · split_ifs at h
    · exact .inr ⟨_, _, (Except.ok.inj h).symm⟩
    · exact .inl (Except.ok.inj h).symm
  · split at h
    · exact tool h
    · exact optional _ (Except.ok.inj h)
    · exact .inl (Except.ok.inj h).symm
  · split_ifs at h
    · exact tool h
    · exact .inl (Except.ok.inj h).symm
  · split at h
    · exact .inl (Except.ok.inj h).symm
    all_goals exact .inr ⟨_, _, (Except.ok.inj h).symm⟩

end Vertx
