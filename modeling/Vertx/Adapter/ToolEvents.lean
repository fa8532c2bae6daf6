import Vertx.Adapter.Normalize

/-!
# Tool events of the upstream gateway

For every tool event `createAgentEventHandler` sends an agent frame to the connections registered
for the run and, when the run has a session, a `session.tool` frame to the session's subscribers.
Both carry the same payload.  A connection that is registered and subscribed receives both, and the
normaliser makes a `tool.status` event of each.
-/

namespace Vertx

/-- A tool event as `emitAgentEvent` builds it, with the session of its run and the session's
snapshot. -/
structure ToolEvent where
  runId : String
  sessionKey : Option String
  seq : ℕ
  ts : ℤ
  data : List (String × JsValue)
  snapshot : List (String × JsValue)
  /-- `buildSessionEventSnapshot` describes the session only. -/
  snapshot_keys : ∀ key ∈ ["runId", "stream", "data", "sessionKey", "ts"],
    key ∉ snapshot.map (·.1)

namespace ToolEvent

/-- The payload of both frames.  Without its result, when the verbosity leaves that out, it is the
payload of an event whose data has no result. -/
def payload (e : ToolEvent) : JsValue :=
  .obj (JsValue.merge [
    ("runId", .str e.runId),
    ("stream", .str "tool"),
    ("data", .obj e.data),
    ("sessionKey", (e.sessionKey.map .str).getD .undefined),
    ("seq", .num (.ofNat e.seq)),
    ("ts", .num (.finite e.ts))] e.snapshot)

/-- The frame for the connections registered for the run.  Targeted frames have no number. -/
def agentFrame (e : ToolEvent) : OpenClawEventFrame where
  event := .str "agent"
  seq := .undefined
  stateVersion := .undefined
  payload := e.payload

/-- The frame for the subscribers of the session. -/
def sessionFrame (e : ToolEvent) : OpenClawEventFrame where
  event := .str "session.tool"
  seq := .undefined
  stateVersion := .undefined
  payload := e.payload

/-- The session of the run. -/
def session (e : ToolEvent) : Option String := e.sessionKey.filter (· ≠ "")

/-- The frames that a connection receives which is registered for the run and subscribed. -/
def frames (e : ToolEvent) : List OpenClawEventFrame :=
  e.agentFrame :: if e.session.isSome then [e.sessionFrame] else []

def toolCallId (e : ToolEvent) : Option String :=
  ((JsValue.obj e.data).stringAt "toolCallId").filter (· ≠ "")

def phase (e : ToolEvent) : String := ((JsValue.obj e.data).stringAt "phase").getD "result"

def output (e : ToolEvent) : JsValue :=
  if e.phase = "update" then stringifyToolOutput (JsValue.lookup "partialResult" e.data)
  else if e.phase = "error" then
    stringifyToolOutput ((JsValue.lookup "error" e.data).orElse (JsValue.lookup "result" e.data))
  else
    stringifyToolOutput ((JsValue.lookup "result" e.data).orElse (JsValue.lookup "output" e.data))

/-- The `tool.status` payload of an event. -/
def status (clock : Clock) (e : ToolEvent) (sessionKey toolCallId : String) :
    List (String × JsValue) := [
  ("runId", .str e.runId),
  ("sessionKey", .str sessionKey),
  ("toolCallId", .str toolCallId),
  ("name", .str (((JsValue.obj e.data).stringAt "name").getD "tool")),
  ("args", JsValue.lookup "args" e.data),
  ("output", e.output),
  ("phase", .str (mapToolPhase e.phase).text),
  ("startedAt", .str (isoOfMillis e.ts)),
  ("updatedAt", .str (isoNow clock 1))]

/-- The time of the event is within the range of dates. -/
def InTime (e : ToolEvent) : Prop := |e.ts| ≤ maxDateMillis

instance (e : ToolEvent) : Decidable e.InTime := inferInstanceAs (Decidable (_ ≤ _))

variable {e : ToolEvent}

theorem field_payload (e : ToolEvent) {key : String}
    (hkey : key ∈ ["runId", "stream", "data", "sessionKey", "ts"]) :
    e.payload.field key = JsValue.lookup key [
      ("runId", .str e.runId),
      ("stream", .str "tool"),
      ("data", .obj e.data),
      ("sessionKey", (e.sessionKey.map .str).getD .undefined),
      ("seq", .num (.ofNat e.seq)),
      ("ts", .num (.finite e.ts))] :=
  JsValue.lookup_merge_of_notMem (e.snapshot_keys key hkey)

theorem timeClip_int (ts : ℤ) :
    timeClip (.finite ts) = if |ts| ≤ maxDateMillis then some ts else none := by
  have habs : |(ts : ℚ)| ≤ maxDateMillis ↔ |ts| ≤ maxDateMillis := by
    rw [← Int.cast_abs]
    exact Int.cast_le
  unfold timeClip
  simp only [habs, Int.floor_intCast, Int.ceil_intCast, ite_self]

theorem toIsoString_ts (clock : Clock) (e : ToolEvent) :
    toIsoString clock 0 (.num (.finite e.ts)) =
      if e.InTime then .ok (isoOfMillis e.ts) else .error .rangeError := by
  show toISOString (.finite e.ts) = _
  rw [toISOString, timeClip_int]
  by_cases htime : |e.ts| ≤ maxDateMillis
  · rw [if_pos htime, if_pos (show e.InTime from htime)]
  · rw [if_neg htime, if_neg (show ¬ e.InTime from htime)]

/-- A tool event is normalised to its status when it names a run, a session and a call, and its time
can be written as a date. -/
theorem normalize_payload (clock : Clock) (e : ToolEvent) :
    normalizeToolStatusPayload clock e.payload =
      match e.toolCallId, e.session with
      | some toolCallId, some sessionKey =>
        if e.runId = "" then .ok none
        else if e.InTime then .ok (some (.obj (e.status clock sessionKey toolCallId)))
        else .error .rangeError
      | _, _ => .ok none := by
  have hdata : e.payload.field "data" = .obj e.data := e.field_payload (by simp)
  have hrun : e.payload.stringAt "runId" = some e.runId := by
    rw [JsValue.stringAt, e.field_payload (by simp)]
    rfl
  have hsession : e.payload.stringAt "sessionKey" = e.sessionKey := by
    rw [JsValue.stringAt, e.field_payload (by simp)]
    cases e.sessionKey <;> rfl
  have hts : e.payload.field "ts" = .num (.finite e.ts) := e.field_payload (by simp)
  have hcall : ((JsValue.obj e.data).stringAt "toolCallId").filter (· ≠ "") = e.toolCallId := rfl
  have hkey : e.sessionKey.filter (· ≠ "") = e.session := rfl
  unfold normalizeToolStatusPayload
  simp only [hdata, JsValue.isObject, if_true, hrun, hsession, hts, toIsoString_ts, hcall, hkey]
  cases e.toolCallId with
  | none => rfl
  | some toolCallId =>
    cases e.session with
    | none => cases Option.filter (· ≠ "") (some e.runId) <;> rfl
    | some sessionKey =>
      by_cases hempty : e.runId = ""
      · simp [hempty]
        rfl
      · have hsome : Option.filter (· ≠ "") (some e.runId) = some e.runId := by
          simp [Option.filter, hempty]
        simp only [hsome, if_neg hempty]
        by_cases htime : e.InTime
        · simp only [if_pos htime]
          rfl
        · simp only [if_neg htime]
          rfl

/-- What the source emits on a frame; an error ends the handling of the frame. -/
def published (clock : Clock) (frame : OpenClawEventFrame) : List RealtimeSourceEvent :=
  (normalizeOpenClawEvent clock frame).toOption.getD []

/-- What the source emits on the frames of a tool event, each handled at its own time. -/
def surfaced (clocks : ℕ → Clock) (e : ToolEvent) : List RealtimeSourceEvent :=
  (e.frames.mapIdx fun k frame => published (clocks k) frame).flatten

/-- The event reaches the gateway's clients. -/
def Surfaces (e : ToolEvent) : Prop :=
  e.toolCallId.isSome ∧ e.session.isSome ∧ e.runId ≠ "" ∧ e.InTime

theorem normalize_of_surfaces (h : e.Surfaces) : ∃ sessionKey toolCallId,
    e.session = some sessionKey ∧ e.toolCallId = some toolCallId ∧ ∀ clock,
      normalizeToolStatusPayload clock e.payload =
        .ok (some (.obj (e.status clock sessionKey toolCallId))) := by
  obtain ⟨hcall, hsession, hrun, htime⟩ := h
  obtain ⟨toolCallId, hcall⟩ := Option.isSome_iff_exists.1 hcall
  obtain ⟨sessionKey, hsession⟩ := Option.isSome_iff_exists.1 hsession
  refine ⟨sessionKey, toolCallId, hsession, hcall, fun clock => ?_⟩
  rw [normalize_payload, hcall, hsession]
  simp only [if_neg hrun, if_pos htime]

theorem normalize_of_not_surfaces (h : ¬ e.Surfaces) (clock : Clock) :
    (normalizeToolStatusPayload clock e.payload).toOption.join = none := by
  rw [normalize_payload]
  unfold Surfaces at h
  cases hcall : e.toolCallId with
  | none => rfl
  | some toolCallId =>
    cases hsession : e.session with
    | none => rfl
    | some sessionKey =>
      by_cases hrun : e.runId = ""
      · simp only [if_pos hrun]
        rfl
      · have htime : ¬ e.InTime := by simpa [hcall, hsession, hrun] using h
        simp only [if_neg hrun, if_neg htime]
        rfl

theorem published_agentFrame (clock : Clock) (e : ToolEvent) :
    published clock e.agentFrame =
      ((normalizeToolStatusPayload clock e.payload).toOption.join.map
        (e.agentFrame.normalized .toolStatus)).toList := by
  have hstream : e.payload.stringAt "stream" = some "tool" := by
    rw [JsValue.stringAt, e.field_payload (by simp)]
    rfl
  unfold published normalizeOpenClawEvent
  simp only [agentFrame, JsValue.asString?, hstream]
  cases normalizeToolStatusPayload clock e.payload <;> rfl

theorem published_sessionFrame (clock : Clock) (e : ToolEvent) :
    published clock e.sessionFrame =
      ((normalizeToolStatusPayload clock e.payload).toOption.join.map
        (e.sessionFrame.normalized .toolStatus)).toList := by
  have htruthy : e.payload.truthy = true := rfl
  unfold published normalizeOpenClawEvent
  simp only [sessionFrame, JsValue.asString?, htruthy, not_true_eq_false, if_false]
  cases normalizeToolStatusPayload clock e.payload <;> rfl

/-- An event that surfaces does so on both frames. -/
theorem surfaced_of_surfaces (h : e.Surfaces) (clocks : ℕ → Clock) :
    ∃ sessionKey toolCallId, e.surfaced clocks =
      [e.agentFrame.normalized .toolStatus (.obj (e.status (clocks 0) sessionKey toolCallId)),
        e.sessionFrame.normalized .toolStatus
          (.obj (e.status (clocks 1) sessionKey toolCallId))] := by
  obtain ⟨sessionKey, toolCallId, -, -, hnormal⟩ := normalize_of_surfaces h
  refine ⟨sessionKey, toolCallId, ?_⟩
  simp [surfaced, frames, h.2.1, published_agentFrame, published_sessionFrame, hnormal,
    Except.toOption]

theorem surfaced_of_not_surfaces (h : ¬ e.Surfaces) (clocks : ℕ → Clock) :
    e.surfaced clocks = [] := by
  have hnone (clock : Clock) := normalize_of_not_surfaces h clock
  unfold surfaced frames
  split_ifs <;> simp [published_agentFrame, published_sessionFrame, hnone]

end ToolEvent

end Vertx
