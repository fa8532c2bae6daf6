import Vertx.Js.Date
import Vertx.Domain.Repository

/-!
# Mirroring realtime events into the repository

`mirrorRealtimeEventToProductApiRepository` writes what a realtime event says about a run, a
session or an approval into the product API's repository.
-/

namespace Vertx

open Repository

/-- The event kinds that are mirrored. -/
inductive MirrorEventName
  | chat
  | sessionMessage
  | sessionsChanged
  | runStatus
  | toolStatus
  | approvalRequested
  | approvalResolved
  deriving DecidableEq, Repr

structure ProductApiMirrorEvent where
  event : MirrorEventName
  payload : JsValue
  deriving DecidableEq, Repr

def buildAuditEvent (clock : Clock) (k : ℕ) (id : ℕ) (action : String) (level : AuditLevel) :
    AuditEventSummary where
  id := "audit-" ++ id.repr
  action := action
  level := level
  happenedAt := isoNow clock k

/-- The first of the fields that is a non-blank string. -/
def stringField (record : JsValue) (keys : List String) : Option String :=
  keys.findSome? fun key =>
    match record.field key with
    | .str s => if nonBlank s then some s else none
    | _ => none

/-- The first of the fields that is a finite number. -/
def numberField (record : JsValue) (keys : List String) : Option JsNumber :=
  keys.findSome? fun key =>
    match record.field key with
    | .num x => if x.isFinite then some x else none
    | _ => none

def isoFromValue (clock : Clock) (k : ℕ) : JsValue → Except JsError String
  | .str s => if nonBlank s then .ok s else .ok (isoNow clock k)
  | .num x => if x.isFinite then toISOString x else .ok (isoNow clock k)
  | _ => .ok (isoNow clock k)

def toRunStatus (value : JsValue) : RunStatus :=
  if value = .str "queued" then .queued
  else if value = .str "completed" ∨ value = .str "final" then .completed
  else if value = .str "failed" ∨ value = .str "error" ∨ value = .str "aborted" then .failed
  else .running

def sessionIdFromPayload (payload : JsValue) : Option String :=
  stringField payload ["sessionKey", "sessionId", "id", "key"]

def approvalIdFromPayload (payload : JsValue) : Option String :=
  stringField payload ["approvalId", "id", "toolCallId", "requestId"]

/-- An optional string as a JavaScript value. -/
def JsValue.ofString? : Option String → JsValue
  | some s => .str s
  | none => .undefined

/-- An optional number as a JavaScript value. -/
def JsValue.ofNumber? : Option JsNumber → JsValue
  | some x => .num x
  | none => .undefined

/-- What `mirrorRun` is told about a run. -/
structure MirrorRunInput where
  runId : String
  sessionKey : Option String
  status : JsValue
  title : Option String
  ts : JsValue
  resultSummary : Option String

/-- What `mirrorSession` is told about a session. -/
structure MirrorSessionInput where
  sessionId : String
  title : Option String
  channelType : Option String
  status : Option SessionStatus
  updatedAt : JsValue
  incrementMessageCount : Bool

/-- What a `run.status` payload says about run `runId`. -/
def runStatusInput (payload : JsValue) (runId : String) : MirrorRunInput where
  runId := runId
  sessionKey := stringField payload ["sessionKey", "sessionId"]
  status := (payload.field "status").orElse (payload.field "phase")
  title := none
  ts := payload.field "ts"
  resultSummary := none

/-- What a `chat` payload says about run `runId`. -/
def chatRunInput (payload : JsValue) (runId : String) : MirrorRunInput :=
  let state := stringField payload ["state"]
  { runId := runId
    sessionKey := sessionIdFromPayload payload
    status := .ofString? state
    title := none
    ts := .undefined
    resultSummary := if state = some "error" then stringField payload ["errorMessage"] else none }

/-- What a `chat` payload says about session `sessionId`. -/
def chatSessionInput (clock : Clock) (payload : JsValue) (sessionId : String) :
    MirrorSessionInput :=
  let state := stringField payload ["state"]
  { sessionId := sessionId
    title := none
    channelType := none
    status :=
      if state = some "final" ∨ state = some "aborted" ∨ state = some "error" then some .ended
      else some .active
    updatedAt := .str (isoNow clock 1)
    incrementMessageCount := state = some "final" ∨ state = some "error" }

/-- What a `session.message` payload says about session `sessionId`. -/
def sessionMessageInput (payload : JsValue) (sessionId : String) : MirrorSessionInput where
  sessionId := sessionId
  title := none
  channelType := none
  status := none
  updatedAt := (JsValue.ofString? (stringField payload ["updatedAt", "createdAt"])).orElse
    (.ofNumber? (numberField payload ["ts"]))
  incrementMessageCount := true

/-- What a `sessions.changed` payload says about session `sessionId`. -/
def sessionsChangedInput (payload : JsValue) (sessionId : String) : MirrorSessionInput where
  sessionId := sessionId
  title := none
  channelType := none
  status := if payload.field "status" = .str "ended" then some .ended else some .active
  updatedAt := (JsValue.ofString? (stringField payload ["updatedAt"])).orElse
    (.ofNumber? (numberField payload ["ts"]))
  incrementMessageCount := false

/-- What a `tool.status` payload says about run `runId`. -/
def toolStatusInput (payload : JsValue) (runId : String) : MirrorRunInput :=
  let phase := stringField payload ["phase"]
  { runId := runId
    sessionKey := stringField payload ["sessionKey", "sessionId"]
    status :=
      if phase = some "failed" then .str "failed"
      else if phase = some "completed" then .str "running" else .str "running"
    title := stringField payload ["name"]
    ts := .ofString? (stringField payload ["startedAt", "updatedAt"])
    resultSummary := some ("工具 " ++ (stringField payload ["name"]).getD "tool" ++ " 状态：" ++
      phase.getD "unknown") }

/-- The audit action of an approval event. -/
def approvalAction (action : String) (payload : JsValue) : String :=
  action ++ match approvalIdFromPayload payload with
    | some approvalId => "." ++ approvalId
    | none => ""

/-- The record that `mirrorRun` writes. -/
def mirroredRun (clock : Clock) (state : ProductApiState) (input : MirrorRunInput) :
    Except JsError WorkflowRunDetail := do
  let existing := state.getRunDetail input.runId
  let status := toRunStatus input.status
  let startedAt ← match existing with
    | some run => pure run.startedAt
    | none => isoFromValue clock 0 input.ts
  return {
    id := input.runId
    workflowId :=
      ((existing.map (·.workflowId)).or input.sessionKey).getD "openclaw-runtime"
    title := ((existing.map (·.title)).or input.title).getD ("OpenClaw Run " ++ input.runId)
    status := status
    startedAt := startedAt
    resultSummary := some ((input.resultSummary.or (existing.bind (·.resultSummary))).getD
      ("OpenClaw runtime 状态已同步为 " ++ status.text ++ "。")) }

/-- The record that `mirrorSession` writes. -/
def mirroredSession (clock : Clock) (state : ProductApiState) (input : MirrorSessionInput) :
    Except JsError SessionDetail := do
  let existing := state.getSessionDetail input.sessionId
  let updatedAt ← isoFromValue clock 2 input.updatedAt
  return {
    id := input.sessionId
    title := ((existing.map (·.title)).or input.title).getD ("OpenClaw Session " ++ input.sessionId)
    channelType := ((existing.map (·.channelType)).or input.channelType).getD "openclaw"
    status := (input.status.or (existing.map (·.status))).getD .active
    updatedAt := updatedAt
    messageCount := some ((existing.bind (·.messageCount)).getD 0 +
      if input.incrementMessageCount then 1 else 0) }

section

variable {δ : Type} [Persist δ]

def mirrorRun (clock : Clock) (input : MirrorRunInput) : RepoM δ WorkflowRunDetail := do
  let run ← JsM.ofExcept (← read (mirroredRun clock · input))
  mutate (·.upsertRun run)
  return run

def mirrorSession (clock : Clock) (input : MirrorSessionInput) : RepoM δ SessionDetail := do
  let session ← JsM.ofExcept (← read (mirroredSession clock · input))
  mutate (·.upsertSession session)
  return session

/-- Adds an audit entry numbered by the length of the list. -/
def mirrorAudit (clock : Clock) (action : String) (level : AuditLevel) : RepoM δ Unit := do
  let length ← read (·.auditEvents.length)
  mutate (·.prependAuditEvent (buildAuditEvent clock 1 (length + 1) action level))

def mirrorApprovalRequest (clock : Clock) (payload : JsValue) : RepoM δ Unit := do
  let workbench ← read (·.workbench)
  mutate (·.setWorkbenchState
    { workbench with pendingApprovals := workbench.pendingApprovals + 1 })
  mirrorAudit clock (approvalAction "runtime.approval.requested" payload) .warning

def mirrorApprovalResolved (clock : Clock) (payload : JsValue) : RepoM δ Unit := do
  let workbench ← read (·.workbench)
  mutate (·.setWorkbenchState
    { workbench with pendingApprovals := workbench.pendingApprovals - 1 })
  mirrorAudit clock (approvalAction "runtime.approval.resolved" payload) .info

def mirrorRunStatus (clock : Clock) (payload : JsValue) : RepoM δ Unit := do
  match stringField payload ["runId", "id"] with
  | none => return
  | some runId =>
    let run ← mirrorRun clock (runStatusInput payload runId)
    mirrorAudit clock ("runtime.run." ++ run.status.text) .info

def mirrorChat (clock : Clock) (payload : JsValue) : RepoM δ Unit := do
  if let some runId := stringField payload ["runId"] then
    let _ ← mirrorRun clock (chatRunInput payload runId)
  if let some sessionId := sessionIdFromPayload payload then
    let _ ← mirrorSession clock (chatSessionInput clock payload sessionId)

def mirrorSessionMessage (clock : Clock) (payload : JsValue) : RepoM δ Unit := do
  match sessionIdFromPayload payload with
  | none => return
  | some sessionId => let _ ← mirrorSession clock (sessionMessageInput payload sessionId)

def mirrorSessionsChanged (clock : Clock) (payload : JsValue) : RepoM δ Unit := do
  match sessionIdFromPayload payload with
  | none => return
  | some sessionId => let _ ← mirrorSession clock (sessionsChangedInput payload sessionId)

def mirrorToolStatus (clock : Clock) (payload : JsValue) : RepoM δ Unit := do
  match stringField payload ["runId"] with
  | none => return
  | some runId =>
    let _ ← mirrorRun clock (toolStatusInput payload runId)
    mirrorAudit clock ("runtime.tool." ++ (stringField payload ["phase"]).getD "unknown") .info

/-- Mirrors one event; a payload that is no object is ignored. -/
def mirrorRealtimeEventToProductApiRepository (clock : Clock) (event : ProductApiMirrorEvent) :
    RepoM δ Unit := do
  if event.payload.isObject then
    match event.event with
    | .runStatus => mirrorRunStatus clock event.payload
    | .chat => mirrorChat clock event.payload
    | .sessionMessage => mirrorSessionMessage clock event.payload
    | .sessionsChanged => mirrorSessionsChanged clock event.payload
    | .toolStatus => mirrorToolStatus clock event.payload
    | .approvalRequested => mirrorApprovalRequest clock event.payload
    | .approvalResolved => mirrorApprovalResolved clock event.payload

end

end Vertx
