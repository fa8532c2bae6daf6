import Vertx.Js.Types
import Vertx.Api

/-!
# The declared types of the state

The states of the model as the JavaScript objects they stand for, and the types that `packages/api`
declares for them.  Where the model keeps a value copied from a request as it came, the object can
fail to have its type; `wellTyped_iff` says that nothing else can go wrong.
-/

namespace Vertx

/-! ## The state as an object -/

/-- An optional string as a property. -/
def optionalText : Option String → JsValue
  | some s => .str s
  | none => .undefined

def WorkflowStatus.text : WorkflowStatus → String
  | draft => "draft"
  | active => "active"
  | paused => "paused"

def SessionStatus.text : SessionStatus → String
  | active => "active"
  | ended => "ended"

def ChannelStatus.text : ChannelStatus → String
  | connected => "connected"
  | offline => "offline"
  | pending => "pending"

def KnowledgeStatus.text : KnowledgeStatus → String
  | ready => "ready"
  | syncing => "syncing"
  | error => "error"

def AuditLevel.text : AuditLevel → String
  | info => "info"
  | warning => "warning"
  | error => "error"

def WorkbenchSummary.toJs (w : WorkbenchSummary) : JsValue := .obj [
  ("pendingApprovals", .num (.ofNat w.pendingApprovals)),
  ("recentRuns", .num (.ofNat w.recentRuns)),
  ("recentSessions", .num (.ofNat w.recentSessions)),
  ("connectedChannels", .num (.ofNat w.connectedChannels))]

def WorkflowSummary.props (w : WorkflowSummary) : List (String × JsValue) := [
  ("id", .str w.id), ("name", .str w.name), ("status", .str w.status.text),
  ("lastRunAt", .str w.lastRunAt)]

def WorkflowDetail.props (w : WorkflowDetail) : List (String × JsValue) :=
  w.toWorkflowSummary.props ++ [("description", optionalText w.description)]

def WorkflowRunSummary.props (r : WorkflowRunSummary) : List (String × JsValue) := [
  ("id", .str r.id), ("workflowId", .str r.workflowId), ("title", .str r.title),
  ("status", .str r.status.text), ("startedAt", .str r.startedAt)]

def WorkflowRunDetail.props (r : WorkflowRunDetail) : List (String × JsValue) :=
  r.toWorkflowRunSummary.props ++ [("resultSummary", optionalText r.resultSummary)]

def SessionSummary.props (s : SessionSummary) : List (String × JsValue) := [
  ("id", .str s.id), ("title", .str s.title), ("channelType", .str s.channelType),
  ("status", .str s.status.text), ("updatedAt", .str s.updatedAt)]

def SessionDetail.props (s : SessionDetail) : List (String × JsValue) :=
  s.toSessionSummary.props ++
    [("messageCount", (s.messageCount.map fun n => .num (.ofNat n)).getD .undefined)]

def ChannelConnectionSummary.props (c : ChannelConnectionSummary) : List (String × JsValue) := [
  ("id", .str c.id), ("channelType", .str c.channelType), ("status", .str c.status.text),
  ("lastActiveAt", .str c.lastActiveAt)]

def KnowledgeSourceSummary.props (k : KnowledgeSourceSummary) : List (String × JsValue) := [
  ("id", .str k.id), ("name", .str k.name), ("sourceType", k.sourceType),
  ("status", .str k.status.text), ("updatedAt", .str k.updatedAt),
  ("documentCount", .num (.ofNat k.documentCount))]

def AutomationSummary.props (a : AutomationSummary) : List (String × JsValue) := [
  ("id", .str a.id), ("name", .str a.name), ("triggerType", a.triggerType),
  ("status", .str a.status.text), ("lastRunAt", optionalText a.lastRunAt),
  ("nextRunAt", optionalText a.nextRunAt)]

def AuditEventSummary.props (e : AuditEventSummary) : List (String × JsValue) := [
  ("id", .str e.id), ("action", .str e.action), ("level", .str e.level.text),
  ("happenedAt", .str e.happenedAt)]

/-- The properties of the state object. -/
def ProductApiState.props (state : ProductApiState) : List (String × JsValue) := [
  ("workbench", state.workbench.toJs),
  ("workflows", .arr (state.workflows.map (.obj ·.props))),
  ("workflowDetails", .arr (state.workflowDetails.map (.obj ·.props))),
  ("runs", .arr (state.runs.map (.obj ·.props))),
  ("runDetails", .arr (state.runDetails.map (.obj ·.props))),
  ("sessions", .arr (state.sessions.map (.obj ·.props))),
  ("sessionDetails", .arr (state.sessionDetails.map (.obj ·.props))),
  ("connections", .arr (state.connections.map (.obj ·.props))),
  ("settings", .obj state.settings),
  ("knowledgeSources", .arr (state.knowledgeSources.map (.obj ·.props))),
  ("automations", .arr (state.automations.map (.obj ·.props))),
  ("auditEvents", .arr (state.auditEvents.map (.obj ·.props)))]

/-! ## The declarations -/

namespace TsType

def workbenchSummary : TsType := object [
  ("pendingApprovals", number), ("recentRuns", number), ("recentSessions", number),
  ("connectedChannels", number)]

def workflowSummaryFields : List (String × TsType) := [
  ("id", string), ("name", string), ("status", literals ["draft", "active", "paused"]),
  ("lastRunAt", string)]

def workflowDetailFields : List (String × TsType) :=
  workflowSummaryFields ++ [("description", optional string)]

def workflowRunSummaryFields : List (String × TsType) := [
  ("id", string), ("workflowId", string), ("title", string),
  ("status", literals ["queued", "running", "completed", "failed"]), ("startedAt", string)]

def workflowRunDetailFields : List (String × TsType) :=
  workflowRunSummaryFields ++ [("resultSummary", optional string)]

def sessionSummaryFields : List (String × TsType) := [
  ("id", string), ("title", string), ("channelType", string),
  ("status", literals ["active", "ended"]), ("updatedAt", string)]

def sessionDetailFields : List (String × TsType) :=
  sessionSummaryFields ++ [("messageCount", optional number)]

def channelConnectionSummary : TsType := object [
  ("id", string), ("channelType", string),
  ("status", literals ["connected", "offline", "pending"]), ("lastActiveAt", string)]

def settingsDetailFields : List (String × TsType) := [
  ("defaultModel", string), ("realtimeMode", string), ("workspaceName", string)]

def settingsDetail : TsType := object settingsDetailFields

def sourceType : TsType := literals ["feishu-doc", "web-upload", "faq"]

def knowledgeSourceSummary : TsType := object [
  ("id", string), ("name", string), ("sourceType", sourceType),
  ("status", literals ["ready", "syncing", "error"]), ("updatedAt", string),
  ("documentCount", number)]

def triggerType : TsType := literals ["schedule", "event", "manual"]

def automationSummary : TsType := object [
  ("id", string), ("name", string), ("triggerType", triggerType),
  ("status", literals ["active", "paused"]), ("lastRunAt", optional string),
  ("nextRunAt", optional string)]

def auditEventSummary : TsType := object [
  ("id", string), ("action", string), ("level", literals ["info", "warning", "error"]),
  ("happenedAt", string)]

def productApiStateFields : List (String × TsType) := [
  ("workbench", workbenchSummary),
  ("workflows", array (object workflowSummaryFields)),
  ("workflowDetails", array (object workflowDetailFields)),
  ("runs", array (object workflowRunSummaryFields)),
  ("runDetails", array (object workflowRunDetailFields)),
  ("sessions", array (object sessionSummaryFields)),
  ("sessionDetails", array (object sessionDetailFields)),
  ("connections", array channelConnectionSummary),
  ("settings", settingsDetail),
  ("knowledgeSources", array knowledgeSourceSummary),
  ("automations", array automationSummary),
  ("auditEvents", array auditEventSummary)]

def productApiState : TsType := object productApiStateFields

end TsType

/-- The state has the type that the API declares for it. -/
def WellTyped (state : ProductApiState) : Prop := TsType.productApiState.has (.obj state.props)

instance : DecidablePred WellTyped := fun state =>
  inferInstanceAs (Decidable (TsType.productApiState.has (.obj state.props) = true))

/-! ## What can go wrong -/

section Records

open TsType JsValue

theorem has_workbench (w : WorkbenchSummary) : workbenchSummary.has w.toJs := rfl

theorem has_workflow (w : WorkflowSummary) : (object workflowSummaryFields).has (.obj w.props) := by
  obtain ⟨id, name, status, lastRunAt⟩ := w
  cases status <;> rfl

theorem has_workflowDetail (w : WorkflowDetail) :
    (object workflowDetailFields).has (.obj w.props) := by
  obtain ⟨⟨id, name, status, lastRunAt⟩, description⟩ := w
  cases status <;> cases description <;> rfl

theorem has_run (r : WorkflowRunSummary) :
    (object workflowRunSummaryFields).has (.obj r.props) := by
  obtain ⟨id, workflowId, title, status, startedAt⟩ := r
  cases status <;> rfl

theorem has_runDetail (r : WorkflowRunDetail) :
    (object workflowRunDetailFields).has (.obj r.props) := by
  obtain ⟨⟨id, workflowId, title, status, startedAt⟩, resultSummary⟩ := r
  cases status <;> cases resultSummary <;> rfl

theorem has_session (s : SessionSummary) : (object sessionSummaryFields).has (.obj s.props) := by
  obtain ⟨id, title, channelType, status, updatedAt⟩ := s
  cases status <;> rfl

theorem has_sessionDetail (s : SessionDetail) :
    (object sessionDetailFields).has (.obj s.props) := by
  obtain ⟨⟨id, title, channelType, status, updatedAt⟩, messageCount⟩ := s
  cases status <;> cases messageCount <;> rfl

theorem has_connection (c : ChannelConnectionSummary) :
    channelConnectionSummary.has (.obj c.props) := by
  obtain ⟨id, channelType, status, lastActiveAt⟩ := c
  cases status <;> rfl

theorem has_auditEvent (e : AuditEventSummary) : auditEventSummary.has (.obj e.props) := by
  obtain ⟨id, action, level, happenedAt⟩ := e
  cases level <;> rfl

/-- A knowledge source has its type when its `sourceType` does. -/
theorem has_knowledgeSource (k : KnowledgeSourceSummary) :
    knowledgeSourceSummary.has (.obj k.props) = sourceType.has k.sourceType := by
  obtain ⟨id, name, type, status, updatedAt, documentCount⟩ := k
  have hrest (b : Bool) :
      (true && (true && (true && (b && (true && (true && (true && true))))))) = b := by
    cases b <;> rfl
  cases status <;> exact hrest (sourceType.has type)

/-- An automation has its type when its `triggerType` does. -/
theorem has_automation (a : AutomationSummary) :
    automationSummary.has (.obj a.props) = triggerType.has a.triggerType := by
  obtain ⟨id, name, type, status, lastRunAt, nextRunAt⟩ := a
  have hrest (b : Bool) :
      (true && (true && (true && (b && (true && (true && (true && true))))))) = b := by
    cases b <;> rfl
  cases status <;> cases lastRunAt <;> cases nextRunAt <;> exact hrest (triggerType.has type)

end Records

open TsType in
/-- A state has its type when its settings, the source types and the trigger types have theirs. -/
theorem wellTyped_iff (state : ProductApiState) :
    WellTyped state ↔ settingsDetail.has (.obj state.settings) ∧
      (∀ k ∈ state.knowledgeSources, sourceType.has k.sourceType) ∧
      ∀ a ∈ state.automations, triggerType.has a.triggerType := by
  have hobject : WellTyped state ↔ ∀ field ∈ productApiStateFields,
      field.2.has (JsValue.lookup field.1 state.props) :=
    has_object.trans (and_iff_right fun _ h => h)
  rw [hobject]
  constructor
  · intro h
    have hfield (i : ℕ) {key : String} {type : TsType}
        (hi : productApiStateFields[i]? = some (key, type)) :
        type.has (JsValue.lookup key state.props) := h _ (List.mem_of_getElem? hi)
    refine ⟨hfield 8 rfl, fun k hk => ?_, fun a ha => ?_⟩
    · rw [← has_knowledgeSource]
      exact has_array_map.1 (hfield 9 rfl) k hk
    · rw [← has_automation]
      exact has_array_map.1 (hfield 10 rfl) a ha
  · rintro ⟨hsettings, hknowledge, hautomations⟩ field hf
    simp only [productApiStateFields, List.mem_cons, List.not_mem_nil, or_false] at hf
    rcases hf with rfl | rfl | rfl | rfl | rfl | rfl | rfl | rfl | rfl | rfl | rfl | rfl
    · exact has_workbench _
    · exact has_array_map.2 fun w _ => has_workflow w
    · exact has_array_map.2 fun w _ => has_workflowDetail w
    · exact has_array_map.2 fun r _ => has_run r
    · exact has_array_map.2 fun r _ => has_runDetail r
    · exact has_array_map.2 fun s _ => has_session s
    · exact has_array_map.2 fun s _ => has_sessionDetail s
    · exact has_array_map.2 fun c _ => has_connection c
    · exact hsettings
    · refine has_array_map.2 fun k hk => ?_
      rw [has_knowledgeSource]
      exact hknowledge k hk
    · refine has_array_map.2 fun a ha => ?_
      rw [has_automation]
      exact hautomations a ha
    · exact has_array_map.2 fun e _ => has_auditEvent e

theorem wellTyped_mock : WellTyped createMockProductApiState := by
  decide +kernel

end Vertx
