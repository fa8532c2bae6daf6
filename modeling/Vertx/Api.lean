import Vertx.Js.Value

/-!
# The product API's data model

The types of `packages/api` and the mock state.  Three places hold values that the store copies
from a request body without looking at them: the settings, `sourceType` and `triggerType`.  They
are JavaScript values here, so that every body the server can receive is covered.
-/

namespace Vertx

inductive WorkflowStatus
  | draft
  | active
  | paused
  deriving DecidableEq, Repr

inductive RunStatus
  | queued
  | running
  | completed
  | failed
  deriving DecidableEq, Repr

/-- The status as the API spells it. -/
def RunStatus.text : RunStatus → String
  | queued => "queued"
  | running => "running"
  | completed => "completed"
  | failed => "failed"

inductive SessionStatus
  | active
  | ended
  deriving DecidableEq, Repr

inductive ChannelStatus
  | connected
  | offline
  | pending
  deriving DecidableEq, Repr

inductive KnowledgeStatus
  | ready
  | syncing
  | error
  deriving DecidableEq, Repr

inductive AutomationStatus
  | active
  | paused
  deriving DecidableEq, Repr

/-- The status as the API spells it. -/
def AutomationStatus.text : AutomationStatus → String
  | active => "active"
  | paused => "paused"

inductive AuditLevel
  | info
  | warning
  | error
  deriving DecidableEq, Repr

structure WorkbenchSummary where
  pendingApprovals : ℕ
  recentRuns : ℕ
  recentSessions : ℕ
  connectedChannels : ℕ
  deriving DecidableEq, Repr

structure WorkflowSummary where
  id : String
  name : String
  status : WorkflowStatus
  lastRunAt : String
  deriving DecidableEq, Repr

structure WorkflowDetail extends WorkflowSummary where
  description : Option String
  deriving DecidableEq, Repr

structure WorkflowRunSummary where
  id : String
  workflowId : String
  title : String
  status : RunStatus
  startedAt : String
  deriving DecidableEq, Repr

structure WorkflowRunDetail extends WorkflowRunSummary where
  resultSummary : Option String
  deriving DecidableEq, Repr

structure SessionSummary where
  id : String
  title : String
  channelType : String
  status : SessionStatus
  updatedAt : String
  deriving DecidableEq, Repr

structure SessionDetail extends SessionSummary where
  messageCount : Option ℕ
  deriving DecidableEq, Repr

structure ChannelConnectionSummary where
  id : String
  channelType : String
  status : ChannelStatus
  lastActiveAt : String
  deriving DecidableEq, Repr

/-- The settings object: the properties it has, in order. -/
abbrev SettingsDetail := List (String × JsValue)

structure KnowledgeSourceSummary where
  id : String
  name : String
  sourceType : JsValue
  status : KnowledgeStatus
  updatedAt : String
  documentCount : ℕ
  deriving DecidableEq, Repr

structure AutomationSummary where
  id : String
  name : String
  triggerType : JsValue
  status : AutomationStatus
  lastRunAt : Option String
  nextRunAt : Option String
  deriving DecidableEq, Repr

structure AuditEventSummary where
  id : String
  action : String
  level : AuditLevel
  happenedAt : String
  deriving DecidableEq, Repr

structure ProductApiState where
  workbench : WorkbenchSummary
  workflows : List WorkflowSummary
  workflowDetails : List WorkflowDetail
  runs : List WorkflowRunSummary
  runDetails : List WorkflowRunDetail
  sessions : List SessionSummary
  sessionDetails : List SessionDetail
  connections : List ChannelConnectionSummary
  settings : SettingsDetail
  knowledgeSources : List KnowledgeSourceSummary
  automations : List AutomationSummary
  auditEvents : List AuditEventSummary
  deriving DecidableEq, Repr

/-! ## The mock state -/

def mockWorkbench : WorkbenchSummary where
  pendingApprovals := 2
  recentRuns := 12
  recentSessions := 6
  connectedChannels := 1

def mockWorkflows : List WorkflowSummary := [
  { id := "wf-1", name := "飞书日报汇总", status := .active, lastRunAt := "2026-04-20T08:05:00.000Z" },
  { id := "wf-2", name := "巡检提醒", status := .draft, lastRunAt := "2026-04-20T07:35:00.000Z" }]

def mockWorkflowDetails : List WorkflowDetail := [
  { id := "wf-1", name := "飞书日报汇总", status := .active, lastRunAt := "2026-04-20T08:05:00.000Z",
    description := some "聚合飞书入口中的日报内容，生成结构化汇总并同步到工作台。" },
  { id := "wf-2", name := "巡检提醒", status := .draft, lastRunAt := "2026-04-20T07:35:00.000Z",
    description := some "按预设时间触发巡检任务，并将异常项写入审计事件列表。" }]

def mockRuns : List WorkflowRunSummary := [
  { id := "run-1", workflowId := "wf-1", title := "飞书日报汇总", status := .running,
    startedAt := "2026-04-20T08:10:00.000Z" },
  { id := "run-2", workflowId := "wf-2", title := "巡检提醒", status := .failed,
    startedAt := "2026-04-20T07:00:00.000Z" }]

def mockRunDetails : List WorkflowRunDetail := [
  { id := "run-1", workflowId := "wf-1", title := "飞书日报汇总", status := .running,
    startedAt := "2026-04-20T08:10:00.000Z",
    resultSummary := some "等待 OpenClaw runtime 完成流式执行，当前处于工具调用阶段。" },
  { id := "run-2", workflowId := "wf-2", title := "巡检提醒", status := .failed,
    startedAt := "2026-04-20T07:00:00.000Z",
    resultSummary := some "调用外部系统失败，等待人工重试。" }]

def mockSessions : List SessionSummary := [
  { id := "session-1", title := "日报汇总会话", channelType := "feishu", status := .active,
    updatedAt := "2026-04-20T08:12:00.000Z" },
  { id := "session-2", title := "文档总结会话", channelType := "web", status := .ended,
    updatedAt := "2026-04-20T06:45:00.000Z" }]

def mockSessionDetails : List SessionDetail := [
  { id := "session-1", title := "日报汇总会话", channelType := "feishu", status := .active,
    updatedAt := "2026-04-20T08:12:00.000Z", messageCount := some 14 },
  { id := "session-2", title := "文档总结会话", channelType := "web", status := .ended,
    updatedAt := "2026-04-20T06:45:00.000Z", messageCount := some 9 }]

def mockConnections : List ChannelConnectionSummary := [
  { id := "conn-feishu", channelType := "feishu", status := .connected,
    lastActiveAt := "2026-04-20T08:00:00.000Z" },
  { id := "conn-wecom", channelType := "wecom", status := .offline,
    lastActiveAt := "2026-04-19T12:00:00.000Z" }]

def mockSettings : SettingsDetail := [
  ("defaultModel", .str "gpt-5.2"),
  ("realtimeMode", .str "proxy-openclaw-events"),
  ("workspaceName", .str "Vertx Workspace")]

def mockKnowledgeSources : List KnowledgeSourceSummary := [
  { id := "knowledge-1", name := "飞书销售知识库", sourceType := .str "feishu-doc", status := .ready,
    updatedAt := "2026-04-20T08:20:00.000Z", documentCount := 24 },
  { id := "knowledge-2", name := "FAQ 导入集合", sourceType := .str "faq", status := .syncing,
    updatedAt := "2026-04-20T07:55:00.000Z", documentCount := 8 }]

def mockAutomations : List AutomationSummary := [
  { id := "automation-1", name := "日报汇总定时任务", triggerType := .str "schedule",
    status := .active, lastRunAt := some "2026-04-20T08:00:00.000Z",
    nextRunAt := some "2026-04-21T08:00:00.000Z" },
  { id := "automation-2", name := "知识库增量同步", triggerType := .str "event", status := .paused,
    lastRunAt := some "2026-04-19T18:30:00.000Z", nextRunAt := none }]

def mockAuditEvents : List AuditEventSummary := [
  { id := "audit-1", action := "workflow.run.started", level := .info,
    happenedAt := "2026-04-20T08:10:00.000Z" },
  { id := "audit-2", action := "approval.requested", level := .warning,
    happenedAt := "2026-04-20T08:13:00.000Z" }]

def createMockProductApiState : ProductApiState where
  workbench := mockWorkbench
  workflows := mockWorkflows
  workflowDetails := mockWorkflowDetails
  runs := mockRuns
  runDetails := mockRunDetails
  sessions := mockSessions
  sessionDetails := mockSessionDetails
  connections := mockConnections
  settings := mockSettings
  knowledgeSources := mockKnowledgeSources
  automations := mockAutomations
  auditEvents := mockAuditEvents

end Vertx
