import Vertx.Domain.Mirror

/-!
# The product API store

`createProductApiStore` closes over a repository and five id counters, which it seeds from the
lengths of the repository's lists.  The operations that change something are programs over the
counters and the repository; an operation that throws keeps the counters it has consumed.
Operations that only read are the fields and lookups of the state.
-/

namespace Vertx

open Repository

/-- The variables a store closes over. -/
structure Store (δ : Type) where
  workflowCounter : ℕ
  runCounter : ℕ
  knowledgeCounter : ℕ
  automationCounter : ℕ
  auditCounter : ℕ
  repository : Repository δ

def createProductApiStore {δ : Type} (repository : Repository δ) : Store δ where
  workflowCounter := repository.state.workflows.length + 1
  runCounter := repository.state.runs.length + 1
  knowledgeCounter := repository.state.knowledgeSources.length + 1
  automationCounter := repository.state.automations.length + 1
  auditCounter := repository.state.auditEvents.length + 1
  repository := repository

/-- A program over a store. -/
abbrev StoreM (δ : Type) := JsM (Store δ)

/-! ## The records that the operations build -/

/-- `input.key?.trim() || fallback`. -/
def trimmedOr (input : JsValue) (key fallback : String) : Except JsError String := do
  match ← input.get key with
  | .undefined | .null => return fallback
  | .str s => return if jsTrim s = "" then fallback else jsTrim s
  | _ => throw .typeError

def newWorkflow (clock : Clock) (id : String) (input : JsValue) :
    Except JsError WorkflowDetail := do
  let name ← trimmedOr input "name" ("未命名流程 " ++ id)
  let description ← trimmedOr input "description" "等待补充流程描述。"
  return {
    id, name, status := .draft, lastRunAt := isoNow clock 0, description := some description }

def newRun (clock : Clock) (id : String) (workflow : WorkflowDetail) : WorkflowRunDetail where
  id := id
  workflowId := workflow.id
  title := workflow.name
  status := .queued
  startedAt := isoNow clock 0
  resultSummary := some "已进入队列，等待 OpenClaw runtime 执行。"

def newKnowledgeSource (clock : Clock) (id : String) (input : JsValue) :
    Except JsError KnowledgeSourceSummary := do
  let name ← trimmedOr input "name" ("未命名知识源 " ++ id)
  let sourceType := (← input.get "sourceType").orElse (.str "web-upload")
  return {
    id, name, sourceType, status := .syncing, updatedAt := isoNow clock 0, documentCount := 0 }

def newAutomation (clock : Clock) (id : String) (input : JsValue) :
    Except JsError AutomationSummary := do
  let triggerType := (← input.get "triggerType").orElse (.str "schedule")
  let name ← trimmedOr input "name" ("未命名自动化 " ++ id)
  return {
    id, name, triggerType, status := .active, lastRunAt := none
    nextRunAt := if triggerType = .str "manual" then none else some (isoNow clock 0) }

def feishuConnection (clock : Clock) (state : ProductApiState) : ChannelConnectionSummary :=
  match state.connections.find? (·.channelType = "feishu") with
  | some existing => { existing with status := .connected, lastActiveAt := isoNow clock 0 }
  | none => {
      id := "conn-feishu", channelType := "feishu", status := .connected
      lastActiveAt := isoNow clock 0 }

def toggledAutomation (clock : Clock) (automation : AutomationSummary) : AutomationSummary :=
  let nextStatus := if automation.status = .active then .paused else .active
  { automation with
    status := nextStatus
    nextRunAt :=
      if nextStatus = .active ∧ automation.triggerType ≠ .str "manual" then some (isoNow clock 0)
      else none }

def triggeredAutomation (clock : Clock) (automation : AutomationSummary) : AutomationSummary :=
  { automation with
    lastRunAt := some (isoNow clock 0)
    nextRunAt :=
      if automation.status = .active ∧ automation.triggerType ≠ .str "manual" then
        some (isoNow clock 1)
      else automation.nextRunAt }

/-! ## The operations -/

namespace Store

variable {δ : Type} [Persist δ] {α : Type}

/-- A program over the repository, run from the store. -/
def onRepository (x : RepoM δ α) : StoreM δ α := fun s =>
  match x.run s.repository with
  | .ok a r => .ok a { s with repository := r }
  | .error e r => .error e { s with repository := r }

def appendAuditEvent (clock : Clock) (action : String) (level : AuditLevel) : StoreM δ Unit := do
  let id ← modifyGet fun s => (s.auditCounter, { s with auditCounter := s.auditCounter + 1 })
  onRepository (mutate (·.prependAuditEvent (buildAuditEvent clock 2 id action level)))

def createRunFromWorkflow (clock : Clock) (workflow : WorkflowDetail) (action : String) :
    StoreM δ WorkflowRunDetail := do
  let counter ← modifyGet fun s => (s.runCounter, { s with runCounter := s.runCounter + 1 })
  let run := newRun clock ("run-" ++ counter.repr) workflow
  onRepository (mutate (·.prependRun run))
  onRepository (mutate (·.updateWorkflowLastRunAt workflow.id run.startedAt))
  appendAuditEvent clock action .info
  return run

def createWorkflow (clock : Clock) (input : JsValue) : StoreM δ WorkflowDetail := do
  let counter ← modifyGet fun s =>
    (s.workflowCounter, { s with workflowCounter := s.workflowCounter + 1 })
  let workflow ← JsM.ofExcept (newWorkflow clock ("wf-" ++ counter.repr) input)
  onRepository (mutate (·.prependWorkflow workflow))
  appendAuditEvent clock "workflow.created" .info
  return workflow

def startWorkflowRun (clock : Clock) (workflowId : String) :
    StoreM δ (Option WorkflowRunDetail) := do
  match ← onRepository (read (·.getWorkflowDetail workflowId)) with
  | none => return none
  | some workflow => return some (← createRunFromWorkflow clock workflow "workflow.run.started")

def retryRun (clock : Clock) (runId : String) : StoreM δ (Option WorkflowRunDetail) := do
  match ← onRepository (read (·.getRunDetail runId)) with
  | none => return none
  | some runDetail =>
    match ← onRepository (read (·.getWorkflowDetail runDetail.workflowId)) with
    | none => return none
    | some workflow => return some (← createRunFromWorkflow clock workflow "workflow.run.retried")

def connectFeishu (clock : Clock) : StoreM δ ChannelConnectionSummary := do
  let connection ← onRepository (read (feishuConnection clock))
  onRepository (mutate (·.upsertConnection connection))
  appendAuditEvent clock "channel_connection.feishu.connected" .info
  return connection

def updateSettings (clock : Clock) (input : JsValue) : StoreM δ SettingsDetail := do
  let settings ← onRepository (read fun state => JsValue.merge state.settings input.spread)
  onRepository (mutate (·.setSettings settings))
  appendAuditEvent clock "settings.updated" .info
  return settings

def createKnowledgeSource (clock : Clock) (input : JsValue) : StoreM δ KnowledgeSourceSummary := do
  let counter ← modifyGet fun s =>
    (s.knowledgeCounter, { s with knowledgeCounter := s.knowledgeCounter + 1 })
  let knowledgeSource ← JsM.ofExcept (newKnowledgeSource clock ("knowledge-" ++ counter.repr) input)
  onRepository (mutate (·.prependKnowledgeSource knowledgeSource))
  appendAuditEvent clock "knowledge_source.created" .info
  return knowledgeSource

def createAutomation (clock : Clock) (input : JsValue) : StoreM δ AutomationSummary := do
  let counter ← modifyGet fun s =>
    (s.automationCounter, { s with automationCounter := s.automationCounter + 1 })
  let automation ← JsM.ofExcept (newAutomation clock ("automation-" ++ counter.repr) input)
  onRepository (mutate (·.prependAutomation automation))
  appendAuditEvent clock "automation.created" .info
  return automation

def toggleAutomation (clock : Clock) (automationId : String) :
    StoreM δ (Option AutomationSummary) := do
  match ← onRepository (read (·.getAutomation automationId)) with
  | none => return none
  | some automation =>
    let nextAutomation := toggledAutomation clock automation
    onRepository (mutate (·.upsertAutomation nextAutomation))
    appendAuditEvent clock ("automation." ++ nextAutomation.status.text) .info
    return some nextAutomation

def runAutomation (clock : Clock) (automationId : String) :
    StoreM δ (Option AutomationSummary) := do
  match ← onRepository (read (·.getAutomation automationId)) with
  | none => return none
  | some automation =>
    let nextAutomation := triggeredAutomation clock automation
    onRepository (mutate (·.upsertAutomation nextAutomation))
    appendAuditEvent clock "automation.run.triggered" .info
    return some nextAutomation

end Store

/-- A call of an operation that can change the state. -/
inductive StoreOp
  | createWorkflow (input : JsValue)
  | startWorkflowRun (workflowId : String)
  | retryRun (runId : String)
  | connectFeishu
  | updateSettings (input : JsValue)
  | createKnowledgeSource (input : JsValue)
  | createAutomation (input : JsValue)
  | toggleAutomation (automationId : String)
  | runAutomation (automationId : String)
  deriving DecidableEq, Repr

/-- Performs a call, leaving its result aside. -/
def StoreOp.perform {δ : Type} [Persist δ] (clock : Clock) : StoreOp → StoreM δ Unit
  | createWorkflow input => do let _ ← Store.createWorkflow clock input
  | startWorkflowRun workflowId => do let _ ← Store.startWorkflowRun clock workflowId
  | retryRun runId => do let _ ← Store.retryRun clock runId
  | connectFeishu => do let _ ← Store.connectFeishu clock
  | updateSettings input => do let _ ← Store.updateSettings clock input
  | createKnowledgeSource input => do let _ ← Store.createKnowledgeSource clock input
  | createAutomation input => do let _ ← Store.createAutomation clock input
  | toggleAutomation automationId => do let _ ← Store.toggleAutomation clock automationId
  | runAutomation automationId => do let _ ← Store.runAutomation clock automationId

end Vertx
