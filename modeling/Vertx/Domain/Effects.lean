import Vertx.Domain.Store

/-!
# What the operations do

Every store operation either leaves the repository alone or performs a fixed list of writes
followed by one audit entry; `StoreOp.effect` says which, and `stateAfter_perform` that the program
does exactly that.  The `stateAfter` lemmas for the mirror say the same of each event kind.  The
disk behind the repository is any one whose writes do not throw.
-/

namespace Vertx

open Repository

namespace Store

variable {δ : Type} [Persist δ] {α : Type}

/-- The store after a mutation of its repository. -/
def update (f : ProductApiState → ProductApiState) (s : Store δ) : Store δ :=
  { s with repository := s.repository.update f }

@[simp] theorem update_state (f : ProductApiState → ProductApiState) (s : Store δ) :
    (s.update f).repository.state = f s.repository.state := rfl

@[simp] theorem run_onRepository_mutate [ReliablePersist δ] (f : ProductApiState → ProductApiState)
    (s : Store δ) : (onRepository (mutate f)).run s = .ok () (s.update f) := by
  have h := run_mutate f s.repository
  unfold EStateM.run at h ⊢
  simp only [onRepository, EStateM.run, h, update]

omit [Persist δ] in
@[simp] theorem run_onRepository_read (f : ProductApiState → α) (s : Store δ) :
    (onRepository (read f)).run s = .ok (f s.repository.state) s := rfl

/-- The store after an audit entry. -/
def audit (clock : Clock) (action : String) (s : Store δ) : Store δ :=
  { s with auditCounter := s.auditCounter + 1 }.update
    (·.prependAuditEvent (buildAuditEvent clock 2 s.auditCounter action .info))

@[simp] theorem run_appendAuditEvent [ReliablePersist δ] (clock : Clock) (action : String)
    (s : Store δ) :
    (appendAuditEvent clock action .info).run s = .ok () (s.audit clock action) := by
  simp only [appendAuditEvent, EStateM.run_bind, EStateM.run_modifyGet, run_onRepository_mutate]
  rfl

end Store

/-- The writes of an operation that succeeds, in order, and its audit action. -/
structure StoreEffect where
  writes : List (ProductApiState → ProductApiState)
  action : String

section

variable {δ : Type} [Persist δ]

def runEffect (clock : Clock) (s : Store δ) (workflow : WorkflowDetail) (action : String) :
    StoreEffect :=
  let run := newRun clock ("run-" ++ s.runCounter.repr) workflow
  ⟨[(·.prependRun run), (·.updateWorkflowLastRunAt workflow.id run.startedAt)], action⟩

/-- The effect of a call, or nothing when it finds nothing to act on or throws. -/
def StoreOp.effect (clock : Clock) (s : Store δ) : StoreOp → Option StoreEffect
  | createWorkflow input =>
    match newWorkflow clock ("wf-" ++ s.workflowCounter.repr) input with
    | .ok workflow => some ⟨[(·.prependWorkflow workflow)], "workflow.created"⟩
    | .error _ => none
  | startWorkflowRun workflowId =>
    (s.repository.state.getWorkflowDetail workflowId).map
      (runEffect clock s · "workflow.run.started")
  | retryRun runId =>
    ((s.repository.state.getRunDetail runId).bind fun run =>
      s.repository.state.getWorkflowDetail run.workflowId).map
        (runEffect clock s · "workflow.run.retried")
  | connectFeishu =>
    some ⟨[(·.upsertConnection (feishuConnection clock s.repository.state))],
      "channel_connection.feishu.connected"⟩
  | updateSettings input =>
    some ⟨[(·.setSettings (JsValue.merge s.repository.state.settings input.spread))],
      "settings.updated"⟩
  | createKnowledgeSource input =>
    match newKnowledgeSource clock ("knowledge-" ++ s.knowledgeCounter.repr) input with
    | .ok source => some ⟨[(·.prependKnowledgeSource source)], "knowledge_source.created"⟩
    | .error _ => none
  | createAutomation input =>
    match newAutomation clock ("automation-" ++ s.automationCounter.repr) input with
    | .ok automation => some ⟨[(·.prependAutomation automation)], "automation.created"⟩
    | .error _ => none
  | toggleAutomation automationId =>
    (s.repository.state.getAutomation automationId).map fun automation =>
      ⟨[(·.upsertAutomation (toggledAutomation clock automation))],
        "automation." ++ (toggledAutomation clock automation).status.text⟩
  | runAutomation automationId =>
    (s.repository.state.getAutomation automationId).map fun automation =>
      ⟨[(·.upsertAutomation (triggeredAutomation clock automation))], "automation.run.triggered"⟩

/-- A field that the store reads as an optional text is one. -/
def JsValue.readable (input : JsValue) (key : String) : Bool :=
  match input.get key with
  | .ok .undefined | .ok .null | .ok (.str _) => true
  | _ => false

/-- A call finds what it acts on and can read its input. -/
def StoreOp.accepted (state : ProductApiState) : StoreOp → Bool
  | createWorkflow input => input.readable "name" && input.readable "description"
  | startWorkflowRun workflowId => (state.getWorkflowDetail workflowId).isSome
  | retryRun runId =>
    ((state.getRunDetail runId).bind fun run => state.getWorkflowDetail run.workflowId).isSome
  | createKnowledgeSource input | createAutomation input => input.readable "name"
  | toggleAutomation automationId | runAutomation automationId =>
    (state.getAutomation automationId).isSome
  | connectFeishu | updateSettings _ => true

/-- The store after the counter that a call consumes before it can fail. -/
def StoreOp.consume (s : Store δ) : StoreOp → Store δ
  | createWorkflow _ => { s with workflowCounter := s.workflowCounter + 1 }
  | createKnowledgeSource _ => { s with knowledgeCounter := s.knowledgeCounter + 1 }
  | createAutomation _ => { s with automationCounter := s.automationCounter + 1 }
  | _ => s

/-- The store after the counters that a call that succeeds consumes. -/
def StoreOp.allot (s : Store δ) : StoreOp → Store δ
  | startWorkflowRun _ | retryRun _ => { s with runCounter := s.runCounter + 1 }
  | op => op.consume s

/-- The store after the writes and the audit entry of an effect. -/
def Store.commit (clock : Clock) (s : Store δ) (e : StoreEffect) : Store δ :=
  { s with repository := s.repository.updates e.writes }.audit clock e.action

/-- The ways in which a call can succeed, each with its effect. -/
inductive StoreOp.Does (clock : Clock) (s : Store δ) : StoreOp → StoreEffect → Prop
  | createWorkflow {input : JsValue} {workflow : WorkflowDetail}
      (h : newWorkflow clock ("wf-" ++ s.workflowCounter.repr) input = .ok workflow) :
      Does clock s (.createWorkflow input) ⟨[(·.prependWorkflow workflow)], "workflow.created"⟩
  | startWorkflowRun {workflowId : String} {workflow : WorkflowDetail}
      (h : s.repository.state.getWorkflowDetail workflowId = some workflow) :
      Does clock s (.startWorkflowRun workflowId)
        (runEffect clock s workflow "workflow.run.started")
  | retryRun {runId : String} {run : WorkflowRunDetail} {workflow : WorkflowDetail}
      (hr : s.repository.state.getRunDetail runId = some run)
      (hw : s.repository.state.getWorkflowDetail run.workflowId = some workflow) :
      Does clock s (.retryRun runId) (runEffect clock s workflow "workflow.run.retried")
  | connectFeishu : Does clock s .connectFeishu
      ⟨[(·.upsertConnection (feishuConnection clock s.repository.state))],
        "channel_connection.feishu.connected"⟩
  | updateSettings {input : JsValue} : Does clock s (.updateSettings input)
      ⟨[(·.setSettings (JsValue.merge s.repository.state.settings input.spread))],
        "settings.updated"⟩
  | createKnowledgeSource {input : JsValue} {source : KnowledgeSourceSummary}
      (h : newKnowledgeSource clock ("knowledge-" ++ s.knowledgeCounter.repr) input = .ok source) :
      Does clock s (.createKnowledgeSource input)
        ⟨[(·.prependKnowledgeSource source)], "knowledge_source.created"⟩
  | createAutomation {input : JsValue} {automation : AutomationSummary}
      (h : newAutomation clock ("automation-" ++ s.automationCounter.repr) input = .ok automation) :
      Does clock s (.createAutomation input)
        ⟨[(·.prependAutomation automation)], "automation.created"⟩
  | toggleAutomation {automationId : String} {automation : AutomationSummary}
      (h : s.repository.state.getAutomation automationId = some automation) :
      Does clock s (.toggleAutomation automationId)
        ⟨[(·.upsertAutomation (toggledAutomation clock automation))],
          "automation." ++ (toggledAutomation clock automation).status.text⟩
  | runAutomation {automationId : String} {automation : AutomationSummary}
      (h : s.repository.state.getAutomation automationId = some automation) :
      Does clock s (.runAutomation automationId)
        ⟨[(·.upsertAutomation (triggeredAutomation clock automation))], "automation.run.triggered"⟩

omit [Persist δ] in
theorem does_of_effect {clock : Clock} {s : Store δ} {op : StoreOp} {e : StoreEffect}
    (h : op.effect clock s = some e) : op.Does clock s e := by
  cases op <;>
    simp only [StoreOp.effect, Option.map_eq_some_iff, Option.bind_eq_some_iff,
      Option.some.injEq] at h
  case createWorkflow input =>
    split at h <;> cases h
    exact .createWorkflow ‹_›
  case startWorkflowRun workflowId =>
    obtain ⟨workflow, hw, rfl⟩ := h
    exact .startWorkflowRun hw
  case retryRun runId =>
    obtain ⟨workflow, ⟨run, hr, hw⟩, rfl⟩ := h
    exact .retryRun hr hw
  case connectFeishu =>
    subst h
    exact .connectFeishu
  case updateSettings input =>
    subst h
    exact .updateSettings
  case createKnowledgeSource input =>
    split at h <;> cases h
    exact .createKnowledgeSource ‹_›
  case createAutomation input =>
    split at h <;> cases h
    exact .createAutomation ‹_›
  case toggleAutomation automationId =>
    obtain ⟨automation, ha, rfl⟩ := h
    exact .toggleAutomation ha
  case runAutomation automationId =>
    obtain ⟨automation, ha, rfl⟩ := h
    exact .runAutomation ha

theorem newWorkflow_id {clock : Clock} {id : String} {input : JsValue} {workflow : WorkflowDetail}
    (h : newWorkflow clock id input = .ok workflow) : workflow.id = id := by
  unfold newWorkflow at h
  cases hn : trimmedOr input "name" ("未命名流程 " ++ id) with
  | error e => rw [hn] at h; cases h
  | ok name =>
    cases hd : trimmedOr input "description" "等待补充流程描述。" with
    | error e => rw [hn, hd] at h; cases h
    | ok description => rw [hn, hd] at h; cases h; rfl

theorem newKnowledgeSource_id {clock : Clock} {id : String} {input : JsValue}
    {source : KnowledgeSourceSummary} (h : newKnowledgeSource clock id input = .ok source) :
    source.id = id := by
  unfold newKnowledgeSource at h
  cases hn : trimmedOr input "name" ("未命名知识源 " ++ id) with
  | error e => rw [hn] at h; cases h
  | ok name =>
    cases ht : input.get "sourceType" with
    | error e => rw [hn, ht] at h; cases h
    | ok sourceType => rw [hn, ht] at h; cases h; rfl

theorem newAutomation_id {clock : Clock} {id : String} {input : JsValue}
    {automation : AutomationSummary} (h : newAutomation clock id input = .ok automation) :
    automation.id = id := by
  unfold newAutomation at h
  cases ht : input.get "triggerType" with
  | error e => rw [ht] at h; cases h
  | ok triggerType =>
    cases hn : trimmedOr input "name" ("未命名自动化 " ++ id) with
    | error e => rw [ht] at h; dsimp [bind, Except.bind] at h; rw [hn] at h; cases h
    | ok name => rw [ht] at h; dsimp [bind, Except.bind] at h; rw [hn] at h; cases h; rfl

theorem isSome_trimmedOr (input : JsValue) (key fallback : String) :
    (trimmedOr input key fallback).toOption.isSome = input.readable key := by
  unfold trimmedOr JsValue.readable
  cases input.get key with
  | error e => rfl
  | ok value => cases value <;> rfl

theorem isSome_newWorkflow (clock : Clock) (id : String) (input : JsValue) :
    (newWorkflow clock id input).toOption.isSome =
      (input.readable "name" && input.readable "description") := by
  rw [← isSome_trimmedOr input "name" ("未命名流程 " ++ id),
    ← isSome_trimmedOr input "description" "等待补充流程描述。"]
  unfold newWorkflow
  cases trimmedOr input "name" ("未命名流程 " ++ id) with
  | error e => rfl
  | ok name => cases trimmedOr input "description" "等待补充流程描述。" <;> rfl

/-- Reading one property of a value throws when reading another does. -/
theorem readable_of_get_error {input : JsValue} {key : String} {e : JsError}
    (h : input.get key = .error e) (key' : String) : input.readable key' = false := by
  unfold JsValue.get at h
  split_ifs at h with hn
  simp only [JsValue.readable, JsValue.get, hn, if_true]

theorem isSome_newKnowledgeSource (clock : Clock) (id : String) (input : JsValue) :
    (newKnowledgeSource clock id input).toOption.isSome = input.readable "name" := by
  have h := isSome_trimmedOr input "name" ("未命名知识源 " ++ id)
  unfold newKnowledgeSource
  cases hn : trimmedOr input "name" ("未命名知识源 " ++ id) with
  | error e => rw [← h, hn]; rfl
  | ok name =>
    cases ht : input.get "sourceType" with
    | error e =>
      rw [readable_of_get_error ht, hn] at h
      cases h
    | ok sourceType => rw [← h, hn]; rfl

theorem isSome_newAutomation (clock : Clock) (id : String) (input : JsValue) :
    (newAutomation clock id input).toOption.isSome = input.readable "name" := by
  unfold newAutomation
  cases ht : input.get "triggerType" with
  | error e => rw [readable_of_get_error ht]; rfl
  | ok triggerType =>
    rw [← isSome_trimmedOr input "name" ("未命名自动化 " ++ id)]
    cases trimmedOr input "name" ("未命名自动化 " ++ id) <;> rfl

omit [Persist δ] in
/-- A call succeeds when it is accepted. -/
theorem isSome_effect (clock : Clock) (s : Store δ) (op : StoreOp) :
    (op.effect clock s).isSome = op.accepted s.repository.state := by
  cases op with
  | createWorkflow input =>
    rw [StoreOp.accepted, ← isSome_newWorkflow clock ("wf-" ++ s.workflowCounter.repr)]
    simp only [StoreOp.effect]
    cases newWorkflow clock ("wf-" ++ s.workflowCounter.repr) input <;> rfl
  | startWorkflowRun | retryRun | toggleAutomation | runAutomation =>
    simp only [StoreOp.effect, StoreOp.accepted, Option.isSome_map]
  | connectFeishu | updateSettings => rfl
  | createKnowledgeSource input =>
    rw [StoreOp.accepted,
      ← isSome_newKnowledgeSource clock ("knowledge-" ++ s.knowledgeCounter.repr)]
    simp only [StoreOp.effect]
    cases newKnowledgeSource clock ("knowledge-" ++ s.knowledgeCounter.repr) input <;> rfl
  | createAutomation input =>
    rw [StoreOp.accepted, ← isSome_newAutomation clock ("automation-" ++ s.automationCounter.repr)]
    simp only [StoreOp.effect]
    cases newAutomation clock ("automation-" ++ s.automationCounter.repr) input <;> rfl

variable [ReliablePersist δ]

theorem stateAfter_createRun (clock : Clock) (workflow : WorkflowDetail) (action : String)
    (s : Store δ) :
    (Store.createRunFromWorkflow clock workflow action).run s =
      .ok (newRun clock ("run-" ++ s.runCounter.repr) workflow)
        ({ s with runCounter := s.runCounter + 1 }.commit clock
          (runEffect clock s workflow action)) := by
  simp only [Store.createRunFromWorkflow, EStateM.run_bind, EStateM.run_modifyGet,
    Store.run_onRepository_mutate, Store.run_appendAuditEvent, EStateM.run_pure]
  rfl

/-- A call of a store operation does what its effect says. -/
theorem stateAfter_perform (clock : Clock) (op : StoreOp) (s : Store δ) :
    (op.perform clock).stateAfter s =
      match op.effect clock s with
      | some e => (op.allot s).commit clock e
      | none => op.consume s := by
  unfold JsM.stateAfter
  cases op with
  | createWorkflow input =>
    simp only [StoreOp.perform, Store.createWorkflow, StoreOp.effect, EStateM.run_bind,
      EStateM.run_modifyGet]
    cases newWorkflow clock ("wf-" ++ s.workflowCounter.repr) input with
    | ok workflow => simp; rfl
    | error e => simp; rfl
  | startWorkflowRun workflowId =>
    simp only [StoreOp.perform, Store.startWorkflowRun, StoreOp.effect, EStateM.run_bind,
      Store.run_onRepository_read]
    cases s.repository.state.getWorkflowDetail workflowId with
    | none => rfl
    | some workflow => simp [stateAfter_createRun]; rfl
  | retryRun runId =>
    simp only [StoreOp.perform, Store.retryRun, StoreOp.effect, EStateM.run_bind,
      Store.run_onRepository_read]
    cases s.repository.state.getRunDetail runId with
    | none => rfl
    | some run =>
      simp only [EStateM.run_bind, Store.run_onRepository_read, Option.bind_some]
      cases s.repository.state.getWorkflowDetail run.workflowId with
      | none => rfl
      | some workflow => simp [stateAfter_createRun]; rfl
  | connectFeishu => simp [StoreOp.perform, Store.connectFeishu, StoreOp.effect]; rfl
  | updateSettings input => simp [StoreOp.perform, Store.updateSettings, StoreOp.effect]; rfl
  | createKnowledgeSource input =>
    simp only [StoreOp.perform, Store.createKnowledgeSource, StoreOp.effect, EStateM.run_bind,
      EStateM.run_modifyGet]
    cases newKnowledgeSource clock ("knowledge-" ++ s.knowledgeCounter.repr) input with
    | ok source => simp; rfl
    | error e => simp; rfl
  | createAutomation input =>
    simp only [StoreOp.perform, Store.createAutomation, StoreOp.effect, EStateM.run_bind,
      EStateM.run_modifyGet]
    cases newAutomation clock ("automation-" ++ s.automationCounter.repr) input with
    | ok automation => simp; rfl
    | error e => simp; rfl
  | toggleAutomation automationId =>
    simp only [StoreOp.perform, Store.toggleAutomation, StoreOp.effect, EStateM.run_bind,
      Store.run_onRepository_read]
    cases s.repository.state.getAutomation automationId with
    | none => rfl
    | some automation => simp; rfl
  | runAutomation automationId =>
    simp only [StoreOp.perform, Store.runAutomation, StoreOp.effect, EStateM.run_bind,
      Store.run_onRepository_read]
    cases s.repository.state.getAutomation automationId with
    | none => rfl
    | some automation => simp; rfl

end

/-! ## The mirror -/

/-- The audit entry that the mirror adds to a state. -/
def mirrorEntry (clock : Clock) (state : ProductApiState) (action : String) (level : AuditLevel) :
    AuditEventSummary :=
  buildAuditEvent clock 1 (state.auditEvents.length + 1) action level

/-- What an event says about a run, if anything. -/
def ProductApiMirrorEvent.run? (e : ProductApiMirrorEvent) : Option MirrorRunInput :=
  if e.payload.isObject then
    match e.event with
    | .runStatus => (stringField e.payload ["runId", "id"]).map (runStatusInput e.payload)
    | .chat => (stringField e.payload ["runId"]).map (chatRunInput e.payload)
    | .toolStatus => (stringField e.payload ["runId"]).map (toolStatusInput e.payload)
    | _ => none
  else none

/-- What an event says about a session, if anything. -/
def ProductApiMirrorEvent.session? (clock : Clock) (e : ProductApiMirrorEvent) :
    Option MirrorSessionInput :=
  if e.payload.isObject then
    match e.event with
    | .chat => (sessionIdFromPayload e.payload).map (chatSessionInput clock e.payload)
    | .sessionMessage => (sessionIdFromPayload e.payload).map (sessionMessageInput e.payload)
    | .sessionsChanged => (sessionIdFromPayload e.payload).map (sessionsChangedInput e.payload)
    | _ => none
  else none

/-- The workbench after an approval event. -/
def ProductApiMirrorEvent.workbench? (state : ProductApiState) (e : ProductApiMirrorEvent) :
    Option WorkbenchSummary :=
  if e.payload.isObject then
    match e.event with
    | .approvalRequested =>
      some { state.workbench with pendingApprovals := state.workbench.pendingApprovals + 1 }
    | .approvalResolved =>
      some { state.workbench with pendingApprovals := state.workbench.pendingApprovals - 1 }
    | _ => none
  else none

/-- The action and level of an event's audit entry, given the run it wrote. -/
def ProductApiMirrorEvent.audit? (e : ProductApiMirrorEvent) (run : Option WorkflowRunDetail) :
    Option (String × AuditLevel) :=
  if e.payload.isObject then
    match e.event with
    | .runStatus => run.map fun run => ("runtime.run." ++ run.status.text, .info)
    | .toolStatus => run.map fun _ =>
      ("runtime.tool." ++ (stringField e.payload ["phase"]).getD "unknown", .info)
    | .approvalRequested => some (approvalAction "runtime.approval.requested" e.payload, .warning)
    | .approvalResolved => some (approvalAction "runtime.approval.resolved" e.payload, .info)
    | _ => none
  else none

/-- The run record that an event writes, if any. -/
def ProductApiMirrorEvent.runWritten (clock : Clock) (state : ProductApiState)
    (e : ProductApiMirrorEvent) : Option WorkflowRunDetail :=
  e.run?.bind fun input => (mirroredRun clock state input).toOption

/-- The session record that an event writes, if any. -/
def ProductApiMirrorEvent.sessionWritten (clock : Clock) (state : ProductApiState)
    (e : ProductApiMirrorEvent) : Option SessionDetail :=
  (e.session? clock).bind fun input => (mirroredSession clock state input).toOption

/-- The writes of an event, in order: its run, its session, the workbench and the audit entry, each
when there is one. -/
def mirrorWrites (clock : Clock) (state : ProductApiState) (e : ProductApiMirrorEvent) :
    List (ProductApiState → ProductApiState) :=
  let run := e.runWritten clock state
  (run.toList.map fun run => (·.upsertRun run)) ++
  ((e.sessionWritten clock state).toList.map fun session => (·.upsertSession session)) ++
  ((e.workbench? state).toList.map fun workbench => (·.setWorkbenchState workbench)) ++
  ((e.audit? run).toList.map fun entry =>
    (·.prependAuditEvent (mirrorEntry clock state entry.1 entry.2)))

section

variable {δ : Type} [Persist δ] [ReliablePersist δ]

theorem run_mirrorRun (clock : Clock) (input : MirrorRunInput) (r : Repository δ) :
    (mirrorRun clock input).run r =
      match mirroredRun clock r.state input with
      | .ok run => .ok run (r.update (·.upsertRun run))
      | .error e => .error e r := by
  simp only [mirrorRun, EStateM.run_bind, run_read]
  cases mirroredRun clock r.state input <;> simp

theorem run_mirrorSession (clock : Clock) (input : MirrorSessionInput) (r : Repository δ) :
    (mirrorSession clock input).run r =
      match mirroredSession clock r.state input with
      | .ok session => .ok session (r.update (·.upsertSession session))
      | .error e => .error e r := by
  simp only [mirrorSession, EStateM.run_bind, run_read]
  cases mirroredSession clock r.state input <;> simp

theorem run_mirrorAudit (clock : Clock) (action : String) (level : AuditLevel) (r : Repository δ) :
    (mirrorAudit clock action level).run r =
      .ok () (r.update (·.prependAuditEvent (mirrorEntry clock r.state action level))) := by
  simp only [mirrorAudit, EStateM.run_bind, run_read, run_mutate]
  rfl

/-- A chat event always writes its run: it carries no time that could be out of range. -/
theorem mirroredRun_chat (clock : Clock) (state : ProductApiState) (payload : JsValue)
    (runId : String) : ∃ run, mirroredRun clock state (chatRunInput payload runId) = .ok run := by
  unfold mirroredRun
  cases state.getRunDetail (chatRunInput payload runId).runId <;> exact ⟨_, rfl⟩

end

end Vertx
