import Vertx.Domain.Repository

/-!
# The file repository refines the in-memory repository

The operations of `ProductApiRepository` are programs that read the state, or change it and then
read it.  On the file repository they return what they return in memory, and the file holds the
serialised state all along, so that the file can be opened again at any point.
-/

namespace Vertx

open Repository

/-! ## Serialising twice -/

theorem ProductApiState.wire_wire (state : ProductApiState) : state.wire.wire = state.wire := by
  simp only [ProductApiState.wire, JsValue.wireFields_wireFields, List.map_map, Function.comp_def,
    JsValue.wire_wire]

/-! ## The operations -/

/-- A call of a method of `ProductApiRepository`. -/
inductive RepositoryOp
  | getWorkbenchState
  | setWorkbenchState (workbench : WorkbenchSummary)
  | listWorkflows
  | listWorkflowDetails
  | getWorkflowSummary (workflowId : String)
  | getWorkflowDetail (workflowId : String)
  | prependWorkflow (workflow : WorkflowDetail)
  | updateWorkflowLastRunAt (workflowId lastRunAt : String)
  | listRuns
  | listRunDetails
  | getRunDetail (runId : String)
  | prependRun (run : WorkflowRunDetail)
  | upsertRun (run : WorkflowRunDetail)
  | listSessions
  | listSessionDetails
  | getSessionDetail (sessionId : String)
  | upsertSession (session : SessionDetail)
  | listConnections
  | upsertConnection (connection : ChannelConnectionSummary)
  | getSettings
  | setSettings (settings : SettingsDetail)
  | listKnowledgeSources
  | prependKnowledgeSource (knowledgeSource : KnowledgeSourceSummary)
  | listAutomations
  | getAutomation (automationId : String)
  | prependAutomation (automation : AutomationSummary)
  | upsertAutomation (automation : AutomationSummary)
  | listAuditEvents
  | prependAuditEvent (event : AuditEventSummary)
  deriving DecidableEq, Repr

/-- What a method returns. -/
inductive RepositoryResult
  | done
  | workbench (workbench : WorkbenchSummary)
  | workflows (workflows : List WorkflowSummary)
  | workflowDetails (workflows : List WorkflowDetail)
  | workflowSummary (workflow : Option WorkflowSummary)
  | workflowDetail (workflow : Option WorkflowDetail)
  | runs (runs : List WorkflowRunSummary)
  | runDetails (runs : List WorkflowRunDetail)
  | runDetail (run : Option WorkflowRunDetail)
  | sessions (sessions : List SessionSummary)
  | sessionDetails (sessions : List SessionDetail)
  | sessionDetail (session : Option SessionDetail)
  | connections (connections : List ChannelConnectionSummary)
  | connection (connection : ChannelConnectionSummary)
  | settings (settings : SettingsDetail)
  | knowledgeSources (knowledgeSources : List KnowledgeSourceSummary)
  | automations (automations : List AutomationSummary)
  | automation (automation : Option AutomationSummary)
  | auditEvents (auditEvents : List AuditEventSummary)
  deriving DecidableEq, Repr

section

variable {δ : Type} [Persist δ] {α : Type}

/-- A method that changes the state and returns something of the new one. -/
def Repository.mutateThen (f : ProductApiState → ProductApiState) (g : ProductApiState → α) :
    RepoM δ α := do
  mutate f
  read g

def RepositoryOp.perform : RepositoryOp → RepoM δ RepositoryResult
  | getWorkbenchState => read fun state => .workbench state.workbench
  | setWorkbenchState workbench => mutateThen (·.setWorkbenchState workbench) fun _ => .done
  | listWorkflows => read fun state => .workflows state.workflows
  | listWorkflowDetails => read fun state => .workflowDetails state.workflowDetails
  | getWorkflowSummary workflowId =>
    read fun state => .workflowSummary (state.getWorkflowSummary workflowId)
  | getWorkflowDetail workflowId =>
    read fun state => .workflowDetail (state.getWorkflowDetail workflowId)
  | prependWorkflow workflow => mutateThen (·.prependWorkflow workflow) fun _ => .done
  | updateWorkflowLastRunAt workflowId lastRunAt =>
    mutateThen (·.updateWorkflowLastRunAt workflowId lastRunAt) fun _ => .done
  | listRuns => read fun state => .runs state.runs
  | listRunDetails => read fun state => .runDetails state.runDetails
  | getRunDetail runId => read fun state => .runDetail (state.getRunDetail runId)
  | prependRun run => mutateThen (·.prependRun run) fun _ => .done
  | upsertRun run =>
    mutateThen (·.upsertRun run) fun state => .runDetail ((state.getRunDetail run.id).getD run)
  | listSessions => read fun state => .sessions state.sessions
  | listSessionDetails => read fun state => .sessionDetails state.sessionDetails
  | getSessionDetail sessionId =>
    read fun state => .sessionDetail (state.getSessionDetail sessionId)
  | upsertSession session =>
    mutateThen (·.upsertSession session) fun state =>
      .sessionDetail ((state.getSessionDetail session.id).getD session)
  | listConnections => read fun state => .connections state.connections
  | upsertConnection connection =>
    mutateThen (·.upsertConnection connection) fun _ => .connection connection
  | getSettings => read fun state => .settings state.settings
  | setSettings settings => mutateThen (·.setSettings settings) fun _ => .done
  | listKnowledgeSources => read fun state => .knowledgeSources state.knowledgeSources
  | prependKnowledgeSource knowledgeSource =>
    mutateThen (·.prependKnowledgeSource knowledgeSource) fun _ => .done
  | listAutomations => read fun state => .automations state.automations
  | getAutomation automationId => read fun state => .automation (state.getAutomation automationId)
  | prependAutomation automation => mutateThen (·.prependAutomation automation) fun _ => .done
  | upsertAutomation automation =>
    mutateThen (·.upsertAutomation automation) fun _ => .automation (some automation)
  | listAuditEvents => read fun state => .auditEvents state.auditEvents
  | prependAuditEvent event => mutateThen (·.prependAuditEvent event) fun _ => .done

/-- A sequence of calls, with what each of them returns. -/
def performAll : List RepositoryOp → RepoM δ (List RepositoryResult)
  | [] => return []
  | op :: ops => do
    let result ← op.perform
    let results ← performAll ops
    return result :: results

end

/-! ## The refinement -/

/-- Two runs of a program, in memory and on a file, that return the same value and end in the same
state, with the file holding it. -/
def Agree {α : Type} (x : EStateM.Result JsError (Repository Unit) α)
    (y : EStateM.Result JsError (Repository StateFile) α) : Prop :=
  ∃ a state, x = .ok a ⟨state, ()⟩ ∧ y = .ok a ⟨state, ⟨some state.wire⟩⟩

section

variable {α : Type} (state : ProductApiState) (f : ProductApiState → ProductApiState)
  (g : ProductApiState → α)

theorem agree_read : Agree ((read g).run ⟨state, ()⟩) ((read g).run ⟨state, ⟨some state.wire⟩⟩) :=
  ⟨g state, state, rfl, rfl⟩

/-- A write changes both states and rewrites the file. -/
theorem agree_mutateThen :
    Agree ((mutateThen f g).run ⟨state, ()⟩) ((mutateThen f g).run ⟨state, ⟨some state.wire⟩⟩) :=
  ⟨g (f state), f state, rfl, rfl⟩

end

theorem agree_perform (op : RepositoryOp) (state : ProductApiState) :
    Agree (op.perform.run ⟨state, ()⟩) (op.perform.run ⟨state, ⟨some state.wire⟩⟩) := by
  cases op
  case getWorkbenchState | listWorkflows | listWorkflowDetails | getWorkflowSummary
      | getWorkflowDetail | listRuns | listRunDetails | getRunDetail | listSessions
      | listSessionDetails | getSessionDetail | listConnections | getSettings
      | listKnowledgeSources | listAutomations | getAutomation | listAuditEvents =>
    simp only [RepositoryOp.perform]
    exact agree_read state _
  all_goals
    simp only [RepositoryOp.perform]
    exact agree_mutateThen state _ _

theorem agree_performAll (ops : List RepositoryOp) (state : ProductApiState) :
    Agree ((performAll ops).run ⟨state, ()⟩) ((performAll ops).run ⟨state, ⟨some state.wire⟩⟩) := by
  induction ops generalizing state with
  | nil => exact ⟨[], state, rfl, rfl⟩
  | cons op ops ih =>
    obtain ⟨result, state₁, hmem, hfile⟩ := agree_perform op state
    obtain ⟨results, state₂, hmems, hfiles⟩ := ih state₁
    refine ⟨result :: results, state₂, ?_, ?_⟩
    · simp only [performAll, EStateM.run_bind, hmem, hmems, EStateM.run_pure]
    · simp only [performAll, EStateM.run_bind, hfile, hfiles, EStateM.run_pure]

/-- On the file repository every call returns what it returns in memory, the file holds the
serialised state after every call, and opening it again gives a state with the same
serialisation. -/
theorem fileRepository_refines (file : StateFile) (ops : List RepositoryOp) :
    ∃ results state,
      (performAll ops).run (createInMemoryProductApiRepository (readState file)) =
        .ok results ⟨state, ()⟩ ∧
      (performAll ops).run (createFileProductApiRepository file) =
        .ok results ⟨state, ⟨some state.wire⟩⟩ ∧
      (createFileProductApiRepository ⟨some state.wire⟩).state.wire = state.wire := by
  obtain ⟨results, state, hmem, hfile⟩ := agree_performAll ops (readState file)
  exact ⟨results, state, hmem, hfile, state.wire_wire⟩

end Vertx
