import Vertx.Api
import Vertx.Lib.Keyed

/-!
# The product API repository

`createInMemoryProductApiRepository` keeps the state in a closure; its methods are the functions on
`ProductApiState` below.  `createFileProductApiRepository` runs the same methods and writes the
whole state after each one that changes it.  The store and the mirror are written against the
repository's interface, so they are programs over a `Repository δ`: the state in memory beside a
disk of type `δ`, with `Persist δ` saying what the write after a mutation does.
-/

namespace Vertx

open Keyed

namespace ProductApiState

variable (state : ProductApiState)

def setWorkbenchState (workbench : WorkbenchSummary) : ProductApiState :=
  { state with workbench }

def getWorkflowSummary (workflowId : String) : Option WorkflowSummary :=
  state.workflows.find? (·.id = workflowId)

def getWorkflowDetail (workflowId : String) : Option WorkflowDetail :=
  state.workflowDetails.find? (·.id = workflowId)

def prependWorkflow (workflow : WorkflowDetail) : ProductApiState :=
  { state with
    workflowDetails := workflow :: state.workflowDetails
    workflows := workflow.toWorkflowSummary :: state.workflows }

def updateWorkflowLastRunAt (workflowId lastRunAt : String) : ProductApiState :=
  { state with
    workflows := modifyFirst (·.id = workflowId) ({ · with lastRunAt }) state.workflows
    workflowDetails :=
      modifyFirst (·.id = workflowId) ({ · with lastRunAt }) state.workflowDetails }

def getRunDetail (runId : String) : Option WorkflowRunDetail :=
  state.runDetails.find? (·.id = runId)

def prependRun (run : WorkflowRunDetail) : ProductApiState :=
  { state with
    runDetails := run :: state.runDetails
    runs := run.toWorkflowRunSummary :: state.runs }

/-- `{...old, ...run}`: an absent summary of `run` leaves the old one. -/
def mergeRun (run old : WorkflowRunDetail) : WorkflowRunDetail :=
  { run with resultSummary := run.resultSummary.or old.resultSummary }

def upsertRun (run : WorkflowRunDetail) : ProductApiState :=
  { state with
    runDetails := upsertFirst (·.id) (mergeRun run) run state.runDetails
    runs :=
      upsertFirst (·.id) (fun _ => run.toWorkflowRunSummary) run.toWorkflowRunSummary state.runs }

def getSessionDetail (sessionId : String) : Option SessionDetail :=
  state.sessionDetails.find? (·.id = sessionId)

/-- `{...old, ...session}`: an absent count of `session` leaves the old one. -/
def mergeSession (session old : SessionDetail) : SessionDetail :=
  { session with messageCount := session.messageCount.or old.messageCount }

def upsertSession (session : SessionDetail) : ProductApiState :=
  { state with
    sessionDetails := upsertFirst (·.id) (mergeSession session) session state.sessionDetails
    sessions :=
      upsertFirst (·.id) (fun _ => session.toSessionSummary) session.toSessionSummary
        state.sessions }

def upsertConnection (connection : ChannelConnectionSummary) : ProductApiState :=
  { state with
    connections := upsertFirst (·.id) (fun _ => connection) connection state.connections }

def setSettings (settings : SettingsDetail) : ProductApiState :=
  { state with settings }

def prependKnowledgeSource (knowledgeSource : KnowledgeSourceSummary) : ProductApiState :=
  { state with knowledgeSources := knowledgeSource :: state.knowledgeSources }

def getAutomation (automationId : String) : Option AutomationSummary :=
  state.automations.find? (·.id = automationId)

def prependAutomation (automation : AutomationSummary) : ProductApiState :=
  { state with automations := automation :: state.automations }

def upsertAutomation (automation : AutomationSummary) : ProductApiState :=
  { state with
    automations := upsertFirst (·.id) (fun _ => automation) automation state.automations }

def prependAuditEvent (event : AuditEventSummary) : ProductApiState :=
  { state with auditEvents := event :: state.auditEvents }

/-- `JSON.parse(JSON.stringify(state))`: the values copied from request bodies are the only ones
that serialisation can change. -/
def wire : ProductApiState :=
  { state with
    settings := JsValue.wireFields state.settings
    knowledgeSources :=
      state.knowledgeSources.map fun k => { k with sourceType := k.sourceType.wire }
    automations := state.automations.map fun a => { a with triggerType := a.triggerType.wire } }

end ProductApiState

/-! ## Repositories with a disk -/

/-- A repository in a process: the state in memory and the disk behind it. -/
structure Repository (δ : Type) where
  state : ProductApiState
  disk : δ

/-- What `persist` does to the disk, and whether it throws. -/
class Persist (δ : Type) where
  persist : ProductApiState → δ → Except JsError Unit × δ

/-- The writes of this disk never throw. -/
class ReliablePersist (δ : Type) [Persist δ] : Prop where
  persist_ok : ∀ (state : ProductApiState) (disk : δ), (Persist.persist state disk).1 = .ok ()

/-- The in-memory repository has no disk. -/
instance : Persist Unit := ⟨fun _ _ => (.ok (), ())⟩

instance : ReliablePersist Unit := ⟨fun _ _ => rfl⟩

/-- The state file: absent, or holding a serialised state. -/
structure StateFile where
  content : Option ProductApiState

/-- `writeState`, with file system calls that succeed. -/
instance : Persist StateFile := ⟨fun state _ => (.ok (), ⟨some state.wire⟩)⟩

instance : ReliablePersist StateFile := ⟨fun _ _ => rfl⟩

def readState (file : StateFile) : ProductApiState :=
  file.content.getD createMockProductApiState

/-- A program over a repository. -/
abbrev RepoM (δ : Type) := JsM (Repository δ)

namespace Repository

variable {δ : Type} [Persist δ] {α : Type}

/-- The repository after a mutation and the write that follows it. -/
def update (f : ProductApiState → ProductApiState) (r : Repository δ) : Repository δ :=
  ⟨f r.state, (Persist.persist (f r.state) r.disk).2⟩

/-- Runs a mutation of the in-memory repository, then `persist()`. -/
def mutate (f : ProductApiState → ProductApiState) : RepoM δ Unit := fun r =>
  match (Persist.persist (f r.state) r.disk).1 with
  | .ok () => .ok () (r.update f)
  | .error e => .error e (r.update f)

/-- The in-memory state, as the methods that only read see it. -/
def read (f : ProductApiState → α) : RepoM δ α := do
  return f (← get).state

/-- The repository after a list of mutations, each followed by its write. -/
def updates (r : Repository δ) (fs : List (ProductApiState → ProductApiState)) : Repository δ :=
  fs.foldl (fun r f => r.update f) r

@[simp] theorem updates_state (r : Repository δ) (fs : List (ProductApiState → ProductApiState)) :
    (r.updates fs).state = fs.foldl (fun state f => f state) r.state := by
  induction fs generalizing r with
  | nil => rfl
  | cons f fs ih => exact ih (r.update f)

@[simp] theorem update_state (f : ProductApiState → ProductApiState) (r : Repository δ) :
    (r.update f).state = f r.state := rfl

@[simp] theorem run_mutate [ReliablePersist δ] (f : ProductApiState → ProductApiState)
    (r : Repository δ) : (mutate f).run r = .ok () (r.update f) := by
  simp only [EStateM.run, mutate, ReliablePersist.persist_ok]

omit [Persist δ] in
@[simp] theorem run_read (f : ProductApiState → α) (r : Repository δ) :
    (read f).run r = .ok (f r.state) r := rfl

end Repository

/-- The file repository of a state file: the state is read once and written back. -/
def createFileProductApiRepository (file : StateFile) : Repository StateFile :=
  Repository.update id ⟨readState file, file⟩

/-- The state file holds the state. -/
def Repository.Saved (r : Repository StateFile) : Prop := r.disk = ⟨some r.state.wire⟩

theorem Repository.saved_updates {r : Repository StateFile} (h : r.Saved)
    (fs : List (ProductApiState → ProductApiState)) : (r.updates fs).Saved := by
  induction fs generalizing r with
  | nil => exact h
  | cons f fs ih => exact ih rfl

/-- The in-memory repository of a state. -/
def createInMemoryProductApiRepository (state : ProductApiState) : Repository Unit :=
  ⟨state, ()⟩

end Vertx
