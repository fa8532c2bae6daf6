import Vertx.Domain.Operations
import Vertx.Lib.Numbered

/-!
# Runs of the product API server

A server process holds a store over the file repository.  Its life is a sequence of store calls,
mirrored realtime events and restarts, each restart opening the state file again.  The ids in each
list are seen as an allocator of numbered identifiers, and every step of the server is a step of
these allocators.
-/

namespace Vertx

open Repository Runs Numbered Keyed

/-- A server process. -/
abbrev Server := Store StateFile

/-- One thing that happens to the server. -/
inductive ServerStep
  | call (clock : Clock) (op : StoreOp)
  | mirror (clock : Clock) (event : ProductApiMirrorEvent)
  | restart

/-- A process started on a state file. -/
def startServer (file : StateFile) : Server :=
  createProductApiStore (createFileProductApiRepository file)

/-- The first process, started without a state file. -/
def initialServer : Server := startServer ⟨none⟩

def serverStep (s : Server) : ServerStep → Server
  | .call clock op => (op.perform clock).stateAfter s
  | .mirror clock event =>
    { s with
      repository :=
        (mirrorRealtimeEventToProductApiRepository clock event).stateAfter s.repository }
  | .restart => startServer s.repository.disk

/-! ## What a step does to the state -/

/-- The state after the writes of a mirrored event. -/
def mirrorNext (clock : Clock) (state : ProductApiState) (e : ProductApiMirrorEvent) :
    ProductApiState :=
  (mirrorWrites clock state e).foldl (fun state f => f state) state

/-- The state after the writes of an operation. -/
def StoreEffect.next (e : StoreEffect) (state : ProductApiState) : ProductApiState :=
  e.writes.foldl (fun state f => f state) state

theorem mirror_state (clock : Clock) (e : ProductApiMirrorEvent) (s : Server) :
    (serverStep s (.mirror clock e)).repository.state = mirrorNext clock s.repository.state e := by
  simp only [serverStep, stateAfter_mirror, updates_state, mirrorNext]

/-- The audit entry of a mirrored event. -/
def mirrorAudit? (clock : Clock) (state : ProductApiState) (e : ProductApiMirrorEvent) :
    Option AuditEventSummary :=
  (e.audit? (e.runWritten clock state)).map fun entry => mirrorEntry clock state entry.1 entry.2

/-- A mirrored event writes to the runs, the sessions, the workbench and the audit log only. -/
theorem mirrorNext_eq (clock : Clock) (state : ProductApiState) (e : ProductApiMirrorEvent) :
    mirrorNext clock state e =
      { state with
        workbench := (e.workbench? state).getD state.workbench
        runs := ((e.runWritten clock state).elim state state.upsertRun).runs
        runDetails := ((e.runWritten clock state).elim state state.upsertRun).runDetails
        sessions := ((e.sessionWritten clock state).elim state state.upsertSession).sessions
        sessionDetails :=
          ((e.sessionWritten clock state).elim state state.upsertSession).sessionDetails
        auditEvents := (mirrorAudit? clock state e).toList ++ state.auditEvents } := by
  unfold mirrorNext mirrorWrites mirrorAudit?
  dsimp only
  generalize e.runWritten clock state = run
  generalize e.audit? run = entry
  cases run <;> cases e.sessionWritten clock state <;> cases e.workbench? state <;>
    cases entry <;> rfl

/-- A mirrored event changes the run it is written to and no other. -/
theorem getRunDetail_mirror (clock : Clock) (state : ProductApiState) (e : ProductApiMirrorEvent)
    (runId : String) :
    (mirrorNext clock state e).getRunDetail runId =
      match e.runWritten clock state with
      | none => state.getRunDetail runId
      | some run =>
        if runId = run.id then
          some (((state.getRunDetail runId).map (ProductApiState.mergeRun run)).getD run)
        else state.getRunDetail runId := by
  rw [mirrorNext_eq]
  unfold ProductApiState.getRunDetail
  cases e.runWritten clock state with
  | none => rfl
  | some run =>
    dsimp only [Option.elim_some, ProductApiState.upsertRun]
    have hm : ∀ old : WorkflowRunDetail, old.id = run.id →
        (ProductApiState.mergeRun run old).id = run.id := fun _ _ => rfl
    split_ifs with hid
    · rw [hid]
      exact find?_upsertFirst_self (fun run : WorkflowRunDetail => run.id) hm
    · exact find?_upsertFirst_ne (fun run : WorkflowRunDetail => run.id) hm hid

/-- The server after a call that succeeds. -/
theorem call_of_effect {clock : Clock} {op : StoreOp} {s : Server} {e : StoreEffect}
    (h : op.effect clock s = some e) :
    serverStep s (.call clock op) = (op.allot s).commit clock e := by
  simp only [serverStep, stateAfter_perform, h]

/-- The server after a call that finds nothing to act on or throws. -/
theorem call_of_none {clock : Clock} {op : StoreOp} {s : Server} (h : op.effect clock s = none) :
    serverStep s (.call clock op) = op.consume s := by
  simp only [serverStep, stateAfter_perform, h]

section Counters

variable {δ : Type} (op : StoreOp) (s : Store δ)

@[simp] theorem consume_repository : (op.consume s).repository = s.repository := by cases op <;> rfl

@[simp] theorem allot_repository : (op.allot s).repository = s.repository := by cases op <;> rfl

@[simp] theorem consume_auditCounter : (op.consume s).auditCounter = s.auditCounter := by
  cases op <;> rfl

@[simp] theorem allot_auditCounter : (op.allot s).auditCounter = s.auditCounter := by
  cases op <;> rfl

variable [Persist δ] (clock : Clock) (e : StoreEffect)

@[simp] theorem commit_state : (s.commit clock e).repository.state =
    (e.next s.repository.state).prependAuditEvent
      (buildAuditEvent clock 2 s.auditCounter e.action .info) := by
  simp only [Store.commit, Store.audit, Store.update_state, updates_state]
  rfl

@[simp] theorem commit_auditCounter : (s.commit clock e).auditCounter = s.auditCounter + 1 := rfl

@[simp] theorem commit_workflowCounter : (s.commit clock e).workflowCounter = s.workflowCounter :=
  rfl

@[simp] theorem commit_runCounter : (s.commit clock e).runCounter = s.runCounter := rfl

@[simp] theorem commit_knowledgeCounter :
    (s.commit clock e).knowledgeCounter = s.knowledgeCounter := rfl

@[simp] theorem commit_automationCounter :
    (s.commit clock e).automationCounter = s.automationCounter := rfl

end Counters

/-- What holds of the state before a call and after the writes of its effect holds after the
call. -/
theorem call_induction {P : ProductApiState → Prop} {clock : Clock} {op : StoreOp} {s : Server}
    (h : P s.repository.state)
    (heffect : ∀ e entry, op.effect clock s = some e →
      P ((e.next s.repository.state).prependAuditEvent entry)) :
    P (serverStep s (.call clock op)).repository.state := by
  cases he : op.effect clock s with
  | none =>
    rw [call_of_none he, consume_repository]
    exact h
  | some e =>
    rw [call_of_effect he, commit_state, allot_repository]
    exact heffect e _ he

/-! ## The invariant -/

/-- The summaries in a state are those of its details. -/
structure Projected (state : ProductApiState) : Prop where
  workflows : state.workflows = state.workflowDetails.map (·.toWorkflowSummary)
  runs : state.runs = state.runDetails.map (·.toWorkflowRunSummary)

/-- The state file holds the state, whose summaries are those of its details. -/
structure Coherent (s : Server) : Prop where
  saved : s.repository.Saved
  projected : Projected s.repository.state

/-- Writing a run to both lists keeps them in step. -/
theorem Projected.upsertRun {state : ProductApiState} (h : Projected state)
    (run : WorkflowRunDetail) : Projected (state.upsertRun run) where
  workflows := h.workflows
  runs := by
    simp only [ProductApiState.upsertRun, h.runs]
    exact (map_upsertFirst (fun run : WorkflowRunDetail => run.id) (fun _ => rfl)
      (fun _ => rfl)).symm

theorem Projected.prependRun {state : ProductApiState} (h : Projected state)
    (run : WorkflowRunDetail) : Projected (state.prependRun run) where
  workflows := h.workflows
  runs := congrArg (List.cons run.toWorkflowRunSummary) h.runs

theorem Projected.prependWorkflow {state : ProductApiState} (h : Projected state)
    (workflow : WorkflowDetail) : Projected (state.prependWorkflow workflow) where
  workflows := congrArg (List.cons workflow.toWorkflowSummary) h.workflows
  runs := h.runs

theorem Projected.updateWorkflowLastRunAt {state : ProductApiState} (h : Projected state)
    (workflowId lastRunAt : String) :
    Projected (state.updateWorkflowLastRunAt workflowId lastRunAt) where
  workflows := by
    simp only [ProductApiState.updateWorkflowLastRunAt, h.workflows]
    refine (map_modifyFirst_comm _ _ (fun _ => ?_) (fun _ _ => ?_) _).symm <;> rfl
  runs := h.runs

/-- A successful operation keeps the summaries those of the details. -/
theorem Projected.effect {clock : Clock} {op : StoreOp} {s : Server} {e : StoreEffect}
    (he : op.effect clock s = some e) {state : ProductApiState} (h : Projected state) :
    Projected (e.next state) := by
  cases does_of_effect he with
  | createWorkflow => exact h.prependWorkflow _
  | startWorkflowRun | retryRun => exact (h.prependRun _).updateWorkflowLastRunAt _ _
  | _ => exact ⟨h.workflows, h.runs⟩

theorem coherent_start {file : StateFile} {state : ProductApiState} (h : readState file = state)
    (hp : Projected state) : Coherent (startServer file) where
  saved := rfl
  projected := by subst h; exact hp

theorem coherent_step {s : Server} (step : ServerStep) (h : Coherent s) :
    Coherent (serverStep s step) := by
  cases step with
  | call clock op =>
    cases he : op.effect clock s with
    | none =>
      rw [call_of_none he]
      exact ⟨by simpa using h.saved, by simpa using h.projected⟩
    | some e =>
      rw [call_of_effect he]
      refine ⟨rfl, ?_⟩
      rw [commit_state, allot_repository]
      have hp := h.projected.effect he
      exact ⟨hp.workflows, hp.runs⟩
  | mirror clock e =>
    refine ⟨?_, ?_⟩
    · simp only [serverStep, stateAfter_mirror]
      exact saved_updates h.saved _
    · rw [mirror_state, mirrorNext_eq]
      have hp : Projected
          ((e.runWritten clock s.repository.state).elim s.repository.state
            s.repository.state.upsertRun) := by
        cases e.runWritten clock s.repository.state with
        | none => exact h.projected
        | some run => exact h.projected.upsertRun run
      exact ⟨h.projected.workflows, hp.runs⟩
  | restart =>
    refine @coherent_start _ s.repository.state.wire ?_
      ⟨h.projected.workflows, h.projected.runs⟩
    rw [h.saved]
    rfl

theorem coherent_initial : Coherent initialServer := coherent_start rfl ⟨rfl, rfl⟩

end Vertx
