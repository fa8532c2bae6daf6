import Vertx.Lib.Runs
import Vertx.Domain.Server

/-!
# Summaries and details

Workflows, runs and sessions are each kept twice, as a list of summaries and as a list of details.
Every write puts the same record at the same place of both, so the summaries stay the projection of
the details in every state that a server reaches.
-/

namespace Vertx

open Repository Runs Keyed

/-- The session summaries in a state are those of its details. -/
def SessionsProjected (state : ProductApiState) : Prop :=
  state.sessions = state.sessionDetails.map (·.toSessionSummary)

/-- Writing a session to both lists keeps them in step. -/
theorem SessionsProjected.upsertSession {state : ProductApiState} (h : SessionsProjected state)
    (session : SessionDetail) : SessionsProjected (state.upsertSession session) := by
  unfold SessionsProjected at h ⊢
  simp only [ProductApiState.upsertSession, h]
  exact (map_upsertFirst (fun session : SessionDetail => session.id) (fun _ => rfl)
    (fun _ => rfl)).symm

/-- No operation of the store writes a session. -/
theorem sessions_effect {clock : Clock} {op : StoreOp} {s : Server} {e : StoreEffect}
    (h : op.effect clock s = some e) (state : ProductApiState) :
    (e.next state).sessions = state.sessions ∧
      (e.next state).sessionDetails = state.sessionDetails := by
  cases does_of_effect h <;> exact ⟨rfl, rfl⟩

theorem sessionsProjected_call {clock : Clock} {op : StoreOp} {s : Server}
    (h : SessionsProjected s.repository.state) :
    SessionsProjected (serverStep s (.call clock op)).repository.state := by
  refine call_induction h fun e entry he => ?_
  obtain ⟨hs, hd⟩ := sessions_effect he s.repository.state
  change (e.next s.repository.state).sessions = _
  rw [hs, h]
  exact (congrArg (List.map _) hd).symm

theorem sessionsProjected_mirror {clock : Clock} {e : ProductApiMirrorEvent} {s : Server}
    (h : SessionsProjected s.repository.state) :
    SessionsProjected (serverStep s (.mirror clock e)).repository.state := by
  rw [mirror_state, mirrorNext_eq]
  cases e.sessionWritten clock s.repository.state with
  | none => exact h
  | some session => exact h.upsertSession session

/-- A restart reads the state back from its file. -/
theorem restart_state {s : Server} (h : s.repository.Saved) :
    (serverStep s .restart).repository.state = s.repository.state.wire := by
  have hdisk : s.repository.disk = ⟨some s.repository.state.wire⟩ := h
  rw [serverStep, hdisk]
  rfl

theorem sessionsProjected_restart {s : Server} (hsaved : s.repository.Saved)
    (h : SessionsProjected s.repository.state) :
    SessionsProjected (serverStep s .restart).repository.state := by
  rw [restart_state hsaved]
  exact h

/-- The three lists of summaries are the projections of the three lists of details. -/
structure SummariesProjected (state : ProductApiState) : Prop where
  workflows : state.workflows = state.workflowDetails.map (·.toWorkflowSummary)
  runs : state.runs = state.runDetails.map (·.toWorkflowRunSummary)
  sessions : state.sessions = state.sessionDetails.map (·.toSessionSummary)

/-- What every step keeps. -/
structure SummariesInv (s : Server) : Prop where
  coherent : Coherent s
  sessions : SessionsProjected s.repository.state

theorem summariesInv_step (s : Server) (step : ServerStep) (h : SummariesInv s) :
    SummariesInv (serverStep s step) := by
  refine ⟨coherent_step step h.coherent, ?_⟩
  cases step with
  | call clock op => exact sessionsProjected_call h.sessions
  | mirror clock e => exact sessionsProjected_mirror h.sessions
  | restart => exact sessionsProjected_restart h.coherent.saved h.sessions

/-- In every state of every run of the server, starting from the mock state, the summaries are the
projection of the details. -/
theorem summaries_projected (steps : List ServerStep) :
    Always serverStep (fun s => SummariesProjected s.repository.state) initialServer steps := by
  have hinit : SummariesInv initialServer := ⟨coherent_initial, rfl⟩
  have halways : Always serverStep SummariesInv initialServer steps :=
    Always.of_step summariesInv_step hinit steps
  refine halways.imp fun s h => ?_
  exact ⟨h.coherent.projected.workflows, h.coherent.projected.runs, h.sessions⟩

end Vertx
