import Vertx.Domain.MirrorFrame

/-!
# The audit log

Every operation that succeeds writes its target and one audit entry, and nothing else but the
`lastRunAt` of a workflow that it starts; every other call leaves the state as it was.  Mirrored
events add an entry when they report on a run, a tool or an approval.  The log therefore only grows.
-/

namespace Vertx

open Repository Runs Keyed

/-! ## Operations with their answers -/

section

variable {δ : Type} [Persist δ]

/-- Performs a call and says whether its result is not `null`. -/
def StoreOp.answered (clock : Clock) : StoreOp → StoreM δ Bool
  | createWorkflow input => do
    let _ ← Store.createWorkflow clock input
    return true
  | startWorkflowRun workflowId => do return (← Store.startWorkflowRun clock workflowId).isSome
  | retryRun runId => do return (← Store.retryRun clock runId).isSome
  | connectFeishu => do
    let _ ← Store.connectFeishu clock
    return true
  | updateSettings input => do
    let _ ← Store.updateSettings clock input
    return true
  | createKnowledgeSource input => do
    let _ ← Store.createKnowledgeSource clock input
    return true
  | createAutomation input => do
    let _ ← Store.createAutomation clock input
    return true
  | toggleAutomation automationId => do return (← Store.toggleAutomation clock automationId).isSome
  | runAutomation automationId => do return (← Store.runAutomation clock automationId).isSome

/-- A call either does what its effect says, or answers `null` or throws with nothing written. -/
theorem run_answered [ReliablePersist δ] (clock : Clock) (op : StoreOp) (s : Store δ) :
    (∃ e, op.effect clock s = some e ∧
      (op.answered clock).run s = .ok true ((op.allot s).commit clock e)) ∨
    op.effect clock s = none ∧
      ((op.answered clock).run s = .ok false (op.consume s) ∨
        ∃ x, (op.answered clock).run s = .error x (op.consume s)) := by
  cases op with
  | createWorkflow input =>
    simp only [StoreOp.answered, Store.createWorkflow, StoreOp.effect, EStateM.run_bind,
      EStateM.run_modifyGet]
    cases newWorkflow clock ("wf-" ++ s.workflowCounter.repr) input with
    | ok workflow => exact .inl ⟨_, rfl, by simp; rfl⟩
    | error x => exact .inr ⟨rfl, .inr ⟨x, rfl⟩⟩
  | startWorkflowRun workflowId =>
    simp only [StoreOp.answered, Store.startWorkflowRun, StoreOp.effect, EStateM.run_bind,
      Store.run_onRepository_read]
    cases s.repository.state.getWorkflowDetail workflowId with
    | none => exact .inr ⟨rfl, .inl rfl⟩
    | some workflow => exact .inl ⟨_, rfl, by simp [stateAfter_createRun]; rfl⟩
  | retryRun runId =>
    simp only [StoreOp.answered, Store.retryRun, StoreOp.effect, EStateM.run_bind,
      Store.run_onRepository_read]
    cases s.repository.state.getRunDetail runId with
    | none => exact .inr ⟨rfl, .inl rfl⟩
    | some run =>
      simp only [EStateM.run_bind, Store.run_onRepository_read, Option.bind_some]
      cases s.repository.state.getWorkflowDetail run.workflowId with
      | none => exact .inr ⟨rfl, .inl rfl⟩
      | some workflow => exact .inl ⟨_, rfl, by simp [stateAfter_createRun]; rfl⟩
  | connectFeishu =>
    exact .inl ⟨_, rfl, by simp [StoreOp.answered, Store.connectFeishu]; rfl⟩
  | updateSettings input =>
    exact .inl ⟨_, rfl, by simp [StoreOp.answered, Store.updateSettings]; rfl⟩
  | createKnowledgeSource input =>
    simp only [StoreOp.answered, Store.createKnowledgeSource, StoreOp.effect, EStateM.run_bind,
      EStateM.run_modifyGet]
    cases newKnowledgeSource clock ("knowledge-" ++ s.knowledgeCounter.repr) input with
    | ok source => exact .inl ⟨_, rfl, by simp; rfl⟩
    | error x => exact .inr ⟨rfl, .inr ⟨x, rfl⟩⟩
  | createAutomation input =>
    simp only [StoreOp.answered, Store.createAutomation, StoreOp.effect, EStateM.run_bind,
      EStateM.run_modifyGet]
    cases newAutomation clock ("automation-" ++ s.automationCounter.repr) input with
    | ok automation => exact .inl ⟨_, rfl, by simp; rfl⟩
    | error x => exact .inr ⟨rfl, .inr ⟨x, rfl⟩⟩
  | toggleAutomation automationId =>
    simp only [StoreOp.answered, Store.toggleAutomation, StoreOp.effect, EStateM.run_bind,
      Store.run_onRepository_read]
    cases s.repository.state.getAutomation automationId with
    | none => exact .inr ⟨rfl, .inl rfl⟩
    | some automation => exact .inl ⟨_, rfl, by simp; rfl⟩
  | runAutomation automationId =>
    simp only [StoreOp.answered, Store.runAutomation, StoreOp.effect, EStateM.run_bind,
      Store.run_onRepository_read]
    cases s.repository.state.getAutomation automationId with
    | none => exact .inr ⟨rfl, .inl rfl⟩
    | some automation => exact .inl ⟨_, rfl, by simp; rfl⟩

end

/-! ## What an operation writes -/

/-- The action of an operation's audit entry. -/
def StoreOp.action (state : ProductApiState) : StoreOp → String
  | createWorkflow _ => "workflow.created"
  | startWorkflowRun _ => "workflow.run.started"
  | retryRun _ => "workflow.run.retried"
  | connectFeishu => "channel_connection.feishu.connected"
  | updateSettings _ => "settings.updated"
  | createKnowledgeSource _ => "knowledge_source.created"
  | createAutomation _ => "automation.created"
  | toggleAutomation automationId =>
    if (state.getAutomation automationId).any (·.status = .active) then "automation.paused"
    else "automation.active"
  | runAutomation _ => "automation.run.triggered"

/-- A workflow in its place, with another `lastRunAt` when it is the one that was started. -/
def RanAt (workflowId : String) (old new : WorkflowSummary) : Prop :=
  old = new ∨ old.id = workflowId ∧ new = { old with lastRunAt := new.lastRunAt }

def DetailRanAt (workflowId : String) (old new : WorkflowDetail) : Prop :=
  old = new ∨ old.id = workflowId ∧ new = { old with lastRunAt := new.lastRunAt }

/-- A run of the workflow is put at the front of the runs. -/
structure RunStarted (workflowId : String) (old new : ProductApiState) : Prop where
  run : ∃ run : WorkflowRunDetail, run.workflowId = workflowId ∧ new = { old with
    runs := run.toWorkflowRunSummary :: old.runs
    runDetails := run :: old.runDetails
    workflows := new.workflows
    workflowDetails := new.workflowDetails
    auditEvents := new.auditEvents }
  workflows : List.Forall₂ (RanAt workflowId) old.workflows new.workflows
  workflowDetails : List.Forall₂ (DetailRanAt workflowId) old.workflowDetails new.workflowDetails

/-- The automation with an id is changed in its place. -/
structure AutomationUpdated (automationId : String) (old new : ProductApiState) : Prop where
  rest : new = { old with automations := new.automations, auditEvents := new.auditEvents }
  automations : List.Forall₂ (fun a b => a = b ∨ a.id = automationId ∧ b = { a with
    status := b.status, lastRunAt := b.lastRunAt, nextRunAt := b.nextRunAt })
    old.automations new.automations

/-- An operation that succeeds puts its target at the front or changes it in its place, and leaves
everything else but the audit log as it was. -/
def StoreOp.Target (old new : ProductApiState) : StoreOp → Prop
  | createWorkflow _ => ∃ workflow : WorkflowDetail, new = { old with
      workflows := workflow.toWorkflowSummary :: old.workflows
      workflowDetails := workflow :: old.workflowDetails
      auditEvents := new.auditEvents }
  | startWorkflowRun workflowId => RunStarted workflowId old new
  | retryRun runId =>
    ∃ run, old.getRunDetail runId = some run ∧ RunStarted run.workflowId old new
  | connectFeishu =>
    new = { old with connections := new.connections, auditEvents := new.auditEvents } ∧
      List.Forall₂ (fun a b => a = b ∨ a.channelType = "feishu" ∧
        b = { a with status := .connected, lastActiveAt := b.lastActiveAt })
        old.connections new.connections
  | updateSettings input =>
    new = { old with
      settings := JsValue.merge old.settings input.spread, auditEvents := new.auditEvents }
  | createKnowledgeSource _ => ∃ source, new = { old with
      knowledgeSources := source :: old.knowledgeSources, auditEvents := new.auditEvents }
  | createAutomation _ => ∃ automation, new = { old with
      automations := automation :: old.automations, auditEvents := new.auditEvents }
  | toggleAutomation automationId | runAutomation automationId =>
    AutomationUpdated automationId old new

/-- One audit entry with the action is put at the front of the log. -/
def Logged (action : String) (old new : ProductApiState) : Prop :=
  ∃ entry : AuditEventSummary, entry.action = action ∧ new.auditEvents = entry :: old.auditEvents

/-- The two connections that every server has. -/
def Connected (state : ProductApiState) : Prop :=
  state.connections.map (fun c => (c.id, c.channelType)) =
    [("conn-feishu", "feishu"), ("conn-wecom", "wecom")]

theorem connections_eq {state : ProductApiState} (h : Connected state) :
    ∃ feishu wecom, state.connections = [feishu, wecom] ∧ feishu.id = "conn-feishu" ∧
      feishu.channelType = "feishu" ∧ wecom.id = "conn-wecom" ∧ wecom.channelType = "wecom" := by
  unfold Connected at h
  match hlist : state.connections with
  | [feishu, wecom] =>
    rw [hlist] at h
    simp only [List.map_cons, List.map_nil, List.cons.injEq, Prod.mk.injEq, and_true] at h
    exact ⟨feishu, wecom, rfl, h.1.1, h.1.2, h.2.1, h.2.2⟩
  | [] | [_] | _ :: _ :: _ :: _ => rw [hlist] at h; simp at h

/-- Connecting replaces the first of the two connections. -/
theorem connect_connections (clock : Clock) {state : ProductApiState}
    {feishu wecom : ChannelConnectionSummary} (h : state.connections = [feishu, wecom])
    (hid : feishu.id = "conn-feishu") (htype : feishu.channelType = "feishu") :
    (state.upsertConnection (feishuConnection clock state)).connections =
      [{ feishu with status := .connected, lastActiveAt := isoNow clock 0 }, wecom] := by
  unfold ProductApiState.upsertConnection feishuConnection
  simp [h, hid, htype, upsertFirst, modifyFirst]

theorem runStarted_of_writes (state : ProductApiState) (run : WorkflowRunDetail)
    (entry : AuditEventSummary) :
    RunStarted run.workflowId state
      (((state.prependRun run).updateWorkflowLastRunAt run.workflowId
        run.startedAt).prependAuditEvent entry) where
  run := ⟨run, rfl, rfl⟩
  workflows := by
    have h := @forall₂_modifyFirst _ (fun w : WorkflowSummary => w.id = run.workflowId)
      ({ · with lastRunAt := run.startedAt })
      (fun old new => new = { old with lastRunAt := new.lastRunAt }) state.workflows fun _ _ => rfl
    exact h.imp fun a b hab => by simpa [RanAt] using hab
  workflowDetails := by
    have h := @forall₂_modifyFirst _ (fun w : WorkflowDetail => w.id = run.workflowId)
      ({ · with lastRunAt := run.startedAt })
      (fun old new => new = { old with lastRunAt := new.lastRunAt }) state.workflowDetails
      fun _ _ => rfl
    exact h.imp fun a b hab => by simpa [DetailRanAt] using hab

/-- Writing back the automation found under an id changes it in its place. -/
theorem automationUpdated_of_upsert {state : ProductApiState} {automationId : String}
    {automation automation' : AutomationSummary} (entry : AuditEventSummary)
    (h : state.getAutomation automationId = some automation)
    (hkept : automation' = { automation with
      status := automation'.status, lastRunAt := automation'.lastRunAt
      nextRunAt := automation'.nextRunAt }) :
    AutomationUpdated automationId state
      ((state.upsertAutomation automation').prependAuditEvent entry) where
  rest := rfl
  automations := by
    have hid : automation.id = automationId := by simpa using List.find?_some h
    have hid' : automation'.id = automationId := by rw [hkept]; exact hid
    have hmem : automation'.id ∈ state.automations.map (·.id) := by
      rw [hid', ← hid]
      exact List.mem_map_of_mem (List.mem_of_find?_eq_some h)
    change List.Forall₂ _ _ (upsertFirst _ _ _ _)
    rw [upsertFirst_of_mem _ hmem]
    have hplaces := @forall₂_modifyFirst _ (fun a : AutomationSummary => a.id = automation'.id)
      (fun _ => automation') (fun a b => b = { a with
        status := b.status, lastRunAt := b.lastRunAt, nextRunAt := b.nextRunAt }) state.automations
      (fun a ha => by
        rw [hid'] at ha
        obtain rfl := Option.some.inj (h.symm.trans ha)
        exact hkept)
    rw [hid'] at hplaces ⊢
    exact hplaces.imp fun a b hab => by simpa using hab

theorem target_of_effect {clock : Clock} {op : StoreOp} {s : Server} {e : StoreEffect}
    (he : op.effect clock s = some e) (hconnected : Connected s.repository.state)
    (entry : AuditEventSummary) :
    op.Target s.repository.state ((e.next s.repository.state).prependAuditEvent entry) := by
  cases does_of_effect he with
  | @createWorkflow input workflow h => exact ⟨workflow, rfl⟩
  | @startWorkflowRun workflowId workflow h =>
    have hid : workflow.id = workflowId := by simpa using List.find?_some h
    subst hid
    exact runStarted_of_writes s.repository.state
      (newRun clock ("run-" ++ s.runCounter.repr) workflow) entry
  | @retryRun runId run workflow hr hw =>
    have hid : workflow.id = run.workflowId := by simpa using List.find?_some hw
    refine ⟨run, hr, ?_⟩
    rw [← hid]
    exact runStarted_of_writes s.repository.state
      (newRun clock ("run-" ++ s.runCounter.repr) workflow) entry
  | connectFeishu =>
    refine ⟨rfl, ?_⟩
    obtain ⟨feishu, wecom, hlist, hid, htype, -, -⟩ := connections_eq hconnected
    change List.Forall₂ _ s.repository.state.connections
      (s.repository.state.upsertConnection
        (feishuConnection clock s.repository.state)).connections
    rw [connect_connections clock hlist hid htype, hlist]
    exact .cons (.inr ⟨htype, rfl⟩) (.cons (.inl rfl) .nil)
  | updateSettings => exact rfl
  | @createKnowledgeSource input source h => exact ⟨source, rfl⟩
  | @createAutomation input automation h => exact ⟨automation, rfl⟩
  | toggleAutomation h => exact automationUpdated_of_upsert entry h rfl
  | runAutomation h => exact automationUpdated_of_upsert entry h rfl

theorem action_of_effect {clock : Clock} {op : StoreOp} {s : Server} {e : StoreEffect}
    (he : op.effect clock s = some e) : e.action = op.action s.repository.state := by
  cases does_of_effect he with
  | @toggleAutomation automationId automation h =>
    rw [StoreOp.action, h]
    cases hstatus : automation.status <;> simp [toggledAutomation, hstatus, AutomationStatus.text]
  | _ => rfl

/-- The writes of an operation leave the log to the audit entry that follows them. -/
theorem auditEvents_effect {clock : Clock} {op : StoreOp} {s : Server} {e : StoreEffect}
    (he : op.effect clock s = some e) (state : ProductApiState) :
    (e.next state).auditEvents = state.auditEvents := by
  cases does_of_effect he <;> rfl

/-! ## Reachable states -/

theorem connected_step {s : Server} (step : ServerStep) (hsaved : s.repository.Saved)
    (h : Connected s.repository.state) : Connected (serverStep s step).repository.state := by
  cases step with
  | call clock op =>
    refine call_induction h fun e entry he => ?_
    cases does_of_effect he with
    | connectFeishu =>
      obtain ⟨feishu, wecom, hlist, hid, htype, hid', htype'⟩ := connections_eq h
      change (s.repository.state.upsertConnection
        (feishuConnection clock s.repository.state)).connections.map _ = _
      rw [connect_connections clock hlist hid htype]
      simp only [List.map_cons, List.map_nil, hid, htype, hid', htype']
    | _ => exact h
  | mirror clock e =>
    rw [mirror_state, mirrorNext_eq]
    exact h
  | restart =>
    rw [restart_state hsaved]
    exact h

/-- What the entries and the targets of the next step rest on. -/
structure LogInv (s : Server) : Prop where
  coherent : Coherent s
  connected : Connected s.repository.state

theorem logInv_step (s : Server) (step : ServerStep) (h : LogInv s) :
    LogInv (serverStep s step) where
  coherent := coherent_step step h.coherent
  connected := connected_step step h.coherent.saved h.connected

/-- What the audit log of a server shows of the next step. -/
structure AuditedStep (s : Server) : Prop where
  /-- A call adds its entry and changes its target, or leaves the state as it was. -/
  call : ∀ clock (op : StoreOp), match (op.answered clock).run s with
    | .ok true t => Logged (op.action s.repository.state) s.repository.state t.repository.state ∧
      op.Target s.repository.state t.repository.state
    | .ok false t | .error _ t => t.repository.state = s.repository.state
  runStatus : ∀ clock payload, (ProductApiMirrorEvent.namedRun? ⟨.runStatus, payload⟩).isSome →
    (mirrorRealtimeEventToProductApiRepository clock ⟨.runStatus, payload⟩).Returns s.repository →
    ∃ action, Logged action s.repository.state
      (serverStep s (.mirror clock ⟨.runStatus, payload⟩)).repository.state
  toolStatus : ∀ clock payload, (ProductApiMirrorEvent.namedRun? ⟨.toolStatus, payload⟩).isSome →
    ∃ action, Logged action s.repository.state
      (serverStep s (.mirror clock ⟨.toolStatus, payload⟩)).repository.state
  approval : ∀ clock (e : ProductApiMirrorEvent), e.event.isApproval → e.payload.isObject →
    ∃ action, Logged action s.repository.state (serverStep s (.mirror clock e)).repository.state
  other : ∀ clock (e : ProductApiMirrorEvent),
    e.event ∈ [.chat, .sessionMessage, .sessionsChanged] →
    (serverStep s (.mirror clock e)).repository.state.auditEvents = s.repository.state.auditEvents
  /-- No step removes or alters an entry. -/
  grows : ∀ step,
    s.repository.state.auditEvents <:+ (serverStep s step).repository.state.auditEvents

section

variable {s : Server} {clock : Clock} {e : ProductApiMirrorEvent}

/-- A mirrored event with an entry to write adds that one. -/
theorem logged_of_audit {entry : String × AuditLevel}
    (h : e.audit? (e.runWritten clock s.repository.state) = some entry) :
    ∃ action, Logged action s.repository.state
      (serverStep s (.mirror clock e)).repository.state := by
  rw [mirror_state, mirrorNext_eq, mirrorAudit?, h]
  exact ⟨_, _, rfl, rfl⟩

theorem unlogged_of_audit (h : e.audit? (e.runWritten clock s.repository.state) = none) :
    (serverStep s (.mirror clock e)).repository.state.auditEvents =
      s.repository.state.auditEvents := by
  rw [mirror_state, mirrorNext_eq, mirrorAudit?, h]
  rfl

/-- An event that names a run has an object as its payload. -/
theorem isObject_of_namedRun (h : e.namedRun?.isSome) : e.payload.isObject = true := by
  unfold ProductApiMirrorEvent.namedRun? at h
  by_contra hp
  rw [if_neg hp] at h
  cases h

theorem auditedStep_of_inv (h : LogInv s) : AuditedStep s where
  call := by
    intro clock op
    rcases run_answered clock op s with ⟨e, he, hrun⟩ | ⟨-, hrun | ⟨x, hrun⟩⟩
    · rw [hrun]
      dsimp only
      rw [commit_state, allot_repository]
      refine ⟨⟨buildAuditEvent clock 2 (op.allot s).auditCounter e.action .info,
        action_of_effect he, ?_⟩, target_of_effect he h.connected _⟩
      exact congrArg _ (auditEvents_effect he s.repository.state)
    · rw [hrun]
      exact congrArg _ (consume_repository op s)
    · rw [hrun]
      exact congrArg _ (consume_repository op s)
  runStatus := by
    intro clock payload hid hreturns
    have hgood := (returns_mirror clock _ _).1 hreturns
    rcases @runWritten_of_good clock _ _ hgood with ⟨hnone, -⟩ | ⟨input, run, -, -, hsome⟩
    · rw [hnone] at hid
      cases hid
    · refine @logged_of_audit s clock _ ("runtime.run." ++ run.status.text, .info) ?_
      rw [hsome, ProductApiMirrorEvent.audit?, if_pos (isObject_of_namedRun hid)]
      rfl
  toolStatus := by
    intro clock payload hid
    have hgood : ¬ ProductApiMirrorEvent.BadTime s.repository.state ⟨.toolStatus, payload⟩ :=
      fun hbad => hbad.2.2
    rcases @runWritten_of_good clock _ _ hgood with ⟨hnone, -⟩ | ⟨input, run, -, -, hsome⟩
    · rw [hnone] at hid
      cases hid
    · refine @logged_of_audit s clock _
        ("runtime.tool." ++ (stringField payload ["phase"]).getD "unknown", .info) ?_
      rw [hsome, ProductApiMirrorEvent.audit?, if_pos (isObject_of_namedRun hid)]
      rfl
  approval := by
    intro clock e happroval hobject
    have haudit : ∃ entry, e.audit? (e.runWritten clock s.repository.state) = some entry := by
      unfold ProductApiMirrorEvent.audit?
      rw [if_pos hobject]
      cases hevent : e.event <;> rw [hevent] at happroval <;>
        first | exact ⟨_, rfl⟩ | cases happroval
    obtain ⟨entry, hentry⟩ := haudit
    exact logged_of_audit hentry
  other := by
    intro clock e hother
    refine unlogged_of_audit ?_
    simp only [List.mem_cons, List.not_mem_nil, or_false] at hother
    unfold ProductApiMirrorEvent.audit?
    rcases hother with hevent | hevent | hevent <;> rw [hevent] <;> exact ite_self none
  grows := by
    intro step
    cases step with
    | call clock op =>
      refine @call_induction (fun state => s.repository.state.auditEvents <:+ state.auditEvents)
        _ _ _ (List.suffix_refl _) fun e entry he => ?_
      change _ <:+ _ :: (e.next s.repository.state).auditEvents
      rw [auditEvents_effect he]
      exact List.suffix_cons _ _
    | mirror clock e =>
      rw [mirror_state, mirrorNext_eq]
      exact List.suffix_append _ _
    | restart =>
      rw [restart_state h.coherent.saved]
      exact List.suffix_refl _

end

/-- In every state that a server reaches: a call that succeeds adds exactly one entry with its
action at the front of the log and changes its target alone, any other call changes nothing; a
mirrored event about a run or a tool that names a run and from which the mirror returns, and an
approval event with an object as its payload, adds exactly one entry, a chat or session event none;
and no step removes or alters an entry. -/
theorem audit_log (steps : List ServerStep) : AuditedStep (run serverStep initialServer steps) := by
  have hinit : LogInv initialServer := ⟨coherent_initial, rfl⟩
  exact auditedStep_of_inv (run_of_step logInv_step hinit steps)

/-- The log of a whole life: what one state shows, every later state still shows. -/
theorem auditEvents_run (steps later : List ServerStep) :
    (run serverStep initialServer steps).repository.state.auditEvents <:+
      (run serverStep initialServer (steps ++ later)).repository.state.auditEvents := by
  have hinit : LogInv initialServer := ⟨coherent_initial, rfl⟩
  rw [run_append]
  have hinv := run_of_step logInv_step hinit steps
  generalize run serverStep initialServer steps = s at hinv ⊢
  induction later generalizing s with
  | nil => exact List.suffix_refl _
  | cons step later ih =>
    exact ((auditedStep_of_inv hinv).grows step).trans (ih _ (logInv_step s step hinv))

/-- An approval event whose payload is `null` adds no entry. -/
theorem approval_unlogged :
    ¬ ∃ action, Logged action initialServer.repository.state
      (serverStep initialServer (.mirror (fun _ => 0)
        ⟨.approvalRequested, .null⟩)).repository.state := by
  rintro ⟨action, entry, -, h⟩
  exact List.cons_ne_self entry _ h.symm

end Vertx
