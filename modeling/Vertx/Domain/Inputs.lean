import Vertx.Js.Program
import Vertx.Domain.Types
import Vertx.Domain.Server

/-!
# What the store copies from its inputs

The settings, the knowledge sources and the automations hold values that come from a request as
they are.  Every operation writes them with its first mutation, so a disk that fails changes nothing
about them, and a call keeps the state well typed exactly when what it copies is well typed.
-/

namespace Vertx

open Repository Store JsM

/-- The parts of the state that hold values copied from requests. -/
def copied (state : ProductApiState) :
    SettingsDetail × List KnowledgeSourceSummary × List AutomationSummary :=
  (state.settings, state.knowledgeSources, state.automations)

theorem wellTyped_congr {state state' : ProductApiState} (h : copied state = copied state') :
    WellTyped state ↔ WellTyped state' := by
  obtain ⟨hs, hrest⟩ := Prod.mk.inj h
  obtain ⟨hk, ha⟩ := Prod.mk.inj hrest
  rw [wellTyped_iff, wellTyped_iff, hs, hk, ha]

section

variable {δ : Type} [Persist δ] {α : Type}

/-- The parts of a store's state that hold values copied from requests. -/
def Store.copied (s : Store δ) :
    SettingsDetail × List KnowledgeSourceSummary × List AutomationSummary :=
  Vertx.copied s.repository.state

/-- The mutation is made whether or not the write that follows it throws. -/
theorem stateAfter_mutate (f : ProductApiState → ProductApiState) (r : Repository δ) :
    (mutate f).stateAfter r = r.update f := by
  unfold stateAfter EStateM.run mutate
  cases (Persist.persist (f r.state) r.disk).1 <;> rfl

omit [Persist δ] in
theorem run_onRepository (p : RepoM δ α) (s : Store δ) :
    (onRepository p).run s = match p.run s.repository with
      | .ok a r => .ok a { s with repository := r }
      | .error e r => .error e { s with repository := r } := rfl

omit [Persist δ] in
theorem stateAfter_onRepository (p : RepoM δ α) (s : Store δ) :
    (onRepository p).stateAfter s = { s with repository := p.stateAfter s.repository } := by
  unfold stateAfter
  rw [run_onRepository]
  cases p.run s.repository <;> rfl

theorem copied_mutate (f : ProductApiState → ProductApiState) (s : Store δ) :
    ((onRepository (mutate f)).stateAfter s).copied = copied (f s.repository.state) := by
  rw [stateAfter_onRepository, stateAfter_mutate]
  rfl

theorem keeps_mutate {f : ProductApiState → ProductApiState}
    (hf : ∀ state, copied (f state) = copied state) :
    Keeps Store.copied (onRepository (mutate f) : StoreM δ Unit) := by
  intro s
  rw [copied_mutate, hf]
  rfl

theorem keeps_appendAuditEvent (clock : Clock) (action : String) (level : AuditLevel) :
    Keeps Store.copied (appendAuditEvent clock action level : StoreM δ Unit) := by
  refine Keeps.bind (fun _ => rfl) fun id => ?_
  exact keeps_mutate fun _ => rfl

theorem keeps_createRunFromWorkflow (clock : Clock) (workflow : WorkflowDetail) (action : String) :
    Keeps Store.copied
      (createRunFromWorkflow clock workflow action : StoreM δ WorkflowRunDetail) := by
  refine Keeps.bind (fun _ => rfl) fun counter => ?_
  refine Keeps.bind (keeps_mutate fun _ => rfl) fun _ => ?_
  refine Keeps.bind (keeps_mutate fun _ => rfl) fun _ => ?_
  exact Keeps.bind (keeps_appendAuditEvent clock action .info) fun _ => keeps_pure _

/-- A mutation and the audit entry after it. -/
theorem copied_mutate_audit (f : ProductApiState → ProductApiState) (clock : Clock)
    (action : String) (a : α) (s : Store δ) :
    (((onRepository (mutate f)) >>= fun _ =>
      appendAuditEvent clock action .info >>= fun _ => (pure a : StoreM δ α)).stateAfter s).copied =
      copied (f s.repository.state) := by
  have hrest : ∀ _ : Unit, Keeps Store.copied
      (appendAuditEvent clock action .info >>= fun _ => (pure a : StoreM δ α)) :=
    fun _ => Keeps.bind (keeps_appendAuditEvent clock action .info) fun _ => keeps_pure _
  exact (Keeps.after hrest _ s).trans (copied_mutate f s)

/-- What a call leaves in the parts copied from requests, also when a write throws. -/
theorem copied_perform (clock : Clock) (op : StoreOp) (s : Store δ) :
    ((op.perform clock).stateAfter s).copied =
      match op.effect clock s with
      | some e => copied (e.next s.repository.state)
      | none => s.copied := by
  cases op with
  | createWorkflow input =>
    have hkeeps :
        Keeps Store.copied (Store.createWorkflow clock input : StoreM δ WorkflowDetail) := by
      refine Keeps.bind (fun _ => rfl) fun counter => ?_
      refine Keeps.bind (keeps_ofExcept _) fun workflow => ?_
      refine Keeps.bind (keeps_mutate fun _ => rfl) fun _ => ?_
      exact Keeps.bind (keeps_appendAuditEvent clock _ _) fun _ => keeps_pure _
    rw [StoreOp.perform, stateAfter_discard, hkeeps, StoreOp.effect]
    cases newWorkflow clock ("wf-" ++ s.workflowCounter.repr) input <;> rfl
  | startWorkflowRun workflowId =>
    rw [StoreOp.perform, stateAfter_discard, Store.startWorkflowRun, stateAfter_bind,
      run_onRepository_read, StoreOp.effect]
    cases s.repository.state.getWorkflowDetail workflowId with
    | none => rfl
    | some workflow =>
      exact Keeps.bind (keeps_createRunFromWorkflow clock workflow _) (fun _ => keeps_pure _) s
  | retryRun runId =>
    rw [StoreOp.perform, stateAfter_discard, Store.retryRun, stateAfter_bind, run_onRepository_read,
      StoreOp.effect]
    cases s.repository.state.getRunDetail runId with
    | none => rfl
    | some run =>
      dsimp only [Option.bind_some]
      rw [stateAfter_bind, run_onRepository_read]
      cases s.repository.state.getWorkflowDetail run.workflowId with
      | none => rfl
      | some workflow =>
        exact Keeps.bind (keeps_createRunFromWorkflow clock workflow _) (fun _ => keeps_pure _) s
  | connectFeishu =>
    rw [StoreOp.perform, stateAfter_discard, Store.connectFeishu, stateAfter_bind,
      run_onRepository_read]
    exact copied_mutate_audit _ clock _ _ s
  | updateSettings input =>
    rw [StoreOp.perform, stateAfter_discard, Store.updateSettings, stateAfter_bind,
      run_onRepository_read]
    exact copied_mutate_audit _ clock _ _ s
  | createKnowledgeSource input =>
    rw [StoreOp.perform, stateAfter_discard, Store.createKnowledgeSource, stateAfter_bind,
      EStateM.run_modifyGet, StoreOp.effect]
    dsimp only
    rw [stateAfter_bind]
    cases newKnowledgeSource clock ("knowledge-" ++ s.knowledgeCounter.repr) input with
    | error e => rfl
    | ok source =>
      exact copied_mutate_audit _ clock _ _ { s with knowledgeCounter := s.knowledgeCounter + 1 }
  | createAutomation input =>
    rw [StoreOp.perform, stateAfter_discard, Store.createAutomation, stateAfter_bind,
      EStateM.run_modifyGet, StoreOp.effect]
    dsimp only
    rw [stateAfter_bind]
    cases newAutomation clock ("automation-" ++ s.automationCounter.repr) input with
    | error e => rfl
    | ok automation =>
      exact copied_mutate_audit _ clock _ _ { s with automationCounter := s.automationCounter + 1 }
  | toggleAutomation automationId =>
    rw [StoreOp.perform, stateAfter_discard, Store.toggleAutomation, stateAfter_bind,
      run_onRepository_read, StoreOp.effect]
    cases s.repository.state.getAutomation automationId with
    | none => rfl
    | some automation => exact copied_mutate_audit _ clock _ _ s
  | runAutomation automationId =>
    rw [StoreOp.perform, stateAfter_discard, Store.runAutomation, stateAfter_bind,
      run_onRepository_read, StoreOp.effect]
    cases s.repository.state.getAutomation automationId with
    | none => rfl
    | some automation => exact copied_mutate_audit _ clock _ _ s

/-- A call that finds nothing to act on or throws before its first write performs none. -/
theorem stateAfter_of_none {clock : Clock} {op : StoreOp} {s : Store δ}
    (h : op.effect clock s = none) : (op.perform clock).stateAfter s = op.consume s := by
  cases op with
  | createWorkflow input =>
    rw [StoreOp.perform, stateAfter_discard, Store.createWorkflow, stateAfter_bind,
      EStateM.run_modifyGet]
    dsimp only
    rw [stateAfter_bind]
    cases hnew : newWorkflow clock ("wf-" ++ s.workflowCounter.repr) input with
    | error e => rfl
    | ok workflow => rw [StoreOp.effect, hnew] at h; cases h
  | startWorkflowRun workflowId =>
    rw [StoreOp.perform, stateAfter_discard, Store.startWorkflowRun, stateAfter_bind,
      run_onRepository_read, Option.map_eq_none_iff.1 h]
    rfl
  | retryRun runId =>
    rw [StoreOp.perform, stateAfter_discard, Store.retryRun, stateAfter_bind, run_onRepository_read]
    have hbind := Option.map_eq_none_iff.1 h
    cases hrun : s.repository.state.getRunDetail runId with
    | none => rfl
    | some run =>
      rw [hrun, Option.bind_some] at hbind
      dsimp only
      rw [stateAfter_bind, run_onRepository_read, hbind]
      rfl
  | connectFeishu => cases h
  | updateSettings input => cases h
  | createKnowledgeSource input =>
    rw [StoreOp.perform, stateAfter_discard, Store.createKnowledgeSource, stateAfter_bind,
      EStateM.run_modifyGet]
    dsimp only
    rw [stateAfter_bind]
    cases hnew : newKnowledgeSource clock ("knowledge-" ++ s.knowledgeCounter.repr) input with
    | error e => rfl
    | ok source => rw [StoreOp.effect, hnew] at h; cases h
  | createAutomation input =>
    rw [StoreOp.perform, stateAfter_discard, Store.createAutomation, stateAfter_bind,
      EStateM.run_modifyGet]
    dsimp only
    rw [stateAfter_bind]
    cases hnew : newAutomation clock ("automation-" ++ s.automationCounter.repr) input with
    | error e => rfl
    | ok automation => rw [StoreOp.effect, hnew] at h; cases h
  | toggleAutomation automationId =>
    rw [StoreOp.perform, stateAfter_discard, Store.toggleAutomation, stateAfter_bind,
      run_onRepository_read, Option.map_eq_none_iff.1 h]
    rfl
  | runAutomation automationId =>
    rw [StoreOp.perform, stateAfter_discard, Store.runAutomation, stateAfter_bind,
      run_onRepository_read, Option.map_eq_none_iff.1 h]
    rfl

end

/-! ## Inputs with their declared types -/

open TsType in
/-- What a call copies from its input has the declared type.  An input whose name cannot be read is
rejected before anything is copied. -/
def StoreOp.inputTyped : StoreOp → Bool
  | updateSettings input => hasPartial settingsDetailFields input.spread
  | createKnowledgeSource input =>
    !input.readable "name" ||
      ((input.field "sourceType").isNullish || sourceType.has (input.field "sourceType"))
  | createAutomation input =>
    !input.readable "name" ||
      ((input.field "triggerType").isNullish || triggerType.has (input.field "triggerType"))
  | _ => true

/-- Nothing is copied from an input that is rejected. -/
theorem inputTyped_of_rejected {op : StoreOp} {state : ProductApiState}
    (h : op.accepted state = false) : op.inputTyped = true := by
  cases op with
  | createKnowledgeSource input | createAutomation input =>
    have hname : input.readable "name" = false := h
    rw [StoreOp.inputTyped, hname]
    rfl
  | updateSettings input => cases h
  | _ => rfl

theorem newKnowledgeSource_sourceType {clock : Clock} {id : String} {input : JsValue}
    {source : KnowledgeSourceSummary} (h : newKnowledgeSource clock id input = .ok source) :
    source.sourceType = (input.field "sourceType").orElse (.str "web-upload") := by
  unfold newKnowledgeSource JsValue.get at h
  cases hn : trimmedOr input "name" ("未命名知识源 " ++ id) with
  | error e => rw [hn] at h; cases h
  | ok name =>
    rw [hn] at h
    split_ifs at h
    · cases h
    · cases h; rfl

theorem newAutomation_triggerType {clock : Clock} {id : String} {input : JsValue}
    {automation : AutomationSummary} (h : newAutomation clock id input = .ok automation) :
    automation.triggerType = (input.field "triggerType").orElse (.str "schedule") := by
  unfold newAutomation JsValue.get at h
  split_ifs at h
  · cases h
  · cases hn : trimmedOr input "name" ("未命名自动化 " ++ id) with
    | error e => dsimp [bind, Except.bind] at h; rw [hn] at h; cases h
    | ok name => dsimp [bind, Except.bind] at h; rw [hn] at h; cases h; rfl

/-- Replacing an automation by one with the same trigger type keeps the state well typed. -/
theorem WellTyped.upsertAutomation {state : ProductApiState} (h : WellTyped state)
    {old automation : AutomationSummary} (hold : old ∈ state.automations)
    (htype : automation.triggerType = old.triggerType) :
    WellTyped (state.upsertAutomation automation) := by
  obtain ⟨hs, hk, ha⟩ := (wellTyped_iff state).1 h
  refine (wellTyped_iff _).2 ⟨hs, hk, fun a hmem => ?_⟩
  rcases Keyed.mem_upsertFirst (fun a : AutomationSummary => a.id) hmem with
    hmem | rfl | ⟨b, -, -, rfl⟩
  · exact ha a hmem
  · rw [htype]
    exact ha old hold
  · rw [htype]
    exact ha old hold

section

variable {δ : Type} {clock : Clock} {op : StoreOp} {s : Store δ} {e : StoreEffect}

/-- A call that succeeds keeps the state well typed exactly when its input has its declared type. -/
theorem wellTyped_effect_iff (he : op.effect clock s = some e) (h : WellTyped s.repository.state) :
    WellTyped (e.next s.repository.state) ↔ op.inputTyped := by
  have haccepted : op.accepted s.repository.state := by rw [← isSome_effect clock, he]; rfl
  have hkept (next : ProductApiState) (hnext : copied next = copied s.repository.state) :
      WellTyped next := (wellTyped_congr hnext).2 h
  obtain ⟨hs, hk, ha⟩ := (wellTyped_iff _).1 h
  cases does_of_effect he with
  | createWorkflow | startWorkflowRun | retryRun | connectFeishu =>
    exact iff_of_true (hkept _ rfl) rfl
  | updateSettings =>
    rw [wellTyped_iff]
    exact (and_iff_left ⟨hk, ha⟩).trans (TsType.has_merge_iff hs)
  | @createKnowledgeSource input source hnew =>
    have hname : input.readable "name" = true := haccepted
    have hdefault : TsType.sourceType.has (.str "web-upload") := rfl
    rw [wellTyped_iff, StoreOp.inputTyped, hname, Bool.not_true, Bool.false_or,
      ← TsType.has_orElse hdefault, ← newKnowledgeSource_sourceType hnew]
    exact ⟨fun ⟨_, hks, _⟩ => hks source List.mem_cons_self,
      fun hsource => ⟨hs, List.forall_mem_cons.2 ⟨hsource, hk⟩, ha⟩⟩
  | @createAutomation input automation hnew =>
    have hname : input.readable "name" = true := haccepted
    have hdefault : TsType.triggerType.has (.str "schedule") := rfl
    rw [wellTyped_iff, StoreOp.inputTyped, hname, Bool.not_true, Bool.false_or,
      ← TsType.has_orElse hdefault, ← newAutomation_triggerType hnew]
    exact ⟨fun ⟨_, _, has⟩ => has automation List.mem_cons_self,
      fun htrigger => ⟨hs, hk, List.forall_mem_cons.2 ⟨htrigger, ha⟩⟩⟩
  | toggleAutomation hget =>
    exact iff_of_true (h.upsertAutomation (List.mem_of_find?_eq_some hget) rfl) rfl
  | runAutomation hget =>
    exact iff_of_true (h.upsertAutomation (List.mem_of_find?_eq_some hget) rfl) rfl

end

end Vertx
