import Vertx.Domain.Server

/-!
# The id generators of the server

The ids in each list of the server form an allocator of numbered identifiers: the store hands out
the numbers of a private counter, the mirror adds run ids from upstream and audit ids numbered by
the list's length, a restart seeds the counters again.  `view_step` says that every step of the
server is one of these actions, and the results on distinct ids are read off from the allocators.
-/

namespace Vertx

open Repository Runs Numbered Keyed

/-- The lists whose entries get generated ids. -/
inductive IdKind
  | workflow
  | run
  | knowledge
  | automation
  | audit
  deriving DecidableEq, Repr

namespace IdKind

/-- The `n`-th generated id of a kind. -/
def label : IdKind → ℕ → String
  | workflow, n => "wf-" ++ n.repr
  | run, n => "run-" ++ n.repr
  | knowledge, n => "knowledge-" ++ n.repr
  | automation, n => "automation-" ++ n.repr
  | audit, n => "audit-" ++ n.repr

/-- The ids in use. -/
def ids (state : ProductApiState) : IdKind → List String
  | workflow => state.workflows.map (·.id)
  | run => state.runDetails.map (·.id)
  | knowledge => state.knowledgeSources.map (·.id)
  | automation => state.automations.map (·.id)
  | audit => state.auditEvents.map (·.id)

/-- The store's counter. -/
def counter {δ : Type} (s : Store δ) : IdKind → ℕ
  | workflow => s.workflowCounter
  | run => s.runCounter
  | knowledge => s.knowledgeCounter
  | automation => s.automationCounter
  | audit => s.auditCounter

/-- The allocator of a kind. -/
def view {δ : Type} (k : IdKind) (s : Store δ) : Allocator String :=
  ⟨k.ids s.repository.state, k.counter s⟩

theorem label_injective (k : IdKind) : Function.Injective k.label := by
  intro m n h
  cases k <;> exact Nat.repr_inj.1 ((String.append_right_inj _).1 h)

end IdKind

/-- The kind of entity that a call creates, besides the audit entry. -/
def StoreOp.kind : StoreOp → Option IdKind
  | createWorkflow _ => some .workflow
  | startWorkflowRun _ | retryRun _ => some .run
  | createKnowledgeSource _ => some .knowledge
  | createAutomation _ => some .automation
  | _ => none

/-- What a step of the server does to the ids of a kind. -/
def idAction (k : IdKind) (s : Server) : ServerStep → Action String
  | .call _ op =>
    if op.accepted s.repository.state then
      if k = .audit ∨ op.kind = some k then .accept else .idle
    else if k ≠ .run ∧ op.kind = some k then .reject else .idle
  | .mirror clock e =>
    match k with
    | .run =>
      match e.runWritten clock s.repository.state with
      | some run => if run.id ∈ k.ids s.repository.state then .idle else .insert run.id
      | none => .idle
    | .audit =>
      match mirrorAudit? clock s.repository.state e with
      | some entry => .insert entry.id
      | none => .idle
    | _ => .idle
  | .restart => .restart

/-- Stamping a workflow keeps all ids. -/
theorem ids_lastRunAt (state : ProductApiState) (workflowId lastRunAt : String) (k : IdKind) :
    k.ids (state.updateWorkflowLastRunAt workflowId lastRunAt) = k.ids state := by
  cases k with
  | workflow =>
    simp only [IdKind.ids, ProductApiState.updateWorkflowLastRunAt]
    refine map_modifyFirst _ _ _ (fun _ _ => ?_) _
    rfl
  | _ => rfl

/-- The ids that a successful call adds, besides the audit entry. -/
theorem ids_next {clock : Clock} {s : Server} {op : StoreOp} {e : StoreEffect}
    (he : op.effect clock s = some e) (k : IdKind) :
    k.ids (e.next s.repository.state) =
      if op.kind = some k then k.label (k.counter s) :: k.ids s.repository.state
      else k.ids s.repository.state := by
  have upsert (automation : AutomationSummary) {automationId : String} {old : AutomationSummary}
      (ho : s.repository.state.getAutomation automationId = some old)
      (hid : automation.id = old.id) :
      (upsertFirst (·.id) (fun _ => automation) automation s.repository.state.automations).map
        (·.id) = s.repository.state.automations.map (·.id) := by
    rw [map_key_upsertFirst _ (fun _ _ => rfl), if_pos]
    rw [hid]
    exact List.mem_map.2 ⟨old, List.mem_of_find?_eq_some ho, rfl⟩
  cases does_of_effect he with
  | createWorkflow h =>
    cases k with
    | workflow => exact congrArg (List.cons · _) (newWorkflow_id h)
    | _ => rfl
  | startWorkflowRun h =>
    simp only [StoreEffect.next, runEffect, List.foldl_cons, List.foldl_nil, ids_lastRunAt]
    cases k <;> rfl
  | retryRun hr hw =>
    simp only [StoreEffect.next, runEffect, List.foldl_cons, List.foldl_nil, ids_lastRunAt]
    cases k <;> rfl
  | connectFeishu => cases k <;> rfl
  | updateSettings => cases k <;> rfl
  | createKnowledgeSource h =>
    cases k with
    | knowledge => exact congrArg (List.cons · _) (newKnowledgeSource_id h)
    | _ => rfl
  | createAutomation h =>
    cases k with
    | automation => exact congrArg (List.cons · _) (newAutomation_id h)
    | _ => rfl
  | toggleAutomation h =>
    cases k with
    | automation => exact upsert _ h rfl
    | _ => rfl
  | runAutomation h =>
    cases k with
    | automation => exact upsert _ h rfl
    | _ => rfl

/-- The ids after a mirrored event. -/
theorem ids_mirror (clock : Clock) (state : ProductApiState) (e : ProductApiMirrorEvent)
    (k : IdKind) :
    k.ids (mirrorNext clock state e) =
      match k with
      | .run =>
        match e.runWritten clock state with
        | some run => if run.id ∈ k.ids state then k.ids state else run.id :: k.ids state
        | none => k.ids state
      | .audit =>
        match mirrorAudit? clock state e with
        | some entry => entry.id :: k.ids state
        | none => k.ids state
      | _ => k.ids state := by
  rw [mirrorNext_eq]
  cases k with
  | run =>
    simp only [IdKind.ids]
    cases e.runWritten clock state with
    | none => rfl
    | some run => exact map_key_upsertFirst _ (fun _ _ => rfl)
  | audit =>
    simp only [IdKind.ids]
    cases mirrorAudit? clock state e <;> rfl
  | _ => rfl

theorem counter_commit {δ : Type} [Persist δ] (clock : Clock) (s : Store δ) (op : StoreOp)
    (e : StoreEffect) (k : IdKind) :
    k.counter ((op.allot s).commit clock e) =
      if k = .audit ∨ op.kind = some k then k.counter s + 1 else k.counter s := by
  cases k <;> cases op <;> rfl

theorem counter_consume {δ : Type} (s : Store δ) (op : StoreOp) (k : IdKind) :
    k.counter (op.consume s) =
      if k ≠ .run ∧ op.kind = some k then k.counter s + 1 else k.counter s := by
  cases k <;> cases op <;> rfl

/-- Serialising the state keeps all ids. -/
theorem ids_wire (state : ProductApiState) (k : IdKind) : k.ids state.wire = k.ids state := by
  cases k <;> simp [IdKind.ids, ProductApiState.wire, Function.comp_def]

/-- Every step of the server is a step of each of its allocators. -/
theorem view_step {s : Server} (hs : Coherent s) (step : ServerStep) (k : IdKind) :
    k.view (serverStep s step) = (k.view s).step k.label (idAction k s step) := by
  cases step with
  | call clock op =>
    have hacc := isSome_effect clock s op
    cases he : op.effect clock s with
    | none =>
      rw [he] at hacc
      rw [call_of_none he]
      simp only [IdKind.view, consume_repository, counter_consume, idAction, ← hacc]
      split_ifs <;> first | rfl | contradiction
    | some e =>
      rw [he] at hacc
      rw [call_of_effect he]
      have hids : k.ids ((op.allot s).commit clock e).repository.state =
          if k = .audit ∨ op.kind = some k then k.label (k.counter s) :: k.ids s.repository.state
          else k.ids s.repository.state := by
        have h := ids_next he k
        rw [commit_state, allot_repository]
        by_cases hk : k = .audit
        · subst hk
          have hop : op.kind ≠ some .audit := by cases op <;> simp [StoreOp.kind]
          rw [if_neg hop] at h
          simp only [true_or, if_true]
          rw [allot_auditCounter]
          exact congrArg (List.cons (IdKind.audit.label s.auditCounter)) h
        · simp only [hk, false_or]
          rw [← h]
          cases k <;> first | rfl | exact absurd rfl hk
      simp only [IdKind.view, counter_commit, hids, idAction, ← hacc]
      split_ifs <;> first | rfl | contradiction
  | mirror clock e =>
    have hids := ids_mirror clock s.repository.state e k
    have hc : k.counter (serverStep s (.mirror clock e)) = k.counter s := by cases k <;> rfl
    simp only [IdKind.view, hc, mirror_state, hids, idAction]
    cases k with
    | run =>
      cases e.runWritten clock s.repository.state with
      | none => rfl
      | some run =>
        dsimp only
        split_ifs <;> rfl
    | audit => cases mirrorAudit? clock s.repository.state e <;> rfl
    | _ => rfl
  | restart =>
    have hstate : (serverStep s .restart).repository.state = s.repository.state.wire := by
      change readState s.repository.disk = _
      rw [hs.saved]
      rfl
    have hc : k.counter (serverStep s .restart) = (k.ids s.repository.state).length + 1 := by
      rw [← ids_wire, ← hstate]
      have hruns := (coherent_step .restart hs).projected.runs
      cases k with
      | run =>
        have hlen := congrArg List.length hruns
        simp only [List.length_map] at hlen
        simp only [IdKind.ids, List.length_map, ← hlen]
        rfl
      | _ => simp only [IdKind.ids, List.length_map]; rfl
    simp only [IdKind.view, hc, hstate, ids_wire, idAction]
    rfl

/-- A call that hands out the next id of a kind. -/
def IdKind.post : IdKind → StoreOp
  | workflow => .createWorkflow (.obj [])
  | run => .startWorkflowRun "wf-1"
  | knowledge => .createKnowledgeSource (.obj [])
  | automation => .createAutomation (.obj [])
  | audit => .connectFeishu

/-- The workflow that the mock state starts with stays. -/
structure Startable (s : Server) : Prop extends Coherent s where
  workflow : "wf-1" ∈ IdKind.workflow.ids s.repository.state

theorem startable_step {s : Server} (step : ServerStep) (h : Startable s) :
    Startable (serverStep s step) where
  toCoherent := coherent_step step h.toCoherent
  workflow := by
    change _ ∈ (IdKind.workflow.view _).ids
    rw [view_step h.toCoherent]
    exact mem_step h.workflow _

theorem startable_initial : Startable initialServer where
  toCoherent := coherent_initial
  workflow := by decide

theorem idAction_post {s : Server} (h : Startable s) (clock : Clock) (k : IdKind) :
    idAction k s (.call clock k.post) = .accept := by
  have hw : (s.repository.state.getWorkflowDetail "wf-1").isSome := by
    have := h.workflow
    simp only [IdKind.ids, h.projected.workflows, List.map_map, List.mem_map] at this
    obtain ⟨workflow, hmem, hid⟩ := this
    exact List.find?_isSome.2 ⟨workflow, hmem, by simpa using hid⟩
  cases k with
  | run => simp only [idAction, IdKind.post, StoreOp.accepted, hw, if_true, StoreOp.kind, or_true]
  | _ => rfl

/-- Repeating the call hands out the numbers of the counter. -/
theorem view_posts (clock : Clock) (k : IdKind) (n : ℕ) {s : Server} (hs : Startable s) :
    k.view (run serverStep s (List.replicate n (.call clock k.post))) =
      run (Allocator.step k.label) (k.view s) (List.replicate n .accept) := by
  induction n generalizing s with
  | zero => rfl
  | succ n ih =>
    rw [List.replicate_succ, List.replicate_succ, run_cons, run_cons, ih (startable_step _ hs),
      view_step hs.toCoherent, idAction_post hs]

/-- The mock state numbers the entries of each list `1` and `2`. -/
theorem view_initial (k : IdKind) : k.view initialServer = ⟨[k.label 1, k.label 2], 3⟩ := by
  cases k <;> decide

theorem fresh_initial (k : IdKind) : Fresh k.label (k.view initialServer) := by
  rw [view_initial]
  refine ⟨?_, fun n hn => ?_⟩
  · simpa using k.label_injective.ne (by decide : (1 : ℕ) ≠ 2)
  · simp only [List.mem_cons, k.label_injective.eq_iff, List.not_mem_nil, or_false] at hn
    dsimp only
    omega

end Vertx
