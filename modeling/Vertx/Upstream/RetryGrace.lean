import Vertx.Upstream.ToolRecipients

/-!
# The grace of a failed run

A run that fails may be tried again under its id.  Its error waits for 15 seconds; every other event
of the run in the meantime takes it back.  `pending_run` says exactly which errors wait after a run
of acts, and `timer_run` that a timer acts only on runs that failed 15 seconds before and were
silent since.
-/

namespace Vertx

namespace GatewayChat

open Runs

/-- The act is an event of the run. -/
def EventOf (r : String) (i : ChatInput) : Prop :=
  match i.act with
  | .emit runId _ _ _ => runId = r
  | _ => False

/-- The act is the error of a run that is not aborted, and lets `pending` wait. -/
def Schedules (r : String) (pending : PendingLifecycleError) (g : GatewayChat) (i : ChatInput) :
    Prop :=
  match i.act with
  | .emit runId stream data sessionKey =>
    runId = r ∧
      (g.agentEvents.enriched i.view.now runId stream data sessionKey).lifecyclePhase? =
        some "error" ∧
      g.isAbortedRun runId = false ∧
      pending = ⟨g.agentEvents.enriched i.view.now runId stream data sessionKey,
        g.skipsChatError (g.agentEvents.enriched i.view.now runId stream data sessionKey),
        i.view.now + lifecycleErrorRetryGraceMs⟩
  | _ => False

/-- An event of the run, or its timer once the error has waited for long enough. -/
def Cancels (r : String) (pending : PendingLifecycleError) (i : ChatInput) : Prop :=
  EventOf r i ∨ (i.act = .timer r ∧ pending.dueAt ≤ i.view.now)

section

variable (rules : ReplyTextRules) (view : ChatView) (evt : AgentEventPayload) {r : String}
  (g : GatewayChat)

theorem get?_pending_received (hr : r ≠ evt.runId) :
    (g.received view evt).pendingTerminalLifecycleErrors.get? r =
      g.pendingTerminalLifecycleErrors.get? r := by
  obtain ⟨agentEvents, sessionKeyCache, -, hstate⟩ := linked_state view g evt
  unfold received
  rw [hstate]
  show (pendingAfter _ evt).get? r = _
  unfold pendingAfter
  split_ifs
  · rfl
  · exact OrderedMap.get?_delete_of_ne hr

theorem get?_pending_handle_of_ne (hr : r ≠ evt.runId) :
    (g.handleAgentEvent rules view evt).pendingTerminalLifecycleErrors.get? r =
      g.pendingTerminalLifecycleErrors.get? r := by
  rw [← get?_pending_received view evt g hr]
  rcases handle_cases rules view g evt with ⟨-, h⟩ | ⟨-, h⟩ | ⟨-, -, h⟩
  · rw [h.pending]
  · rw [h.pending, pending_ended, OrderedMap.get?_delete_of_ne hr]
  · rw [h.pending]
    show (OrderedMap.set (OrderedMap.delete _ evt.runId) evt.runId _).get? r = _
    rw [OrderedMap.get?_set_of_ne hr, OrderedMap.get?_delete_of_ne hr]

/-- After an event of a run only its own error waits. -/
theorem get?_pending_handle_self :
    (g.handleAgentEvent rules view evt).pendingTerminalLifecycleErrors.get? evt.runId =
      if evt.lifecyclePhase? = some "error" ∧ g.isAbortedRun evt.runId = false then
        some ⟨evt, g.skipsChatError evt, view.now + lifecycleErrorRetryGraceMs⟩
      else none := by
  rcases handle_cases rules view g evt with ⟨hnot, h⟩ | ⟨hends, h⟩ | ⟨herror, hlive, h⟩
  · have hnoError : evt.lifecyclePhase? ≠ some "error" := fun h' => hnot (.inr h')
    obtain ⟨agentEvents, sessionKeyCache, -, hstate⟩ := linked_state view g evt
    rw [if_neg fun h' => hnoError h'.1, h.pending]
    unfold received
    rw [hstate]
    show (pendingAfter _ evt).get? evt.runId = none
    unfold pendingAfter
    rw [if_neg hnoError, OrderedMap.get?_delete_self]
  · rw [h.pending, pending_ended, OrderedMap.get?_delete_self, if_neg]
    rintro ⟨herror, hlive⟩
    rcases hends with hends | ⟨-, habort⟩
    · rw [herror] at hends
      simp at hends
    · rw [hlive] at habort
      cases habort
  · rw [h.pending, if_pos ⟨herror, hlive⟩]
    exact OrderedMap.get?_set_self _ _ _

end

theorem get?_pending_emit (rules : ReplyTextRules) (view : ChatView) (runId stream : String)
    (data : JsValue) (sessionKey : Option String) (r : String) (g : GatewayChat)
    (pending : PendingLifecycleError) :
    (g.emitAgentEvent rules view runId stream data
        sessionKey).pendingTerminalLifecycleErrors.get? r = some pending ↔
      Schedules r pending g ⟨view, .emit runId stream data sessionKey⟩ ∨
        (g.pendingTerminalLifecycleErrors.get? r = some pending ∧ runId ≠ r) := by
  by_cases hr : r = runId
  · subst hr
    have hself : (g.emitAgentEvent rules view r stream data
        sessionKey).pendingTerminalLifecycleErrors.get? r = _ := get?_pending_handle_self rules view
      (g.agentEvents.enriched view.now r stream data sessionKey) (g.counted view.now r)
    rw [hself]
    simp only [Schedules, ne_eq, not_true_eq_false, and_false, or_false, true_and]
    split_ifs with h
    · rw [Option.some.injEq, @eq_comm _ _ pending]
      exact ⟨fun h' => ⟨h.1, h.2, h'⟩, fun h' => h'.2.2⟩
    · exact ⟨fun h' => absurd h' (by simp), fun h' => absurd ⟨h'.1, h'.2.1⟩ h⟩
  · have hne : (g.emitAgentEvent rules view runId stream data
        sessionKey).pendingTerminalLifecycleErrors.get? r =
          g.pendingTerminalLifecycleErrors.get? r :=
      get?_pending_handle_of_ne rules view
        (g.agentEvents.enriched view.now runId stream data sessionKey) (g.counted view.now runId) hr
    have hr' : runId ≠ r := fun h => hr h.symm
    rw [hne]
    simp [Schedules, hr']

theorem Schedules.event {r : String} {pending : PendingLifecycleError} {g : GatewayChat}
    {i : ChatInput} (h : Schedules r pending g i) :
    EventOf r i ∧ pending.event.runId = r ∧ Ends pending.event ∧
      pending.dueAt = i.view.now + lifecycleErrorRetryGraceMs := by
  unfold Schedules at h
  unfold EventOf
  split at h
  · obtain ⟨rfl, herror, -, rfl⟩ := h
    exact ⟨rfl, rfl, .inr herror, rfl⟩
  · exact h.elim

theorem get?_pending_timer (rules : ReplyTextRules) (view : ChatView) (runId r : String)
    (g : GatewayChat) (hkeys : ∀ r pending, g.pendingTerminalLifecycleErrors.get? r = some pending →
      pending.event.runId = r)
    (pending : PendingLifecycleError) :
    (g.firePendingLifecycleError rules view runId).pendingTerminalLifecycleErrors.get? r =
        some pending ↔
      g.pendingTerminalLifecycleErrors.get? r = some pending ∧
        ¬ (runId = r ∧ pending.dueAt ≤ view.now) := by
  unfold firePendingLifecycleError
  cases hfired : g.pendingTerminalLifecycleErrors.get? runId with
  | none =>
    refine ⟨fun h => ⟨h, ?_⟩, fun h => h.1⟩
    rintro ⟨rfl, -⟩
    rw [hfired] at h
    cases h
  | some fired =>
    dsimp only
    have hkey := hkeys runId fired hfired
    split_ifs with hdue
    · have hstate : (((g.clearPendingTerminalLifecycleError runId).finalizeLifecycleEvent rules view
          fired.event fired.skipChatErrorFinal).pendingTerminalLifecycleErrors.get? r) =
          if r = runId then none else g.pendingTerminalLifecycleErrors.get? r := by
        by_cases hends : Ends fired.event
        · rw [(onlyTexts_finalize rules view _ hends _).pending, pending_ended, hkey]
          show ((g.pendingTerminalLifecycleErrors.delete runId).delete runId).get? r = _
          rw [OrderedMap.get?_delete, OrderedMap.get?_delete]
          split_ifs <;> rfl
        · rw [finalize_of_not rules view _ hends]
          exact OrderedMap.get?_delete _ _ _
      rw [hstate]
      split_ifs with hr
      · subst hr
        rw [hfired, Option.some.injEq]
        refine ⟨fun h => absurd h (by simp), ?_⟩
        rintro ⟨rfl, h⟩
        exact absurd ⟨rfl, hdue⟩ h
      · exact ⟨fun h => ⟨h, fun h' => hr h'.1.symm⟩, fun h => h.1⟩
    · refine ⟨fun h => ⟨h, ?_⟩, fun h => h.1⟩
      rintro ⟨rfl, h'⟩
      rw [hfired, Option.some.injEq] at h
      exact hdue (h ▸ h')

/-- Every waiting error is under the id of its run. -/
def PendingKeyed (g : GatewayChat) : Prop :=
  ∀ r pending, g.pendingTerminalLifecycleErrors.get? r = some pending → pending.event.runId = r

theorem get?_pending_step (rules : ReplyTextRules) (r : String) (pending : PendingLifecycleError)
    {g : GatewayChat} (hg : g.PendingKeyed) (i : ChatInput) :
    (step rules g i).pendingTerminalLifecycleErrors.get? r = some pending ↔
      Schedules r pending g i ∨
        (g.pendingTerminalLifecycleErrors.get? r = some pending ∧ ¬ Cancels r pending i) := by
  obtain ⟨view, act⟩ := i
  have hkept : (step rules g ⟨view, act⟩).pendingTerminalLifecycleErrors =
      g.pendingTerminalLifecycleErrors →
      ((step rules g ⟨view, act⟩).pendingTerminalLifecycleErrors.get? r = some pending ↔
        g.pendingTerminalLifecycleErrors.get? r = some pending) := fun h => by rw [h]
  cases act with
  | emit runId stream data sessionKey =>
    have hcancels : Cancels r pending ⟨view, .emit runId stream data sessionKey⟩ ↔ runId = r := by
      simp [Cancels, EventOf]
    rw [hcancels]
    exact get?_pending_emit rules view runId stream data sessionKey r g pending
  | timer runId =>
    have hcancels : Cancels r pending ⟨view, .timer runId⟩ ↔
        runId = r ∧ pending.dueAt ≤ view.now := by
      simp [Cancels, EventOf]
    have hnot : ¬ Schedules r pending g ⟨view, .timer runId⟩ := fun h => h
    rw [hcancels, or_iff_right hnot]
    exact get?_pending_timer rules view runId r g hg pending
  | abort sessionKey runId requester =>
    have hcan : CanAbort ⟨view, .abort sessionKey runId requester⟩ := trivial
    exact kept_iff (hkept (kept_aborts rules g hcan).pending) (fun h => h)
      (by simp [Cancels, EventOf])
  | stop sessionKey requester =>
    have hcan : CanAbort ⟨view, .stop sessionKey requester⟩ := trivial
    exact kept_iff (hkept (kept_aborts rules g hcan).pending) (fun h => h)
      (by simp [Cancels, EventOf])
  | maintain =>
    have hcan : CanAbort ⟨view, .maintain⟩ := trivial
    exact kept_iff (hkept (kept_aborts rules g hcan).pending) (fun h => h)
      (by simp [Cancels, EventOf])
  | _ => exact kept_iff (hkept rfl) (fun h => h) (by simp [Cancels, EventOf])

theorem pendingKeyed_step (rules : ReplyTextRules) (g : GatewayChat) (i : ChatInput)
    (hg : g.PendingKeyed) : (step rules g i).PendingKeyed := by
  intro r pending h
  rcases (get?_pending_step rules r pending hg i).1 h with h | ⟨h, -⟩
  · exact h.event.2.1
  · exact hg r pending h

theorem pendingKeyed_initial : initial.PendingKeyed := by
  intro r pending h
  have hnone : initial.pendingTerminalLifecycleErrors.get? r = none := OrderedMap.get?_empty r
  rw [hnone] at h
  cases h

/-- After every run of acts exactly those errors wait that some act scheduled and neither an event
of their run nor their timer has cancelled since. -/
theorem pending_run (rules : ReplyTextRules) (is : List ChatInput) (r : String)
    (pending : PendingLifecycleError) :
    (run (step rules) initial is).pendingTerminalLifecycleErrors.get? r = some pending ↔
      ∃ early i late, is = early ++ i :: late ∧
        Schedules r pending (run (step rules) initial early) i ∧
          ∀ j ∈ late, ¬ Cancels r pending j := by
  have hnone : initial.pendingTerminalLifecycleErrors.get? r = none := OrderedMap.get?_empty r
  have hrun := run_iff_since
    (P := fun g : GatewayChat => g.pendingTerminalLifecycleErrors.get? r = some pending)
    (pendingKeyed_step rules) (fun g i hg => get?_pending_step rules r pending hg i)
    pendingKeyed_initial is
  simpa only [hnone, each_iff_forall_mem, reduceCtorEq, false_and, false_or] using hrun

-- The run is tried again in time.
example :
    (run (step plainRules) initial
      [⟨plainView 0, .emit "run" "lifecycle" (.obj [("phase", .str "error")]) (some "main")⟩,
        ⟨plainView 5000, .emit "run" "lifecycle" (.obj [("phase", .str "start")])
          (some "main")⟩]).pendingTerminalLifecycleErrors.get? "run" = none := by
  decide +kernel

/-- In every reachable state a timer acts exactly when its run failed at least 15 seconds before,
was not aborted then, and has been silent since. -/
theorem timer_run (rules : ReplyTextRules) (is : List ChatInput) (view : ChatView) (r : String) :
    step rules (run (step rules) initial is) ⟨view, .timer r⟩ ≠ run (step rules) initial is ↔
      ∃ pending early i late, is = early ++ i :: late ∧
        Schedules r pending (run (step rules) initial early) i ∧
        (∀ j ∈ late, ¬ Cancels r pending j) ∧
        i.view.now + lifecycleErrorRetryGraceMs ≤ view.now := by
  have hkeyed : (run (step rules) initial is).PendingKeyed :=
    run_of_step (pendingKeyed_step rules) pendingKeyed_initial is
  constructor
  · intro hacts
    change (run (step rules) initial is).firePendingLifecycleError rules view r ≠ _ at hacts
    unfold firePendingLifecycleError at hacts
    cases hpending : (run (step rules) initial is).pendingTerminalLifecycleErrors.get? r with
    | none =>
      rw [hpending] at hacts
      exact absurd rfl hacts
    | some pending =>
      rw [hpending] at hacts
      dsimp only at hacts
      obtain ⟨early, i, late, his, hschedules, hlate⟩ := (pending_run rules is r pending).1 hpending
      refine ⟨pending, early, i, late, his, hschedules, hlate, ?_⟩
      rw [← hschedules.event.2.2.2]
      by_contra hdue
      rw [if_neg hdue] at hacts
      exact hacts rfl
  · rintro ⟨pending, early, i, late, his, hschedules, hlate, hdue⟩ hsame
    have hpending : (run (step rules) initial is).pendingTerminalLifecycleErrors.get? r =
        some pending := (pending_run rules is r pending).2 ⟨early, i, late, his, hschedules, hlate⟩
    have hstays := hpending
    rw [← hsame] at hstays
    have hcancels : Cancels r pending ⟨view, .timer r⟩ :=
      .inr ⟨rfl, hschedules.event.2.2.2 ▸ hdue⟩
    rcases (get?_pending_step rules r pending hkeyed ⟨view, .timer r⟩).1 hstays with h | ⟨-, h⟩
    · exact h
    · exact h hcancels

end GatewayChat

end Vertx
