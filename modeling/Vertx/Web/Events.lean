import Vertx.Web.Reducer

/-!
# What an event does to the messages and the run

An event that does not throw appends to the messages, and the run after it can be read off the
event: tool and agent events bring their own, the end of a chat or of a run clears it.
-/

namespace Vertx

/-- The run that the page shows after an event, where `runId` was its run before. -/
def runAfter (runId : JsValue) (frame : EventFrame) : JsValue :=
  match frame.event with
  | .chat =>
    if frame.payload.stringAt "state" = some "delta" then
      if (chatText frame.payload).isSome then chatPayloadRunId frame.payload else runId
    else if (frame.payload.stringAt "state").any (· ∈ endedChatStates) then .null
    else runId
  | .agent | .toolStatus => frame.payload.field "runId"
  | .runStatus => if (runStatusText frame.payload).any (· ∈ endedWords) then .null else runId
  | _ => runId

/-- An event leads from one state to another: messages are appended and the run is that of the
event. -/
structure Follows (runId : JsValue) (before after : RealtimeState) : Prop where
  messages : before.chatMessages <+: after.chatMessages
  run : after.chatRunId = runId

variable {clock : Clock} {state state' : RealtimeState} {payload : JsValue}

theorem follows_agent (h : applyAgentStream state payload = .ok state') :
    Follows (payload.field "runId") state state' := by
  obtain ⟨-, stream, -, rfl⟩ := applyAgentStream_iff.1 h
  exact ⟨List.prefix_rfl, rfl⟩

theorem follows_tool (h : applyToolStatus clock state payload = .ok state') :
    Follows (payload.field "runId") state state' := by
  obtain ⟨-, key, messages, -, -, rfl⟩ := applyToolStatus_iff.1 h
  exact ⟨List.prefix_rfl, rfl⟩

theorem follows_chat (h : applyChatEvent clock state payload = .ok state') :
    Follows (runAfter state.chatRunId ⟨.chat, .undefined, payload, .undefined⟩) state state' := by
  dsimp only [runAfter]
  cases applyChatEvent_cases h with
  | kept hends hdelta =>
    refine ⟨List.prefix_rfl, ?_⟩
    split_ifs with hstate htext
    · rw [hdelta hstate] at htext
      cases htext
    · rfl
    · rfl
  | delta text hstate htext =>
    rw [if_pos hstate, htext]
    exact ⟨List.prefix_rfl, rfl⟩
  | cleared hends =>
    have hstate : payload.stringAt "state" ≠ some "delta" := fun hdelta => by
      simp [hdelta, endedChatStates] at hends
    rw [if_neg hstate, if_pos hends]
    exact ⟨List.prefix_rfl, rfl⟩
  | answered text hstate =>
    simp only [hstate]
    exact ⟨List.prefix_append _ _, rfl⟩

theorem follows_runStatus (h : applyRunStatus state payload = .ok state') :
    Follows (runAfter state.chatRunId ⟨.runStatus, .undefined, payload, .undefined⟩) state
      state' := by
  obtain rfl := applyRunStatus_cases h
  dsimp only [runAfter]
  split_ifs
  · exact ⟨List.prefix_rfl, rfl⟩
  · exact ⟨List.prefix_rfl, rfl⟩

theorem follows_requested (h : applyApprovalRequested state payload = .ok state') :
    Follows state.chatRunId state state' := by
  obtain ⟨pending, rfl⟩ := applyApprovalRequested_cases h
  exact ⟨List.prefix_rfl, rfl⟩

theorem follows_resolved (h : applyApprovalResolved state payload = .ok state') :
    Follows state.chatRunId state state' := by
  obtain ⟨pending, rfl⟩ := applyApprovalResolved_cases h
  exact ⟨List.prefix_rfl, rfl⟩

/-! ## Dispatching to a page -/

/-- An event that does not throw appends to the messages and leaves the run that `runAfter` says. -/
theorem follows_event {frame : EventFrame}
    (h : realtimeReducer clock state (.event frame) = .ok state') :
    Follows (runAfter state.chatRunId frame) state state' := by
  obtain ⟨event, seq, payload, stateVersion⟩ := frame
  replace h : applyEvent clock { state with lastSeq := seq } ⟨event, seq, payload, stateVersion⟩ =
      .ok state' := h
  have hkeep {t : RealtimeState} {runId : JsValue}
      (ht : Follows runId { state with lastSeq := seq } t) : Follows runId state t :=
    ⟨ht.messages, ht.run⟩
  cases event with
  | chat => exact hkeep (follows_chat h)
  | agent => exact hkeep (follows_agent h)
  | toolStatus => exact hkeep (follows_tool h)
  | runStatus => exact hkeep (follows_runStatus h)
  | approvalRequested => exact hkeep (follows_requested h)
  | approvalResolved => exact hkeep (follows_resolved h)
  | sessionMessage | sessionsChanged | shutdown =>
    cases h
    exact ⟨List.prefix_rfl, rfl⟩

/-- Neither an event nor a reset: the reducer handles it without looking at a payload. -/
def RealtimeAction.isLocal : RealtimeAction → Bool
  | .sessionReset | .event _ => false
  | _ => true

/-- Neither a reset nor a response: the messages stay where they are. -/
def RealtimeAction.appends : RealtimeAction → Bool
  | .sessionReset | .historyLoaded _ => false
  | _ => true

variable {action : RealtimeAction}

theorem reduce_local (clock : Clock) (state : RealtimeState) (h : action.isLocal) :
    ∃ state', realtimeReducer clock state action = .ok state' ∧
      state'.chatRunId = state.chatRunId := by
  cases action with
  | sessionReset | event frame => cases h
  | _ => exact ⟨_, rfl, rfl⟩

theorem reduce_appends (h : action.appends) (hr : realtimeReducer clock state action = .ok state') :
    state.chatMessages <+: state'.chatMessages := by
  cases action with
  | sessionReset | historyLoaded messages => cases h
  | event frame => exact (follows_event hr).messages
  | userQueue text =>
    cases hr
    exact List.prefix_append _ _
  | _ =>
    cases hr
    exact List.prefix_rfl

namespace Page

variable {p : Page}

/-- A dispatch changes the state of the page or takes it down. -/
theorem dispatch_eq (clock : Clock) (action : RealtimeAction) (p : Page) :
    ∃ state crashed, p.dispatch clock action = { p with state, crashed } := by
  unfold dispatch
  split_ifs
  · exact ⟨p.state, p.crashed, rfl⟩
  · split
    · exact ⟨_, _, rfl⟩
    · exact ⟨_, _, rfl⟩

theorem dispatch_of_crashed (hc : p.crashed) : p.dispatch clock action = p := by
  unfold dispatch
  rw [if_pos hc]

theorem dispatch_of_ok (hc : p.crashed = false)
    (h : realtimeReducer clock p.state action = .ok state') :
    p.dispatch clock action = { p with state := state' } := by
  unfold dispatch
  rw [if_neg (by simp [hc]), h]

/-- A dispatch that does not take the page down replaces its state. -/
theorem dispatch_ok (h : (p.dispatch clock action).crashed = false) :
    ∃ state', realtimeReducer clock p.state action = .ok state' ∧
      p.dispatch clock action = { p with state := state' } := by
  have hc : p.crashed = false := by
    by_contra hc
    rw [dispatch_of_crashed (Bool.eq_true_of_not_eq_false hc)] at h
    exact hc h
  cases hr : realtimeReducer clock p.state action with
  | ok state' => exact ⟨state', rfl, dispatch_of_ok hc hr⟩
  | error e =>
    unfold dispatch at h
    rw [if_neg (by simp [hc]), hr] at h
    cases h

/-- An action of the page itself keeps its run, and does not take it down. -/
theorem dispatch_local (clock : Clock) (p : Page) (h : action.isLocal) :
    ∃ state', state'.chatRunId = p.state.chatRunId ∧
      p.dispatch clock action = { p with state := state' } := by
  by_cases hc : p.crashed
  · exact ⟨p.state, rfl, dispatch_of_crashed hc⟩
  · obtain ⟨state', hr, hrun⟩ := reduce_local clock p.state h
    exact ⟨state', hrun, dispatch_of_ok (Bool.eq_false_of_not_eq_true hc) hr⟩

/-- What is dispatched, besides a reset and a response, appends to the messages. -/
theorem dispatch_appends (clock : Clock) (action : RealtimeAction) (h : action.appends) (p : Page) :
    p.state.chatMessages <+: (p.dispatch clock action).state.chatMessages := by
  unfold dispatch
  split_ifs
  · exact List.prefix_rfl
  · split
    · exact reduce_appends h ‹_›
    · exact List.prefix_rfl

/-- What dispatches keep and what does not depend on the refs is kept by `handleFrame`. -/
theorem handleFrame_induction {P : Page → Prop} {clock : Clock}
    (hdispatch : ∀ q action, action.appends → P q → P (q.dispatch clock action))
    (hrefs : ∀ q pending run requests, P q → P { q with
      pendingReload := pending, activeRunRef := run, historyRequests := requests })
    {p : Page} (hp : P p) (frame : GatewayFrame) : P (handleFrame clock p frame) := by
  have hrequest (reason : String) (q : Page) (hq : P q) : P (q.requestHistory clock reason) := by
    unfold requestHistory
    split_ifs
    · exact hrefs _ _ _ _ (hdispatch q (.recoverStart reason) rfl hq)
    · exact hq
  cases frame with
  | hello frame => exact hdispatch p (.hello frame) rfl hp
  | error message => exact hdispatch p (.connectError message) rfl hp
  | res id => exact hp
  | event frame =>
    unfold handleFrame
    have hq := hdispatch p (.event frame) rfl hp
    dsimp only
    generalize p.dispatch clock (.event frame) = q at hq ⊢
    split
    · split
      · exact hrefs q _ _ _ hq
      · exact hrequest _ q hq
    · split
      · split
        · exact hrequest runEndedReason _ (hrefs q _ _ _ hq)
        · exact hq
      · exact hq

end Page

end Vertx
