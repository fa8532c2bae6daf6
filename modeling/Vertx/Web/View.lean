import Vertx.Web.Events

/-!
# What a session page shows

The view of a page leaves out the times and what belongs to the connection.  A step computes the
view of the next state from the view of the state, whatever its clock says.
-/

namespace Vertx

/-- What a session shows and keeps, without the times. -/
structure StateView where
  chatMessages : List ChatMessage
  chatStream : Option String
  chatStreamSegments : List String
  chatRunId : JsValue
  chatQueue : List String
  chatSending : Bool
  toolStreamOrder : List JsValue
  toolStreamById : List (String × JsValue)
  deriving DecidableEq, Repr

def RealtimeState.view (state : RealtimeState) : StateView where
  chatMessages := state.chatMessages
  chatStream := state.chatStream
  chatStreamSegments := state.chatStreamSegments.map (·.text)
  chatRunId := state.chatRunId
  chatQueue := state.chatQueue.map (·.text)
  chatSending := state.chatSending
  toolStreamOrder := state.toolStreamOrder
  toolStreamById := state.toolStreamById

/-- The view of a page, or that it has gone down. -/
def Page.view (p : Page) : StateView × Bool := (p.state.view, p.crashed)

/-- Two steps that differ in their clocks at most. -/
def SameStep : PageStep → PageStep → Prop
  | .frame _ frame, .frame _ frame' => frame = frame'
  | .commit, .commit => True
  | .act _ action, .act _ action' => action = action'
  | _, _ => False

section

variable {s t : RealtimeState} {clock clock' : Clock}

theorem view_cutStream (h : s.view = t.view) :
    (cutStream clock s).view = (cutStream clock' t).view := by
  simp only [RealtimeState.view, StateView.mk.injEq] at h ⊢
  obtain ⟨hmessages, hstream, hsegments, hrun, hqueue, hsending, horder, hcards⟩ := h
  simp only [cutStream, hstream]
  cases shownStream t.chatStream <;> simp [*]

theorem view_finalize (h : s.view = t.view) :
    (finalizeChatRun s).view = (finalizeChatRun t).view := by
  simp only [RealtimeState.view, StateView.mk.injEq] at h ⊢
  simp [finalizeChatRun, h]

theorem view_pushAnswer (h : s.view = t.view) (payload : JsValue) (text : String) :
    (pushAnswer clock s payload text).view = (pushAnswer clock' t payload text).view := by
  simp only [RealtimeState.view, StateView.mk.injEq] at h ⊢
  obtain ⟨hmessages, hstream, hsegments, hrun, hqueue, hsending, horder, hcards⟩ := h
  simp only [pushAnswer, hstream]
  cases shownStream t.chatStream <;> simp [*]

theorem view_chat (h : s.view = t.view) (payload : JsValue) :
    (applyChatEvent clock s payload).map (·.view) =
      (applyChatEvent clock' t payload).map (·.view) := by
  have hv := h
  simp only [RealtimeState.view, StateView.mk.injEq] at hv
  unfold applyChatEvent
  cases chatText payload with
  | none =>
    dsimp only
    split_ifs
    · rfl
    · exact congrArg Except.ok h
    · exact congrArg Except.ok (view_finalize h)
    · exact congrArg Except.ok h
  | some text =>
    dsimp only
    split_ifs
    · rfl
    · simp [Except.map, RealtimeState.view, hv]
    · exact congrArg Except.ok (view_finalize (view_pushAnswer h payload text))
    · exact congrArg Except.ok (view_finalize h)
    · exact congrArg Except.ok (view_pushAnswer h payload text)
    · exact congrArg Except.ok h

theorem view_agent (h : s.view = t.view) (payload : JsValue) :
    (applyAgentStream s payload).map (·.view) = (applyAgentStream t payload).map (·.view) := by
  simp only [RealtimeState.view, StateView.mk.injEq] at h
  obtain ⟨hmessages, hstream, hsegments, hrun, hqueue, hsending, horder, hcards⟩ := h
  unfold applyAgentStream
  cases payload.get "runId" with
  | error e => rfl
  | ok runId =>
    cases (payload.field "stream").toStr with
    | error e => rfl
    | ok stream => simp [Except.map, bind, Except.bind, pure, Except.pure, RealtimeState.view, *]

theorem view_tool (h : s.view = t.view) (payload : JsValue) :
    (applyToolStatus clock s payload).map (·.view) =
      (applyToolStatus clock' t payload).map (·.view) := by
  have hcut := @view_cutStream s t clock clock' h
  simp only [RealtimeState.view, StateView.mk.injEq] at hcut
  obtain ⟨hmessages, hstream, hsegments, hrun, hqueue, hsending, horder, hcards⟩ := hcut
  simp only [applyToolStatus, bind, Except.bind]
  cases payload.get "runId" with
  | error e => rfl
  | ok runId =>
    cases (payload.field "toolCallId").toStr with
    | error e => rfl
    | ok key =>
      simp only [horder, hcards]
      generalize syncToolMessages (cardPrototype key payload) _ _ = messages
      cases messages with
      | error e => rfl
      | ok messages => simp [Except.map, pure, Except.pure, RealtimeState.view, *]

/-- Approvals are not part of the view. -/
theorem view_approval (s : RealtimeState) (payload : JsValue) :
    (applyApprovalRequested s payload).map (·.view) =
        (if payload.isNullish then .error .typeError else .ok s.view) ∧
      (applyApprovalResolved s payload).map (·.view) =
        (if payload.isNullish then .error .typeError else .ok s.view) := by
  unfold applyApprovalRequested applyApprovalResolved
  cases (payload.stringAt "id").filter (· ≠ "") with
  | none => constructor <;> split_ifs <;> rfl
  | some id => constructor <;> dsimp only <;> split_ifs <;> rfl

/-- The reducer computes the view of the next state from the view of the state. -/
theorem view_reduce (h : s.view = t.view) (action : RealtimeAction) :
    (realtimeReducer clock s action).map (·.view) =
      (realtimeReducer clock' t action).map (·.view) := by
  have hv := h
  simp only [RealtimeState.view, StateView.mk.injEq] at hv
  cases action with
  | event frame =>
    have h' : { s with lastSeq := frame.seq }.view = { t with lastSeq := frame.seq }.view := h
    simp only [realtimeReducer, applyEvent]
    cases frame.event with
    | chat => exact view_chat h' frame.payload
    | agent => exact view_agent h' frame.payload
    | toolStatus => exact view_tool h' frame.payload
    | runStatus =>
      simp only [applyRunStatus]
      cases runStatusText frame.payload with
      | none =>
        dsimp only
        split_ifs
        · rfl
        · exact congrArg Except.ok h'
      | some status =>
        dsimp only
        split_ifs
        · rfl
        · exact congrArg Except.ok (view_finalize h')
        · exact congrArg Except.ok h'
    | approvalRequested =>
      simp only [(view_approval _ frame.payload).1, h']
    | approvalResolved =>
      simp only [(view_approval _ frame.payload).2, h']
    | _ => exact congrArg Except.ok h'
  | sessionReset => rfl
  | _ => simp [realtimeReducer, Except.map, RealtimeState.view, hv]

end

theorem view_dispatch {p q : Page} (h : p.view = q.view) (clock clock' : Clock)
    (action : RealtimeAction) :
    (p.dispatch clock action).view = (q.dispatch clock' action).view := by
  simp only [Page.view, Prod.mk.injEq] at h
  obtain ⟨hstate, hcrashed⟩ := h
  have hr := @view_reduce _ _ clock clock' hstate action
  simp only [Page.dispatch, hcrashed]
  by_cases hc : q.crashed
  · simp [hc, Page.view, hstate, hcrashed]
  · simp only [hc, Bool.false_eq_true, if_false]
    cases hp : realtimeReducer clock p.state action with
    | error e =>
      cases hq : realtimeReducer clock' q.state action with
      | error e => simp [Page.view, hstate]
      | ok state => simp [hp, hq, Except.map] at hr
    | ok state =>
      cases hq : realtimeReducer clock' q.state action with
      | error e => simp [hp, hq, Except.map] at hr
      | ok state' =>
        simp only [hp, hq, Except.map, Except.ok.injEq] at hr
        simp [Page.view, hr]

/-- Asking for the history is not part of the view. -/
theorem view_requestHistory (clock : Clock) (reason : String) (p : Page) :
    (p.requestHistory clock reason).view = p.view := by
  unfold Page.requestHistory Page.dispatch realtimeReducer
  split_ifs <;> rfl

/-- What an event frame does to the view, the reducer does. -/
theorem view_handleFrame_event (clock : Clock) (p : Page) (frame : EventFrame) :
    (handleFrame clock p (.event frame)).view = (p.dispatch clock (.event frame)).view := by
  simp only [handleFrame]
  split_ifs
  · rfl
  · exact view_requestHistory _ _ _
  · split
    · exact view_requestHistory _ _ _
    · rfl
  · split <;> rfl

theorem view_pageStep {p q : Page} (h : p.view = q.view) {s t : PageStep} (hs : SameStep s t) :
    (pageStep p s).view = (pageStep q t).view := by
  cases s with
  | frame clock frame =>
    cases t with
    | frame clock' frame' =>
      obtain rfl : frame = frame' := hs
      cases frame with
      | hello frame => exact view_dispatch h clock clock' _
      | event frame =>
        simp only [pageStep, view_handleFrame_event]
        exact view_dispatch h clock clock' _
      | res id => exact h
      | error message => exact view_dispatch h clock clock' _
    | _ => exact hs.elim
  | commit =>
    cases t with
    | commit => exact h
    | _ => exact hs.elim
  | act clock action =>
    cases t with
    | act clock' action' =>
      obtain rfl : action = action' := hs
      exact view_dispatch h clock clock' _
    | _ => exact hs.elim

theorem sameStep_refl (step : PageStep) : SameStep step step := by
  cases step <;> simp [SameStep]

end Vertx
