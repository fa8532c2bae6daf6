import Vertx.Web.History
import Vertx.Web.Session

/-!
# What sets the connection status

Each action says in itself which status it sets, if any, so that the status after a frame can be
read off the frame.  The sockets of a connection only move on, and a mounted page never takes a
close for its own.
-/

namespace Vertx

/-! ## What a dispatch does to the status -/

/-- The status that an action sets. -/
def RealtimeAction.status? : RealtimeAction → Option ConnectionStatus
  | .sessionReset => some .idle
  | .connectStart => some .connecting
  | .recoverStart _ => some .recovering
  | .connectError _ => some .error
  | .connectClose => some .closed
  | .hello _ | .historyLoaded _ => some .connected
  | .userQueue _ | .event _ => none

/-- No event sets the status. -/
theorem connectionStatus_applyEvent {clock : Clock} {state state' : RealtimeState}
    {frame : EventFrame} (h : applyEvent clock state frame = .ok state') :
    state'.connectionStatus = state.connectionStatus := by
  obtain ⟨event, seq, payload, stateVersion⟩ := frame
  cases event with
  | chat => cases applyChatEvent_cases h <;> rfl
  | agent =>
    obtain ⟨-, stream, -, rfl⟩ := applyAgentStream_iff.1 h
    rfl
  | toolStatus =>
    obtain ⟨-, key, messages, -, -, rfl⟩ := applyToolStatus_iff.1 h
    rfl
  | runStatus =>
    obtain rfl := applyRunStatus_cases h
    split_ifs <;> rfl
  | approvalRequested =>
    obtain ⟨pending, rfl⟩ := applyApprovalRequested_cases h
    rfl
  | approvalResolved =>
    obtain ⟨pending, rfl⟩ := applyApprovalResolved_cases h
    rfl
  | sessionMessage | sessionsChanged | shutdown =>
    cases h
    rfl

theorem connectionStatus_reduce {clock : Clock} {state state' : RealtimeState}
    {action : RealtimeAction} (h : realtimeReducer clock state action = .ok state') :
    state'.connectionStatus = action.status?.getD state.connectionStatus := by
  cases action with
  | event frame =>
    exact @connectionStatus_applyEvent clock { state with lastSeq := frame.seq } state' frame h
  | _ =>
    cases h
    rfl

namespace Page

/-- The page is up after the change only if it was before, and shows the status. -/
def Shows (p q : Page) (status : Option ConnectionStatus) : Prop :=
  q.crashed = false → p.crashed = false ∧
    q.state.connectionStatus = status.getD p.state.connectionStatus

theorem Shows.trans {p q r : Page} {status status' : Option ConnectionStatus}
    (h : p.Shows q status) (h' : q.Shows r status') : p.Shows r (status'.or status) := by
  intro hr
  obtain ⟨hq, hlast⟩ := h' hr
  obtain ⟨hp, hfirst⟩ := h hq
  refine ⟨hp, ?_⟩
  rw [hlast, hfirst]
  cases status' <;> rfl

theorem shows_dispatch (clock : Clock) (action : RealtimeAction) (p : Page) :
    p.Shows (p.dispatch clock action) action.status? := by
  intro h
  obtain ⟨state', hreduce, hdispatch⟩ := dispatch_ok h
  rw [hdispatch] at h ⊢
  exact ⟨h, connectionStatus_reduce hreduce⟩

theorem shows_requestHistory (clock : Clock) (reason : String) (p : Page) :
    p.Shows (p.requestHistory clock reason) (if p.hasClient then some .recovering else none) := by
  unfold requestHistory
  split_ifs
  · exact shows_dispatch clock (.recoverStart reason) p
  · exact fun h => ⟨h, rfl⟩

/-- The status that `handleFrame` sets. -/
def frameStatus? (p : Page) (frame : GatewayFrame) : Option ConnectionStatus :=
  match frame with
  | .hello _ => some .connected
  | .error _ => some .error
  | .res _ => none
  | .event _ => if p.hasClient ∧ p.asksHistory frame then some .recovering else none

theorem shows_handleFrame (clock : Clock) (p : Page) (frame : GatewayFrame) :
    p.Shows (handleFrame clock p frame) (p.frameStatus? frame) := by
  cases frame with
  | hello frame => exact shows_dispatch clock (.hello frame) p
  | error message => exact shows_dispatch clock (.connectError message) p
  | res id => exact fun h => ⟨h, rfl⟩
  | event frame =>
    have hevent := shows_dispatch clock (.event frame) p
    obtain ⟨state, crashed, hdispatch⟩ := p.dispatch_eq clock (.event frame)
    rw [hdispatch] at hevent
    have hrequest (reason : String) (q : Page) (hq : p.Shows q none)
        (hc : q.hasClient = p.hasClient) :
        p.Shows (q.requestHistory clock reason)
          (if p.hasClient then some .recovering else none) := by
      have h := hq.trans (shows_requestHistory clock reason q)
      rw [hc, Option.or_none] at h
      exact h
    simp only [handleFrame, hdispatch]
    by_cases hmessage : frame.event = .sessionMessage ∧
        payloadSessionKey frame.payload = some p.sessionKey
    · have hasks : p.asksHistory (.event frame) = !p.activeRunRef.truthy := if_pos hmessage
      rw [if_pos hmessage, frameStatus?, hasks]
      by_cases hrun : p.activeRunRef.truthy
      · simp only [hrun, if_true, Bool.not_true, Bool.false_eq_true, and_false, if_false]
        exact hevent
      · simp only [hrun, if_false, Bool.not_false, and_true, Bool.false_eq_true]
        exact hrequest _ _ hevent rfl
    · rw [if_neg hmessage, frameStatus?, asksHistory_of_ne_message hmessage]
      cases isTerminalRunFrame frame with
      | error e =>
        simp only [Bool.false_eq_true, and_false, if_false]
        exact hevent
      | ok terminal =>
        cases terminal with
        | false =>
          simp only [Bool.false_eq_true, and_false, if_false]
          exact hevent
        | true =>
          by_cases hpending : p.pendingReload
          · simp only [hpending, if_true, and_true]
            exact hrequest _ _ hevent rfl
          · simp only [hpending, Bool.false_eq_true, and_false, if_false]
            exact hevent

end Page

namespace StatusPage

/-! ## The connection -/

/-- The socket of the `j`-th client has been opened at some time. -/
def Started (j : ℕ) (c : SessionConnection) : Prop :=
  ∃ client, c.clients[j]? = some client ∧ client.readyState ≠ .connecting

section Connection

variable {c : SessionConnection} {j : ℕ}

theorem Started.modify {f : ReadyState → ReadyState} (hf : ∀ state, state ≠ .connecting →
    f state ≠ .connecting) (h : Started j c) (i : ℕ) : Started j (c.modifyReadyState i f) := by
  obtain ⟨client, hclient, hstate⟩ := h
  refine ⟨if i = j then { client with readyState := f client.readyState } else client, ?_, ?_⟩
  · simp [SessionConnection.modifyReadyState, List.getElem?_modify, hclient]
  · split_ifs
    · exact hf _ hstate
    · exact hstate

theorem Started.connectGateway (h : Started j c) (key : String) :
    Started j (c.connectGateway key) := by
  obtain ⟨client, hclient, hstate⟩ := h
  refine ⟨client, ?_, hstate⟩
  simp only [SessionConnection.connectGateway, SessionConnection.clients_clearReconnectTimer]
  rw [List.getElem?_append_left (List.getElem?_eq_some_iff.1 hclient).1, hclient]

theorem Started.effect (h : Started j c) (key : String) : Started j (c.effect key) := by
  have hmounted : Started j
      { c with mounted := true, sessionKey := key, closedByUserRef := false } := h
  exact hmounted.connectGateway key

theorem Started.cleanup (h : Started j c) : Started j c.cleanup := by
  have hcleared : Started j { c with closedByUserRef := true }.clearReconnectTimer := by
    obtain ⟨client, hclient, hstate⟩ := h
    exact ⟨client, by rw [SessionConnection.clients_clearReconnectTimer]; exact hclient, hstate⟩
  have hclosed : Started j
      ({ c with closedByUserRef := true }.clearReconnectTimer).closeCurrent := by
    unfold SessionConnection.closeCurrent
    split
    · exact hcleared.modify (by intro state _; cases state <;> nofun) _
    · exact hcleared
  exact hclosed

theorem Started.onClosed (h : Started j c) (i : ℕ) : Started j (c.onClosed i) := by
  unfold SessionConnection.onClosed
  split
  · exact h
  · have hclosed : Started j (c.modifyReadyState i fun _ => .closed) :=
      h.modify (fun _ _ => by decide) i
    split_ifs
    · exact h
    · dsimp only
      split_ifs
      · exact hclosed
      · obtain ⟨client, hclient, hstate⟩ := hclosed
        refine ⟨client, ?_, hstate⟩
        simpa [SessionConnection.setReconnectTimer] using hclient

/-- A socket that has been opened stays so. -/
theorem Started.step (h : Started j c) (step : ConnectionStep) : Started j (c.step step) := by
  cases step with
  | mount key =>
    simp only [SessionConnection.step]
    split_ifs
    · exact h
    · exact h.effect key
  | switch key =>
    simp only [SessionConnection.step]
    split_ifs
    · exact h.cleanup.effect key
    · exact h
  | unmount =>
    simp only [SessionConnection.step]
    split_ifs
    · exact h.cleanup
    · exact h
  | opened i => exact h.modify (by intro state _; cases state <;> simp_all [ReadyState.afterOpen]) i
  | close i => exact h.modify (by intro state _; cases state <;> simp [ReadyState.afterClose]) i
  | closed i => exact h.onClosed i
  | timer t =>
    simp only [SessionConnection.step]
    split
    · exact Started.connectGateway (c := c.clearTimeout t) h _
    · exact h

theorem flag_step (h : c.mounted = true → c.closedByUserRef = false) (step : ConnectionStep) :
    (c.step step).mounted = true → (c.step step).closedByUserRef = false := by
  cases step with
  | mount key =>
    simp only [SessionConnection.step]
    split_ifs
    · exact h
    · intro _
      simp [SessionConnection.effect, SessionConnection.connectGateway]
  | switch key =>
    simp only [SessionConnection.step]
    split_ifs
    · intro _
      simp [SessionConnection.effect, SessionConnection.connectGateway]
    · exact h
  | unmount =>
    simp only [SessionConnection.step]
    split_ifs
    · intro hmounted
      cases hmounted
    · exact h
  | opened i | close i => exact h
  | closed i =>
    simp only [SessionConnection.step, SessionConnection.onClosed]
    split
    · exact h
    · split_ifs
      · exact h
      · exact h
      · simpa [SessionConnection.setReconnectTimer, SessionConnection.modifyReadyState] using h
  | timer t =>
    simp only [SessionConnection.step]
    split
    · simpa [SessionConnection.connectGateway, SessionConnection.clearTimeout] using h
    · exact h

end Connection

end StatusPage

end Vertx
