import Vertx.Adapter.OneConnection

/-!
# The callers of the source

The calls that wait for a connection, the listeners and the reconnect timers.  Messages, and
requests that settle, leave all of them alone; they change when a caller calls, when a call that
waits goes on, when a socket closes and when a reconnect timer fires.
-/

namespace Vertx

/-- What a source keeps for its callers. -/
structure Callers where
  waiting : List (Awaited × SourceCall)
  calls : List (Option (String × JsValue))
  stopped : Bool
  listeners : List ℕ
  reconnectTimer : Option ℕ
  reconnectTimers : List ℕ

namespace OpenClawGatewaySource

def callers (s : OpenClawGatewaySource) : Callers where
  waiting := s.waiting
  calls := s.calls
  stopped := s.stopped
  listeners := s.listeners
  reconnectTimer := s.reconnectTimer
  reconnectTimers := s.reconnectTimers

variable (uuids : RandomUuids) (options : OpenClawGatewaySourceOptions)

/-! ## What leaves the callers alone -/

theorem callers_sendRequest {uuids : RandomUuids} {method : String} {payload : JsValue}
    {explicitId : Option String} {waiter : Waiter} {s t : OpenClawGatewaySource}
    (h : s.sendRequest uuids method payload explicitId waiter = .ok t) : t.callers = s.callers := by
  obtain ⟨socket, id, uuidsDrawn, -, -, rfl, -⟩ := sendRequest_eq_ok h
  rfl

theorem callers_reject (waiter : Waiter) (error : JsError) (s : OpenClawGatewaySource) :
    (s.reject waiter error).callers = s.callers := by
  cases waiter <;> rfl

theorem callers_resolve (waiter : Waiter) (value : JsValue) (s : OpenClawGatewaySource) :
    (s.resolve waiter value).callers = s.callers := by
  cases waiter <;> rfl

theorem callers_sendConnectRequest (k : ℕ) (s : OpenClawGatewaySource) :
    (s.sendConnectRequest uuids options k).callers = s.callers := by
  unfold sendConnectRequest
  split_ifs
  · rfl
  · dsimp only
    split
    · next h => exact (callers_sendRequest h).trans rfl
    · rfl

theorem callers_subscribeSessions (s : OpenClawGatewaySource) :
    (s.subscribeSessions uuids).callers = s.callers := by
  unfold subscribeSessions
  split
  · next h => exact callers_sendRequest h
  · rfl

theorem callers_acceptResponse (k : ℕ) (p : OpenClawPendingRequest) (payload : JsValue)
    (s : OpenClawGatewaySource) :
    (s.acceptResponse uuids options k p payload).callers = s.callers := by
  have hgreeted : (({ s with hello := payload }.resolve p.waiter payload).settleAttempt k
      (.ok payload)).callers = s.callers := (callers_resolve p.waiter payload _).trans rfl
  unfold acceptResponse
  split_ifs
  · exact hgreeted
  · exact (callers_subscribeSessions uuids _).trans hgreeted
  · exact callers_resolve p.waiter payload s

theorem callers_rejectResponse (k : ℕ) (p : OpenClawPendingRequest) (error : JsError)
    (s : OpenClawGatewaySource) : (s.rejectResponse k p error).callers = s.callers := by
  unfold rejectResponse
  split_ifs
  · rfl
  · exact callers_reject p.waiter error s

theorem callers_handleResponse (k : ℕ) (response : JsValue) (s : OpenClawGatewaySource) :
    ((handleResponse uuids options k response).stateAfter s).callers = s.callers := by
  unfold JsM.stateAfter EStateM.run handleResponse
  cases s.pending.find? (fun p => response.field "id" = .str p.id) with
  | none => rfl
  | some p =>
    split_ifs
    · exact (callers_acceptResponse uuids options k p _ (s.takePending p)).trans rfl
    · dsimp only
      cases responseError p.method response with
      | error e => rfl
      | ok message => exact (callers_rejectResponse k p _ (s.takePending p)).trans rfl

theorem callers_handleMessage (k message : ℕ) (clock : Clock)
    (reaction : ℕ → RealtimeSourceEvent → Option JsError) (raw : Option JsValue)
    (s : OpenClawGatewaySource) :
    ((handleMessage uuids options k message clock reaction raw).stateAfter s).callers =
      s.callers := by
  have heffect := s.handleMessage_cases uuids options k message clock reaction raw
  generalize (handleMessage uuids options k message clock reaction raw).stateAfter s =
    t at heffect ⊢
  cases heffect with
  | dropped | event => rfl
  | challenge => exact callers_sendConnectRequest uuids options k s
  | response => exact callers_handleResponse uuids options k _ s

theorem callers_runHandler (p : JsM OpenClawGatewaySource Unit) (s : OpenClawGatewaySource) :
    (runHandler p s).callers = (p.stateAfter s).callers := by
  unfold runHandler JsM.stateAfter
  cases p.run s <;> rfl

theorem callers_receive (k : ℕ) (clock : Clock)
    (reaction : ℕ → RealtimeSourceEvent → Option JsError) (s : OpenClawGatewaySource) :
    (s.receive uuids options k clock reaction).callers = s.callers := by
  unfold receive
  split
  · rfl
  · rw [callers_runHandler, callers_handleMessage]
    rfl

theorem callers_timeout (timer : RequestTimer) (s : OpenClawGatewaySource) :
    (s.timeout timer).callers = s.callers := by
  unfold timeout
  dsimp only
  split_ifs
  · exact (callers_reject timer.waiter _ _).trans rfl
  · rfl

theorem callers_proceed (result : Except JsError JsValue) (call : SourceCall)
    (s : OpenClawGatewaySource) : (s.proceed uuids result call).callers = s.callers := by
  unfold proceed
  split
  · rfl
  · rfl
  · rfl
  · split
    · next h => exact callers_sendRequest h
    · rfl
  · rfl

theorem callers_rejectPending (s : OpenClawGatewaySource) :
    s.rejectPending.callers = s.callers := by
  refine @rejectPending_induction (fun t => t.callers = s.callers) s rfl fun p t ht => ?_
  rw [callers_reject]
  exact ht

/-- Closing stops the source and clears the timer it refers to. -/
theorem callers_close (s : OpenClawGatewaySource) :
    s.close.callers = { s.callers with
      stopped := true
      reconnectTimer := none
      reconnectTimers := s.reconnectTimers.filter (some · ≠ s.reconnectTimer) } := by
  unfold close
  dsimp only
  generalize ht : OpenClawGatewaySource.rejectPending _ = t
  have hcallers : t.callers = { s.callers with
      stopped := true
      reconnectTimer := none
      reconnectTimers := s.reconnectTimers.filter (some · ≠ s.reconnectTimer) } := by
    rw [← ht]
    exact callers_rejectPending _
  split
  · exact hcallers
  · exact hcallers

/-! ## Connections -/

variable {s : OpenClawGatewaySource}

/-- What a call of `ensureConnected` waits for. -/
theorem waiting_ensureConnected (call : SourceCall) (s : OpenClawGatewaySource) :
    ∃ awaited, (s.ensureConnected call).callers =
        { s.callers with waiting := s.waiting ++ [(awaited, call)] } ∧
      ((∃ value, awaited = .hello value ∧ s.hello.truthy ∧ s.isOpen) ∨
        (∃ k, awaited = .attempt k ∧ (s.ensureConnected call).connectPromise = some k)) := by
  unfold ensureConnected
  by_cases hhello : s.hello.truthy ∧ s.isOpen
  · rw [if_pos hhello]
    exact ⟨_, rfl, .inl ⟨_, rfl, hhello⟩⟩
  · rw [if_neg hhello]
    split
    · next k hpromise => exact ⟨_, rfl, .inr ⟨k, rfl, hpromise⟩⟩
    · exact ⟨_, rfl, .inr ⟨_, rfl, rfl⟩⟩

end OpenClawGatewaySource

end Vertx
