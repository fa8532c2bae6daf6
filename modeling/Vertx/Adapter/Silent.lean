import Vertx.Adapter.Calls
import Vertx.Adapter.Waiting

/-!
# A source that can send nothing

The attempt in progress has a socket that has not closed.  When the source has neither a socket nor
pending requests, which is how `close` leaves it, nothing is sent and nothing pending is settled;
`CallsAfter` says what can still happen to its calls.
-/

namespace Vertx

namespace OpenClawGatewaySource

variable (uuids : RandomUuids) (options : OpenClawGatewaySourceOptions)
  {s t : OpenClawGatewaySource}

/-! ## The attempt in progress -/

theorem connectPromise_reject {waiter : Waiter} {error : JsError} {k : ℕ}
    (h : (s.reject waiter error).connectPromise = some k) : s.connectPromise = some k := by
  cases waiter with
  | connect j => cases h
  | call n => exact h
  | subscribeSessions => exact h

theorem connectPromise_sendRequest {method : String} {payload : JsValue}
    {explicitId : Option String} {waiter : Waiter}
    (h : s.sendRequest uuids method payload explicitId waiter = .ok t) :
    t.connectPromise = s.connectPromise := by
  obtain ⟨socket, id, uuidsDrawn, -, -, rfl, -⟩ := sendRequest_eq_ok h
  rfl

theorem connectPromise_sendConnectRequest {j k : ℕ}
    (h : (s.sendConnectRequest uuids options j).connectPromise = some k) :
    s.connectPromise = some k := by
  unfold sendConnectRequest at h
  split_ifs at h
  · exact h
  · dsimp only at h
    split at h
    · next hsent =>
      rw [connectPromise_sendRequest uuids hsent] at h
      exact h
    · cases h

theorem connectPromise_subscribeSessions :
    (s.subscribeSessions uuids).connectPromise = s.connectPromise := by
  unfold subscribeSessions
  split
  · next hsent => exact connectPromise_sendRequest uuids hsent
  · rfl

theorem connectPromise_resolve (waiter : Waiter) (value : JsValue) :
    (s.resolve waiter value).connectPromise = s.connectPromise := by
  cases waiter <;> rfl

theorem connectPromise_settleAttempt (k : ℕ) (result : Except JsError JsValue) :
    (s.settleAttempt k result).connectPromise = s.connectPromise := rfl

theorem connectPromise_handleResponse {j k : ℕ} {response : JsValue}
    (h : ((handleResponse uuids options j response).stateAfter s).connectPromise = some k) :
    s.connectPromise = some k := by
  unfold JsM.stateAfter EStateM.run handleResponse at h
  cases hfind : s.pending.find? (fun p => response.field "id" = .str p.id) with
  | none =>
    rw [hfind] at h
    exact h
  | some p =>
    rw [hfind] at h
    dsimp only at h
    split_ifs at h
    · dsimp only [acceptResponse] at h
      split_ifs at h
      · rw [connectPromise_settleAttempt, connectPromise_resolve] at h
        exact h
      · rw [connectPromise_subscribeSessions, connectPromise_settleAttempt,
          connectPromise_resolve] at h
        exact h
      · rw [connectPromise_resolve] at h
        exact h
    · cases hmessage : responseError p.method response with
      | error e =>
        rw [hmessage] at h
        exact h
      | ok message =>
        rw [hmessage] at h
        dsimp only [rejectResponse] at h
        split_ifs at h
        · cases h
        · have hkept := connectPromise_reject h
          exact hkept

theorem connectPromise_receive {j k : ℕ} {clock : Clock}
    {reaction : ℕ → RealtimeSourceEvent → Option JsError}
    (h : (s.receive uuids options j clock reaction).connectPromise = some k) :
    s.connectPromise = some k := by
  unfold receive at h
  split at h
  · exact h
  · next message raw _ =>
    generalize ht : ({ s with arrived := s.arrived ++ [(j, raw)] }.modifyConnection j fun c =>
      { c with inbox := c.inbox.tail }) = t at h
    have hafter : ((handleMessage uuids options j message clock reaction raw).stateAfter
        t).connectPromise = some k := by
      rw [← h]
      unfold runHandler JsM.stateAfter
      cases (handleMessage uuids options j message clock reaction raw).run t <;> rfl
    have hkept : t.connectPromise = some k := by
      have heffect := t.handleMessage_cases uuids options j message clock reaction raw
      generalize (handleMessage uuids options j message clock reaction raw).stateAfter t = u
        at heffect hafter
      cases heffect with
      | dropped | event => exact hafter
      | challenge => exact connectPromise_sendConnectRequest uuids options hafter
      | response => exact connectPromise_handleResponse uuids options hafter
    rw [← hkept, ← ht]
    rfl

/-- The socket of the attempt in progress has not closed. -/
def PromiseLive (s : OpenClawGatewaySource) : Prop :=
  ∀ k, s.connectPromise = some k → s.links.Live k

theorem PromiseLive.ensureConnected (h : s.PromiseLive) (call : SourceCall) :
    (s.ensureConnected call).PromiseLive := by
  intro k hk
  by_cases hneeds : s.NeedsConnection
  · rw [ensureConnected_of_needs call hneeds] at hk
    obtain rfl : s.connections.length = k := Option.some.inj hk
    rw [links_ensureConnected call hneeds]
    have hlength : s.links.sockets.length = s.connections.length := List.length_map _
    rw [← hlength]
    exact Links.live_connect_length
  · refine live_ensureConnected call (h k ?_)
    unfold OpenClawGatewaySource.ensureConnected at hk
    split_ifs at hk with hhello
    · exact hk
    · split at hk
      · exact hk
      · next hnone => exact absurd ⟨hhello, hnone⟩ hneeds

theorem PromiseLive.step (h : s.PromiseLive) (step : SourceStep) :
    (s.step uuids options step).PromiseLive := by
  have hkept (hstep : ∀ k, step ≠ .closed k)
      (hpromise : ∀ k, (s.step uuids options step).connectPromise = some k →
        s.connectPromise = some k) : (s.step uuids options step).PromiseLive :=
    fun k hk => live_step uuids options step (h k (hpromise k hk)) (hstep k)
  have heffect := s.step_cases uuids options step
  generalize s.step uuids options step = t at heffect hkept ⊢
  cases heffect with
  | idle => exact h
  | subscribe | request | getSnapshot | reconnect =>
    exact PromiseLive.ensureConnected (by exact h) _
  | close =>
    refine hkept (by simp) fun k hk => ?_
    have hrejected := @rejectPending_induction
      (fun t => t.connectPromise = some k → s.connectPromise = some k)
      { s with
        stopped := true
        reconnectTimers := s.reconnectTimers.filter (some · ≠ s.reconnectTimer)
        reconnectTimer := none } id fun p t ht hreject => by
          have hkept := connectPromise_reject hreject
          exact ht hkept
    unfold OpenClawGatewaySource.close at hk
    dsimp only at hk
    split at hk
    · exact hrejected hk
    · exact hrejected hk
  | resume =>
    refine hkept (by simp) fun k hk => ?_
    unfold proceed at hk
    split at hk
    · exact hk
    · exact hk
    · exact hk
    · split at hk
      · next hsent =>
        rw [connectPromise_sendRequest uuids hsent] at hk
        exact hk
      · exact hk
    · exact hk
  | received => exact hkept (by simp) fun _ => connectPromise_receive uuids options
  | errored =>
    refine hkept (by simp) fun k hk => ?_
    cases hk
  | closed =>
    intro k hk
    unfold handleClose at hk
    dsimp only at hk
    split_ifs at hk
  | timeout =>
    refine hkept (by simp) fun k hk => ?_
    unfold timeout at hk
    dsimp only at hk
    split_ifs at hk
    · have hkept := connectPromise_reject hk
      exact hkept
    · exact hk
  | unsubscribe | opened | closing | send | broadcast => exact hkept (by simp) fun _ hk => hk

/-! ## A source that can send nothing -/

/-- The source has no socket and no pending requests. -/
structure Silent (s : OpenClawGatewaySource) : Prop where
  socket : s.socket = none
  pending : s.pending = []

/-- What a call that goes on is settled with when nothing can be sent. -/
def silentAnswer (result : Except JsError JsValue) : SourceCall → List (ℕ × Except JsError JsValue)
  | .subscription => []
  | .request n _ _ =>
    [(n, result.bind fun _ => .error (.error "openclaw gateway is not connected"))]
  | .getSnapshot n => [(n, result.bind fun hello => hello.get "snapshot")]

theorem Silent.sendRequest (h : s.Silent) (method : String) (payload : JsValue)
    (explicitId : Option String) (waiter : Waiter) :
    s.sendRequest uuids method payload explicitId waiter =
      .error (.error "openclaw gateway is not connected") := by
  unfold OpenClawGatewaySource.sendRequest
  rw [h.socket]

theorem Silent.not_isOpen (h : s.Silent) : s.isOpen = false := by
  unfold isOpen
  rw [h.socket]
  rfl

theorem Silent.proceed (h : s.Silent) (result : Except JsError JsValue) (call : SourceCall) :
    (s.proceed uuids result call).Silent ∧
      (s.proceed uuids result call).settled = s.settled ++ silentAnswer result call := by
  cases call with
  | subscription => cases result <;> exact ⟨⟨h.socket, h.pending⟩, (List.append_nil _).symm⟩
  | getSnapshot n => exact ⟨⟨h.socket, h.pending⟩, rfl⟩
  | request n method payload =>
    cases result with
    | error e => exact ⟨⟨h.socket, h.pending⟩, rfl⟩
    | ok value =>
      simp only [OpenClawGatewaySource.proceed, h.sendRequest]
      exact ⟨⟨h.socket, h.pending⟩, rfl⟩

theorem Silent.handleMessage (h : s.Silent) (k message : ℕ) (clock : Clock)
    (reaction : ℕ → RealtimeSourceEvent → Option JsError) (raw : Option JsValue) :
    ((handleMessage uuids options k message clock reaction raw).stateAfter s).Silent ∧
      ((handleMessage uuids options k message clock reaction raw).stateAfter s).settled =
        s.settled := by
  have heffect := s.handleMessage_cases uuids options k message clock reaction raw
  generalize (OpenClawGatewaySource.handleMessage uuids options k message clock reaction
    raw).stateAfter s = t at heffect ⊢
  cases heffect with
  | dropped => exact ⟨h, rfl⟩
  | challenge =>
    unfold sendConnectRequest
    split_ifs
    · exact ⟨h, rfl⟩
    · dsimp only
      split
      · next t hsent =>
        obtain ⟨socket, _, _, hsocket, -⟩ := sendRequest_eq_ok hsent
        cases h.socket.symm.trans hsocket
      · exact ⟨⟨h.socket, h.pending⟩, rfl⟩
  | event => exact ⟨⟨h.socket, h.pending⟩, rfl⟩
  | @response parsed =>
    have hnone : (handleResponse uuids options k parsed).stateAfter s = s := by
      unfold JsM.stateAfter EStateM.run handleResponse
      rw [h.pending]
      rfl
    rw [hnone]
    exact ⟨h, rfl⟩

theorem Silent.receive (h : s.Silent) (k : ℕ) (clock : Clock)
    (reaction : ℕ → RealtimeSourceEvent → Option JsError) :
    (s.receive uuids options k clock reaction).Silent ∧
      (s.receive uuids options k clock reaction).settled = s.settled := by
  unfold OpenClawGatewaySource.receive
  split
  · exact ⟨h, rfl⟩
  · next message raw _ =>
    generalize ht : ({ s with arrived := s.arrived ++ [(k, raw)] }.modifyConnection k fun c =>
      { c with inbox := c.inbox.tail }) = t
    have hsilent : t.Silent := by
      rw [← ht]
      exact ⟨h.socket, h.pending⟩
    have hsettled : t.settled = s.settled := by
      rw [← ht]
      rfl
    have hafter := hsilent.handleMessage uuids options k message clock reaction raw
    unfold JsM.stateAfter at hafter
    unfold runHandler
    cases hrun : (OpenClawGatewaySource.handleMessage uuids options k message clock reaction
        raw).run t with
    | ok _ t' =>
      rw [hrun] at hafter
      exact ⟨hafter.1, hafter.2.trans hsettled⟩
    | error e t' =>
      rw [hrun] at hafter
      exact ⟨⟨hafter.1.socket, hafter.1.pending⟩, hafter.2.trans hsettled⟩

theorem Silent.timeout (h : s.Silent) (timer : RequestTimer) :
    (s.timeout timer).Silent ∧ (s.timeout timer).settled = s.settled := by
  unfold OpenClawGatewaySource.timeout
  dsimp only
  rw [if_neg (by simp [h.pending])]
  exact ⟨⟨h.socket, h.pending⟩, rfl⟩

theorem Silent.close (h : s.Silent) : s.close.Silent ∧ s.close.settled = s.settled := by
  unfold OpenClawGatewaySource.close rejectPending
  dsimp only
  rw [h.pending]
  dsimp only [List.foldl_nil]
  rw [h.socket]
  exact ⟨⟨rfl, rfl⟩, rfl⟩

/-- `close` leaves a source that can send nothing. -/
theorem silent_close (s : OpenClawGatewaySource) : s.close.Silent := by
  have hrejected := @rejectPending_induction (fun t => t.pending = []) { s with
      stopped := true
      reconnectTimers := s.reconnectTimers.filter (some · ≠ s.reconnectTimer)
      reconnectTimer := none } rfl fun p t ht => by
    cases p.waiter <;> exact ht
  unfold OpenClawGatewaySource.close
  dsimp only
  split
  · next hsocket => exact ⟨hsocket, hrejected⟩
  · exact ⟨rfl, hrejected⟩

/-- A call that finds an attempt in progress waits for it. -/
theorem Silent.ensureConnected (h : s.Silent) (hneeds : ¬ s.NeedsConnection) (call : SourceCall) :
    ∃ k, s.connectPromise = some k ∧
      s.ensureConnected call = { s with waiting := s.waiting ++ [(.attempt k, call)] } := by
  have hhello : ¬ (s.hello.truthy ∧ s.isOpen) := by
    rw [h.not_isOpen]
    simp
  obtain ⟨k, hk⟩ := Option.ne_none_iff_exists'.1 fun hnone => hneeds ⟨hhello, hnone⟩
  refine ⟨k, hk, ?_⟩
  unfold OpenClawGatewaySource.ensureConnected
  rw [if_neg hhello, hk]

/-- What a step does to the calls of a source that can send nothing, while nobody needs a
connection: it leaves them alone, adds one that waits for the attempt in progress, or lets one that
waited go on. -/
inductive CallsAfter (s : OpenClawGatewaySource) : SourceStep → OpenClawGatewaySource → Prop
  | quiet {step t} (waiting : t.waiting = s.waiting) (calls : t.calls = s.calls)
      (settled : t.settled = s.settled) : CallsAfter s step t
  | subscribed {step t k} (attempt : s.connectPromise = some k)
      (waiting : t.waiting = s.waiting ++ [(.attempt k, .subscription)]) (calls : t.calls = s.calls)
      (settled : t.settled = s.settled) : CallsAfter s step t
  | called {step t k call entry} (connects : step.Connects s) (attempt : s.connectPromise = some k)
      (number : call.number? = some s.calls.length)
      (waiting : t.waiting = s.waiting ++ [(.attempt k, call)])
      (calls : t.calls = s.calls ++ [entry]) (settled : t.settled = s.settled) :
      CallsAfter s step t
  | resumed {t i awaited call result} (there : s.waiting[i]? = some (awaited, call))
      (outcome : s.outcome awaited = some result) (waiting : t.waiting = s.waiting.eraseIdx i)
      (calls : t.calls = s.calls) (settled : t.settled = s.settled ++ silentAnswer result call) :
      CallsAfter s (.resume i) t

theorem Silent.step (h : s.Silent) (step : SourceStep)
    (hok : step.Connects s → ¬ s.NeedsConnection) :
    (s.step uuids options step).Silent ∧ s.CallsAfter step (s.step uuids options step) := by
  have heffect := s.step_cases uuids options step
  generalize s.step uuids options step = t at heffect ⊢
  cases heffect with
  | idle => exact ⟨h, .quiet rfl rfl rfl⟩
  | subscribe listener =>
    obtain ⟨k, hk, hstep⟩ := Silent.ensureConnected (s := { s with
      listeners := if listener ∈ s.listeners then s.listeners else s.listeners ++ [listener] })
      ⟨h.socket, h.pending⟩ (hok trivial) .subscription
    rw [hstep]
    exact ⟨⟨h.socket, h.pending⟩, .subscribed hk rfl rfl rfl⟩
  | request method payload =>
    obtain ⟨k, hk, hstep⟩ := Silent.ensureConnected
      (s := { s with calls := s.calls ++ [some (method, payload)] })
      ⟨h.socket, h.pending⟩ (hok trivial) (.request s.calls.length method payload)
    rw [hstep]
    exact ⟨⟨h.socket, h.pending⟩, .called trivial hk rfl rfl rfl rfl⟩
  | getSnapshot =>
    obtain ⟨k, hk, hstep⟩ := Silent.ensureConnected (s := { s with calls := s.calls ++ [none] })
      ⟨h.socket, h.pending⟩ (hok trivial) (.getSnapshot s.calls.length)
    rw [hstep]
    exact ⟨⟨h.socket, h.pending⟩, .called trivial hk rfl rfl rfl rfl⟩
  | @reconnect timer htimer =>
    obtain ⟨k, hk, hstep⟩ := Silent.ensureConnected (s := { s with
      reconnectTimers := s.reconnectTimers.filter (· ≠ timer)
      reconnectTimer := none }) ⟨h.socket, h.pending⟩ (hok htimer) .subscription
    rw [hstep]
    exact ⟨⟨h.socket, h.pending⟩, .subscribed hk rfl rfl rfl⟩
  | close =>
    obtain ⟨hsilent, hsettled⟩ := h.close
    have hcallers := callers_close s
    exact ⟨hsilent, .quiet (congrArg Callers.waiting hcallers) (congrArg Callers.calls hcallers)
      hsettled⟩
  | @resume i awaited call result hi hresult =>
    obtain ⟨hsilent, hsettled⟩ := Silent.proceed uuids
      (s := { s with waiting := s.waiting.eraseIdx i }) ⟨h.socket, h.pending⟩ result call
    have hcallers := callers_proceed uuids result call { s with waiting := s.waiting.eraseIdx i }
    exact ⟨hsilent, .resumed hi hresult (congrArg Callers.waiting hcallers)
      (congrArg Callers.calls hcallers) hsettled⟩
  | received k clock reaction =>
    obtain ⟨hsilent, hsettled⟩ := h.receive uuids options k clock reaction
    have hcallers := callers_receive uuids options k clock reaction s
    exact ⟨hsilent, .quiet (congrArg Callers.waiting hcallers) (congrArg Callers.calls hcallers)
      hsettled⟩
  | closed =>
    unfold handleClose
    dsimp only
    split_ifs <;> exact ⟨⟨rfl, h.pending⟩, .quiet rfl rfl rfl⟩
  | @timeout number timer =>
    obtain ⟨hsilent, hsettled⟩ := h.timeout timer
    have hcallers := callers_timeout timer s
    exact ⟨hsilent, .quiet (congrArg Callers.waiting hcallers) (congrArg Callers.calls hcallers)
      hsettled⟩
  | unsubscribe | opened | errored | closing | send | broadcast =>
    exact ⟨⟨h.socket, h.pending⟩, .quiet rfl rfl rfl⟩

end OpenClawGatewaySource

end Vertx
