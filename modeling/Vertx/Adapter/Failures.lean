import Vertx.Adapter.Exceptions
import Vertx.Adapter.Waiting

/-!
# Failures of the source

Several calls of the source are made with `void`: `ensureConnected` in `subscribe` and in the
reconnect timer, the message handler, and the request that subscribes to sessions.  `leftRejected`
lists the promises of such calls that a step leaves rejected.  An attempt that fails is followed by
another when its socket is about to close; `Abandons` names the failures that are not.  What a step
must not do so that neither happens is written out in `ContainsFailure`.
-/

namespace Vertx

open Runs Promises

/-- What a failing request leaves rejected. -/
def Waiter.leftBy (error : JsError) : Waiter → List JsError
  | connect _ | call _ => []
  | subscribeSessions => [error]

namespace OpenClawGatewaySource

variable (uuids : RandomUuids) (options : OpenClawGatewaySourceOptions)

/-! ## Promises left rejected -/

/-- What a response leaves rejected. -/
def responseRejections (response : JsValue) (s : OpenClawGatewaySource) : List JsError :=
  match s.pending.find? (fun p => response.field "id" = .str p.id) with
  | none => []
  | some p =>
    if (response.field "ok").truthy then
      if s.connectRequestId = some p.id ∧ options.autoSubscribeSessions ≠ some false ∧
          s.isOpen = false then
        [.error "openclaw gateway is not connected"]
      else []
    else
      match responseError p.method response with
      | .error e => [e]
      | .ok message =>
        if s.connectRequestId = some p.id then [] else p.waiter.leftBy (.error message)

/-- What a message leaves rejected. -/
def messageRejections (clock : Clock) (reaction : ℕ → RealtimeSourceEvent → Option JsError)
    (parsed : JsValue) (s : OpenClawGatewaySource) : List JsError :=
  if parsed.field "type" = .str "event" then
    if parsed.field "event" = .str "connect.challenge" then []
    else
      match normalizeOpenClawEvent clock (eventFrame parsed) with
      | .error e => [e]
      | .ok events =>
        (events.findSome? fun event => s.listeners.findSome? (reaction · event)).toList
  else if parsed.field "type" = .str "res" then s.responseRejections options parsed
  else []

/-- What a step leaves rejected. -/
def leftRejected (s : OpenClawGatewaySource) : SourceStep → List JsError
  | .resume i =>
    match s.waiting[i]? with
    | some (awaited, .subscription) =>
      match s.outcome awaited with
      | some (.error e) => [e]
      | _ => []
    | _ => []
  | .received k clock reaction =>
    match s.connections[k]?.bind (·.next?) with
    | some (_, some parsed) => s.messageRejections options clock reaction parsed
    | _ => []
  | .timeout number =>
    match s.requestTimers.find? (·.number = number) with
    | some timer =>
      if s.pending.any (·.id = timer.id) then
        timer.waiter.leftBy (.error ("openclaw request timed out: " ++ timer.method))
      else []
    | none => []
  | .close => s.pending.flatMap (·.waiter.leftBy (.error "openclaw gateway source closed"))
  | _ => []

variable {s : OpenClawGatewaySource}

theorem unhandled_sendRequest {method : String} {payload : JsValue} {explicitId : Option String}
    {waiter : Waiter} {t : OpenClawGatewaySource}
    (h : s.sendRequest uuids method payload explicitId waiter = .ok t) :
    t.unhandled = s.unhandled := by
  obtain ⟨socket, id, uuidsDrawn, -, -, rfl, -⟩ := sendRequest_eq_ok h
  rfl

theorem unhandled_sendConnectRequest (k : ℕ) :
    (s.sendConnectRequest uuids options k).unhandled = s.unhandled := by
  unfold sendConnectRequest
  split_ifs
  · rfl
  · dsimp only
    split
    · next h => exact (unhandled_sendRequest uuids h).trans rfl
    · rfl

theorem unhandled_resolve (waiter : Waiter) (value : JsValue) (s : OpenClawGatewaySource) :
    (s.resolve waiter value).unhandled = s.unhandled := by
  cases waiter <;> rfl

theorem unhandled_reject (waiter : Waiter) (error : JsError) (s : OpenClawGatewaySource) :
    (s.reject waiter error).unhandled = s.unhandled ++ waiter.leftBy error := by
  cases waiter with
  | connect k => exact (List.append_nil _).symm
  | call n => exact (List.append_nil _).symm
  | subscribeSessions => rfl

theorem unhandled_subscribeSessions (s : OpenClawGatewaySource) :
    (s.subscribeSessions uuids).unhandled = s.unhandled ++
      if s.isOpen = false then [.error "openclaw gateway is not connected"] else [] := by
  unfold subscribeSessions
  rcases @sendRequest_isOk uuids s "sessions.subscribe" (.obj []) none .subscribeSessions with
    ⟨hopen, t, ht⟩ | ⟨hclosed, herror⟩
  · rw [ht, hopen, if_neg (by decide), List.append_nil]
    exact unhandled_sendRequest uuids ht
  · rw [herror, hclosed]
    rfl

theorem isOpen_settleAttempt (k : ℕ) (result : Except JsError JsValue)
    (s : OpenClawGatewaySource) : (s.settleAttempt k result).isOpen = s.isOpen := by
  apply isOpen_modifyConnection
  intro c
  rfl

theorem isOpen_resolve (waiter : Waiter) (value : JsValue) (s : OpenClawGatewaySource) :
    (s.resolve waiter value).isOpen = s.isOpen := by
  cases waiter <;> rfl

/-- What a handler throws. -/
def thrown (p : JsM OpenClawGatewaySource Unit) (s : OpenClawGatewaySource) : List JsError :=
  match p.run s with
  | .ok _ _ => []
  | .error e _ => [e]

theorem unhandled_runHandler (p : JsM OpenClawGatewaySource Unit) (s : OpenClawGatewaySource) :
    (runHandler p s).unhandled = (p.stateAfter s).unhandled ++ thrown p s := by
  unfold runHandler JsM.stateAfter thrown
  cases p.run s with
  | ok _ t => exact (List.append_nil _).symm
  | error e t => rfl

theorem unhandled_handleResponse (k : ℕ) (response : JsValue) (s : OpenClawGatewaySource) :
    ((handleResponse uuids options k response).stateAfter s).unhandled ++
        thrown (handleResponse uuids options k response) s =
      s.unhandled ++ s.responseRejections options response := by
  unfold JsM.stateAfter thrown EStateM.run handleResponse responseRejections
  cases s.pending.find? (fun p => response.field "id" = .str p.id) with
  | none => rfl
  | some p =>
    dsimp only
    by_cases hok : (response.field "ok").truthy
    · rw [if_pos hok, if_pos hok]
      dsimp only [acceptResponse]
      rw [List.append_nil]
      by_cases hconnect : s.connectRequestId = some p.id
      · have hconnect' : (s.takePending p).connectRequestId = some p.id := hconnect
        rw [if_pos hconnect']
        by_cases hauto : options.autoSubscribeSessions = some false
        · rw [if_pos hauto, if_neg fun h => h.2.1 hauto, List.append_nil]
          exact (unhandled_resolve p.waiter _ _).trans rfl
        · rw [if_neg hauto, unhandled_subscribeSessions, isOpen_settleAttempt, isOpen_resolve]
          have hkept : (({ s.takePending p with hello := response.field "payload" }.resolve p.waiter
              (response.field "payload")).settleAttempt k
                (.ok (response.field "payload"))).unhandled = s.unhandled :=
            (unhandled_resolve p.waiter _ _).trans rfl
          rw [hkept]
          refine congrArg (s.unhandled ++ ·) (if_congr ?_ rfl rfl)
          exact ⟨fun h => ⟨hconnect, hauto, h⟩, fun h => h.2.2⟩
      · have hconnect' : ¬ (s.takePending p).connectRequestId = some p.id := hconnect
        rw [if_neg hconnect', if_neg fun h => hconnect h.1, unhandled_resolve, List.append_nil]
        rfl
    · rw [if_neg hok, if_neg hok]
      cases responseError p.method response with
      | error e => rfl
      | ok message =>
        dsimp only [rejectResponse]
        rw [List.append_nil]
        by_cases hconnect : s.connectRequestId = some p.id
        · have hconnect' : (s.takePending p).connectRequestId = some p.id := hconnect
          rw [if_pos hconnect, if_pos hconnect', List.append_nil]
          rfl
        · have hconnect' : ¬ (s.takePending p).connectRequestId = some p.id := hconnect
          rw [if_neg hconnect, if_neg hconnect', unhandled_reject]
          rfl

theorem thrown_emit (message : ℕ) (reaction : ℕ → RealtimeSourceEvent → Option JsError)
    (event : RealtimeSourceEvent) (listeners : List ℕ) (s : OpenClawGatewaySource) :
    thrown (emit message reaction event listeners) s =
      (listeners.findSome? (reaction · event)).toList := by
  induction listeners generalizing s with
  | nil => rfl
  | cons listener rest ih =>
    unfold thrown at ih ⊢
    simp only [emit, EStateM.run_bind, EStateM.run_modify, List.findSome?_cons]
    cases reaction listener event with
    | some e => rfl
    | none => exact ih _

theorem unhandled_handleMessage (k message : ℕ) (clock : Clock)
    (reaction : ℕ → RealtimeSourceEvent → Option JsError) (parsed : JsValue)
    (s : OpenClawGatewaySource) :
    ((handleMessage uuids options k message clock reaction (some parsed)).stateAfter s).unhandled ++
        thrown (handleMessage uuids options k message clock reaction (some parsed)) s =
      s.unhandled ++ s.messageRejections options clock reaction parsed := by
  unfold handleMessage messageRejections
  dsimp only
  by_cases hobject : parsed.isObject
  · rw [if_neg (not_not.2 hobject)]
    split_ifs
    · exact congrArg (· ++ []) (unhandled_sendConnectRequest uuids options k)
    · cases hevents : normalizeOpenClawEvent clock (eventFrame parsed) with
      | error e => rfl
      | ok events =>
        rcases normalizeOpenClawEvent_cases hevents with rfl | ⟨event, payload, rfl⟩
        · rfl
        · obtain ⟨called, -, -, hstate⟩ := stateAfter_emit message reaction
            ((eventFrame parsed).normalized event payload) s.listeners s
          have hthrown :=
            thrown_emit message reaction ((eventFrame parsed).normalized event payload)
            s.listeners s
          unfold JsM.stateAfter at hstate
          unfold thrown at hthrown
          unfold JsM.stateAfter thrown
          rw [run_emitOne, hstate, hthrown]
          simp
    · exact unhandled_handleResponse uuids options k parsed s
    · rfl
  · have hnone (key text : String) : parsed.field key ≠ .str text := by
      intro h
      exact hobject (JsValue.isObject_of_field h)
    rw [if_pos hobject, if_neg (hnone _ _), if_neg (hnone _ _)]
    rfl

/-- The parts of a source that decide what a message leaves rejected. -/
theorem messageRejections_congr {s t : OpenClawGatewaySource} (hpending : t.pending = s.pending)
    (hlisteners : t.listeners = s.listeners) (hid : t.connectRequestId = s.connectRequestId)
    (hopen : t.isOpen = s.isOpen) (clock : Clock)
    (reaction : ℕ → RealtimeSourceEvent → Option JsError) (parsed : JsValue) :
    t.messageRejections options clock reaction parsed =
      s.messageRejections options clock reaction parsed := by
  unfold messageRejections responseRejections
  rw [hpending, hlisteners, hid, hopen]

theorem unhandled_receive (k : ℕ) (clock : Clock)
    (reaction : ℕ → RealtimeSourceEvent → Option JsError) :
    (s.receive uuids options k clock reaction).unhandled =
      s.unhandled ++ s.leftRejected options (.received k clock reaction) := by
  unfold receive leftRejected
  dsimp only
  generalize s.connections[k]?.bind (·.next?) = next
  cases next with
  | none => exact (List.append_nil _).symm
  | some next =>
    obtain ⟨message, raw⟩ := next
    dsimp only
    generalize ht : ({ s with arrived := s.arrived ++ [(k, raw)] }.modifyConnection k fun c =>
      { c with inbox := c.inbox.tail }) = t
    have hunhandled : t.unhandled = s.unhandled := by
      rw [← ht]
      rfl
    rw [unhandled_runHandler]
    cases raw with
    | none => exact congrArg (· ++ []) hunhandled
    | some parsed =>
      rw [unhandled_handleMessage, hunhandled]
      refine congrArg (s.unhandled ++ ·) (messageRejections_congr options ?_ ?_ ?_ ?_ clock reaction
        parsed)
      · rw [← ht]; rfl
      · rw [← ht]; rfl
      · rw [← ht]; rfl
      · rw [← ht]
        apply isOpen_modifyConnection
        intro c
        rfl

theorem unhandled_rejectPending (s : OpenClawGatewaySource) :
    s.rejectPending.unhandled = s.unhandled ++
      s.pending.flatMap (·.waiter.leftBy (.error "openclaw gateway source closed")) := by
  have hfold (pending : List OpenClawPendingRequest) (t : OpenClawGatewaySource) :
      (pending.foldl
        (fun s p =>
          { s with requestTimers := s.requestTimers.filter (·.number ≠ p.timer) }.reject p.waiter
            (.error "openclaw gateway source closed")) t).unhandled = t.unhandled ++
        pending.flatMap (·.waiter.leftBy (.error "openclaw gateway source closed")) := by
    induction pending generalizing t with
    | nil => exact (List.append_nil _).symm
    | cons p pending ih =>
      rw [List.foldl_cons, ih, unhandled_reject, List.flatMap_cons, List.append_assoc]
  exact hfold s.pending { s with pending := [] }

theorem unhandled_ensureConnected (call : SourceCall) :
    (s.ensureConnected call).unhandled = s.unhandled := by
  unfold ensureConnected
  split_ifs
  · rfl
  · split <;> rfl

theorem leftRejected_of_misses {step : SourceStep} (h : s.Misses step) :
    s.leftRejected options step = [] := by
  cases step with
  | resume i =>
    simp only [leftRejected]
    split
    · next awaited hi =>
      have hnone : s.outcome awaited = none := h _ hi
      rw [hnone]
    · rfl
  | timeout number =>
    have hnone : s.requestTimers.find? (·.number = number) = none := h
    simp only [leftRejected, hnone]
  | errored | closed | reconnect => rfl
  | _ => exact h.elim

/-- A step leaves rejected what `leftRejected` lists. -/
theorem unhandled_step (step : SourceStep) :
    (s.step uuids options step).unhandled = s.unhandled ++ s.leftRejected options step := by
  have hnothing {t : OpenClawGatewaySource} (h : t.unhandled = s.unhandled) :
      t.unhandled = s.unhandled ++ [] := by rw [h, List.append_nil]
  have heffect := s.step_cases uuids options step
  generalize s.step uuids options step = t at heffect ⊢
  cases heffect with
  | idle hmisses =>
    rw [leftRejected_of_misses options hmisses]
    exact hnothing rfl
  | subscribe | request | getSnapshot | reconnect => exact hnothing (unhandled_ensureConnected _)
  | close =>
    simp only [OpenClawGatewaySource.close, leftRejected]
    split
    · exact unhandled_rejectPending _
    · exact unhandled_rejectPending { s with
        stopped := true
        reconnectTimers := s.reconnectTimers.filter (some · ≠ s.reconnectTimer)
        reconnectTimer := none }
  | @resume i awaited call result hi hresult =>
    simp only [leftRejected, hi]
    cases call with
    | subscription =>
      dsimp only
      rw [hresult]
      cases result with
      | ok value => exact hnothing rfl
      | error e => rfl
    | getSnapshot n => exact hnothing rfl
    | request n method payload =>
      refine hnothing ?_
      cases result with
      | error e => rfl
      | ok value =>
        unfold proceed
        dsimp only
        split
        · next h => exact (unhandled_sendRequest uuids h).trans rfl
        · rfl
  | received k clock reaction => exact unhandled_receive uuids options k clock reaction
  | closed =>
    refine hnothing ?_
    unfold handleClose
    dsimp only
    split_ifs <;> rfl
  | @timeout number timer htimer =>
    simp only [leftRejected, htimer]
    unfold OpenClawGatewaySource.timeout
    dsimp only
    split_ifs
    · exact unhandled_reject _ _ _
    · exact hnothing rfl
  | unsubscribe | opened | errored | closing | send | broadcast => exact hnothing rfl

/-! ## Attempts that follow -/

/-- The ready states of the sockets. -/
def states (s : OpenClawGatewaySource) : List ReadyState := s.connections.map (·.readyState)

/-- Another attempt follows the `k`-th one unless the source is closed or nobody listens: a timer is
armed, or a newer attempt has been made, or the close event of the socket, which arms a timer, is on
its way or has come. -/
def RetryFollows (k : ℕ) (s : OpenClawGatewaySource) : Prop :=
  s.stopped = true ∨ s.listeners = [] ∨ s.reconnectTimers ≠ [] ∨ k + 1 < s.connections.length ∨
    ∃ state, s.states[k]? = some state ∧ state.isLive = false

/-- What a step does about attempts: the one that fails is followed by another, a socket that closes
arms a timer, and a timer that fires finds a connection or makes one. -/
structure Retried (s : OpenClawGatewaySource) (step : SourceStep) (t : OpenClawGatewaySource) :
    Prop where
  failed : ∀ k e, result? s.promises k = none → result? t.promises k = some (.error e) →
    t.RetryFollows k
  closed : ∀ k, step = .closed k → s.links.Live k →
    t.stopped = true ∨ t.listeners = [] ∨ t.reconnectTimers ≠ []
  timer : ∀ timer ∈ s.reconnectTimers, timer ∈ t.reconnectTimers ∨ t.stopped = true ∨
    step = .reconnect timer ∧ ¬ t.NeedsConnection

/-- The step fails the `k`-th attempt. -/
def FailsAttempt (k : ℕ) (e : JsError) (s : OpenClawGatewaySource) (step : SourceStep) : Prop :=
  k < s.connections.length ∧ result? s.promises k = none ∧
    (s.settlements step).find? (·.1 = k) = some (k, .error e)

/-- A message or the timer of a connect request fails an attempt that no other follows. -/
def Abandons (s : OpenClawGatewaySource) : SourceStep → Prop
  | .received k clock reaction =>
    ∃ j e, s.FailsAttempt j e (.received k clock reaction) ∧ ¬ s.RetryFollows j
  | .timeout number => ∃ j e, s.FailsAttempt j e (.timeout number) ∧ ¬ s.RetryFollows j
  | _ => False

theorem failsAttempt_iff {k : ℕ} {e : JsError} (step : SourceStep)
    (hnone : result? s.promises k = none) :
    result? (s.step uuids options step).promises k = some (.error e) ↔ s.FailsAttempt k e step := by
  unfold FailsAttempt
  rcases promises_step uuids options (s := s) step with h | ⟨h, hsettlements, -⟩
  · rw [h, result?_settleAll, hnone, Option.none_or, length_promises]
    split_ifs with hk
    · rw [Option.map_eq_some_iff]
      constructor
      · rintro ⟨⟨j, result⟩, hfind, rfl⟩
        obtain rfl : j = k := by simpa using List.find?_some hfind
        exact ⟨hk, rfl, hfind⟩
      · rintro ⟨-, -, hfind⟩
        exact ⟨_, hfind, rfl⟩
    · exact iff_of_false (by simp) fun h => hk h.1
  · rw [h, result?_append_none, hnone, hsettlements]
    exact iff_of_false (by simp) fun h => by cases h.2.2

theorem states_links (s : OpenClawGatewaySource) : s.states = s.links.sockets.map (·.1) := by
  rw [links, List.map_map]
  rfl

/-- What leaves the callers and the ready states alone leaves alone whether another attempt
follows. -/
theorem retryFollows_congr {t : OpenClawGatewaySource} (hcallers : t.callers = s.callers)
    (hstates : t.states = s.states) (k : ℕ) : t.RetryFollows k ↔ s.RetryFollows k := by
  have hstopped : t.stopped = s.stopped := congrArg Callers.stopped hcallers
  have hlisteners : t.listeners = s.listeners := congrArg Callers.listeners hcallers
  have htimers : t.reconnectTimers = s.reconnectTimers := congrArg Callers.reconnectTimers hcallers
  have hlength : t.connections.length = s.connections.length := by
    have hlen := congrArg List.length hstates
    simpa only [states, List.length_map] using hlen
  unfold RetryFollows
  rw [hstopped, hlisteners, htimers, hlength, hstates]

theorem states_receive (k : ℕ) (clock : Clock)
    (reaction : ℕ → RealtimeSourceEvent → Option JsError) :
    (s.receive uuids options k clock reaction).states = s.states := by
  unfold receive
  split
  · rfl
  · next message raw _ =>
    generalize ht : ({ s with arrived := s.arrived ++ [(k, raw)] }.modifyConnection k fun c =>
      { c with inbox := c.inbox.tail }) = t
    have hkept : t.states = s.states := by
      rw [← ht]
      apply Keyed.map_modify_of_eq
      intro c
      rfl
    obtain ⟨calls, -, hlinks⟩ := links_handleMessage uuids options k message clock reaction raw t
    rw [← hkept, states_links, states_links, links_runHandler, hlinks]

theorem states_timeout (timer : RequestTimer) : (s.timeout timer).states = s.states := by
  rw [states_links, states_links, links_timeout]

theorem not_needsConnection_ensureConnected (call : SourceCall) :
    ¬ (s.ensureConnected call).NeedsConnection := by
  unfold ensureConnected
  split_ifs with hhello
  · exact fun h => h.1 hhello
  · split
    · next k hpromise => exact fun h => by cases hpromise.symm.trans h.2
    · exact fun h => by cases h.2

/-- A reconnect timer stays armed until it fires or the source is closed. -/
theorem reconnectTimers_step {timer : ℕ} (h : timer ∈ s.reconnectTimers) (step : SourceStep) :
    timer ∈ (s.step uuids options step).reconnectTimers ∨
      (s.step uuids options step).stopped = true ∨
      step = .reconnect timer ∧ ¬ (s.step uuids options step).NeedsConnection := by
  have hkept {t : OpenClawGatewaySource} (ht : t.callers.reconnectTimers = s.reconnectTimers) :
      timer ∈ t.reconnectTimers := by
    change timer ∈ t.callers.reconnectTimers
    rw [ht]
    exact h
  have hconnects (call : SourceCall) {t : OpenClawGatewaySource} (ht : timer ∈ t.reconnectTimers) :
      timer ∈ (t.ensureConnected call).reconnectTimers := by
    obtain ⟨awaited, hcallers, -⟩ := waiting_ensureConnected call t
    have htimers : (t.ensureConnected call).reconnectTimers = t.reconnectTimers :=
      congrArg Callers.reconnectTimers hcallers
    rw [htimers]
    exact ht
  have heffect := s.step_cases uuids options step
  generalize s.step uuids options step = t at heffect ⊢
  cases heffect with
  | subscribe | request | getSnapshot => exact .inl (hconnects _ h)
  | close => exact .inr (.inl (congrArg Callers.stopped (callers_close s)))
  | resume => exact .inl (hkept (by rw [callers_proceed]; rfl))
  | received => exact .inl (hkept (by rw [callers_receive]; rfl))
  | closed =>
    refine .inl ?_
    unfold handleClose
    dsimp only
    split_ifs
    · exact List.mem_append_left _ h
    · exact h
  | @reconnect fired =>
    by_cases hfired : timer = fired
    · exact .inr (.inr ⟨by rw [hfired], not_needsConnection_ensureConnected _⟩)
    · exact .inl (hconnects _ (List.mem_filter.2 ⟨h, by simpa using hfired⟩))
  | timeout => exact .inl (hkept (by rw [callers_timeout]; rfl))
  | idle | unsubscribe | opened | errored | closing | send | broadcast => exact .inl h

/-- The close event arms a timer. -/
theorem timer_after_closed {k : ℕ} (h : s.links.Live k) :
    (s.step uuids options (.closed k)).stopped = true ∨
      (s.step uuids options (.closed k)).listeners = [] ∨
      (s.step uuids options (.closed k)).reconnectTimers ≠ [] := by
  obtain ⟨c, hc⟩ := connection_of_live h
  simp only [OpenClawGatewaySource.step, hc, if_neg ((live_iff hc).1 h), handleClose]
  split_ifs with hlisteners
  · exact .inr (.inr (by simp))
  · by_cases hstopped : s.stopped = true
    · exact .inl hstopped
    · refine .inr (.inl ?_)
      by_contra hnonempty
      exact hlisteners ⟨Bool.eq_false_of_not_eq_true hstopped, hnonempty⟩

/-- An attempt that fails is followed by another, but for those that `Abandons` names. -/
theorem retryFollows_step {k : ℕ} {e : JsError} {step : SourceStep} (h : s.FailsAttempt k e step)
    (hok : ¬ s.Abandons step) : (s.step uuids options step).RetryFollows k := by
  obtain ⟨hk, hnone, hfind⟩ := h
  have heffect := s.step_cases uuids options step
  generalize s.step uuids options step = t at heffect ⊢
  cases heffect with
  | idle hmisses =>
    rw [settlements_of_misses hmisses] at hfind
    cases hfind
  | close => exact .inl (congrArg Callers.stopped (callers_close s))
  | received j clock reaction =>
    refine (retryFollows_congr (callers_receive uuids options j clock reaction s)
      (states_receive uuids options j clock reaction) k).2 ?_
    by_contra hnot
    exact hok ⟨k, e, ⟨hk, hnone, hfind⟩, hnot⟩
  | timeout =>
    refine (retryFollows_congr (callers_timeout _ s) (states_timeout _) k).2 ?_
    by_contra hnot
    exact hok ⟨k, e, ⟨hk, hnone, hfind⟩, hnot⟩
  | @errored j c error hc hopen hfirst =>
    simp only [settlements] at hfind
    split_ifs at hfind
    · obtain ⟨rfl, -⟩ := Prod.mk.inj (List.mem_singleton.1 (List.mem_of_find?_eq_some hfind))
      refine .inr (.inr (.inr (.inr ⟨c.readyState.afterClose, ?_, ReadyState.isLive_afterClose _⟩)))
      simp [hc, states, fail, settleAttempt, modifyConnection]
    · cases hfind
  | _ => cases hfind

theorem retried_iff (step : SourceStep) :
    s.Retried step (s.step uuids options step) ↔ ¬ s.Abandons step := by
  constructor
  · intro h
    cases step with
    | received j clock reaction =>
      rintro ⟨k, e, hfails, hnot⟩
      refine hnot ((retryFollows_congr (callers_receive uuids options j clock reaction s)
        (states_receive uuids options j clock reaction) k).1 ?_)
      exact h.failed k e hfails.2.1 ((failsAttempt_iff uuids options _ hfails.2.1).2 hfails)
    | timeout number =>
      rintro ⟨k, e, hfails, hnot⟩
      have hafter :=
        h.failed k e hfails.2.1 ((failsAttempt_iff uuids options _ hfails.2.1).2 hfails)
      simp only [OpenClawGatewaySource.step] at hafter
      split at hafter
      · exact hnot hafter
      · next timer _ =>
        exact hnot
          ((retryFollows_congr (callers_timeout timer s) (states_timeout timer) k).1 hafter)
    | _ => exact id
  · intro hok
    refine ⟨fun k e hnone herror => ?_, ?_, fun timer htimer => ?_⟩
    · exact retryFollows_step uuids options
        ((failsAttempt_iff uuids options step hnone).1 herror) hok
    · rintro k rfl hlive
      exact timer_after_closed uuids options hlive
    · exact reconnectTimers_step uuids options htimer step

/-! ## Steps that contain failures -/

/-- The subscription to the sessions does not fail with the response, and an error in it can be
printed. -/
def ContainsResponse (response : JsValue) (s : OpenClawGatewaySource) : Prop :=
  ∀ p, s.pending.find? (fun p => response.field "id" = .str p.id) = some p →
    if (response.field "ok").truthy then
      s.connectRequestId = some p.id → options.autoSubscribeSessions ≠ some false → s.isOpen
    else
      (responseError p.method response).toOption.isSome ∧
        (s.connectRequestId = some p.id ∨ p.waiter ≠ .subscribeSessions)

/-- An event other than the challenge can be normalised and no listener throws on it; a response
contains its failures. -/
def ContainsMessage (clock : Clock) (reaction : ℕ → RealtimeSourceEvent → Option JsError)
    (parsed : JsValue) (s : OpenClawGatewaySource) : Prop :=
  (parsed.field "type" = .str "event" → parsed.field "event" ≠ .str "connect.challenge" →
    ∃ events, normalizeOpenClawEvent clock (eventFrame parsed) = .ok events ∧
      ∀ event ∈ events, ∀ listener ∈ s.listeners, reaction listener event = none) ∧
  (parsed.field "type" = .str "res" → s.ContainsResponse options parsed)

/-- No subscription or reconnect goes on with a failed attempt, no message makes the handler throw,
no `sessions.subscribe` fails by an answer, a timeout or `close`, and no attempt fails that no other
follows. -/
def ContainsFailure (s : OpenClawGatewaySource) (step : SourceStep) : Prop :=
  match step with
  | .resume i => ∀ awaited, s.waiting[i]? = some (awaited, .subscription) →
    ∀ e, s.outcome awaited ≠ some (.error e)
  | .received k clock reaction =>
    (∀ message parsed, s.connections[k]?.bind (·.next?) = some (message, some parsed) →
      s.ContainsMessage options clock reaction parsed) ∧ ¬ s.Abandons step
  | .timeout number =>
    (∀ timer, s.requestTimers.find? (·.number = number) = some timer →
      s.pending.any (·.id = timer.id) → timer.waiter ≠ .subscribeSessions) ∧ ¬ s.Abandons step
  | .close => ∀ p ∈ s.pending, p.waiter ≠ .subscribeSessions
  | _ => True

theorem leftBy_eq_nil_iff (error : JsError) (waiter : Waiter) :
    waiter.leftBy error = [] ↔ waiter ≠ .subscribeSessions := by
  cases waiter <;> simp [Waiter.leftBy]

theorem responseRejections_eq_nil_iff (response : JsValue) (s : OpenClawGatewaySource) :
    s.responseRejections options response = [] ↔ s.ContainsResponse options response := by
  unfold responseRejections ContainsResponse
  cases s.pending.find? (fun p => response.field "id" = .str p.id) with
  | none => simp
  | some p =>
    simp only [Option.some.injEq, forall_eq']
    by_cases hok : (response.field "ok").truthy
    · rw [if_pos hok, if_pos hok, ite_eq_right_iff]
      simp
    · rw [if_neg hok, if_neg hok]
      cases responseError p.method response with
      | error e => simp [Except.toOption]
      | ok message =>
        by_cases hconnect : s.connectRequestId = some p.id
        · simp [hconnect, Except.toOption]
        · simp [hconnect, Except.toOption, leftBy_eq_nil_iff]

theorem messageRejections_eq_nil_iff (clock : Clock)
    (reaction : ℕ → RealtimeSourceEvent → Option JsError) (parsed : JsValue)
    (s : OpenClawGatewaySource) :
    s.messageRejections options clock reaction parsed = [] ↔
      s.ContainsMessage options clock reaction parsed := by
  unfold messageRejections ContainsMessage
  by_cases hevent : parsed.field "type" = .str "event"
  · rw [if_pos hevent]
    have hres : parsed.field "type" ≠ .str "res" := by
      rw [hevent]
      simp
    by_cases hchallenge : parsed.field "event" = .str "connect.challenge"
    · simp [hevent, hchallenge]
    · rw [if_neg hchallenge]
      cases normalizeOpenClawEvent clock (eventFrame parsed) with
      | error e => simp [hevent, hchallenge]
      | ok events => simp [hevent, hchallenge]
  · rw [if_neg hevent]
    by_cases hres : parsed.field "type" = .str "res"
    · simp [hres, responseRejections_eq_nil_iff]
    · simp [hevent, hres]

theorem containsFailure_iff (step : SourceStep) :
    s.ContainsFailure options step ↔ s.leftRejected options step = [] ∧ ¬ s.Abandons step := by
  cases step with
  | resume i =>
    simp only [ContainsFailure, leftRejected, Abandons, not_false_eq_true, and_true]
    rcases s.waiting[i]? with _ | ⟨awaited, call⟩
    · simp
    · cases call with
      | subscription =>
        simp only [Option.some.injEq, Prod.mk.injEq, and_true, forall_eq']
        rcases s.outcome awaited with _ | _ | _ <;> simp
      | _ => simp
  | received k clock reaction =>
    refine and_congr_left fun _ => ?_
    simp only [leftRejected]
    rcases s.connections[k]?.bind (·.next?) with _ | ⟨message, _ | parsed⟩
    · simp
    · simp
    · simp [messageRejections_eq_nil_iff]
  | timeout number =>
    refine and_congr_left fun _ => ?_
    simp only [leftRejected]
    cases s.requestTimers.find? (·.number = number) with
    | none => simp
    | some timer => simp [leftBy_eq_nil_iff]
  | close => simp [ContainsFailure, leftRejected, Abandons, leftBy_eq_nil_iff]
  | _ => exact iff_of_true trivial ⟨rfl, id⟩

/-- In every state of a run no promise has been left rejected, and every failed attempt is followed
by another, in exactly the runs whose steps see to both. -/
theorem failures_contained_iff (steps : List SourceStep) :
    Always (OpenClawGatewaySource.step uuids options) (fun s => s.unhandled = []) initial steps ∧
        Each (OpenClawGatewaySource.step uuids options)
          (fun s step => s.Retried step (s.step uuids options step)) initial steps ↔
      Each (OpenClawGatewaySource.step uuids options) (ContainsFailure options) initial steps := by
  have hunhandled := @always_iff_each _ _ (OpenClawGatewaySource.step uuids options)
    (fun s => s.unhandled = []) (fun s => s.unhandled = [])
    (fun s step => s.leftRejected options step = []) (fun _ h => h)
    (fun s step h hok => by rw [unhandled_step, h, hok]; rfl)
    (fun s step h hok => by rw [unhandled_step, h]; exact hok) initial rfl steps
  rw [hunhandled, each_congr fun s step => retried_iff uuids options (s := s) step, ← each_and]
  exact each_congr (fun s step => (containsFailure_iff options step).symm) initial steps

end OpenClawGatewaySource

end Vertx
