import Vertx.Adapter.OneConnection
import Vertx.Lib.Promises

/-!
# The promises of connection attempts

Every WebSocket that `ensureConnected` opens has a promise, which its callers wait for.  It is
settled from five places: the error handler of the socket, the handler of its challenge, the answer
to its connect request, the timer of that request and `close`.  `settlements` lists what a step
settles, and `promises_step` says that it settles nothing else.
-/

namespace Vertx

open Promises

/-- The attempt whose connect request waits for an answer. -/
def Waiter.attempt? : Waiter → Option ℕ
  | connect k => some k
  | call _ | subscribeSessions => none

namespace OpenClawGatewaySource

/-- The promises of the attempts, by the number of the attempt. -/
def promises (s : OpenClawGatewaySource) : List (Option (Except JsError JsValue)) :=
  s.connections.map (·.promise)

/-- What a request that fails settles. -/
def rejections (waiter : Waiter) (error : JsError) : List (ℕ × Except JsError JsValue) :=
  (waiter.attempt?.map fun k => (k, .error error)).toList

/-- What the `k`-th socket's challenge settles: the attempt fails when its connect request cannot be
sent. -/
def challengeSettlements (k : ℕ) (s : OpenClawGatewaySource) : List (ℕ × Except JsError JsValue) :=
  if s.connectSent ∨ s.isOpen then []
  else [(k, .error (.error "openclaw gateway is not connected"))]

/-- What a response on the `k`-th socket settles. -/
def responseSettlements (k : ℕ) (response : JsValue) (s : OpenClawGatewaySource) :
    List (ℕ × Except JsError JsValue) :=
  match s.pending.find? (fun p => response.field "id" = .str p.id) with
  | none => []
  | some p =>
    if (response.field "ok").truthy then
      if s.connectRequestId = some p.id then [(k, .ok (response.field "payload"))] else []
    else
      match responseError p.method response with
      | .error _ => []
      | .ok message =>
        if s.connectRequestId = some p.id then [(k, .error (.error message))]
        else rejections p.waiter (.error message)

/-- What a message on the `k`-th socket settles. -/
def messageSettlements (k : ℕ) (parsed : JsValue) (s : OpenClawGatewaySource) :
    List (ℕ × Except JsError JsValue) :=
  if parsed.field "type" = .str "event" then
    if parsed.field "event" = .str "connect.challenge" then s.challengeSettlements k else []
  else if parsed.field "type" = .str "res" then s.responseSettlements k parsed
  else []

/-- What a step settles, in order. -/
def settlements (s : OpenClawGatewaySource) : SourceStep → List (ℕ × Except JsError JsValue)
  | .errored k error =>
    if s.connections[k]?.any (fun c => c.readyState ≠ .closed ∧ c.errored = false) then
      [(k, .error error)]
    else []
  | .received k _ _ =>
    match s.connections[k]?.bind (·.next?) with
    | some (_, some parsed) => s.messageSettlements k parsed
    | _ => []
  | .timeout number =>
    match s.requestTimers.find? (·.number = number) with
    | some timer =>
      if s.pending.any (·.id = timer.id) then
        rejections timer.waiter (.error ("openclaw request timed out: " ++ timer.method))
      else []
    | none => []
  | .close =>
    s.pending.flatMap fun p => rejections p.waiter (.error "openclaw gateway source closed")
  | _ => []

/-! ## What the parts of a step settle -/

variable (uuids : RandomUuids) (options : OpenClawGatewaySourceOptions) {s : OpenClawGatewaySource}

theorem promises_modifyConnection (k : ℕ) {f : UpstreamConnection → UpstreamConnection}
    (s : OpenClawGatewaySource) (hf : ∀ c, (f c).promise = c.promise) :
    (s.modifyConnection k f).promises = s.promises :=
  Keyed.map_modify_of_eq hf k s.connections

theorem promises_settleAttempt (k : ℕ) (result : Except JsError JsValue)
    (s : OpenClawGatewaySource) :
    (s.settleAttempt k result).promises = settleAll s.promises [(k, result)] := by
  have hcommute (c : UpstreamConnection) :
      ({ c with promise := c.promise.or (some result) } : UpstreamConnection).promise =
        c.promise.or (some result) := rfl
  exact @Keyed.map_modify UpstreamConnection (Option (Except JsError JsValue)) _
    (fun o => o.or (some result)) (fun c => c.promise) hcommute k s.connections

theorem promises_fail (k : ℕ) (error : JsError) (s : OpenClawGatewaySource) :
    (s.fail k error).promises = settleAll s.promises [(k, .error error)] :=
  promises_settleAttempt k _ { s with connectPromise := none }

theorem promises_sendRequest {method : String} {payload : JsValue} {explicitId : Option String}
    {waiter : Waiter} {t : OpenClawGatewaySource}
    (h : s.sendRequest uuids method payload explicitId waiter = .ok t) :
    t.promises = s.promises := by
  obtain ⟨socket, id, uuidsDrawn, -, -, rfl, -⟩ := sendRequest_eq_ok h
  rfl

/-- A request can be sent exactly while the socket is open. -/
theorem sendRequest_isOk (method : String) (payload : JsValue) (explicitId : Option String)
    (waiter : Waiter) :
    (s.isOpen = true ∧ ∃ t, s.sendRequest uuids method payload explicitId waiter = .ok t) ∨
      s.isOpen = false ∧ s.sendRequest uuids method payload explicitId waiter =
        .error (.error "openclaw gateway is not connected") := by
  unfold sendRequest
  cases hsocket : s.socket with
  | none => exact .inr ⟨by unfold isOpen; rw [hsocket]; rfl, rfl⟩
  | some socket =>
    cases hopen : s.isOpen with
    | false => exact .inr ⟨rfl, rfl⟩
    | true =>
      refine .inl ⟨rfl, ?_⟩
      cases explicitId <;> exact ⟨_, rfl⟩

theorem promises_sendConnectRequest (k : ℕ) :
    (s.sendConnectRequest uuids options k).promises =
      settleAll s.promises (s.challengeSettlements k) := by
  unfold sendConnectRequest challengeSettlements
  by_cases hsent : s.connectSent
  · rw [if_pos hsent, if_pos (.inl hsent)]
    rfl
  · rw [if_neg hsent]
    dsimp only
    generalize ht : ({ s with
      connectSent := true
      connectRequestId := some ("connect:" ++ uuids.draw s.uuidsDrawn)
      uuidsDrawn := s.uuidsDrawn + 1 } : OpenClawGatewaySource) = t
    have hopen : t.isOpen = s.isOpen := by rw [← ht]; rfl
    have hpromises : t.promises = s.promises := by rw [← ht]; rfl
    rcases @sendRequest_isOk uuids t "connect" options.connectParams
        (some ("connect:" ++ uuids.draw s.uuidsDrawn)) (.connect k) with
      ⟨hok, t', ht'⟩ | ⟨hclosed, herror⟩
    · rw [ht', if_pos (.inr (hopen ▸ hok))]
      exact (promises_sendRequest uuids ht').trans hpromises
    · rw [herror, if_neg (by rw [← hopen, hclosed]; simp [hsent]), ← hpromises]
      exact promises_fail k _ t

theorem promises_resolve (waiter : Waiter) (value : JsValue) (s : OpenClawGatewaySource) :
    (s.resolve waiter value).promises = s.promises := by
  cases waiter <;> rfl

theorem promises_reject (waiter : Waiter) (error : JsError) (s : OpenClawGatewaySource) :
    (s.reject waiter error).promises = settleAll s.promises (rejections waiter error) := by
  cases waiter with
  | connect k => exact promises_fail k error s
  | call n => rfl
  | subscribeSessions => rfl

theorem promises_subscribeSessions (s : OpenClawGatewaySource) :
    (s.subscribeSessions uuids).promises = s.promises := by
  unfold subscribeSessions
  split
  · next t h => exact promises_sendRequest uuids h
  · rfl

theorem promises_handleResponse (k : ℕ) (response : JsValue) (s : OpenClawGatewaySource) :
    ((handleResponse uuids options k response).stateAfter s).promises =
      settleAll s.promises (s.responseSettlements k response) := by
  unfold JsM.stateAfter EStateM.run handleResponse responseSettlements
  cases s.pending.find? (fun p => response.field "id" = .str p.id) with
  | none => rfl
  | some p =>
    dsimp only
    by_cases hok : (response.field "ok").truthy
    · rw [if_pos hok, if_pos hok]
      dsimp only [acceptResponse]
      by_cases hconnect : s.connectRequestId = some p.id
      · have hconnect' : (s.takePending p).connectRequestId = some p.id := hconnect
        rw [if_pos hconnect, if_pos hconnect']
        have hsettled :
            (({ s.takePending p with hello := response.field "payload" }.resolve p.waiter
            (response.field "payload")).settleAttempt k (.ok (response.field "payload"))).promises =
            settleAll s.promises [(k, .ok (response.field "payload"))] := by
          rw [promises_settleAttempt, promises_resolve]
          rfl
        split_ifs
        · exact hsettled
        · rw [promises_subscribeSessions]
          exact hsettled
      · have hconnect' : ¬ (s.takePending p).connectRequestId = some p.id := hconnect
        rw [if_neg hconnect, if_neg hconnect', promises_resolve]
        rfl
    · rw [if_neg hok, if_neg hok]
      cases responseError p.method response with
      | error e => rfl
      | ok message =>
        dsimp only [rejectResponse]
        by_cases hconnect : s.connectRequestId = some p.id
        · have hconnect' : (s.takePending p).connectRequestId = some p.id := hconnect
          rw [if_pos hconnect, if_pos hconnect', promises_fail]
          rfl
        · have hconnect' : ¬ (s.takePending p).connectRequestId = some p.id := hconnect
          rw [if_neg hconnect, if_neg hconnect', promises_reject]
          rfl

theorem promises_handleMessage (k message : ℕ) (clock : Clock)
    (reaction : ℕ → RealtimeSourceEvent → Option JsError) (parsed : JsValue)
    (s : OpenClawGatewaySource) :
    ((handleMessage uuids options k message clock reaction (some parsed)).stateAfter s).promises =
      settleAll s.promises (s.messageSettlements k parsed) := by
  have heffect := s.handleMessage_cases uuids options k message clock reaction (some parsed)
  generalize (handleMessage uuids options k message clock reaction (some parsed)).stateAfter s = t
    at heffect ⊢
  unfold messageSettlements
  cases heffect with
  | dropped hevent htype =>
    rw [if_neg (htype parsed rfl)]
    split_ifs with hframe hchallenge
    · exact absurd hchallenge (hevent parsed rfl hframe)
    · rfl
    · rfl
  | challenge htype hevent =>
    rw [if_pos htype, if_pos hevent]
    exact promises_sendConnectRequest uuids options k
  | event event called htype hevent =>
    rw [if_pos htype, if_neg hevent]
    rfl
  | response htype =>
    rw [if_neg (by rw [htype]; decide), if_pos htype]
    exact promises_handleResponse uuids options k parsed s

theorem promises_runHandler (p : JsM OpenClawGatewaySource Unit) (s : OpenClawGatewaySource) :
    (runHandler p s).promises = (p.stateAfter s).promises := by
  unfold runHandler JsM.stateAfter
  cases p.run s <;> rfl

/-- The parts of a source that decide what a message settles. -/
theorem messageSettlements_congr {s t : OpenClawGatewaySource} (hpending : t.pending = s.pending)
    (hsent : t.connectSent = s.connectSent) (hid : t.connectRequestId = s.connectRequestId)
    (hopen : t.isOpen = s.isOpen) (k : ℕ) (parsed : JsValue) :
    t.messageSettlements k parsed = s.messageSettlements k parsed := by
  unfold messageSettlements challengeSettlements responseSettlements
  rw [hpending, hsent, hid, hopen]

/-- A change that keeps the state of every socket keeps whether the one in use is open. -/
theorem isOpen_modifyConnection (k : ℕ) {f : UpstreamConnection → UpstreamConnection}
    (s : OpenClawGatewaySource) (hf : ∀ c, (f c).readyState = c.readyState) :
    (s.modifyConnection k f).isOpen = s.isOpen := by
  unfold isOpen modifyConnection
  cases s.socket with
  | none => rfl
  | some socket =>
    simp only [Option.bind_some, List.getElem?_modify]
    cases s.connections[socket]? with
    | none => rfl
    | some c =>
      by_cases hk : k = socket
      · simp [hk, hf]
      · simp [hk]

theorem promises_receive (k : ℕ) (clock : Clock)
    (reaction : ℕ → RealtimeSourceEvent → Option JsError) :
    (s.receive uuids options k clock reaction).promises =
      settleAll s.promises (s.settlements (.received k clock reaction)) := by
  unfold receive settlements
  dsimp only
  cases hnext : s.connections[k]?.bind (·.next?) with
  | none => rfl
  | some next =>
    obtain ⟨message, raw⟩ := next
    dsimp only
    generalize ht : ({ s with arrived := s.arrived ++ [(k, raw)] }.modifyConnection k fun c =>
      { c with inbox := c.inbox.tail }) = t
    have hpromises : t.promises = s.promises := by
      rw [← ht]
      apply promises_modifyConnection
      intro c
      rfl
    rw [promises_runHandler]
    cases raw with
    | none => exact hpromises
    | some parsed =>
      rw [promises_handleMessage, hpromises]
      refine congrArg (settleAll s.promises) (messageSettlements_congr ?_ ?_ ?_ ?_ k parsed)
      · rw [← ht]; rfl
      · rw [← ht]; rfl
      · rw [← ht]; rfl
      · rw [← ht]
        apply isOpen_modifyConnection
        intro c
        rfl

theorem promises_ensureConnected (call : SourceCall) :
    (s.ensureConnected call).promises =
      s.promises ++ if s.NeedsConnection then [none] else [] := by
  unfold ensureConnected
  by_cases hhello : s.hello.truthy ∧ s.isOpen
  · rw [if_pos hhello, if_neg fun h : s.NeedsConnection => h.1 hhello, List.append_nil]
    rfl
  · rw [if_neg hhello]
    cases hpromise : s.connectPromise with
    | some k =>
      have hnot : ¬ s.NeedsConnection := fun h => by rw [h.2] at hpromise; cases hpromise
      rw [if_neg hnot, List.append_nil]
      rfl
    | none =>
      rw [if_pos ⟨hhello, hpromise⟩]
      exact List.map_append

theorem promises_proceed (result : Except JsError JsValue) (call : SourceCall)
    (s : OpenClawGatewaySource) : (s.proceed uuids result call).promises = s.promises := by
  unfold proceed
  split
  · rfl
  · rfl
  · rfl
  · split
    · next h => exact promises_sendRequest uuids h
    · rfl
  · rfl

theorem promises_timeout (timer : RequestTimer) :
    (s.timeout timer).promises = settleAll s.promises
      (if s.pending.any (·.id = timer.id) then
        rejections timer.waiter (.error ("openclaw request timed out: " ++ timer.method))
      else []) := by
  unfold timeout
  dsimp only
  split_ifs
  · exact promises_reject _ _ _
  · rfl

theorem promises_rejectPending :
    s.rejectPending.promises = settleAll s.promises
      (s.pending.flatMap fun p =>
        rejections p.waiter (.error "openclaw gateway source closed")) := by
  have hfold (pending : List OpenClawPendingRequest) (t : OpenClawGatewaySource) :
      (pending.foldl
        (fun s p =>
          { s with requestTimers := s.requestTimers.filter (·.number ≠ p.timer) }.reject p.waiter
            (.error "openclaw gateway source closed")) t).promises =
        settleAll t.promises
          (pending.flatMap fun p =>
            rejections p.waiter (.error "openclaw gateway source closed")) := by
    induction pending generalizing t with
    | nil => rfl
    | cons p pending ih =>
      rw [List.foldl_cons, ih, promises_reject, List.flatMap_cons, settleAll, settleAll, settleAll,
        ← List.foldl_append]
      rfl
  exact hfold s.pending { s with pending := [] }

theorem promises_close :
    s.close.promises = settleAll s.promises (s.settlements .close) := by
  unfold close settlements
  dsimp only
  generalize ht : OpenClawGatewaySource.rejectPending _ = t
  have hpromises : t.promises = settleAll s.promises
      (s.pending.flatMap fun p =>
        rejections p.waiter (.error "openclaw gateway source closed")) := by
    rw [← ht]
    exact promises_rejectPending
  split
  · exact hpromises
  · rw [promises_modifyConnection]
    · exact hpromises
    · intro c
      rfl

theorem promises_deliver (recipient : ℕ → Bool) (raw : Option JsValue)
    (s : OpenClawGatewaySource) : (s.deliver recipient raw).promises = s.promises := by
  unfold promises deliver
  apply List.ext_getElem?
  intro i
  simp only [List.getElem?_map, List.getElem?_mapIdx, Option.map_map]
  cases s.connections[i]? with
  | none => rfl
  | some c =>
    simp only [Option.map_some, Function.comp_apply]
    split_ifs <;> rfl

/-! ## The steps -/

theorem settlements_of_misses {step : SourceStep} (h : s.Misses step) :
    s.settlements step = [] := by
  cases step with
  | errored k error =>
    refine if_neg fun hany => ?_
    obtain ⟨c, hc, hlive⟩ := (Option.any_eq_true _ _).1 hany
    obtain ⟨hopen, hfirst⟩ : c.readyState ≠ .closed ∧ c.errored = false := by simpa using hlive
    rcases h c hc with hclosed | herrored
    · exact hopen hclosed
    · rw [hfirst] at herrored
      cases herrored
  | timeout number =>
    have hnone : s.requestTimers.find? (·.number = number) = none := h
    simp only [settlements, hnone]
  | resume | closed | reconnect => rfl
  | _ => exact h.elim

/-- A step settles what `settlements` lists, and adds an unsettled promise when it opens a
WebSocket. -/
theorem promises_step (step : SourceStep) :
    (s.step uuids options step).promises = settleAll s.promises (s.settlements step) ∨
      (s.step uuids options step).promises = s.promises ++ [none] ∧ s.settlements step = [] ∧
        step.Connects s ∧ s.NeedsConnection := by
  have hconnects {step : SourceStep} {call : SourceCall} {t : OpenClawGatewaySource}
      (ht : t.promises = s.promises) (hneeds : t.NeedsConnection ↔ s.NeedsConnection)
      (hnone : s.settlements step = []) (hstep : step.Connects s) :
      (t.ensureConnected call).promises = settleAll s.promises (s.settlements step) ∨
        (t.ensureConnected call).promises = s.promises ++ [none] ∧ s.settlements step = [] ∧
          step.Connects s ∧ s.NeedsConnection := by
    rw [promises_ensureConnected, ht, hnone]
    split_ifs with h
    · exact .inr ⟨rfl, rfl, hstep, hneeds.1 h⟩
    · exact .inl (List.append_nil _)
  have heffect := s.step_cases uuids options step
  generalize s.step uuids options step = t at heffect ⊢
  cases heffect with
  | idle hmisses =>
    rw [settlements_of_misses hmisses]
    exact .inl rfl
  | subscribe | request | getSnapshot => exact hconnects rfl .rfl rfl trivial
  | reconnect htimer => exact hconnects rfl .rfl rfl htimer
  | unsubscribe => exact .inl rfl
  | close => exact .inl promises_close
  | resume =>
    refine .inl ?_
    rw [promises_proceed]
    rfl
  | opened k =>
    refine .inl (promises_modifyConnection k s fun c => ?_)
    split_ifs <;> rfl
  | received k clock reaction => exact .inl (promises_receive uuids options k clock reaction)
  | @errored k c error hc hopen hfirst =>
    refine .inl ?_
    simp only [settlements, hc, Option.any_some]
    rw [if_pos (by simpa using ⟨hopen, hfirst⟩), promises_fail, promises_modifyConnection]
    intro c
    rfl
  | closing k =>
    refine .inl (promises_modifyConnection k s fun c => ?_)
    split_ifs <;> rfl
  | @closed k =>
    refine .inl ?_
    have hkept : (s.modifyConnection k fun c => { c with readyState := .closed }).promises =
        s.promises := by
      apply promises_modifyConnection
      intro c
      rfl
    unfold handleClose
    dsimp only
    split_ifs <;> exact hkept
  | @timeout number timer htimer =>
    refine .inl ?_
    simp only [settlements, htimer]
    exact promises_timeout timer
  | send k raw => exact .inl (promises_deliver _ raw s)
  | broadcast raw => exact .inl (promises_deliver _ raw s)

end OpenClawGatewaySource

end Vertx
