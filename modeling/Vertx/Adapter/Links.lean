import Vertx.Adapter.Steps

/-!
# The links of the source

The sockets with what is on its way to them, which of them the source uses, its listeners and what
they have been called with.  Only the steps of the environment and `ensureConnected` change the
sockets; sending requests and settling them leaves all of this alone.
-/

namespace Vertx

/-- What a source shows to upstream and to its listeners. -/
structure Links where
  sockets : List (ReadyState × List (ℕ × Option JsValue))
  socket : Option ℕ
  stopped : Bool
  listeners : List ℕ
  emitted : List Emission
  messages : ℕ

def UpstreamConnection.link (c : UpstreamConnection) : ReadyState × List (ℕ × Option JsValue) :=
  (c.readyState, c.inbox)

namespace OpenClawGatewaySource

def links (s : OpenClawGatewaySource) : Links where
  sockets := s.connections.map (·.link)
  socket := s.socket
  stopped := s.stopped
  listeners := s.listeners
  emitted := s.emitted
  messages := s.messages

variable (uuids : RandomUuids) (options : OpenClawGatewaySourceOptions)

/-- A change of the `k`-th socket, as the links show it. -/
theorem links_modifyConnection (k : ℕ) (f : UpstreamConnection → UpstreamConnection)
    (g : ReadyState × List (ℕ × Option JsValue) → ReadyState × List (ℕ × Option JsValue))
    (h : ∀ c, (f c).link = g c.link) (s : OpenClawGatewaySource) :
    (s.modifyConnection k f).links = { s.links with sockets := s.links.sockets.modify k g } := by
  simp only [links, modifyConnection, Keyed.map_modify h]

@[simp] theorem links_settleAttempt (k : ℕ) (result : Except JsError JsValue)
    (s : OpenClawGatewaySource) : (s.settleAttempt k result).links = s.links := by
  have h := links_modifyConnection k
    (fun c => { c with promise := c.promise.or (some result) }) id (fun _ => rfl) s
  rw [List.modify_id] at h
  exact h

@[simp] theorem links_fail (k : ℕ) (error : JsError) (s : OpenClawGatewaySource) :
    (s.fail k error).links = s.links := by
  rw [fail, links_settleAttempt]
  rfl

/-- A request that is sent is registered under its id, explicit or new. -/
theorem sendRequest_eq_ok {uuids : RandomUuids} {method : String} {payload : JsValue}
    {explicitId : Option String} {waiter : Waiter} {s t : OpenClawGatewaySource}
    (h : s.sendRequest uuids method payload explicitId waiter = .ok t) :
    ∃ socket id uuidsDrawn, s.socket = some socket ∧ s.isOpen ∧
      t = { s with uuidsDrawn := uuidsDrawn }.sendFrame socket id method payload waiter ∧
      (explicitId = some id ∧ uuidsDrawn = s.uuidsDrawn ∨
        explicitId = none ∧ id = method ++ ":" ++ uuids.draw s.uuidsDrawn ∧
          uuidsDrawn = s.uuidsDrawn + 1) := by
  unfold sendRequest at h
  split at h
  · cases h
  · next socket hsocket =>
    split_ifs at h with hopen
    split at h
    · next id =>
      exact ⟨socket, id, s.uuidsDrawn, hsocket, hopen, (Except.ok.inj h).symm, .inl ⟨rfl, rfl⟩⟩
    · exact ⟨socket, _, _, hsocket, hopen, (Except.ok.inj h).symm, .inr ⟨rfl, rfl, rfl⟩⟩

theorem links_sendRequest {uuids : RandomUuids} {method : String} {payload : JsValue}
    {explicitId : Option String} {waiter : Waiter} {s t : OpenClawGatewaySource}
    (h : s.sendRequest uuids method payload explicitId waiter = .ok t) : t.links = s.links := by
  obtain ⟨socket, id, uuidsDrawn, -, -, rfl, -⟩ := sendRequest_eq_ok h
  rfl

@[simp] theorem links_resolve (waiter : Waiter) (value : JsValue) (s : OpenClawGatewaySource) :
    (s.resolve waiter value).links = s.links := by
  cases waiter <;> rfl

@[simp] theorem links_reject (waiter : Waiter) (error : JsError) (s : OpenClawGatewaySource) :
    (s.reject waiter error).links = s.links := by
  cases waiter with
  | connect k => exact links_fail k error s
  | call n => rfl
  | subscribeSessions => rfl

@[simp] theorem links_sendConnectRequest (k : ℕ) (s : OpenClawGatewaySource) :
    (s.sendConnectRequest uuids options k).links = s.links := by
  unfold sendConnectRequest
  split_ifs
  · rfl
  · dsimp only
    split
    · next t h => exact (links_sendRequest h).trans rfl
    · exact links_fail _ _ _

@[simp] theorem links_subscribeSessions (s : OpenClawGatewaySource) :
    (s.subscribeSessions uuids).links = s.links := by
  unfold subscribeSessions
  split
  · next t h => exact links_sendRequest h
  · rfl

@[simp] theorem links_rejectResponse (k : ℕ) (p : OpenClawPendingRequest) (error : JsError)
    (s : OpenClawGatewaySource) : (s.rejectResponse k p error).links = s.links := by
  unfold rejectResponse
  split_ifs
  · exact links_fail k error s
  · exact links_reject p.waiter error s

@[simp] theorem links_acceptResponse (k : ℕ) (p : OpenClawPendingRequest) (payload : JsValue)
    (s : OpenClawGatewaySource) : (s.acceptResponse uuids options k p payload).links = s.links := by
  have hgreeted : (({ s with hello := payload }.resolve p.waiter payload).settleAttempt k
      (.ok payload)).links = s.links := by
    rw [links_settleAttempt, links_resolve]
    rfl
  unfold acceptResponse
  split_ifs
  · exact hgreeted
  · exact (links_subscribeSessions uuids _).trans hgreeted
  · exact links_resolve p.waiter payload s

/-- A response changes neither the sockets nor what the listeners have been called with. -/
theorem links_handleResponse (k : ℕ) (response : JsValue) (s : OpenClawGatewaySource) :
    ((handleResponse uuids options k response).stateAfter s).links = s.links := by
  unfold JsM.stateAfter EStateM.run handleResponse
  cases s.pending.find? (fun p => response.field "id" = .str p.id) with
  | none => rfl
  | some p =>
    have htake : (s.takePending p).links = s.links := rfl
    split_ifs
    · exact (links_acceptResponse uuids options k p _ _).trans htake
    · dsimp only
      cases responseError p.method response with
      | error e => exact htake
      | ok message => exact (links_rejectResponse k p _ _).trans htake

/-- A message leaves the links alone, but may call each of the first so many listeners once. -/
theorem links_handleMessage (k message : ℕ) (clock : Clock)
    (reaction : ℕ → RealtimeSourceEvent → Option JsError) (raw : Option JsValue)
    (s : OpenClawGatewaySource) :
    ∃ calls : List Emission,
      (calls.map fun e => (e.listener, e.message)) <+: s.links.listeners.map (·, message) ∧
      ((handleMessage uuids options k message clock reaction raw).stateAfter s).links =
        { s.links with emitted := s.links.emitted ++ calls } := by
  have hnothing {t : OpenClawGatewaySource} (h : t.links = s.links) :
      ∃ calls : List Emission,
        (calls.map fun e => (e.listener, e.message)) <+: s.links.listeners.map (·, message) ∧
        t.links = { s.links with emitted := s.links.emitted ++ calls } :=
    ⟨[], List.nil_prefix, by rw [h, List.append_nil]⟩
  have heffect := s.handleMessage_cases uuids options k message clock reaction raw
  generalize (handleMessage uuids options k message clock reaction raw).stateAfter s =
    t at heffect ⊢
  cases heffect with
  | dropped => exact hnothing rfl
  | challenge => exact hnothing (links_sendConnectRequest uuids options k s)
  | event event called _ _ hcalled =>
    refine ⟨called.map (⟨·, message, event⟩), ?_, rfl⟩
    rw [List.map_map]
    exact hcalled.map _
  | response => exact hnothing (links_handleResponse uuids options k _ s)

/-- What holds of a source without pending requests and is kept by each rejection. -/
theorem rejectPending_induction {P : OpenClawGatewaySource → Prop} {s : OpenClawGatewaySource}
    (hstart : P { s with pending := [] })
    (hreject : ∀ (p : OpenClawPendingRequest) (t : OpenClawGatewaySource), P t →
      P ({ t with requestTimers := t.requestTimers.filter (·.number ≠ p.timer) }.reject p.waiter
        (.error "openclaw gateway source closed"))) : P s.rejectPending := by
  unfold rejectPending
  generalize { s with pending := [] } = t at hstart
  induction s.pending generalizing t with
  | nil => exact hstart
  | cons p pending ih => exact ih _ (hreject p t hstart)

end OpenClawGatewaySource

end Vertx
