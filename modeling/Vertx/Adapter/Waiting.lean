import Vertx.Adapter.Callers
import Vertx.Adapter.Promises

/-!
# Waiting for a WebSocket that has closed

The close handler of a socket forgets the promise of its attempt and does not settle it.  So a call
that waits for the attempt goes on when the socket closes only if something settled the promise
before: the error handler of the socket, its challenge, the answer to the connect request or the end
of that request.
-/

namespace Vertx

open Runs Promises

namespace Links

variable {l : Links} {i k : ℕ}

/-- A change of a socket that does not close it. -/
theorem Live.modify {g : ReadyState × List (ℕ × Option JsValue) →
      ReadyState × List (ℕ × Option JsValue)} (h : l.Live i)
    (hg : ∀ link, (g link).1 = .closed → link.1 = .closed) :
    { l with sockets := l.sockets.modify k g }.Live i := by
  unfold Live at h ⊢
  rw [inbox?_modify]
  split_ifs
  · unfold inbox? at h
    cases hlink : l.sockets[i]? with
    | none =>
      rw [hlink] at h
      cases h
    | some link =>
      rw [hlink, Option.bind_some] at h
      have hopen : link.1 ≠ .closed := by
        intro hclosed
        rw [if_pos hclosed] at h
        cases h
      rw [Option.bind_some, if_neg fun hclosed => hopen (hg link hclosed)]
      rfl
  · exact h

theorem Live.connect (h : l.Live i) : l.connect.Live i := by
  have hne : i ≠ l.sockets.length := by
    rintro rfl
    exact not_live_length h
  rw [Live, inbox?_connect, if_neg hne]
  exact h

theorem live_connect_length : l.connect.Live l.sockets.length := by
  rw [Live, inbox?_connect, if_pos rfl]
  rfl

end Links

namespace OpenClawGatewaySource

variable (uuids : RandomUuids) (options : OpenClawGatewaySourceOptions) {s : OpenClawGatewaySource}

/-! ## Sockets that have not closed -/

theorem live_iff {k : ℕ} {c : UpstreamConnection} (hc : s.connections[k]? = some c) :
    s.links.Live k ↔ c.readyState ≠ .closed := by
  have hlink : s.links.sockets[k]? = some c.link := by
    rw [links, List.getElem?_map, hc]
    rfl
  rw [Links.Live, Links.inbox?, hlink, Option.bind_some]
  by_cases hclosed : c.readyState = .closed
  · simp [UpstreamConnection.link, hclosed]
  · simp [UpstreamConnection.link, hclosed]

theorem connection_of_live {k : ℕ} (h : s.links.Live k) : ∃ c, s.connections[k]? = some c := by
  cases hc : s.connections[k]? with
  | some c => exact ⟨c, rfl⟩
  | none => simp [Links.Live, Links.inbox?, links, List.getElem?_map, hc] at h

theorem connections_closed {k : ℕ} {c : UpstreamConnection} (hc : s.connections[k]? = some c)
    (h : s.links.Live k) : (s.step uuids options (.closed k)).connections[k]? =
      some { c with readyState := .closed } := by
  simp only [OpenClawGatewaySource.step, hc, if_neg ((live_iff hc).1 h), handleClose]
  split_ifs <;> simp [modifyConnection, hc]

theorem live_modifyConnection {i k : ℕ} (h : s.links.Live i)
    {f : UpstreamConnection → UpstreamConnection} {g : ReadyState → ReadyState}
    (hf : ∀ c, (f c).link = (g c.readyState, c.inbox)) (hg : ∀ r, g r = .closed → r = .closed) :
    (s.modifyConnection k f).links.Live i := by
  rw [links_modifyConnection k f (fun link => (g link.1, link.2)) hf]
  exact h.modify fun link => hg link.1

theorem live_ensureConnected {k : ℕ} (call : SourceCall) (h : s.links.Live k) :
    (s.ensureConnected call).links.Live k := by
  by_cases hneeds : s.NeedsConnection
  · rw [links_ensureConnected call hneeds]
    exact h.connect
  · rw [links_ensureConnected_of_not call hneeds]
    exact h

theorem live_receive {i : ℕ} (k : ℕ) (clock : Clock)
    (reaction : ℕ → RealtimeSourceEvent → Option JsError) (h : s.links.Live i) :
    (s.receive uuids options k clock reaction).links.Live i := by
  unfold receive
  split
  · exact h
  · next message raw _ =>
    generalize ht : ({ s with arrived := s.arrived ++ [(k, raw)] }.modifyConnection k fun c =>
      { c with inbox := c.inbox.tail }) = t
    have hlive : t.links.Live i := by
      rw [← ht, links_modifyConnection k _ (fun link => (link.1, link.2.tail)) fun _ => rfl]
      exact Links.Live.modify h fun _ hclosed => hclosed
    obtain ⟨calls, -, hlinks⟩ := links_handleMessage uuids options k message clock reaction raw t
    rw [links_runHandler, hlinks]
    exact hlive

theorem live_close {i : ℕ} (h : s.links.Live i) : s.close.links.Live i := by
  unfold close
  dsimp only
  generalize ht : OpenClawGatewaySource.rejectPending _ = t
  have hlinks : t.links = { s.links with stopped := true } := by
    rw [← ht]
    exact links_rejectPending _
  have hlive : t.links.Live i := by
    rw [hlinks]
    exact h
  split
  · exact hlive
  · refine @live_modifyConnection { t with socket := none } i _ hlive _ ReadyState.afterClose
      (fun _ => rfl) fun r hclosed => ?_
    exact ReadyState.afterClose_eq_closed.1 hclosed

/-- A socket closes by its own close event only. -/
theorem live_step {k : ℕ} (step : SourceStep) (h : s.links.Live k) (hstep : step ≠ .closed k) :
    (s.step uuids options step).links.Live k := by
  have heffect := s.step_cases uuids options step
  generalize s.step uuids options step = t at heffect ⊢
  cases heffect with
  | idle | unsubscribe => exact h
  | subscribe | request | getSnapshot | reconnect => exact live_ensureConnected _ h
  | close => exact live_close h
  | resume =>
    rw [links_proceed]
    exact h
  | opened j =>
    refine @live_modifyConnection s k j h _ (fun r => if r = .connecting then .open else r) ?_ ?_
    · intro c
      dsimp only [UpstreamConnection.link]
      split_ifs <;> rfl
    · intro r
      cases r <;> simp
  | received j clock reaction => exact live_receive uuids options j clock reaction h
  | errored =>
    rw [links_fail]
    exact live_modifyConnection h (fun _ => rfl) fun r => ReadyState.afterClose_eq_closed.1
  | closing j =>
    refine @live_modifyConnection s k j h _ (fun r => if r = .open then .closing else r) ?_ ?_
    · intro c
      dsimp only [UpstreamConnection.link]
      split_ifs <;> rfl
    · intro r
      cases r <;> simp
  | @closed j =>
    have hne : j ≠ k := fun hjk => hstep (by rw [hjk])
    have hother :
        (s.modifyConnection j fun c => { c with readyState := .closed }).links.Live k := by
      rw [links_modifyConnection j _ (fun link => (.closed, link.2)) fun _ => rfl, Links.Live,
        Links.inbox?_modify, if_neg hne]
      exact h
    unfold handleClose
    dsimp only
    split_ifs <;> exact hother
  | timeout =>
    rw [links_timeout]
    exact h
  | send j raw =>
    rcases links_deliver (s := s) (· = j) raw k with hsame | ⟨inbox, -, hsome⟩
    · exact (congrArg (fun o : Option _ => o.isSome = true) hsame).mpr h
    · exact (congrArg (fun o : Option _ => o.isSome = true) hsome).mpr rfl
  | broadcast raw =>
    rcases links_deliver (s := s) (fun _ => true) raw k with hsame | ⟨inbox, -, hsome⟩
    · exact (congrArg (fun o : Option _ => o.isSome = true) hsame).mpr h
    · exact (congrArg (fun o : Option _ => o.isSome = true) hsome).mpr rfl

/-! ## Calls that wait -/

theorem ensureConnected_of_needs (call : SourceCall) (h : s.NeedsConnection) :
    s.ensureConnected call =
      { s.startConnecting with
        waiting := s.waiting ++ [(.attempt s.connections.length, call)] } := by
  unfold ensureConnected
  rw [if_neg h.1, h.2]

/-- A step that needs a connection opens a WebSocket and waits for it. -/
theorem step_of_needs {step : SourceStep} (hconnects : step.Connects s)
    (hneeds : s.NeedsConnection) :
    (s.step uuids options step).connections.length = s.connections.length + 1 ∧
      (s.step uuids options step).links.Live s.connections.length ∧
      ∃ call, (.attempt s.connections.length, call) ∈ (s.step uuids options step).waiting := by
  have hconnect (call : SourceCall) (t : OpenClawGatewaySource) (ht : t.NeedsConnection) :
      (t.ensureConnected call).connections.length = t.connections.length + 1 ∧
        (t.ensureConnected call).links.Live t.connections.length ∧
        ∃ call', (.attempt t.connections.length, call') ∈ (t.ensureConnected call).waiting := by
    refine ⟨?_, ?_, call, ?_⟩
    · rw [ensureConnected_of_needs call ht]
      exact List.length_append
    · rw [links_ensureConnected call ht]
      have hlength : t.links.sockets.length = t.connections.length := List.length_map _
      rw [← hlength]
      exact Links.live_connect_length
    · rw [ensureConnected_of_needs call ht]
      exact List.mem_append_right _ (List.mem_singleton_self _)
  cases step with
  | subscribe listener => exact hconnect _ _ hneeds
  | request method payload => exact hconnect _ _ hneeds
  | getSnapshot => exact hconnect _ _ hneeds
  | reconnect timer =>
    have htimer : timer ∈ s.reconnectTimers := hconnects
    simp only [OpenClawGatewaySource.step, if_pos htimer]
    exact hconnect _ _ hneeds
  | _ => exact hconnects.elim

theorem mem_waiting_ensureConnected {w : Awaited × SourceCall} (call : SourceCall)
    (h : w ∈ s.waiting) : w ∈ (s.ensureConnected call).waiting := by
  obtain ⟨awaited, hcallers, -⟩ := waiting_ensureConnected call s
  have hwaiting : (s.ensureConnected call).waiting = s.waiting ++ [(awaited, call)] :=
    congrArg Callers.waiting hcallers
  rw [hwaiting]
  exact List.mem_append_left _ h

/-- A call goes on only when what it waits for is there. -/
theorem mem_waiting_step {awaited : Awaited} {call : SourceCall} (step : SourceStep)
    (h : (awaited, call) ∈ s.waiting) (hnone : s.outcome awaited = none) :
    (awaited, call) ∈ (s.step uuids options step).waiting := by
  have hkept {t : OpenClawGatewaySource} (ht : t.callers.waiting = s.waiting) :
      (awaited, call) ∈ t.waiting := (show t.waiting = s.waiting from ht) ▸ h
  have heffect := s.step_cases uuids options step
  generalize s.step uuids options step = t at heffect ⊢
  cases heffect with
  | subscribe | request | getSnapshot | reconnect => exact mem_waiting_ensureConnected _ h
  | close => exact hkept (by rw [callers_close]; rfl)
  | @resume i awaited' call' result hi hresult =>
    have hwaiting : ({ s with waiting := s.waiting.eraseIdx i }.proceed uuids result
        call').waiting = s.waiting.eraseIdx i :=
      congrArg Callers.waiting (callers_proceed uuids result call' _)
    rw [hwaiting, List.mem_eraseIdx_iff_getElem?]
    obtain ⟨j, hj⟩ := List.mem_iff_getElem?.1 h
    refine ⟨j, ?_, hj⟩
    rintro rfl
    obtain ⟨rfl, rfl⟩ := Prod.mk.inj (Option.some.inj (hi.symm.trans hj))
    rw [hnone] at hresult
    cases hresult
  | received => exact hkept (by rw [callers_receive]; rfl)
  | closed =>
    unfold handleClose
    dsimp only
    split_ifs <;> exact h
  | timeout => exact hkept (by rw [callers_timeout]; rfl)
  | idle | unsubscribe | opened | errored | closing | send | broadcast => exact h

/-! ## Runs -/

/-- Nobody waits for an attempt whose WebSocket has closed: its promise is settled by then. -/
def NobodyStranded (s : OpenClawGatewaySource) : Prop :=
  ∀ k call, (.attempt k, call) ∈ s.waiting →
    ∀ c, s.connections[k]? = some c → c.readyState = .closed → c.promise.isSome

/-- The step settles the promise of the `k`-th attempt, if it is not settled yet. -/
def Settles (k : ℕ) (s : OpenClawGatewaySource) (step : SourceStep) : Prop :=
  k < s.connections.length ∧ k ∈ (s.settlements step).map (·.1)

/-- A WebSocket closes only when the promise of its attempt is settled. -/
def ClosesSettled (s : OpenClawGatewaySource) (step : SourceStep) : Prop :=
  ∀ k, step = .closed k → s.links.Live k → (result? s.promises k).isSome

/-- Every unsettled attempt has a caller, and every closed one is settled. -/
structure Attended (s : OpenClawGatewaySource) : Prop where
  awaited : ∀ k < s.connections.length, result? s.promises k = none →
    ∃ call, (.attempt k, call) ∈ s.waiting
  settled : ∀ k < s.connections.length, ¬ s.links.Live k → (result? s.promises k).isSome

theorem length_promises (s : OpenClawGatewaySource) : s.promises.length = s.connections.length :=
  List.length_map _

theorem result?_promises {k : ℕ} {c : UpstreamConnection} (hc : s.connections[k]? = some c) :
    result? s.promises k = c.promise := by
  unfold result? promises
  rw [List.getElem?_map, hc]
  rfl

/-- The promise of an attempt is settled by the steps that `settlements` names. -/
theorem isSome_promise_step (k : ℕ) (s : OpenClawGatewaySource) (step : SourceStep) :
    (result? (s.step uuids options step).promises k).isSome ↔
      (result? s.promises k).isSome ∨ s.Settles k step := by
  rcases promises_step uuids options (s := s) step with h | ⟨h, hnone, -⟩
  · rw [h, isSome_settleAll, length_promises]
    rfl
  · rw [h, result?_append_none, Settles, hnone]
    simp

theorem length_connections_step (step : SourceStep) :
    (s.step uuids options step).connections.length = s.connections.length ∨
      (s.step uuids options step).connections.length = s.connections.length + 1 ∧
        step.Connects s ∧ s.NeedsConnection := by
  rw [← length_promises, ← length_promises]
  rcases promises_step uuids options (s := s) step with h | ⟨h, -, hneeds⟩
  · left
    rw [h]
    exact length_settleAll _ _
  · right
    rw [h]
    exact ⟨List.length_append, hneeds⟩

theorem Attended.step (h : s.Attended) (step : SourceStep) (hok : s.ClosesSettled step) :
    (s.step uuids options step).Attended := by
  have hkept (k : ℕ) (hk : (result? s.promises k).isSome) :
      (result? (s.step uuids options step).promises k).isSome :=
    (isSome_promise_step uuids options k s step).2 (.inl hk)
  have hnew (k : ℕ) (hk : k < (s.step uuids options step).connections.length)
      (hold : ¬ k < s.connections.length) :
      (s.step uuids options step).links.Live k ∧
        ∃ call, (.attempt k, call) ∈ (s.step uuids options step).waiting := by
    rcases length_connections_step uuids options (s := s) step with hlen | ⟨hlen, hconnects, hneeds⟩
    · omega
    · obtain rfl : k = s.connections.length := by omega
      exact (step_of_needs uuids options hconnects hneeds).2
  constructor
  · intro k hk hnone
    by_cases hold : k < s.connections.length
    · have hnone' : result? s.promises k = none := by
        cases hresult : result? s.promises k with
        | none => rfl
        | some result =>
          have hsome := hkept k (by rw [hresult]; rfl)
          rw [hnone] at hsome
          cases hsome
      obtain ⟨call, hcall⟩ := h.awaited k hold hnone'
      refine ⟨call, mem_waiting_step uuids options step hcall ?_⟩
      obtain ⟨c, hc⟩ : ∃ c, s.connections[k]? = some c := ⟨_, List.getElem?_eq_getElem hold⟩
      rw [outcome, hc, Option.bind_some, ← result?_promises hc]
      exact hnone'
    · exact (hnew k hk hold).2
  · intro k hk hdead
    by_cases hold : k < s.connections.length
    · by_cases hlive : s.links.Live k
      · have hstep : step = .closed k := by
          by_contra hne
          exact hdead (live_step uuids options step hlive hne)
        exact hkept k (hok k hstep hlive)
      · exact hkept k (h.settled k hold hlive)
    · exact absurd (hnew k hk hold).1 hdead

theorem Attended.nobodyStranded (h : s.Attended) : s.NobodyStranded := by
  intro k call _ c hc hclosed
  have hk : k < s.connections.length := (List.getElem?_eq_some_iff.1 hc).1
  rw [← result?_promises hc]
  exact h.settled k hk fun hlive => (live_iff hc).1 hlive hclosed

/-- Somebody waits for an attempt that nothing has settled, and its socket closes. -/
theorem not_nobodyStranded_step (h : s.Attended) (step : SourceStep)
    (hok : ¬ s.ClosesSettled step) :
    ¬ (s.step uuids options step).NobodyStranded := by
  obtain ⟨k, rfl, hlive, hnone⟩ : ∃ k, step = .closed k ∧ s.links.Live k ∧
      result? s.promises k = none := by
    simpa [ClosesSettled] using hok
  obtain ⟨c, hc⟩ := connection_of_live hlive
  have hk : k < s.connections.length := (List.getElem?_eq_some_iff.1 hc).1
  obtain ⟨call, hcall⟩ := h.awaited k hk hnone
  have hpromise : c.promise = none := by
    rw [← result?_promises hc]
    exact hnone
  have hwaits := mem_waiting_step uuids options (.closed k) hcall
    (by rw [outcome, hc, Option.bind_some, hpromise])
  intro hnobody
  have hsome := hnobody k call hwaits _ (connections_closed uuids options hc hlive) rfl
  rw [hpromise] at hsome
  cases hsome

/-- The promise of an attempt is settled once a step of the run has settled it. -/
theorem isSome_promise_run (k : ℕ) (steps : List SourceStep) :
    (result? (run (OpenClawGatewaySource.step uuids options) initial steps).promises k).isSome ↔
      ∃ before step after, steps = before ++ step :: after ∧
        (run (OpenClawGatewaySource.step uuids options) initial before).Settles k step := by
  have hnone : (result? initial.promises k).isSome = false := by
    simp [result?, promises, initial]
  have hrun := @run_iff_exists _ _ (OpenClawGatewaySource.step uuids options)
    (fun s => (result? s.promises k).isSome) (Settles k) (isSome_promise_step uuids options k)
    initial steps
  rw [hnone] at hrun
  simpa only [Bool.false_eq_true, false_or] using hrun

/-- In every state of a run nobody waits for a WebSocket that has closed, in exactly the runs in
which each socket that closes had its attempt settled by an earlier step. -/
theorem nobodyStranded_iff (steps : List SourceStep) :
    Always (OpenClawGatewaySource.step uuids options) NobodyStranded initial steps ↔
      ∀ early k late, steps = early ++ .closed k :: late →
        (run (OpenClawGatewaySource.step uuids options) initial early).links.Live k →
        ∃ before step after, early = before ++ step :: after ∧
          (run (OpenClawGatewaySource.step uuids options) initial before).Settles k step := by
  have hattended : initial.Attended := ⟨nofun, nofun⟩
  have heach := @always_iff_each _ _ (OpenClawGatewaySource.step uuids options) NobodyStranded
    Attended ClosesSettled (fun _ h => h.nobodyStranded) (fun _ step h => h.step uuids options step)
    (fun _ step h => not_nobodyStranded_step uuids options h step) initial hattended steps
  rw [heach, each_iff_split]
  simp only [← isSome_promise_run]
  constructor
  · intro h early k late hsteps
    exact h early (.closed k) late hsteps k rfl
  · rintro h early step late hsteps k rfl
    exact h early k late hsteps

/-- The socket closes after the connect request was sent and before its answer; a call waits on. -/
theorem stranded_before_hello :
    ¬ Always (OpenClawGatewaySource.step .counting .default) NobodyStranded initial
      [.request "chat.history" (.obj []), .opened 0,
        .send 0 (some (.obj [("type", .str "event"), ("event", .str "connect.challenge")])),
        .received 0 (fun _ => 0) (fun _ _ => none), .closed 0] := by
  intro h
  have hlast := (always_iff_run _ _ _ _).1 h _ [] (List.append_nil _).symm
  generalize hrun : run (OpenClawGatewaySource.step .counting .default) initial _ = s at hlast
  have hwaits : s.waiting.any (fun w => w.1 matches .attempt 0) := by
    rw [← hrun]
    decide +kernel
  have hclosed : s.connections[0]?.any (fun c => c.readyState = .closed ∧ c.promise.isNone) := by
    rw [← hrun]
    decide +kernel
  obtain ⟨⟨awaited, call⟩, hmem, hawaited⟩ := List.any_eq_true.1 hwaits
  obtain rfl : awaited = .attempt 0 := by
    dsimp only at hawaited
    split at hawaited
    · rfl
    · cases hawaited
  obtain ⟨c, hc, hdead⟩ := (Option.any_eq_true _ _).1 hclosed
  obtain ⟨hstate, hnone⟩ := of_decide_eq_true hdead
  have hsome := hlast 0 call hmem c hc hstate
  rw [Option.isNone_iff_eq_none.1 hnone] at hsome
  cases hsome

end OpenClawGatewaySource

end Vertx
