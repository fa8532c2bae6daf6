import Vertx.Adapter.Exceptions
import Vertx.Adapter.Silent

/-!
# The source after `close`

`close` clears the socket and the pending requests, so that nothing can be sent any more.  It leaves
the promise of the last attempt in place, and `ensureConnected` does not ask whether the source has
been stopped.  So what comes after depends on who calls: the source stays closed exactly while
nobody needs a connection, no event is left on a socket, and no snapshot is asked of the old
connection.
-/

namespace Vertx

open Runs Promises

namespace OpenClawGatewaySource

variable (uuids : RandomUuids) (options : OpenClawGatewaySourceOptions)
  {s t : OpenClawGatewaySource}

/-! ## Events -/

/-- The message makes the source call its listeners. -/
def Emits (parsed : JsValue) (s : OpenClawGatewaySource) : Prop :=
  parsed.field "type" = .str "event" ∧ (eventFrame parsed).HasEvent ∧
    ¬ (eventFrame parsed).BadTime ∧ s.listeners ≠ []

theorem emitted_handleMessage (k message : ℕ) (clock : Clock)
    (reaction : ℕ → RealtimeSourceEvent → Option JsError) (parsed : JsValue)
    (s : OpenClawGatewaySource) :
    ((handleMessage uuids options k message clock reaction (some parsed)).stateAfter s).emitted =
      s.emitted ↔ ¬ s.Emits parsed := by
  by_cases htype : parsed.field "type" = .str "event"
  · have hobject : parsed.isObject := JsValue.isObject_of_field htype
    unfold handleMessage Emits
    dsimp only
    rw [if_neg (not_not.2 hobject), if_pos htype]
    by_cases hchallenge : parsed.field "event" = .str "connect.challenge"
    · have hnone : ¬ (eventFrame parsed).HasEvent := by
        simp [OpenClawEventFrame.HasEvent, OpenClawEventFrame.IsTool,
          OpenClawEventFrame.IsLifecycle, eventFrame, hchallenge, normalizeEventName]
      rw [if_pos hchallenge]
      exact iff_of_true (emitted_sendConnectRequest uuids options k s) fun h => hnone h.2.1
    · rw [if_neg hchallenge]
      have hspec := normalizeOpenClawEvent_spec clock (eventFrame parsed)
      by_cases htime : (eventFrame parsed).BadTime
      · obtain ⟨e, he⟩ := hspec.badTime htime
        rw [he]
        exact iff_of_true rfl fun h => h.2.2.1 htime
      by_cases hevent : (eventFrame parsed).HasEvent
      · obtain ⟨event, payload, he⟩ := hspec.event htime hevent
        obtain ⟨called, hcalled, hnonempty, hstate⟩ := stateAfter_emit message reaction
          ((eventFrame parsed).normalized event payload) s.listeners s
        rw [he]
        unfold JsM.stateAfter at hstate ⊢
        rw [run_emitOne, hstate]
        by_cases hlisteners : s.listeners = []
        · rw [hlisteners, List.prefix_nil] at hcalled
          rw [hcalled]
          exact iff_of_true (List.append_nil _) fun h => h.2.2.2 hlisteners
        · refine iff_of_false (fun h => hnonempty hlisteners ?_)
            fun h => h ⟨htype, hevent, htime, hlisteners⟩
          simpa using h
      · rw [hspec.dropped hevent]
        exact iff_of_true rfl fun h => hevent h.2.1
  · refine iff_of_true ?_ fun h => htype h.1
    unfold handleMessage
    dsimp only
    by_cases hobject : parsed.isObject
    · rw [if_neg (not_not.2 hobject), if_neg htype]
      by_cases hres : parsed.field "type" = .str "res"
      · rw [if_pos hres]
        exact congrArg Links.emitted (links_handleResponse uuids options k parsed s)
      · rw [if_neg hres]
        rfl
    · rw [if_pos hobject]
      rfl

/-- The step brings a message that makes the source call its listeners. -/
def EmitsAt (s : OpenClawGatewaySource) : SourceStep → Prop
  | .received k _ _ => ∃ message parsed,
      s.connections[k]?.bind (·.next?) = some (message, some parsed) ∧ s.Emits parsed
  | _ => False

theorem emitted_receive (k : ℕ) (clock : Clock)
    (reaction : ℕ → RealtimeSourceEvent → Option JsError) :
    (s.receive uuids options k clock reaction).emitted = s.emitted ↔
      ¬ s.EmitsAt (.received k clock reaction) := by
  unfold receive EmitsAt
  dsimp only
  generalize hnext : s.connections[k]?.bind (·.next?) = next
  cases next with
  | none => exact iff_of_true rfl fun ⟨_, _, h, _⟩ => by cases h
  | some next =>
    obtain ⟨message, raw⟩ := next
    dsimp only
    generalize ht : ({ s with arrived := s.arrived ++ [(k, raw)] }.modifyConnection k fun c =>
      { c with inbox := c.inbox.tail }) = t
    have hemitted : t.emitted = s.emitted := by
      rw [← ht]
      rfl
    have hlisteners : t.listeners = s.listeners := by
      rw [← ht]
      rfl
    have hrun : (runHandler (handleMessage uuids options k message clock reaction raw) t).emitted =
        ((handleMessage uuids options k message clock reaction raw).stateAfter t).emitted :=
      congrArg Links.emitted (links_runHandler _ t)
    rw [hrun]
    cases raw with
    | none => exact iff_of_true hemitted fun ⟨_, _, h, _⟩ => by cases h
    | some parsed =>
      rw [← hemitted, emitted_handleMessage, not_iff_not]
      unfold Emits
      rw [hlisteners]
      constructor
      · exact fun h => ⟨message, parsed, rfl, h⟩
      · rintro ⟨message', parsed', h, hemits⟩
        obtain ⟨-, hparsed⟩ := Prod.mk.inj (Option.some.inj h)
        rw [Option.some.inj hparsed]
        exact hemits

theorem emitted_ensureConnected (call : SourceCall) :
    (s.ensureConnected call).emitted = s.emitted := by
  unfold OpenClawGatewaySource.ensureConnected
  split_ifs
  · rfl
  · split <;> rfl

theorem emitted_step (step : SourceStep) :
    (s.step uuids options step).emitted = s.emitted ↔ ¬ s.EmitsAt step := by
  have heffect := s.step_cases uuids options step
  generalize s.step uuids options step = t at heffect ⊢
  cases heffect with
  | idle hmisses =>
    refine iff_of_true rfl ?_
    cases step with
    | received => exact hmisses.elim
    | _ => exact id
  | received k clock reaction => exact emitted_receive uuids options k clock reaction
  | subscribe | request | getSnapshot | reconnect =>
    exact iff_of_true (emitted_ensureConnected _) id
  | close =>
    refine iff_of_true ?_ id
    unfold OpenClawGatewaySource.close
    dsimp only
    split
    · exact congrArg Links.emitted (links_rejectPending _)
    · exact congrArg Links.emitted (links_rejectPending { s with
        stopped := true
        reconnectTimers := s.reconnectTimers.filter (some · ≠ s.reconnectTimer)
        reconnectTimer := none })
  | resume => exact iff_of_true (congrArg Links.emitted (links_proceed uuids _ _ _)) id
  | closed =>
    refine iff_of_true ?_ id
    unfold handleClose
    dsimp only
    split_ifs <;> rfl
  | timeout => exact iff_of_true (congrArg Links.emitted (links_timeout _ s)) id
  | unsubscribe | opened | errored | closing | send | broadcast => exact iff_of_true rfl id

/-! ## What close promises -/

/-- The attempt is settled or its socket has not closed. -/
def Going (k : ℕ) (s : OpenClawGatewaySource) : Prop :=
  s.links.Live k ∨ (result? s.promises k).isSome

/-- Since the source was closed as `s₀`, it has opened no WebSocket and called no listener, and no
later call has succeeded: it has been rejected or waits, and not for a socket that closed and left
it behind. -/
structure Final (s₀ s : OpenClawGatewaySource) : Prop where
  sockets : s.connections.length = s₀.connections.length
  emitted : s.emitted = s₀.emitted
  answered : ∀ n, s₀.calls.length ≤ n → n < s.calls.length →
    (∀ value, (n, .ok value) ∉ s.settled) ∧
      ((∃ e, (n, .error e) ∈ s.settled) ∨ ∃ w ∈ s.waiting, w.2.number? = some n)
  going : ∀ k call n, (.attempt k, call) ∈ s.waiting → call.number? = some n →
    s₀.calls.length ≤ n → s.Going k

/-- The step leaves the source closed: it needs no connection, brings no event to a listener, hands
no snapshot to a call made after `s₀`, and closes no unsettled socket that such a call waits for. -/
def KeepsFinal (s₀ s : OpenClawGatewaySource) (step : SourceStep) : Prop :=
  (step.Connects s → ¬ s.NeedsConnection) ∧ ¬ s.EmitsAt step ∧
    (∀ i awaited n hello, step = .resume i → s.waiting[i]? = some (awaited, .getSnapshot n) →
      s₀.calls.length ≤ n → s.outcome awaited = some (.ok hello) → hello.isNullish) ∧
    ∀ k call n, step = .closed k → (.attempt k, call) ∈ s.waiting → call.number? = some n →
      s₀.calls.length ≤ n → s.links.Live k → (result? s.promises k).isSome

/-- What holds of the source after `close`, while it stays closed. -/
structure Stopped (s₀ s : OpenClawGatewaySource) : Prop where
  accounted : s.ledger.Accounted uuids initial.ledger
  silent : s.Silent
  promise : s.PromiseLive
  final : s₀.Final s

theorem going_step {k : ℕ} {step : SourceStep} (h : s.Going k)
    (hclosed : step = .closed k → s.links.Live k → (result? s.promises k).isSome) :
    (s.step uuids options step).Going k := by
  rcases h with hlive | hsettled
  · by_cases hstep : step = .closed k
    · exact .inr ((isSome_promise_step uuids options k s step).2 (.inl (hclosed hstep hlive)))
    · exact .inl (live_step uuids options step hlive hstep)
  · exact .inr ((isSome_promise_step uuids options k s step).2 (.inl hsettled))

/-- A call that was answered has been made. -/
theorem lt_of_settled_ok {l₀ : Ledger} (h : s.ledger.Accounted uuids l₀) {n : ℕ} {value : JsValue}
    (hn : (n, .ok value) ∈ s.settled) : n < s.calls.length := by
  rcases h.settled n value hn with hcall | ⟨request, hrequest, hwaiter, -⟩
  · exact (List.getElem?_eq_some_iff.1 hcall).1
  · obtain ⟨payload, hcall, -⟩ := h.sent request hrequest n hwaiter
    exact (List.getElem?_eq_some_iff.1 hcall).1

theorem lt_of_waiting {l₀ : Ledger} (h : s.ledger.Accounted uuids l₀) {w : Awaited × SourceCall}
    {n : ℕ} (hw : w ∈ s.waiting) (hn : w.2.number? = some n) : n < s.calls.length := by
  apply h.called
  exact List.mem_append_left _ (List.mem_filterMap.2 ⟨w, hw, hn⟩)

/-- A call other than a request for the snapshot of a live connection is rejected. -/
theorem silentAnswer_of_number {result : Except JsError JsValue} {call : SourceCall} {n : ℕ}
    (hn : call.number? = some n)
    (hhello : ∀ m hello, call = .getSnapshot m → result = .ok hello → hello.isNullish) :
    ∃ e, silentAnswer result call = [(n, .error e)] := by
  cases call with
  | subscription => cases hn
  | request m method payload =>
    obtain rfl := Option.some.inj hn
    cases result <;> exact ⟨_, rfl⟩
  | getSnapshot m =>
    obtain rfl := Option.some.inj hn
    cases result with
    | error e => exact ⟨e, rfl⟩
    | ok hello =>
      refine ⟨.typeError, ?_⟩
      have hnullish := hhello m hello rfl rfl
      simp [silentAnswer, Except.bind, JsValue.get, hnullish]

theorem mem_silentAnswer {result : Except JsError JsValue} {call : SourceCall}
    {r : ℕ × Except JsError JsValue} (h : r ∈ silentAnswer result call) :
    call.number? = some r.1 := by
  cases call with
  | subscription => cases h
  | request m method payload =>
    rw [List.mem_singleton.1 h]
    rfl
  | getSnapshot m =>
    rw [List.mem_singleton.1 h]
    rfl

section

variable {s₀ : OpenClawGatewaySource}

/-- The calls after a step that leaves the source closed. -/
theorem Stopped.answered (h : s₀.Stopped uuids s) {step : SourceStep} (hok : s₀.KeepsFinal s step)
    (ht : s.CallsAfter step t) (n : ℕ) (hlate : s₀.calls.length ≤ n) (hn : n < t.calls.length) :
    (∀ value, (n, .ok value) ∉ t.settled) ∧
      ((∃ e, (n, .error e) ∈ t.settled) ∨ ∃ w ∈ t.waiting, w.2.number? = some n) := by
  cases ht with
  | quiet hwaiting hcalls hsettled =>
    rw [hsettled, hwaiting]
    exact h.final.answered n hlate (hcalls ▸ hn)
  | subscribed hattempt hwaiting hcalls hsettled =>
    obtain ⟨hfailed, hanswer⟩ := h.final.answered n hlate (hcalls ▸ hn)
    rw [hsettled, hwaiting]
    refine ⟨hfailed, hanswer.imp_right ?_⟩
    rintro ⟨w, hw, hnumber⟩
    exact ⟨w, List.mem_append_left _ hw, hnumber⟩
  | called _ hattempt hnumber hwaiting hcalls hsettled =>
    rw [hsettled, hwaiting]
    by_cases hold : n < s.calls.length
    · obtain ⟨hfailed, hanswer⟩ := h.final.answered n hlate hold
      refine ⟨hfailed, hanswer.imp_right ?_⟩
      rintro ⟨w, hw, hnumber⟩
      exact ⟨w, List.mem_append_left _ hw, hnumber⟩
    · rw [hcalls, List.length_append, List.length_singleton] at hn
      obtain rfl : n = s.calls.length := by omega
      refine ⟨fun value hvalue => hold (lt_of_settled_ok uuids h.accounted hvalue), .inr ?_⟩
      exact ⟨_, List.mem_append_right _ (List.mem_singleton_self _), hnumber⟩
  | @resumed _ i awaited call result hi houtcome hwaiting hcalls hsettled =>
    obtain ⟨hfailed, hanswer⟩ := h.final.answered n hlate (hcalls ▸ hn)
    rw [hsettled, hwaiting]
    by_cases hnumber : call.number? = some n
    · have hhello (m : ℕ) (hello : JsValue) (hcall : call = .getSnapshot m)
          (hresult : result = .ok hello) : hello.isNullish := by
        rw [hcall] at hnumber hi
        rw [hresult] at houtcome
        obtain rfl := Option.some.inj hnumber
        exact hok.2.2.1 i awaited m hello rfl hi hlate houtcome
      obtain ⟨e, he⟩ := silentAnswer_of_number hnumber hhello
      rw [he]
      refine ⟨fun value hvalue => ?_, .inl ⟨e, List.mem_append_right _ (by simp)⟩⟩
      rcases List.mem_append.1 hvalue with hvalue | hvalue
      · exact hfailed value hvalue
      · cases List.mem_singleton.1 hvalue
    · refine ⟨fun value hvalue => ?_, ?_⟩
      · rcases List.mem_append.1 hvalue with hvalue | hvalue
        · exact hfailed value hvalue
        · exact hnumber (mem_silentAnswer hvalue)
      · rcases hanswer with ⟨e, he⟩ | ⟨w, hw, hwn⟩
        · exact .inl ⟨e, List.mem_append_left _ he⟩
        · refine .inr ⟨w, ?_, hwn⟩
          obtain ⟨j, hj⟩ := List.mem_iff_getElem?.1 hw
          rw [List.mem_eraseIdx_iff_getElem?]
          refine ⟨j, ?_, hj⟩
          rintro rfl
          rw [hi] at hj
          rw [← Option.some.inj hj] at hwn
          exact hnumber hwn

theorem Stopped.going (h : s₀.Stopped uuids s) {step : SourceStep} (hok : s₀.KeepsFinal s step)
    (ht : s.CallsAfter step (s.step uuids options step)) {k n : ℕ} {call : SourceCall}
    (hwaits : (.attempt k, call) ∈ (s.step uuids options step).waiting)
    (hn : call.number? = some n) (hlate : s₀.calls.length ≤ n) :
    (s.step uuids options step).Going k := by
  have hold (hmem : (.attempt k, call) ∈ s.waiting) : (s.step uuids options step).Going k :=
    going_step uuids options (h.final.going k call n hmem hn hlate) fun hstep hlive =>
      hok.2.2.2 k call n hstep hmem hn hlate hlive
  cases ht with
  | quiet hwaiting hcalls hsettled =>
    rw [hwaiting] at hwaits
    exact hold hwaits
  | subscribed hattempt hwaiting hcalls hsettled =>
    rw [hwaiting] at hwaits
    rcases List.mem_append.1 hwaits with hmem | hmem
    · exact hold hmem
    · cases List.mem_singleton.1 hmem
      cases hn
  | called hconnects hattempt hnumber hwaiting hcalls hsettled =>
    rw [hwaiting] at hwaits
    rcases List.mem_append.1 hwaits with hmem | hmem
    · exact hold hmem
    · cases List.mem_singleton.1 hmem
      refine .inl (live_step uuids options step (h.promise k hattempt) ?_)
      rintro rfl
      exact hconnects
  | resumed hi houtcome hwaiting hcalls hsettled =>
    rw [hwaiting] at hwaits
    exact hold (List.mem_of_mem_eraseIdx hwaits)

theorem Stopped.step (h : s₀.Stopped uuids s) (step : SourceStep) (hok : s₀.KeepsFinal s step) :
    s₀.Stopped uuids (s.step uuids options step) := by
  obtain ⟨hsilent, hcalls⟩ := h.silent.step uuids options step hok.1
  refine ⟨accounted_step options step h.accounted, hsilent, h.promise.step uuids options step,
    ?_, ?_, h.answered uuids hok hcalls, fun k call n hwaits hn hlate =>
      h.going uuids options hok hcalls hwaits hn hlate⟩
  · rcases length_connections_step uuids options (s := s) step with hlen | ⟨-, hconnects, hneeds⟩
    · exact hlen.trans h.final.sockets
    · exact absurd hneeds (hok.1 hconnects)
  · exact ((emitted_step uuids options step).2 hok.2.1).trans h.final.emitted

/-- A step that does not leave the source closed. -/
theorem not_final_step (h : s₀.Stopped uuids s) (step : SourceStep) (hok : ¬ s₀.KeepsFinal s step) :
    ¬ s₀.Final (s.step uuids options step) := by
  intro hfinal
  refine hok ⟨fun hconnects hneeds => ?_, ?_, ?_, ?_⟩
  · have hlen := (step_of_needs uuids options hconnects hneeds).1
    have hsame := hfinal.sockets
    have hbefore := h.final.sockets
    omega
  · rw [← emitted_step uuids options step]
    exact hfinal.emitted.trans h.final.emitted.symm
  · rintro i awaited n hello rfl hi hlate houtcome
    by_contra hnullish
    obtain ⟨-, hsettled⟩ := Silent.proceed uuids (s := { s with waiting := s.waiting.eraseIdx i })
      ⟨h.silent.socket, h.silent.pending⟩ (.ok hello) (.getSnapshot n)
    have hcallers := callers_proceed uuids (.ok hello) (.getSnapshot n)
      { s with waiting := s.waiting.eraseIdx i }
    have hstep : s.step uuids options (.resume i) =
        { s with waiting := s.waiting.eraseIdx i }.proceed uuids (.ok hello) (.getSnapshot n) := by
      simp only [OpenClawGatewaySource.step, hi, houtcome]
    have hvalue :
        silentAnswer (.ok hello) (.getSnapshot n) = [(n, .ok (hello.field "snapshot"))] := by
      simp [silentAnswer, Except.bind, JsValue.get, hnullish]
    have hcalls : n < (s.step uuids options (.resume i)).calls.length := by
      rw [hstep]
      have hsame := congrArg Callers.calls hcallers
      exact (lt_of_waiting uuids h.accounted (List.mem_of_getElem? hi) rfl).trans_eq
        (congrArg List.length hsame.symm)
    refine (hfinal.answered n hlate hcalls).1 (hello.field "snapshot") ?_
    rw [hstep, hsettled, hvalue]
    exact List.mem_append_right _ (List.mem_singleton_self _)
  · rintro k call n rfl hwaits hn hlate hlive
    by_contra hnone
    obtain ⟨c, hc⟩ := connection_of_live hlive
    have hpromise : c.promise = none := by
      rw [← result?_promises hc]
      simpa using hnone
    have hstill := mem_waiting_step uuids options (.closed k) hwaits
      (by rw [outcome, hc, Option.bind_some, hpromise])
    rcases hfinal.going k call n hstill hn hlate with hlive' | hsettled
    · exact (live_iff (connections_closed uuids options hc hlive)).1 hlive' rfl
    · rw [isSome_promise_step] at hsettled
      rcases hsettled with hsettled | ⟨-, hnever⟩
      · exact hnone hsettled
      · simp [settlements] at hnever

end

theorem stopped_close (before : List SourceStep) :
    (run (OpenClawGatewaySource.step uuids options) initial before).close.Stopped uuids
      (run (OpenClawGatewaySource.step uuids options) initial before).close := by
  generalize hs : run (OpenClawGatewaySource.step uuids options) initial before = s
  have haccounted : s.ledger.Accounted uuids initial.ledger := by
    rw [← hs]
    exact accounted_run options before
  have hpromise : s.PromiseLive := by
    rw [← hs]
    exact @run_of_step _ _ (OpenClawGatewaySource.step uuids options) PromiseLive
      (fun _ step h => h.step uuids options step) _ (fun k hk => by cases hk) before
  have hclosed := accounted_close haccounted
  refine ⟨hclosed, silent_close s, hpromise.step uuids options .close, rfl, rfl, ?_, ?_⟩
  · intro n hlate hn
    omega
  · intro k call n hwaits hn hlate
    have hlt := lt_of_waiting uuids hclosed hwaits hn
    omega

/-- After `close` the source stays closed in every state, in exactly the runs whose steps all leave
it closed. -/
theorem final_iff (before after : List SourceStep) :
    Always (OpenClawGatewaySource.step uuids options)
        (run (OpenClawGatewaySource.step uuids options) initial before).close.Final
        (run (OpenClawGatewaySource.step uuids options) initial before).close after ↔
      Each (OpenClawGatewaySource.step uuids options)
        (run (OpenClawGatewaySource.step uuids options) initial before).close.KeepsFinal
        (run (OpenClawGatewaySource.step uuids options) initial before).close after :=
  @always_iff_each _ _ (OpenClawGatewaySource.step uuids options) (Final _) (Stopped uuids _)
    (KeepsFinal _) (fun _ h => h.final) (fun _ step h => h.step uuids options step)
    (fun _ step h => not_final_step uuids options h step) _ (stopped_close uuids options before)
    after

/-- A source that has been closed opens a WebSocket for the next call. -/
theorem snapshot_after_close_connects :
    ¬ Always (OpenClawGatewaySource.step .counting .default)
      (run (OpenClawGatewaySource.step .counting .default) initial []).close.Final
      (run (OpenClawGatewaySource.step .counting .default) initial []).close [.getSnapshot] := by
  intro h
  have hsockets := h.2.sockets
  cases hsockets

end OpenClawGatewaySource

end Vertx
