import Vertx.Adapter.Source

/-!
# What a step of the source does

A step speaks of a call that waits, of a socket or of a timer.  When that is not there, the step
does nothing.  Otherwise it takes one branch of the source, with what the branch has found.  A
message that arrives is likewise dropped, or it is a challenge, an event or a response.
-/

namespace Vertx

namespace OpenClawGatewaySource

/-! ## Messages -/

theorem stateAfter_emit_cons (message : ℕ) (reaction : ℕ → RealtimeSourceEvent → Option JsError)
    (event : RealtimeSourceEvent) (listener : ℕ) (rest : List ℕ) (s : OpenClawGatewaySource) :
    (emit message reaction event (listener :: rest)).stateAfter s =
      match reaction listener event with
      | some _ => { s with emitted := s.emitted ++ [⟨listener, message, event⟩] }
      | none => (emit message reaction event rest).stateAfter
          { s with emitted := s.emitted ++ [⟨listener, message, event⟩] } := by
  simp only [emit, JsM.stateAfter, EStateM.run_bind, EStateM.run_modify]
  cases reaction listener event <;> rfl

/-- A message calls the first so many listeners with its event, and does nothing else. -/
theorem stateAfter_emit (message : ℕ) (reaction : ℕ → RealtimeSourceEvent → Option JsError)
    (event : RealtimeSourceEvent) (listeners : List ℕ) (s : OpenClawGatewaySource) :
    ∃ called, called <+: listeners ∧ (listeners ≠ [] → called ≠ []) ∧
      (emit message reaction event listeners).stateAfter s =
        { s with emitted := s.emitted ++ called.map (⟨·, message, event⟩) } := by
  induction listeners generalizing s with
  | nil => exact ⟨[], List.prefix_rfl, id, by simp [emit, JsM.stateAfter]⟩
  | cons listener rest ih =>
    have hafter := stateAfter_emit_cons message reaction event listener rest s
    cases hreaction : reaction listener event with
    | some e =>
      refine ⟨[listener], ⟨rest, rfl⟩, fun _ => by simp, ?_⟩
      rw [hafter, hreaction]
      rfl
    | none =>
      obtain ⟨called, hcalled, -, hstate⟩ :=
        ih { s with emitted := s.emitted ++ [⟨listener, message, event⟩] }
      refine ⟨listener :: called, List.cons_prefix_cons.2 ⟨rfl, hcalled⟩, fun _ => by simp, ?_⟩
      rw [hafter, hreaction]
      dsimp only
      rw [hstate]
      simp

/-- The loop over the events of a frame that has one. -/
theorem run_emitOne (message : ℕ) (reaction : ℕ → RealtimeSourceEvent → Option JsError)
    (event : RealtimeSourceEvent) (s : OpenClawGatewaySource) :
    (do
      let events ← JsM.ofExcept (.ok [event])
      events.forM fun event => do emit message reaction event (← get).listeners :
        JsM OpenClawGatewaySource Unit).run s =
      (emit message reaction event s.listeners).run s := by
  simp only [EStateM.run_bind, JsM.run_ofExcept_ok, List.forM, EStateM.run_get]
  cases (emit message reaction event s.listeners).run s <;> rfl

/-- What the message handler of the `k`-th socket does. -/
inductive MessageEffect (uuids : RandomUuids) (options : OpenClawGatewaySourceOptions)
    (k message : ℕ) (s : OpenClawGatewaySource) : Option JsValue → OpenClawGatewaySource → Prop
  | dropped {raw : Option JsValue}
      (hevent : ∀ parsed ∈ raw, parsed.field "type" = .str "event" →
        parsed.field "event" ≠ .str "connect.challenge")
      (htype : ∀ parsed ∈ raw, parsed.field "type" ≠ .str "res") :
      MessageEffect uuids options k message s raw s
  | challenge {parsed : JsValue} (htype : parsed.field "type" = .str "event")
      (hevent : parsed.field "event" = .str "connect.challenge") :
      MessageEffect uuids options k message s (some parsed) (s.sendConnectRequest uuids options k)
  | event {parsed : JsValue} (event : RealtimeSourceEvent) (called : List ℕ)
      (htype : parsed.field "type" = .str "event")
      (hevent : parsed.field "event" ≠ .str "connect.challenge")
      (hcalled : called <+: s.listeners) :
      MessageEffect uuids options k message s (some parsed)
        { s with emitted := s.emitted ++ called.map (⟨·, message, event⟩) }
  | response {parsed : JsValue} (htype : parsed.field "type" = .str "res") :
      MessageEffect uuids options k message s (some parsed)
        ((handleResponse uuids options k parsed).stateAfter s)

theorem handleMessage_cases (uuids : RandomUuids) (options : OpenClawGatewaySourceOptions)
    (k message : ℕ) (clock : Clock) (reaction : ℕ → RealtimeSourceEvent → Option JsError)
    (raw : Option JsValue) (s : OpenClawGatewaySource) :
    s.MessageEffect uuids options k message raw
      ((handleMessage uuids options k message clock reaction raw).stateAfter s) := by
  cases raw with
  | none => exact .dropped (by simp) (by simp)
  | some parsed =>
    unfold handleMessage
    dsimp only
    split_ifs with hobject htype hevent hres
    · exact .challenge htype hevent
    · have hdropped : s.MessageEffect uuids options k message (some parsed) s := by
        refine .dropped ?_ ?_
        · rintro _ ⟨⟩ -
          exact hevent
        · rintro _ ⟨⟩
          rw [htype]
          decide
      cases hevents : normalizeOpenClawEvent clock (eventFrame parsed) with
      | error e => exact hdropped
      | ok events =>
        rcases normalizeOpenClawEvent_cases hevents with rfl | ⟨event, payload, rfl⟩
        · exact hdropped
        · obtain ⟨called, hcalled, -, hstate⟩ := stateAfter_emit message reaction
            ((eventFrame parsed).normalized event payload) s.listeners s
          unfold JsM.stateAfter at hstate ⊢
          rw [run_emitOne, hstate]
          exact .event _ called htype hevent hcalled
    · exact .response hres
    · refine .dropped ?_ ?_
      · rintro _ ⟨⟩ h
        exact absurd h htype
      · rintro _ ⟨⟩
        exact hres
    · have hnone (key text : String) : parsed.field key ≠ .str text :=
        fun h => hobject (JsValue.isObject_of_field h)
      refine .dropped ?_ ?_
      · rintro _ ⟨⟩ -
        exact hnone _ _
      · rintro _ ⟨⟩
        exact hnone _ _

/-! ## Steps -/

/-- What a step speaks of is not there. -/
def Misses (s : OpenClawGatewaySource) : SourceStep → Prop
  | .resume i => ∀ w ∈ s.waiting[i]?, s.outcome w.1 = none
  | .errored k _ => ∀ c ∈ s.connections[k]?, c.readyState = .closed ∨ c.errored
  | .closed k => ∀ c ∈ s.connections[k]?, c.readyState = .closed
  | .reconnect timer => timer ∉ s.reconnectTimers
  | .timeout number => s.requestTimers.find? (·.number = number) = none
  | _ => False

/-- The branches of a step. -/
inductive StepEffect (uuids : RandomUuids) (options : OpenClawGatewaySourceOptions)
    (s : OpenClawGatewaySource) : SourceStep → OpenClawGatewaySource → Prop
  | idle {step : SourceStep} (hmisses : s.Misses step) : StepEffect uuids options s step s
  | subscribe (listener : ℕ) : StepEffect uuids options s (.subscribe listener)
      (ensureConnected .subscription { s with
        listeners := if listener ∈ s.listeners then s.listeners else s.listeners ++ [listener] })
  | unsubscribe (listener : ℕ) : StepEffect uuids options s (.unsubscribe listener)
      { s with listeners := s.listeners.filter (· ≠ listener) }
  | request (method : String) (payload : JsValue) :
      StepEffect uuids options s (.request method payload)
        (ensureConnected (.request s.calls.length method payload)
          { s with calls := s.calls ++ [some (method, payload)] })
  | getSnapshot : StepEffect uuids options s .getSnapshot
      (ensureConnected (.getSnapshot s.calls.length) { s with calls := s.calls ++ [none] })
  | close : StepEffect uuids options s .close s.close
  | resume {i : ℕ} {awaited : Awaited} {call : SourceCall} {result : Except JsError JsValue}
      (hi : s.waiting[i]? = some (awaited, call)) (hresult : s.outcome awaited = some result) :
      StepEffect uuids options s (.resume i)
        ({ s with waiting := s.waiting.eraseIdx i }.proceed uuids result call)
  | opened (k : ℕ) : StepEffect uuids options s (.opened k) (s.modifyConnection k fun c =>
      if c.readyState = .connecting then { c with readyState := .open } else c)
  | received (k : ℕ) (clock : Clock) (reaction : ℕ → RealtimeSourceEvent → Option JsError) :
      StepEffect uuids options s (.received k clock reaction)
        (s.receive uuids options k clock reaction)
  | errored {k : ℕ} {c : UpstreamConnection} (error : JsError) (hc : s.connections[k]? = some c)
      (hopen : c.readyState ≠ .closed) (hfirst : c.errored = false) :
      StepEffect uuids options s (.errored k error) ((s.modifyConnection k fun c =>
        { c with readyState := c.readyState.afterClose, errored := true }).fail k error)
  | closing (k : ℕ) : StepEffect uuids options s (.closing k) (s.modifyConnection k fun c =>
      if c.readyState = .open then { c with readyState := .closing } else c)
  | closed {k : ℕ} {c : UpstreamConnection} (hc : s.connections[k]? = some c)
      (hopen : c.readyState ≠ .closed) : StepEffect uuids options s (.closed k)
        (s.modifyConnection k fun c => { c with readyState := .closed }).handleClose
  | reconnect {timer : ℕ} (htimer : timer ∈ s.reconnectTimers) :
      StepEffect uuids options s (.reconnect timer) (ensureConnected .subscription { s with
        reconnectTimers := s.reconnectTimers.filter (· ≠ timer)
        reconnectTimer := none })
  | timeout {number : ℕ} {timer : RequestTimer}
      (htimer : s.requestTimers.find? (·.number = number) = some timer) :
      StepEffect uuids options s (.timeout number) (s.timeout timer)
  | send (k : ℕ) (raw : Option JsValue) :
      StepEffect uuids options s (.send k raw) (s.deliver (· = k) raw)
  | broadcast (raw : Option JsValue) :
      StepEffect uuids options s (.broadcast raw) (s.deliver (fun _ => true) raw)

theorem step_cases (uuids : RandomUuids) (options : OpenClawGatewaySourceOptions)
    (s : OpenClawGatewaySource) (step : SourceStep) :
    s.StepEffect uuids options step (s.step uuids options step) := by
  cases step with
  | subscribe listener => exact .subscribe listener
  | unsubscribe listener => exact .unsubscribe listener
  | request method payload => exact .request method payload
  | getSnapshot => exact .getSnapshot
  | close => exact .close
  | resume i =>
    simp only [OpenClawGatewaySource.step]
    split
    · next hnone => exact .idle (by simp [Misses, hnone])
    · next awaited call hi =>
      split
      · next hpending => exact .idle (by simp [Misses, hi, hpending])
      · next result hresult => exact .resume hi hresult
  | opened k => exact .opened k
  | received k clock reaction => exact .received k clock reaction
  | errored k error =>
    simp only [OpenClawGatewaySource.step]
    split
    · next hnone => exact .idle (by simp [Misses, hnone])
    · next c hc =>
      split_ifs with hdead
      · exact .idle (by simpa [Misses, hc] using hdead)
      · rw [not_or, Bool.not_eq_true] at hdead
        exact .errored error hc hdead.1 hdead.2
  | closing k => exact .closing k
  | closed k =>
    simp only [OpenClawGatewaySource.step]
    split
    · next hnone => exact .idle (by simp [Misses, hnone])
    · next c hc =>
      split_ifs with hclosed
      · exact .idle (by simpa [Misses, hc] using hclosed)
      · exact .closed hc hclosed
  | reconnect timer =>
    simp only [OpenClawGatewaySource.step]
    split_ifs with htimer
    · exact .reconnect htimer
    · exact .idle htimer
  | timeout number =>
    simp only [OpenClawGatewaySource.step]
    split
    · next hnone => exact .idle hnone
    · next timer htimer => exact .timeout htimer
  | send k raw => exact .send k raw
  | broadcast raw => exact .broadcast raw

end OpenClawGatewaySource

end Vertx
