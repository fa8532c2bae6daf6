import Vertx.Adapter.Links

/-!
# Messages that make the source throw

The message handler converts what it finds in a message at three places: the time of a tool event
to an ISO string, the number of an event to a number, and the text of an error to a string.
`handleMessage_contained_iff` says that it returns on every message but those where one of the
three conversions fails.
-/

namespace Vertx

/-! ## Normalising -/

/-- What a tool event says about its call. -/
def JsValue.toolData (payload : JsValue) : JsValue :=
  if (payload.field "data").isObject then payload.field "data" else payload

/-- The payload of a tool event that names its call, its run and its session. -/
def JsValue.HasToolCall (payload : JsValue) : Prop :=
  ((payload.toolData.stringAt "toolCallId").filter (· ≠ "")).isSome ∧
    ((payload.stringAt "runId").filter (· ≠ "")).isSome ∧
    ((payload.stringAt "sessionKey").filter (· ≠ "")).isSome

namespace OpenClawEventFrame

/-- A tool event, under either of its names. -/
def IsTool (frame : OpenClawEventFrame) : Prop :=
  frame.event = .str "agent" ∧ frame.payload.stringAt "stream" = some "tool" ∨
    frame.event = .str "session.tool"

/-- A run event with a phase that starts or ends the run. -/
def IsLifecycle (frame : OpenClawEventFrame) : Prop :=
  frame.event = .str "agent" ∧ frame.payload.stringAt "stream" = some "lifecycle" ∧
    ∃ phase ∈ ["start", "end", "error"],
      ((frame.payload.field "data").stringAt "phase").or (frame.payload.stringAt "phase") =
        some phase

/-- A frame that the adapter has an event for. -/
def HasEvent (frame : OpenClawEventFrame) : Prop :=
  frame.event = .str "chat" ∧ frame.payload.truthy ∨
    frame.IsTool ∧ frame.payload.HasToolCall ∨
    frame.IsLifecycle ∨
    ∃ event, frame.event = .str event ∧ event ≠ "chat" ∧ (normalizeEventName event).isSome

/-- A tool event whose time is beyond the range of dates. -/
def BadTime (frame : OpenClawEventFrame) : Prop :=
  frame.IsTool ∧ frame.payload.HasToolCall ∧ (frame.payload.field "ts").outOfRange

end OpenClawEventFrame

theorem toIsoString_isOk (clock : Clock) (k : ℕ) (ts : JsValue) :
    (toIsoString clock k ts).toOption.isSome = !ts.outOfRange := by
  cases ts with
  | num x =>
    cases x with
    | finite q => exact toISOString_isOk q
    | posInf | negInf | nan => rfl
  | _ => rfl

/-- A tool event without its ids is dropped. -/
theorem normalizeToolStatusPayload_of_not {clock : Clock} {payload : JsValue}
    (h : ¬ payload.HasToolCall) : normalizeToolStatusPayload clock payload = .ok none := by
  have hdata : (if (payload.field "data").isObject then payload.field "data" else payload) =
      payload.toolData := rfl
  unfold normalizeToolStatusPayload
  simp only [hdata]
  split
  · next htool hrun hsession =>
    refine absurd ⟨?_, ?_, ?_⟩ h
    · exact Option.isSome_iff_exists.2 ⟨_, htool⟩
    · exact Option.isSome_iff_exists.2 ⟨_, hrun⟩
    · exact Option.isSome_iff_exists.2 ⟨_, hsession⟩
  · rfl

/-- A tool event with its ids has a payload unless its time is no date. -/
theorem normalizeToolStatusPayload_of_hasToolCall (clock : Clock) {payload : JsValue}
    (h : payload.HasToolCall) :
    if (payload.field "ts").outOfRange then
      ∃ e, normalizeToolStatusPayload clock payload = .error e
    else ∃ toolPayload, normalizeToolStatusPayload clock payload = .ok (some toolPayload) := by
  obtain ⟨htool, hrun, hsession⟩ := h
  obtain ⟨toolCallId, htool⟩ := Option.isSome_iff_exists.1 htool
  obtain ⟨runId, hrun⟩ := Option.isSome_iff_exists.1 hrun
  obtain ⟨sessionKey, hsession⟩ := Option.isSome_iff_exists.1 hsession
  have hdata : (if (payload.field "data").isObject then payload.field "data" else payload) =
      payload.toolData := rfl
  have hiso := toIsoString_isOk clock 0 (payload.field "ts")
  unfold normalizeToolStatusPayload
  simp only [hdata, htool, hrun, hsession]
  cases hts : toIsoString clock 0 (payload.field "ts") with
  | error e =>
    rw [hts] at hiso
    rw [if_pos (by rw [← Bool.not_not (JsValue.outOfRange _), ← hiso]; rfl)]
    exact ⟨e, rfl⟩
  | ok startedAt =>
    rw [hts] at hiso
    rw [if_neg (by rw [← Bool.not_not (JsValue.outOfRange _), ← hiso]; simp [Except.toOption])]
    exact ⟨_, rfl⟩

theorem asString?_eq_some {v : JsValue} {s : String} : v.asString? = some s ↔ v = .str s := by
  cases v <;> simp [JsValue.asString?]

theorem normalizeRunStatusPayload_isSome (clock : Clock) (payload : JsValue) :
    (normalizeRunStatusPayload clock payload).isSome ↔
      ∃ phase ∈ ["start", "end", "error"],
        ((payload.field "data").stringAt "phase").or (payload.stringAt "phase") = some phase := by
  unfold normalizeRunStatusPayload
  cases ((payload.field "data").stringAt "phase").or (payload.stringAt "phase") with
  | none => simp
  | some phase =>
    by_cases hstart : phase = "start"
    · simp [hstart]
    by_cases hend : phase = "end"
    · simp [hend]
    by_cases herror : phase = "error"
    · simp [herror]
    simp [hstart, hend, herror]

/-- What `normalizeOpenClawEvent` does with a frame: it throws on a tool event whose time is no
date, and yields one event if it has one for the frame and none otherwise. -/
structure OpenClawEventFrame.Normalized (frame : OpenClawEventFrame)
    (result : Except JsError (List RealtimeSourceEvent)) : Prop where
  badTime : frame.BadTime → ∃ e, result = .error e
  event : ¬ frame.BadTime → frame.HasEvent →
    ∃ event payload, result = .ok [frame.normalized event payload]
  dropped : ¬ frame.HasEvent → result = .ok []

section

variable {frame : OpenClawEventFrame}

/-- A frame that is no tool event and has an event. -/
theorem OpenClawEventFrame.Normalized.of_event (htool : ¬ frame.IsTool) (h : frame.HasEvent)
    (event : GatewayEventName) (payload : JsValue) :
    frame.Normalized (.ok [frame.normalized event payload]) where
  badTime hbad := absurd hbad.1 htool
  event _ _ := ⟨event, payload, rfl⟩
  dropped hn := absurd h hn

/-- A frame that has no event. -/
theorem OpenClawEventFrame.Normalized.of_not (h : ¬ frame.HasEvent) :
    frame.Normalized (.ok []) where
  badTime hbad := absurd (.inr (.inl ⟨hbad.1, hbad.2.1⟩)) h
  event _ he := absurd he h
  dropped _ := rfl

theorem OpenClawEventFrame.Normalized.tool (clock : Clock) (htool : frame.IsTool)
    (hevent : frame.HasEvent → frame.payload.HasToolCall) :
    frame.Normalized (do
      let toolPayload ← normalizeToolStatusPayload clock frame.payload
      return (toolPayload.map (frame.normalized .toolStatus)).toList) := by
  by_cases hcall : frame.payload.HasToolCall
  · have hspec := normalizeToolStatusPayload_of_hasToolCall clock hcall
    split_ifs at hspec with hlate
    · obtain ⟨e, he⟩ := hspec
      rw [he]
      exact ⟨fun _ => ⟨e, rfl⟩, fun hn => absurd ⟨htool, hcall, hlate⟩ hn,
        fun hn => absurd (.inr (.inl ⟨htool, hcall⟩)) hn⟩
    · obtain ⟨toolPayload, hpayload⟩ := hspec
      rw [hpayload]
      exact ⟨fun hbad => absurd hbad.2.2 hlate, fun _ _ => ⟨_, _, rfl⟩,
        fun hn => absurd (.inr (.inl ⟨htool, hcall⟩)) hn⟩
  · rw [normalizeToolStatusPayload_of_not hcall]
    exact .of_not fun h => hcall (hevent h)

end

theorem normalizeOpenClawEvent_spec (clock : Clock) (frame : OpenClawEventFrame) :
    frame.Normalized (normalizeOpenClawEvent clock frame) := by
  unfold normalizeOpenClawEvent
  split
  · next hevent =>
    have hname (name : String) : frame.event ≠ .str name := by
      intro h
      rw [h] at hevent
      cases hevent
    refine .of_not ?_
    simp [OpenClawEventFrame.HasEvent, OpenClawEventFrame.IsTool, OpenClawEventFrame.IsLifecycle,
      hname]
  · next hevent =>
    have hname := asString?_eq_some.1 hevent
    have htool : ¬ frame.IsTool := by simp [OpenClawEventFrame.IsTool, hname]
    have hiff : frame.HasEvent ↔ frame.payload.truthy := by
      simp [OpenClawEventFrame.HasEvent, htool, OpenClawEventFrame.IsLifecycle, hname]
    split_ifs with htruthy
    · exact .of_event htool (hiff.2 htruthy) _ _
    · exact .of_not fun h => htruthy (hiff.1 h)
  · next hevent =>
    have hname := asString?_eq_some.1 hevent
    have hiff : frame.HasEvent ↔ frame.payload.stringAt "stream" = some "tool" ∧
        frame.payload.HasToolCall ∨ frame.IsLifecycle := by
      simp [OpenClawEventFrame.HasEvent, OpenClawEventFrame.IsTool, hname, normalizeEventName]
    split
    · next hstream =>
      refine .tool clock (.inl ⟨hname, hstream⟩) fun h => ?_
      rcases hiff.1 h with ⟨-, hcall⟩ | ⟨-, hlifecycle, -⟩
      · exact hcall
      · rw [hstream] at hlifecycle
        exact absurd hlifecycle (by decide)
    · next hstream =>
      have htool : ¬ frame.IsTool := by simp [OpenClawEventFrame.IsTool, hname, hstream]
      have hsome : frame.HasEvent ↔ (normalizeRunStatusPayload clock frame.payload).isSome := by
        rw [hiff, normalizeRunStatusPayload_isSome]
        simp [OpenClawEventFrame.IsLifecycle, hname, hstream]
      cases hpayload : normalizeRunStatusPayload clock frame.payload with
      | none => exact .of_not (by rw [hsome, hpayload]; simp)
      | some payload => exact .of_event htool (by rw [hsome, hpayload]; rfl) _ _
    · next hnotTool hnotLifecycle =>
      refine .of_not ?_
      rw [hiff]
      rintro (⟨hstream, -⟩ | ⟨-, hstream, -⟩)
      · exact hnotTool hstream
      · exact hnotLifecycle hstream
  · next hevent =>
    have hname := asString?_eq_some.1 hevent
    have hiff : frame.HasEvent ↔ frame.payload.HasToolCall := by
      simp [OpenClawEventFrame.HasEvent, OpenClawEventFrame.IsTool, OpenClawEventFrame.IsLifecycle,
        hname, normalizeEventName]
    split_ifs with htruthy
    · exact .tool clock (.inr hname) hiff.1
    · refine .of_not fun h => htruthy ?_
      obtain ⟨-, hrun, -⟩ := hiff.1 h
      cases hp : frame.payload <;> simp_all [JsValue.stringAt, JsValue.field, JsValue.asString?,
        JsValue.truthy]
  · next event hchat hagent hsession hevent =>
    have hname := asString?_eq_some.1 hevent
    have htool : ¬ frame.IsTool := by
      simp only [OpenClawEventFrame.IsTool, hname, JsValue.str.injEq]
      rintro (⟨rfl, -⟩ | rfl)
      · exact hagent rfl
      · exact hsession rfl
    have hiff : frame.HasEvent ↔ (normalizeEventName event).isSome := by
      simp only [OpenClawEventFrame.HasEvent, OpenClawEventFrame.IsLifecycle, hname, htool,
        JsValue.str.injEq]
      constructor
      · rintro (⟨rfl, -⟩ | ⟨hf, -⟩ | ⟨rfl, -⟩ | ⟨_, rfl, -, h⟩)
        · exact absurd rfl hchat
        · exact absurd hf not_false
        · exact absurd rfl hagent
        · exact h
      · exact fun h => .inr (.inr (.inr ⟨event, rfl, hchat, h⟩))
    split
    · next hnone => exact .of_not (by rw [hiff, hnone]; simp)
    all_goals
      next hsome => exact .of_event htool (by rw [hiff, hsome]; rfl) _ _

/-! ## The message handler -/

/-- A listener that is the `publish` of a gateway throws when the frame cannot be built. -/
def publishReaction (gateways : ℕ → RealtimeBridgeAdapter × RealtimeBridgeContext) (listener : ℕ)
    (event : RealtimeSourceEvent) : Option JsError :=
  match (gateways listener).1.createEventFrame event (gateways listener).2 with
  | .ok _ => none
  | .error e => some e

theorem toNumber_isOk (v : JsValue) : v.toNumber.toOption.isSome = !v.unprintable := by
  cases v with
  | arr xs =>
    rw [JsValue.toNumber, JsValue.unprintable, ← JsValue.joinStrs_isOk]
    cases JsValue.joinStrs xs <;> rfl
  | obj fields =>
    rw [JsValue.toNumber, ← JsValue.toStr_isOk]
    cases (JsValue.obj fields).toStr <;> rfl
  | bool b => cases b <;> rfl
  | _ => rfl

theorem unprintable_orElse {a b : JsValue} (hb : b.unprintable = false) :
    (a.orElse b).unprintable = a.unprintable := by
  cases a <;> simp [JsValue.orElse, JsValue.isNullish, JsValue.unprintable, hb]

/-- The frame of an event can be built unless no string can be made of its number. -/
theorem createEventFrame_isOk (adapter : RealtimeBridgeAdapter) (event : RealtimeSourceEvent)
    (context : RealtimeBridgeContext) :
    (adapter.createEventFrame event context).toOption.isSome = !event.seq.unprintable := by
  have hseq := toNumber_isOk (event.seq.orElse (.num (adapter.nextEventSeq.add (.ofNat 1))))
  rw [unprintable_orElse rfl] at hseq
  rw [← hseq]
  simp only [RealtimeBridgeAdapter.createEventFrame]
  cases (event.seq.orElse (.num (adapter.nextEventSeq.add (.ofNat 1)))).toNumber <;> rfl

/-- The frame of an event has its name, its payload under the context and upstream's number, if
there is one. -/
theorem createEventFrame_spec {adapter adapter' : RealtimeBridgeAdapter}
    {event : RealtimeSourceEvent} {context : RealtimeBridgeContext} {frame : EventFrame}
    (h : adapter.createEventFrame event context = .ok (frame, adapter')) :
    frame.event = event.event ∧ frame.payload = injectContext event.payload context ∧
      (event.seq.isNullish = false → frame.seq = event.seq) := by
  simp only [RealtimeBridgeAdapter.createEventFrame] at h
  cases hseq : (event.seq.orElse (.num (adapter.nextEventSeq.add (.ofNat 1)))).toNumber with
  | error e =>
    rw [hseq] at h
    cases h
  | ok x =>
    rw [hseq] at h
    cases h
    exact ⟨rfl, rfl, fun hn => by simp [JsValue.orElse, hn]⟩

theorem printable_of_created {adapter : RealtimeBridgeAdapter} {event : RealtimeSourceEvent}
    {context : RealtimeBridgeContext} {result : EventFrame × RealtimeBridgeAdapter}
    (h : adapter.createEventFrame event context = .ok result) : event.seq.unprintable = false := by
  have hframe := createEventFrame_isOk adapter event context
  rw [h] at hframe
  simpa [Except.toOption] using hframe

theorem unprintable_of_thrown {adapter : RealtimeBridgeAdapter} {event : RealtimeSourceEvent}
    {context : RealtimeBridgeContext} {e : JsError}
    (h : adapter.createEventFrame event context = .error e) : event.seq.unprintable = true := by
  have hframe := createEventFrame_isOk adapter event context
  rw [h] at hframe
  simpa [Except.toOption] using hframe

theorem publishReaction_eq_none (gateways : ℕ → RealtimeBridgeAdapter × RealtimeBridgeContext)
    (listener : ℕ) (event : RealtimeSourceEvent) :
    publishReaction gateways listener event = none ↔ event.seq.unprintable = false := by
  unfold publishReaction
  cases hcreate : (gateways listener).1.createEventFrame event (gateways listener).2 with
  | error e => simp [unprintable_of_thrown hcreate]
  | ok frame => simp [printable_of_created hcreate]

namespace OpenClawGatewaySource

variable (uuids : RandomUuids) (options : OpenClawGatewaySourceOptions) (k message : ℕ)
  (clock : Clock) (reaction : ℕ → RealtimeSourceEvent → Option JsError)

/-- A pending request has the id of the response. -/
def Answers (response : JsValue) (s : OpenClawGatewaySource) : Prop :=
  ∃ p ∈ s.pending, response.field "id" = .str p.id

/-- The source can do something with the message. -/
def Interpretable (parsed : JsValue) (s : OpenClawGatewaySource) : Prop :=
  parsed.field "type" = .str "event" ∧
      (parsed.field "event" = .str "connect.challenge" ∨ (eventFrame parsed).HasEvent) ∨
    parsed.field "type" = .str "res" ∧ Answers parsed s

/-- The message is a tool event whose time is no date, an event for a listener whose number no
string can be made of, or the response to a pending request with an error text that no string can
be made of. -/
def Unconvertible (parsed : JsValue) (s : OpenClawGatewaySource) : Prop :=
  parsed.field "type" = .str "event" ∧ (eventFrame parsed).BadTime ∨
    parsed.field "type" = .str "event" ∧ (eventFrame parsed).HasEvent ∧ s.listeners ≠ [] ∧
      (parsed.field "seq").unprintable ∨
    parsed.field "type" = .str "res" ∧ Answers parsed s ∧ (parsed.field "ok").truthy = false ∧
      ((parsed.field "error").field "message").unprintable

/-- The message handler returns, has called every listener with at most one event, and has done
nothing if it cannot interpret the message. -/
def Contained (parsed : JsValue) (s : OpenClawGatewaySource) : Prop :=
  ∃ t, (handleMessage uuids options k message clock reaction (some parsed)).run s = .ok () t ∧
    (∃ event? : Option RealtimeSourceEvent, t.emitted = s.emitted ++
      event?.toList.flatMap fun event => s.listeners.map (⟨·, message, event⟩)) ∧
    (¬ Interpretable parsed s → t = s)

theorem emit_of_quiet {event : RealtimeSourceEvent} {listeners : List ℕ}
    (h : ∀ listener ∈ listeners, reaction listener event = none) (s : OpenClawGatewaySource) :
    (emit message reaction event listeners).run s =
      .ok () { s with emitted := s.emitted ++ listeners.map (⟨·, message, event⟩) } := by
  induction listeners generalizing s with
  | nil => simp [emit]
  | cons listener rest ih =>
    rw [List.forall_mem_cons] at h
    simp only [emit, h.1, EStateM.run_bind, EStateM.run_modify]
    rw [ih h.2]
    simp

theorem emit_of_throws {event : RealtimeSourceEvent} {listeners : List ℕ} {listener : ℕ}
    (hmem : listener ∈ listeners) (h : reaction listener event ≠ none) (s : OpenClawGatewaySource) :
    ∃ e t, (emit message reaction event listeners).run s = .error e t := by
  induction listeners generalizing s with
  | nil => cases hmem
  | cons head rest ih =>
    simp only [emit, EStateM.run_bind, EStateM.run_modify]
    cases hhead : reaction head event with
    | some e => exact ⟨e, _, rfl⟩
    | none =>
      have hne : listener ≠ head := by
        rintro rfl
        exact h hhead
      exact ih (List.mem_of_ne_of_mem hne hmem) _

/-- A response that answers nothing is dropped; one that does is handled without an exception
unless its error text is no string. -/
theorem handleResponse_spec (response : JsValue) (s : OpenClawGatewaySource) :
    (¬ Answers response s → (handleResponse uuids options k response).run s = .ok () s) ∧
      (Answers response s → (response.field "ok").truthy = false →
        ((response.field "error").field "message").unprintable →
        ∃ e t, (handleResponse uuids options k response).run s = .error e t) ∧
      (¬ ((response.field "ok").truthy = false ∧
          ((response.field "error").field "message").unprintable) →
        ∃ t, (handleResponse uuids options k response).run s = .ok () t) := by
  have hfind : Answers response s ↔
      (s.pending.find? fun p => response.field "id" = .str p.id).isSome := by
    simp [Answers]
  rw [hfind]
  unfold EStateM.run handleResponse
  cases s.pending.find? (fun p => response.field "id" = .str p.id) with
  | none => exact ⟨fun _ => rfl, fun h => by simp at h, fun _ => ⟨s, rfl⟩⟩
  | some p =>
    refine ⟨fun h => by simp at h, ?_⟩
    dsimp only
    by_cases hok : (response.field "ok").truthy
    · rw [if_pos hok]
      exact ⟨fun _ h => absurd (h.symm.trans hok) (by decide), fun _ => ⟨_, rfl⟩⟩
    · have herror : (responseError p.method response).toOption.isSome =
          !((response.field "error").field "message").unprintable := by
        rw [responseError, JsValue.toStr_isOk, unprintable_orElse rfl]
      rw [if_neg hok]
      cases hmessage : responseError p.method response with
      | error e =>
        rw [hmessage] at herror
        refine ⟨fun _ _ _ => ⟨e, _, rfl⟩, fun h => absurd ⟨Bool.eq_false_of_not_eq_true hok, ?_⟩ h⟩
        simpa [Except.toOption] using herror
      | ok message =>
        rw [hmessage] at herror
        refine ⟨fun _ _ h => ?_, fun _ => ⟨_, rfl⟩⟩
        rw [h] at herror
        cases herror

/-- A response calls no listener. -/
theorem emitted_handleResponse {response : JsValue} {s t : OpenClawGatewaySource}
    (h : (handleResponse uuids options k response).run s = .ok () t) : t.emitted = s.emitted := by
  have hlinks := links_handleResponse uuids options k response s
  unfold JsM.stateAfter at hlinks
  rw [h] at hlinks
  exact congrArg Links.emitted hlinks

/-- Connecting calls no listener. -/
theorem emitted_sendConnectRequest (s : OpenClawGatewaySource) :
    (s.sendConnectRequest uuids options k).emitted = s.emitted :=
  congrArg Links.emitted (links_sendConnectRequest uuids options k s)

/-- Handling an event message calls every listener with its event, if it has one. -/
theorem contained_event_iff (gateways : ℕ → RealtimeBridgeAdapter × RealtimeBridgeContext)
    {parsed : JsValue} (hobject : parsed.isObject) (htype : parsed.field "type" = .str "event")
    (s : OpenClawGatewaySource) :
    Contained uuids options k message clock (publishReaction gateways) parsed s ↔
      ¬ ((eventFrame parsed).BadTime ∨ (eventFrame parsed).HasEvent ∧ s.listeners ≠ [] ∧
        (parsed.field "seq").unprintable) := by
  have hinterpret : Interpretable parsed s ↔
      parsed.field "event" = .str "connect.challenge" ∨ (eventFrame parsed).HasEvent := by
    simp [Interpretable, htype]
  unfold Contained handleMessage
  rw [hinterpret]
  simp only [hobject, not_true_eq_false, if_false, htype, if_true]
  by_cases hchallenge : parsed.field "event" = .str "connect.challenge"
  · have hnone : ¬ (eventFrame parsed).HasEvent := by
      simp [OpenClawEventFrame.HasEvent, OpenClawEventFrame.IsTool, OpenClawEventFrame.IsLifecycle,
        eventFrame, hchallenge, normalizeEventName]
    have htime : ¬ (eventFrame parsed).BadTime := fun h => hnone (.inr (.inl ⟨h.1, h.2.1⟩))
    rw [if_pos hchallenge]
    refine iff_of_true ⟨_, rfl, ⟨none, ?_⟩, fun h => absurd (.inl hchallenge) h⟩ ?_
    · rw [emitted_sendConnectRequest]
      simp
    · rintro (h | ⟨h, -⟩)
      · exact htime h
      · exact hnone h
  · rw [if_neg hchallenge]
    have hspec := normalizeOpenClawEvent_spec clock (eventFrame parsed)
    by_cases htime : (eventFrame parsed).BadTime
    · obtain ⟨e, he⟩ := hspec.badTime htime
      rw [he]
      refine iff_of_false ?_ (fun h => h (.inl htime))
      rintro ⟨t, ht, -⟩
      cases ht
    by_cases hevent : (eventFrame parsed).HasEvent
    · obtain ⟨event, payload, he⟩ := hspec.event htime hevent
      have hseq : ((eventFrame parsed).normalized event payload).seq = parsed.field "seq" := rfl
      rw [he]
      by_cases hbad : s.listeners ≠ [] ∧ (parsed.field "seq").unprintable
      · refine iff_of_false ?_ (fun h => h (.inr ⟨hevent, hbad⟩))
        obtain ⟨listener, hmem⟩ := List.exists_mem_of_ne_nil _ hbad.1
        have hthrow : publishReaction gateways listener
            ((eventFrame parsed).normalized event payload) ≠ none := by
          rw [Ne, publishReaction_eq_none, hseq, hbad.2]
          decide
        obtain ⟨e, t, ht⟩ := emit_of_throws message _ hmem hthrow s
        rw [run_emitOne, ht]
        rintro ⟨t', ht', -⟩
        cases ht'
      · have hquiet : ∀ listener ∈ s.listeners, publishReaction gateways listener
            ((eventFrame parsed).normalized event payload) = none := by
          intro listener hmem
          rw [publishReaction_eq_none, hseq]
          by_contra hn
          exact hbad ⟨List.ne_nil_of_mem hmem, Bool.eq_true_of_not_eq_false hn⟩
        rw [run_emitOne, emit_of_quiet message _ hquiet s]
        refine iff_of_true
          ⟨_, rfl, ⟨some ((eventFrame parsed).normalized event payload), ?_⟩,
            fun h => absurd (.inr hevent) h⟩ ?_
        · simp
        · rintro (h | ⟨-, h⟩)
          · exact htime h
          · exact hbad h
    · rw [hspec.dropped hevent]
      refine iff_of_true ⟨s, rfl, ⟨none, ?_⟩, fun _ => rfl⟩ ?_
      · simp
      · rintro (h | ⟨h, -⟩)
        · exact htime h
        · exact hevent h

/-- No message makes the handler throw or call a listener twice, and what it cannot interpret it
drops, exactly if none of the three conversions fails. -/
theorem handleMessage_contained_iff
    (gateways : ℕ → RealtimeBridgeAdapter × RealtimeBridgeContext) (parsed : JsValue)
    (s : OpenClawGatewaySource) :
    Contained uuids options k message clock (publishReaction gateways) parsed s ↔
      ¬ Unconvertible parsed s := by
  by_cases htype : parsed.field "type" = .str "event"
  · have hobject : parsed.isObject := JsValue.isObject_of_field htype
    rw [contained_event_iff uuids options k message clock gateways hobject htype]
    simp [Unconvertible, htype]
  by_cases hres : parsed.field "type" = .str "res"
  · have hobject : parsed.isObject := JsValue.isObject_of_field hres
    have hbad : Unconvertible parsed s ↔ Answers parsed s ∧ (parsed.field "ok").truthy = false ∧
        ((parsed.field "error").field "message").unprintable := by
      simp [Unconvertible, hres]
    have hinterpret : Interpretable parsed s ↔ Answers parsed s := by simp [Interpretable, hres]
    obtain ⟨hdropped, hthrows, hreturns⟩ := handleResponse_spec uuids options k parsed s
    have hrun : handleMessage uuids options k message clock (publishReaction gateways)
        (some parsed) = handleResponse uuids options k parsed := by
      unfold handleMessage
      dsimp only
      rw [if_neg (not_not.2 hobject), if_neg htype, if_pos hres]
    unfold Contained
    rw [hrun, hbad, hinterpret]
    by_cases h : Answers parsed s
    · by_cases herror : (parsed.field "ok").truthy = false ∧
          ((parsed.field "error").field "message").unprintable
      · obtain ⟨e, t, ht⟩ := hthrows h herror.1 herror.2
        rw [ht]
        refine iff_of_false ?_ (fun hn => hn ⟨h, herror⟩)
        rintro ⟨t', ht', -⟩
        cases ht'
      · obtain ⟨t, ht⟩ := hreturns herror
        refine iff_of_true ⟨t, ht, ⟨none, ?_⟩, fun hn => absurd h hn⟩ (fun hn => herror hn.2)
        rw [emitted_handleResponse uuids options k ht]
        simp
    · refine iff_of_true ⟨s, hdropped h, ⟨none, ?_⟩, fun _ => rfl⟩ (fun hn => h hn.1)
      simp
  · refine iff_of_true ⟨s, ?_, ⟨none, ?_⟩, fun _ => rfl⟩ ?_
    · simp only [handleMessage, htype, hres, if_false]
      split_ifs <;> rfl
    · simp
    · simp [Unconvertible, htype, hres]

end OpenClawGatewaySource

/-- A tool event of a run whose time is the first millisecond that no date can name. -/
theorem handleMessage_throws_late :
    ¬ OpenClawGatewaySource.Contained .counting .default 0 0 (fun _ => 0)
      (publishReaction fun _ => (.initial, ⟨"default", none, none⟩))
      (.obj [("type", .str "event"), ("event", .str "agent"), ("payload", .obj [
        ("stream", .str "tool"), ("runId", .str "run"), ("sessionKey", .str "main"),
        ("ts", .num (.finite 8640000000000001)), ("data", .obj [("toolCallId", .str "call")])])])
      .initial := by
  rintro ⟨t, ht, -⟩
  cases ht

end Vertx
