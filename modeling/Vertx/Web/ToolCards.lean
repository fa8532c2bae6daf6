import Vertx.Adapter.ToolEvents
import Vertx.Web.Stream

/-!
# Tool cards

A tool call is reported by a start event with its arguments, update events and a result event.  Each
is normalised alone, and the reducer puts its payload in the place of the card.  So the card shows
what the last event says: after an update or the result it has no arguments and another start time.
-/

namespace Vertx

open Runs

/-- A tool call of the upstream gateway. -/
structure ToolCall where
  runId : String
  sessionKey : String
  toolCallId : String
  name : String
  args : JsValue
  runId_ne : runId ≠ ""
  sessionKey_ne : sessionKey ≠ ""
  toolCallId_ne : toolCallId ≠ ""
  args_ne : args ≠ .undefined

/-- What an event reports of a call.  A result that the verbosity leaves out is `undefined`. -/
inductive CallReport
  | start
  | update (partialResult : JsValue)
  | result (isError : Bool) (result : JsValue) (info : JsValue)

/-- An event of a call. -/
structure CallEvent where
  report : CallReport
  seq : ℕ
  ts : ℤ
  snapshot : List (String × JsValue)
  ts_inTime : |ts| ≤ maxDateMillis
  snapshot_keys : ∀ key ∈ ["runId", "stream", "data", "sessionKey", "ts"],
    key ∉ snapshot.map (·.1)

namespace ToolCall

/-- The data that the handlers of the agent run emit. -/
def data (c : ToolCall) : CallReport → List (String × JsValue)
  | .start => [
      ("phase", .str "start"),
      ("name", .str c.name),
      ("toolCallId", .str c.toolCallId),
      ("args", c.args)]
  | .update partialResult => [
      ("phase", .str "update"),
      ("name", .str c.name),
      ("toolCallId", .str c.toolCallId),
      ("partialResult", partialResult)]
  | .result isError result info => [
      ("phase", .str "result"),
      ("name", .str c.name),
      ("toolCallId", .str c.toolCallId),
      ("meta", info),
      ("isError", .bool isError),
      ("result", result)]

def toolEvent (c : ToolCall) (event : CallEvent) : ToolEvent where
  runId := c.runId
  sessionKey := some c.sessionKey
  seq := event.seq
  ts := event.ts
  data := c.data event.report
  snapshot := event.snapshot
  snapshot_keys := event.snapshot_keys

end ToolCall

/-- The life of a call: its start, updates and its result, each later than the one before. -/
structure CallLife where
  start : CallEvent
  updates : List CallEvent
  result : CallEvent
  start_report : start.report = .start
  updates_report : ∀ event ∈ updates, ∃ partialResult, event.report = .update partialResult
  result_report : ∃ isError value info, result.report = .result isError value info
  later : List.Pairwise (fun a b : CallEvent => a.ts < b.ts) (start :: updates ++ [result])

def CallLife.events (l : CallLife) : List CallEvent := l.start :: l.updates ++ [l.result]

/-- An event of the call on its way to the page, or any other action. -/
inductive CardStep
  | tool (clock : Clock) (context : RealtimeBridgeContext) (seq : JsValue) (event : CallEvent)
  | other (clock : Clock) (action : RealtimeAction)

def CardStep.event? : CardStep → Option CallEvent
  | tool _ _ _ event => some event
  | other _ _ => none

namespace ToolCall

variable (c : ToolCall)

/-- An event passes through the normaliser, the adapter and the reducer. -/
def cardStep (s : RealtimeState) : CardStep → RealtimeState
  | .tool clock context seq event =>
    match normalizeToolStatusPayload clock (c.toolEvent event).payload with
    | .ok (some payload) =>
      reduceStep s (clock, .event ⟨.toolStatus, seq, injectContext payload context, .undefined⟩)
    | _ => s
  | .other clock action => reduceStep s (clock, action)

/-- The card of the call. -/
def card (s : RealtimeState) : JsValue := JsValue.lookup c.toolCallId s.toolStreamById

/-- The card shows what the start said, and after the result how the call ended. -/
structure ShowsCall (start : ℤ) (report : CallReport) (card : JsValue) : Prop where
  name : card.field "name" = .str c.name
  args : card.field "args" = c.args
  startedAt : card.field "startedAt" = .str (isoOfMillis start)
  phase : ∀ isError value info, report = .result isError value info →
    card.field "phase" = .str (if isError then ToolPhase.failed else .completed).text

/-- The card shows the call after an event of it. -/
def CardFaithful (start : ℤ) (s : RealtimeState) (i : CardStep) : Prop :=
  ∀ event ∈ i.event?, c.ShowsCall start event.report (c.card (c.cardStep s i))

end ToolCall

/-! ## The cards of a state -/

/-- The cards and their order can be read again. -/
structure CardsReadable (s : RealtimeState) : Prop where
  order : ∀ id ∈ s.toolStreamOrder, ∃ key, id.toStr = .ok key
  proto : JsValue.lookup "__proto__" s.toolStreamById = .undefined

section

variable {clock : Clock} {s s' : RealtimeState} {payload : JsValue}

/-- The part of the state that holds the cards. -/
def RealtimeState.cards (s : RealtimeState) : List (String × JsValue) × List JsValue :=
  (s.toolStreamById, s.toolStreamOrder)

theorem CardsReadable.congr (h : CardsReadable s) (hcards : s'.cards = s.cards) :
    CardsReadable s' := by
  obtain ⟨hbyId, horder⟩ := Prod.ext_iff.1 hcards
  dsimp only [RealtimeState.cards] at hbyId horder
  refine ⟨?_, ?_⟩
  · rw [horder]
    exact h.order
  · rw [hbyId]
    exact h.proto

/-- Only tool frames touch the cards. -/
theorem cards_of_ne_tool {frame : EventFrame} (hevent : frame.event ≠ .toolStatus)
    (h : realtimeReducer clock s (.event frame) = .ok s') :
    s'.cards = s.cards ∧ s'.chatToolMessages = s.chatToolMessages := by
  obtain ⟨event, seq, payload, stateVersion⟩ := frame
  replace h : applyEvent clock { s with lastSeq := seq } ⟨event, seq, payload, stateVersion⟩ =
      .ok s' := h
  cases event with
  | chat => cases applyChatEvent_cases h <;> exact ⟨rfl, rfl⟩
  | agent =>
    obtain ⟨-, stream, -, rfl⟩ := applyAgentStream_iff.1 h
    exact ⟨rfl, rfl⟩
  | toolStatus => exact absurd rfl hevent
  | runStatus =>
    obtain rfl := applyRunStatus_cases h
    split_ifs <;> exact ⟨rfl, rfl⟩
  | approvalRequested =>
    obtain ⟨pending, rfl⟩ := applyApprovalRequested_cases h
    exact ⟨rfl, rfl⟩
  | approvalResolved =>
    obtain ⟨pending, rfl⟩ := applyApprovalResolved_cases h
    exact ⟨rfl, rfl⟩
  | sessionMessage | sessionsChanged | shutdown =>
    cases h
    exact ⟨rfl, rfl⟩

theorem syncToolMessages_ok (proto : JsValue) (cards : List (String × JsValue))
    {order : List JsValue} (h : ∀ id ∈ order, ∃ key, id.toStr = .ok key) :
    ∃ messages, syncToolMessages proto cards order = .ok messages := by
  have hentries : ∃ entries, (order.mapM fun id => do return getCard proto cards (← id.toStr) :
      Except JsError (List JsValue)) = .ok entries := by
    induction order with
    | nil => exact ⟨[], rfl⟩
    | cons id order ih =>
      obtain ⟨key, hkey⟩ := h id List.mem_cons_self
      obtain ⟨entries, hentries⟩ := ih fun id hid => h id (List.mem_cons_of_mem _ hid)
      refine ⟨getCard proto cards key :: entries, ?_⟩
      rw [List.mapM_cons, hkey, hentries]
      rfl
  obtain ⟨entries, hentries⟩ := hentries
  refine ⟨entries.filter (·.truthy), ?_⟩
  unfold syncToolMessages
  rw [hentries]
  rfl

/-- A tool frame for a string id is put in the place of the card, when the cards can be read. -/
theorem applyToolStatus_str (clock : Clock) (h : CardsReadable s) {fields : List (String × JsValue)}
    {id : String} (hid : JsValue.lookup "toolCallId" fields = .str id) :
    ∃ s', applyToolStatus clock s (.obj fields) = .ok s' ∧
      s'.toolStreamById = setCard id (.obj fields) s.toolStreamById := by
  have hkeys : ∀ id' ∈ orderWith (.str id) s.toolStreamOrder, ∃ key, id'.toStr = .ok key := by
    intro id' hmem
    rcases mem_orderWith hmem with hmem | rfl
    · exact h.order id' hmem
    · exact ⟨id, rfl⟩
  obtain ⟨messages, hmessages⟩ := syncToolMessages_ok (cardPrototype id (.obj fields))
    (setCard id (.obj fields) s.toolStreamById) hkeys
  refine ⟨_, applyToolStatus_iff.2 ⟨rfl, id, messages, ?_, ?_, rfl⟩, rfl⟩
  · rw [JsValue.field_obj, hid]
    rfl
  · rw [JsValue.field_obj, hid]
    exact hmessages

theorem lookup_proto_setCard (key : String) (payload : JsValue) (cards : List (String × JsValue)) :
    JsValue.lookup "__proto__" (setCard key payload cards) = JsValue.lookup "__proto__" cards := by
  unfold setCard
  split_ifs with hkey
  · rfl
  · rw [JsValue.lookup_setField, if_neg hkey]

theorem readable_initial : CardsReadable initialRealtimeState :=
  ⟨fun _ hmem => (List.not_mem_nil hmem).elim, rfl⟩

theorem readable_event {frame : EventFrame} (h : CardsReadable s)
    (hr : realtimeReducer clock s (.event frame) = .ok s') : CardsReadable s' := by
  by_cases hevent : frame.event = .toolStatus
  · replace hr : applyEvent clock { s with lastSeq := frame.seq } frame = .ok s' := hr
    rw [applyEvent, hevent] at hr
    obtain ⟨-, key, messages, hkey, -, rfl⟩ := applyToolStatus_iff.1 hr
    refine ⟨fun id hmem => ?_, ?_⟩
    · rcases mem_orderWith hmem with hmem | rfl
      · exact h.order id hmem
      · exact ⟨key, hkey⟩
    · exact (lookup_proto_setCard _ _ _).trans h.proto
  · exact h.congr (cards_of_ne_tool hevent hr).1

theorem readable_reduceStep (h : CardsReadable s) (i : Clock × RealtimeAction) :
    CardsReadable (reduceStep s i) := by
  cases hr : realtimeReducer i.1 s i.2 with
  | error e =>
    rw [reduceStep_of_error hr]
    exact h
  | ok s' =>
    rw [reduceStep_of_ok hr]
    obtain ⟨clock, action⟩ := i
    cases action with
    | event frame => exact readable_event h hr
    | sessionReset =>
      cases hr
      exact readable_initial
    | _ =>
      cases hr
      exact h.congr rfl

end

namespace ToolCall

variable (c : ToolCall)

theorem toolCallId_toolEvent (event : CallEvent) :
    (c.toolEvent event).toolCallId = some c.toolCallId := by
  have hcall : (JsValue.obj (c.data event.report)).stringAt "toolCallId" = some c.toolCallId := by
    cases event.report <;> rfl
  show Option.filter _ ((JsValue.obj (c.data event.report)).stringAt "toolCallId") = _
  rw [hcall]
  simp [Option.filter, c.toolCallId_ne]

theorem session_toolEvent (event : CallEvent) :
    (c.toolEvent event).session = some c.sessionKey := by
  show Option.filter _ (some c.sessionKey) = _
  simp [Option.filter, c.sessionKey_ne]

theorem surfaces (event : CallEvent) : (c.toolEvent event).Surfaces :=
  ⟨by rw [toolCallId_toolEvent]; rfl, by rw [session_toolEvent]; rfl, c.runId_ne, event.ts_inTime⟩

/-- The status that an event of the call reports. -/
def statusOf (clock : Clock) (event : CallEvent) : List (String × JsValue) :=
  (c.toolEvent event).status clock c.sessionKey c.toolCallId

theorem normalize_toolEvent (clock : Clock) (event : CallEvent) :
    normalizeToolStatusPayload clock (c.toolEvent event).payload =
      .ok (some (.obj (c.statusOf clock event))) := by
  obtain ⟨sessionKey, toolCallId, hsession, hcall, hnormal⟩ :=
    ToolEvent.normalize_of_surfaces (c.surfaces event)
  rw [session_toolEvent] at hsession
  rw [toolCallId_toolEvent] at hcall
  cases hsession
  cases hcall
  exact hnormal clock

theorem cardStep_tool (s : RealtimeState) (clock : Clock) (context : RealtimeBridgeContext)
    (seq : JsValue) (event : CallEvent) :
    c.cardStep s (.tool clock context seq event) = reduceStep s (clock, .event
      ⟨.toolStatus, seq, injectContext (.obj (c.statusOf clock event)) context, .undefined⟩) := by
  simp only [cardStep, normalize_toolEvent]

/-- After an event of a call its card is the status that the event reports. -/
theorem card_after {s : RealtimeState} (hs : CardsReadable s) (clock : Clock)
    (context : RealtimeBridgeContext) (seq : JsValue) (event : CallEvent) :
    c.card (c.cardStep s (.tool clock context seq event)) =
      if c.toolCallId = "__proto__" then .undefined
      else injectContext (.obj (c.statusOf clock event)) context := by
  have hid : JsValue.lookup "toolCallId"
      (JsValue.merge (c.statusOf clock event) context.contextFields) = .str c.toolCallId :=
    field_injectContext (by decide)
  have hseq : CardsReadable { s with lastSeq := seq } := hs.congr rfl
  obtain ⟨s', hs', hcards⟩ := applyToolStatus_str clock hseq hid
  have hstep : c.cardStep s (.tool clock context seq event) = s' := by
    rw [cardStep_tool]
    exact reduceStep_of_ok hs'
  rw [hstep, card, hcards]
  unfold setCard
  split_ifs with hproto
  · rw [hproto]
    exact hs.proto
  · rw [JsValue.lookup_setField, if_pos rfl]
    rfl

/-- An event that is not the start leaves the card without the arguments. -/
theorem not_showsCall {s : RealtimeState} (hs : CardsReadable s) (clock : Clock)
    (context : RealtimeBridgeContext) (seq : JsValue) {event : CallEvent} (start : ℤ)
    (hreport : event.report ≠ .start) :
    ¬ c.ShowsCall start event.report (c.card (c.cardStep s (.tool clock context seq event))) := by
  intro h
  have hargs := h.args
  rw [card_after c hs] at hargs
  split_ifs at hargs with hproto
  · exact c.args_ne hargs.symm
  · have hdata : (injectContext (.obj (c.statusOf clock event)) context).field "args" =
        JsValue.lookup "args" (c.data event.report) := field_injectContext (by decide)
    rw [hdata] at hargs
    cases hevent : event.report with
    | start => exact hreport hevent
    | update partialResult =>
      rw [hevent] at hargs
      exact c.args_ne hargs.symm
    | result isError value info =>
      rw [hevent] at hargs
      exact c.args_ne hargs.symm

theorem readable_cardStep {s : RealtimeState} (hs : CardsReadable s) (i : CardStep) :
    CardsReadable (c.cardStep s i) := by
  cases i with
  | other clock action => exact readable_reduceStep hs _
  | tool clock context seq event =>
    rw [cardStep_tool]
    exact readable_reduceStep hs _

/-- No card shows a call through its whole life: the result leaves it without its arguments. -/
theorem card_unfaithful (l : CallLife) (steps : List CardStep)
    (h : steps.filterMap CardStep.event? = l.events) :
    ¬ Each c.cardStep (c.CardFaithful l.start.ts) initialRealtimeState steps := by
  intro heach
  have hmem : l.result ∈ steps.filterMap CardStep.event? := by
    rw [h]
    exact List.mem_append_right _ (List.mem_singleton_self _)
  obtain ⟨i, hi, hevent⟩ := List.mem_filterMap.1 hmem
  obtain ⟨early, late, rfl⟩ := List.append_of_mem hi
  have hreadable : CardsReadable (run c.cardStep initialRealtimeState early) := by
    refine @run_of_step _ _ c.cardStep CardsReadable (fun s i hs => ?_) _ readable_initial early
    exact readable_cardStep c hs i
  have hshows := (each_iff_split _ _).1 heach early i late rfl l.result hevent
  cases i with
  | other clock action => cases hevent
  | tool clock context seq event =>
    cases hevent
    obtain ⟨isError, value, info, hreport⟩ := l.result_report
    exact not_showsCall c hreadable clock context seq _ (by simp [hreport]) hshows

/-- A call with an argument. -/
def sample : ToolCall where
  runId := "r1"
  sessionKey := "main"
  toolCallId := "call-1"
  name := "search"
  args := .obj [("query", .str "lean")]
  runId_ne := by decide
  sessionKey_ne := by decide
  toolCallId_ne := by decide
  args_ne := nofun

/-- An event at the epoch or a millisecond after it, without a session snapshot. -/
def sampleEvent (report : CallReport) (late : Bool) : CallEvent where
  report := report
  seq := 1
  ts := if late then 1 else 0
  snapshot := []
  ts_inTime := by cases late <;> decide
  snapshot_keys := fun _ _ => List.not_mem_nil

/-- The call starts and fails. -/
def sampleLife : CallLife where
  start := sampleEvent .start false
  updates := []
  result := sampleEvent (.result true (.str "no index") .undefined) true
  start_report := rfl
  updates_report := fun _ hmem => (List.not_mem_nil hmem).elim
  result_report := ⟨_, _, _, rfl⟩
  later := List.pairwise_pair.2 (show (0 : ℤ) < 1 by decide)

def sampleStep (event : CallEvent) : CardStep :=
  .tool (fun _ => 0) ⟨"default", none, none⟩ .undefined event

theorem card_unfaithful_sample :
    ¬ Each sample.cardStep (sample.CardFaithful sampleLife.start.ts) initialRealtimeState
      (sampleLife.events.map sampleStep) :=
  card_unfaithful sample sampleLife (sampleLife.events.map sampleStep) rfl

/-- A call that fails is shown as completed. -/
theorem failed_call_completed :
    ¬ Each sample.cardStep (sample.CardFaithful 0) initialRealtimeState
      (sampleLife.events.map sampleStep) := by
  rintro ⟨-, hresult, -⟩
  have hphase := (hresult _ rfl).phase true _ _ rfl
  revert hphase
  decide +kernel

end ToolCall

end Vertx
