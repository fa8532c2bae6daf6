import Vertx.Lib.Runs
import Vertx.Web.Client

/-!
# Sequence numbers from upstream to the browser

Upstream numbers its broadcast frames and restarts after a reconnect; the bridge drops the kinds it
does not know, keeps the number of an event that has one and numbers the others itself.  The line
from upstream to one browser client carries consecutive numbers exactly while every event that
brings a number brings the next one.
-/

namespace Vertx

open Runs

/-- Two frame numbers of which the later is one more. -/
def Consecutive (earlier later : JsValue) : Prop :=
  ∃ q : ℚ, earlier = .num (.finite q) ∧ later = .num (.finite (q + 1))

/-- The way of an event from upstream to a browser client that stays connected: the upstream
connection's numbering, the adapter, the event frames sent so far (newest first), and what the
client remembers and has reported. -/
structure GatewayLine where
  upstreamSeq : JsNumber
  adapter : RealtimeBridgeAdapter
  sent : List EventFrame
  lastSeq : JsValue
  gaps : List GapInfo

/-- The line of a client that has just connected. -/
def connectedLine (upstreamSeq : JsNumber) (adapter : RealtimeBridgeAdapter) : GatewayLine where
  upstreamSeq := upstreamSeq
  adapter := adapter
  sent := []
  lastSeq := .null
  gaps := []

/-- One thing that happens on the line. -/
inductive LineStep
  /-- Upstream broadcasts an event under its next number. -/
  | broadcast (clock : Clock) (event : String) (payload stateVersion : JsValue)
  /-- Upstream sends an event to this connection only, without a number. -/
  | targeted (clock : Clock) (event : String) (payload stateVersion : JsValue)
  /-- `publish` is called directly. -/
  | publish (event : GatewayEventName) (payload stateVersion : JsValue) (seq : Option JsDouble)
  /-- The upstream connection is made anew. -/
  | reconnect
  /-- The client receives its hello. -/
  | hello (frame : HelloFrame)

/-- The client receives a frame. -/
def GatewayLine.receive (l : GatewayLine) (frame : GatewayFrame) : GatewayLine :=
  { l with
    lastSeq := nextLastSeq l.lastSeq frame
    gaps := (gapReport l.lastSeq frame).toList ++ l.gaps }

/-- The gateway publishes an event.  When building its frame throws, nothing is sent. -/
def GatewayLine.publish (context : RealtimeBridgeContext) (l : GatewayLine)
    (event : RealtimeSourceEvent) : GatewayLine :=
  match l.adapter.createEventFrame event context with
  | .ok (frame, adapter) =>
    { l with adapter := adapter, sent := frame :: l.sent }.receive (.event frame.wire)
  | .error _ => l

/-- The events that a step hands to `publish`.  A frame that the normaliser throws on yields
none. -/
def LineStep.forwarded (l : GatewayLine) : LineStep → List RealtimeSourceEvent
  | .broadcast clock event payload stateVersion =>
    (normalizeOpenClawEvent clock
      ⟨.str event, .num (l.upstreamSeq.add (.ofNat 1)), payload, stateVersion⟩).toOption.getD []
  | .targeted clock event payload stateVersion =>
    (normalizeOpenClawEvent clock ⟨.str event, .undefined, payload, stateVersion⟩).toOption.getD []
  | .publish event payload stateVersion seq =>
    [⟨event, payload, (seq.map fun x => .num x.1).getD .undefined, stateVersion⟩]
  | .reconnect | .hello _ => []

def lineStep (context : RealtimeBridgeContext) (l : GatewayLine) (step : LineStep) : GatewayLine :=
  match step with
  | .broadcast .. =>
    (step.forwarded l).foldl (·.publish context) {
      l with upstreamSeq := l.upstreamSeq.add (.ofNat 1) }
  | .targeted .. | .publish .. => (step.forwarded l).foldl (·.publish context) l
  | .reconnect => { l with upstreamSeq := .ofNat 0 }
  | .hello frame => l.receive (.hello frame)

/-- The frames sent to the client are numbered consecutively and the client has reported no gap. -/
def NumberedConsecutively (l : GatewayLine) : Prop :=
  (l.sent.map (·.seq)).IsChain (fun later earlier => Consecutive earlier later) ∧ l.gaps = []

/-- After the client's first event frame, an event that brings a number brings the next one, and
one that brings none comes when adding one to the adapter's counter gives the next one. -/
def BringsNext (l : GatewayLine) (step : LineStep) : Prop :=
  ∀ event ∈ step.forwarded l, ∀ last ∈ l.sent.head?,
    if event.seq.isNullish then
      ∃ q, last.seq = .num (.finite q) ∧
        l.adapter.nextEventSeq.add (.ofNat 1) = .finite (q + 1)
    else Consecutive last.seq event.seq

/-- While the numbers are small, the adapter's counter must be the last number. -/
theorem add_ofNat_one_eq_iff {m n : ℤ} (hm : |m| < 2 ^ 53) :
    (JsNumber.finite m).add (.ofNat 1) = .finite (n + 1) ↔ m = n := by
  have hnext : (JsNumber.finite ((m : ℚ) + 1)).IsDouble := by
    have := JsNumber.isDouble_intCast (n := m + 1) (by rw [abs_le]; rw [abs_lt] at hm; omega)
    rwa [Int.cast_add, Int.cast_one] at this
  rw [JsNumber.add_ofNat_one_of_isDouble (JsNumber.isDouble_intCast hm.le) hnext,
    JsNumber.finite.injEq, add_left_inj, Int.cast_inj]

/-- The event has no number, or a number that a variable can hold. -/
def RealtimeSourceEvent.Numbered (event : RealtimeSourceEvent) : Prop :=
  event.seq = .undefined ∨ ∃ x : JsDouble, event.seq = .num x

/-- A step forwards at most one event, whose number is a number or missing. -/
theorem forwarded_cases (l : GatewayLine) (step : LineStep) :
    step.forwarded l = [] ∨ ∃ event, step.forwarded l = [event] ∧ event.Numbered := by
  have normalized (clock : Clock) (frame : OpenClawEventFrame)
      (hseq : frame.seq = .undefined ∨ ∃ x : JsDouble, frame.seq = .num x) :
      let events := (normalizeOpenClawEvent clock frame).toOption.getD []
      events = [] ∨ ∃ event, events = [event] ∧ event.Numbered := by
    cases h : normalizeOpenClawEvent clock frame with
    | error e => exact .inl rfl
    | ok events =>
      rcases normalizeOpenClawEvent_cases h with rfl | ⟨event, payload, rfl⟩
      · exact .inl rfl
      · exact .inr ⟨_, rfl, hseq⟩
  cases step with
  | broadcast clock event payload stateVersion =>
    exact normalized clock _ (.inr ⟨⟨_, JsNumber.isDouble_add _ _⟩, rfl⟩)
  | targeted clock event payload stateVersion => exact normalized clock _ (.inl rfl)
  | publish event payload stateVersion seq =>
    refine .inr ⟨_, rfl, ?_⟩
    cases seq with
    | none => exact .inl rfl
    | some x => exact .inr ⟨x, rfl⟩
  | reconnect => exact .inl rfl
  | hello frame => exact .inl rfl

/-- The number that the adapter gives an event. -/
def RealtimeBridgeAdapter.seqOf (adapter : RealtimeBridgeAdapter) (event : RealtimeSourceEvent) :
    JsValue :=
  event.seq.orElse (.num (adapter.nextEventSeq.add (.ofNat 1)))

theorem exists_seqOf (adapter : RealtimeBridgeAdapter) {event : RealtimeSourceEvent}
    (h : event.Numbered) : ∃ x : JsDouble, adapter.seqOf event = .num x := by
  unfold RealtimeBridgeAdapter.seqOf
  rcases h with h | ⟨x, h⟩ <;> rw [h]
  · exact ⟨⟨_, JsNumber.isDouble_add _ _⟩, rfl⟩
  · exact ⟨x, rfl⟩

/-- Publishing an event with a number, or without one, sends one frame. -/
theorem publish_eq (context : RealtimeBridgeContext) (l : GatewayLine) {event : RealtimeSourceEvent}
    (h : event.Numbered) :
    ∃ frame adapter, frame.seq = l.adapter.seqOf event ∧
      l.publish context event =
        { l with adapter := adapter, sent := frame :: l.sent }.receive (.event frame.wire) := by
  unfold GatewayLine.publish RealtimeBridgeAdapter.createEventFrame RealtimeBridgeAdapter.seqOf
  rcases h with h | ⟨x, h⟩ <;> rw [h] <;> exact ⟨_, _, rfl, rfl⟩

/-- What a step does to the client: nothing but a forgotten number, or one frame more. -/
theorem lineStep_cases (context : RealtimeBridgeContext) (l : GatewayLine) (step : LineStep) :
    (step.forwarded l = [] ∧ (lineStep context l step).sent = l.sent ∧
      (lineStep context l step).gaps = l.gaps ∧
      ((lineStep context l step).lastSeq = l.lastSeq ∨
        (lineStep context l step).lastSeq = .null)) ∨
    ∃ event frame, step.forwarded l = [event] ∧ event.Numbered ∧
      frame.seq = l.adapter.seqOf event ∧
      (lineStep context l step).sent = frame :: l.sent ∧
      (lineStep context l step).lastSeq = frame.seq.wire ∧
      (lineStep context l step).gaps =
        (gapReport l.lastSeq (.event frame.wire)).toList ++ l.gaps := by
  rcases forwarded_cases l step with h | ⟨event, h, hseq⟩
  · refine .inl ⟨h, ?_⟩
    cases step with
    | broadcast | targeted | publish => simp [lineStep, h]
    | reconnect => exact ⟨rfl, rfl, .inl rfl⟩
    | hello frame => exact ⟨rfl, rfl, .inr rfl⟩
  · refine .inr ⟨event, ?_⟩
    cases step with
    | broadcast =>
      obtain ⟨frame, adapter, hframe, hpublish⟩ :=
        publish_eq context { l with upstreamSeq := l.upstreamSeq.add (.ofNat 1) } hseq
      refine ⟨frame, h, hseq, hframe, ?_⟩
      simp only [lineStep, h, List.foldl_cons, List.foldl_nil, hpublish]
      exact ⟨rfl, rfl, rfl⟩
    | targeted | publish =>
      obtain ⟨frame, adapter, hframe, hpublish⟩ := publish_eq context l hseq
      refine ⟨frame, h, hseq, hframe, ?_⟩
      simp only [lineStep, h, List.foldl_cons, List.foldl_nil, hpublish]
      exact ⟨rfl, rfl, rfl⟩
    | reconnect | hello => simp [LineStep.forwarded] at h

/-- The number of an event follows on the last frame exactly when the event brings the next one. -/
theorem consecutive_seqOf_iff {adapter : RealtimeBridgeAdapter} {event : RealtimeSourceEvent}
    (h : event.Numbered) (last : JsValue) :
    Consecutive last (adapter.seqOf event) ↔
      if event.seq.isNullish then
        ∃ q, last = .num (.finite q) ∧ adapter.nextEventSeq.add (.ofNat 1) = .finite (q + 1)
      else Consecutive last event.seq := by
  unfold RealtimeBridgeAdapter.seqOf Consecutive
  rcases h with h | ⟨x, h⟩ <;> simp [h, JsValue.orElse, JsValue.isNullish]

/-- The client sees no gap between consecutive numbers. -/
theorem gapReport_of_consecutive {earlier later : JsDouble} {lastSeq : JsValue} {frame : EventFrame}
    (h : Consecutive (.num earlier) (.num later))
    (hlast : lastSeq = .null ∨ lastSeq = (JsValue.num earlier).wire)
    (hframe : frame.seq = (JsValue.num later).wire) : gapReport lastSeq (.event frame) = none := by
  obtain ⟨q, hearlier, hlater⟩ := h
  obtain ⟨_, hdouble⟩ := earlier
  obtain ⟨_, hnext⟩ := later
  obtain rfl := JsValue.num.inj hearlier
  obtain rfl := JsValue.num.inj hlater
  rcases hlast with rfl | rfl
  · simp [gapReport]
  · simp [gapReport, hframe, JsValue.wire, JsNumber.isFinite, seqNumber,
      JsNumber.add_ofNat_one_of_isDouble hdouble hnext, JsNumber.lt]

/-- What holds while the numbers are consecutive: the client remembers the last one, if any. -/
structure LineInv (l : GatewayLine) : Prop where
  numbered : NumberedConsecutively l
  double : ∀ last ∈ l.sent.head?, ∃ x : JsDouble, last.seq = .num x
  lastSeq : l.lastSeq = .null ∨ ∃ last ∈ l.sent.head?, l.lastSeq = last.seq.wire

theorem lineInv_connected (upstreamSeq : JsNumber) (adapter : RealtimeBridgeAdapter) :
    LineInv (connectedLine upstreamSeq adapter) where
  numbered := ⟨.nil, rfl⟩
  double := nofun
  lastSeq := .inl rfl

theorem lineInv_step (context : RealtimeBridgeContext) {l : GatewayLine} {step : LineStep}
    (h : LineInv l) (hok : BringsNext l step) : LineInv (lineStep context l step) := by
  rcases lineStep_cases context l step with
    ⟨-, hsent, hgaps, hlast⟩ | ⟨event, frame, hforwarded, hcount, hseq, hsent, hlast, hgaps⟩
  · refine ⟨⟨?_, ?_⟩, ?_, ?_⟩
    · rw [hsent]
      exact h.numbered.1
    · rw [hgaps]
      exact h.numbered.2
    · rw [hsent]
      exact h.double
    · rcases hlast with hlast | hlast
      · rw [hsent, hlast]
        exact h.lastSeq
      · exact .inl hlast
  · obtain ⟨number, hnumber⟩ := exists_seqOf l.adapter hcount
    rw [← hseq] at hnumber
    have hnext : ∀ last ∈ l.sent.head?, Consecutive last.seq frame.seq := by
      intro last hmem
      rw [hseq, consecutive_seqOf_iff hcount]
      exact hok event (by rw [hforwarded]; exact List.mem_cons_self) last hmem
    refine ⟨⟨?_, ?_⟩, ?_, ?_⟩
    · rw [hsent, List.map_cons, List.isChain_cons]
      refine ⟨fun seq hseq => ?_, h.numbered.1⟩
      rw [List.head?_map] at hseq
      obtain ⟨last, hmem, rfl⟩ := Option.map_eq_some_iff.1 hseq
      exact hnext last hmem
    · rw [hgaps, h.numbered.2, List.append_nil]
      rcases h.lastSeq with hnull | ⟨last, hmem, hlastSeq⟩
      · simp [gapReport, hnull]
      · obtain ⟨earlier, hearlier⟩ := h.double last hmem
        have hconsecutive := hnext last hmem
        rw [hearlier, hnumber] at hconsecutive
        rw [hearlier] at hlastSeq
        have hframe : frame.wire.seq = (JsValue.num number).wire := by
          rw [← hnumber]
          rfl
        rw [gapReport_of_consecutive hconsecutive (.inr hlastSeq) hframe]
        rfl
    · rw [hsent]
      rintro last ⟨⟩
      exact ⟨number, hnumber⟩
    · refine .inr ⟨frame, ?_, hlast⟩
      rw [hsent]
      rfl

theorem not_numbered_of_not_bringsNext (context : RealtimeBridgeContext) {l : GatewayLine}
    {step : LineStep} (hok : ¬ BringsNext l step) :
    ¬ NumberedConsecutively (lineStep context l step) := by
  rcases lineStep_cases context l step with
    ⟨hforwarded, -⟩ | ⟨event, frame, hforwarded, hcount, hseq, hsent, -⟩
  · exact absurd (fun event he => by rw [hforwarded] at he; cases he) hok
  · rintro ⟨hchain, -⟩
    refine hok fun event' he last hmem => ?_
    rw [hforwarded, List.mem_singleton] at he
    subst he
    rw [← consecutive_seqOf_iff hcount, ← hseq]
    rw [hsent, List.map_cons, List.isChain_cons] at hchain
    exact hchain.1 last.seq (by rw [List.head?_map, hmem]; rfl)

/-- From the client's connection on, its event frames are numbered consecutively and it reports no
gap in exactly the runs in which every event brings the next number. -/
theorem numbered_consecutively_iff (context : RealtimeBridgeContext) (upstreamSeq : JsNumber)
    (adapter : RealtimeBridgeAdapter) (steps : List LineStep) :
    Always (lineStep context) NumberedConsecutively (connectedLine upstreamSeq adapter) steps ↔
      Each (lineStep context) BringsNext (connectedLine upstreamSeq adapter) steps :=
  always_iff_each (fun _ h => h.numbered) (fun _ _ => lineInv_step context)
    (fun _ _ _ => not_numbered_of_not_bringsNext context) (lineInv_connected upstreamSeq adapter)
    steps

/-- Two chat events with a tick between them: the tick takes number 2 and is dropped. -/
theorem numbered_gap_of_dropped_tick :
    ¬ Always (lineStep ⟨"default", none, none⟩) NumberedConsecutively
      (connectedLine (.ofNat 0) .initial)
      [.broadcast (fun _ => 0) "chat" (.obj [("state", .str "delta")]) .undefined,
        .broadcast (fun _ => 0) "tick" (.obj []) .undefined,
        .broadcast (fun _ => 0) "chat" (.obj [("state", .str "final")]) .undefined] := by
  intro h
  have hgaps := h.2.2.2.2
  revert hgaps
  decide +kernel

end Vertx
