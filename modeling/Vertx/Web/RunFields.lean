import Vertx.Web.Stream

/-!
# The fields of the run in progress

Five helpers of the reducer write overlapping parts of the run: its id, its stream with the time it
began, and the queue with the flag that something is being sent.  When the payloads carry what the
types of the contract promise, the parts agree in every state of every run.
-/

namespace Vertx

open Runs

/-- The parts of a state that belong to the run in progress agree. -/
structure RunCoherent (s : RealtimeState) : Prop where
  sending : s.chatSending = true ↔ s.chatQueue ≠ []
  started : s.chatStream = none ↔ s.chatStreamStartedAt = .null
  run : s.chatStream ≠ none → s.chatRunId ≠ .null

/-- The payloads that touch a run carry its id, and those of an agent a text and a time. -/
def RealtimeAction.TypedRun : RealtimeAction → Prop
  | .event frame =>
    match frame.event with
    | .chat | .toolStatus => ∃ runId, frame.payload.field "runId" = .str runId
    | .agent =>
      (∃ runId, frame.payload.field "runId" = .str runId) ∧
        (∃ stream, frame.payload.field "stream" = .str stream) ∧
          ∃ ts, frame.payload.field "ts" = .num ts
    | _ => True
  | _ => True

variable {clock : Clock} {s s' : RealtimeState} {payload : JsValue}

/-! ## What keeps the fields coherent -/

theorem RunCoherent.congr (h : RunCoherent s) (hrun : s'.runPart = s.runPart) : RunCoherent s' := by
  simp only [RealtimeState.runPart, RunPart.mk.injEq] at hrun
  obtain ⟨hstream, hstarted, hid, hqueue, hsending⟩ := hrun
  refine ⟨?_, ?_, ?_⟩
  · rw [hsending, hqueue]
    exact h.sending
  · rw [hstream, hstarted]
    exact h.started
  · rw [hstream, hid]
    exact h.run

/-- The end of a run leaves nothing of it. -/
theorem runCoherent_of_ended (h : s.runPart = .ended) : RunCoherent s := by
  simp only [RealtimeState.runPart, RunPart.ended, RunPart.mk.injEq] at h
  obtain ⟨hstream, hstarted, -, hqueue, hsending⟩ := h
  refine ⟨?_, ?_, fun hne => absurd hstream hne⟩
  · simp [hsending, hqueue]
  · simp [hstream, hstarted]

theorem orElse_ne_null {a b : JsValue} (h : b ≠ .null) : a.orElse b ≠ .null := by
  unfold JsValue.orElse
  split_ifs with hnull
  · exact h
  · rintro rfl
    exact hnull rfl

/-- A text appended to the stream starts it, unless it has begun. -/
theorem RunCoherent.append (h : RunCoherent s) {runId startedAt : JsValue} (stream : String)
    (hrun : runId ≠ .null) (hstarted : startedAt ≠ .null) :
    RunCoherent { s with
      chatRunId := runId
      chatStream := some stream
      chatStreamStartedAt := s.chatStreamStartedAt.orElse startedAt } where
  sending := h.sending
  started := iff_of_false (by simp) (orElse_ne_null hstarted)
  run _ := hrun

theorem RunCoherent.chat (h : RunCoherent s) (hrun : ∃ runId, payload.field "runId" = .str runId)
    (hr : applyChatEvent clock s payload = .ok s') : RunCoherent s' := by
  cases applyChatEvent_cases hr with
  | kept => exact h
  | delta text =>
    obtain ⟨runId, hrun⟩ := hrun
    refine h.append _ ?_ (by simp)
    simp [chatPayloadRunId, JsValue.stringAt, hrun, JsValue.asString?]
  | cleared | answered => exact runCoherent_of_ended rfl

/-- A cut empties the stream together with its time. -/
theorem RunCoherent.cut (h : RunCoherent s) (clock : Clock) : RunCoherent (cutStream clock s) := by
  cases hshown : shownStream s.chatStream with
  | none =>
    rw [cutStream_of_none hshown]
    exact h
  | some text =>
    rw [cutStream_of_shown hshown]
    exact ⟨h.sending, iff_of_true rfl rfl, fun hne => absurd rfl hne⟩

theorem RunCoherent.tool (h : RunCoherent s) (hrun : ∃ runId, payload.field "runId" = .str runId)
    (hr : applyToolStatus clock s payload = .ok s') : RunCoherent s' := by
  obtain ⟨-, key, messages, -, -, rfl⟩ := applyToolStatus_iff.1 hr
  obtain ⟨runId, hrun⟩ := hrun
  exact ⟨h.sending, (h.cut clock).started, fun _ => by simp [hrun]⟩

theorem RunCoherent.event {frame : EventFrame} (h : RunCoherent s)
    (htyped : (RealtimeAction.event frame).TypedRun)
    (hr : realtimeReducer clock s (.event frame) = .ok s') : RunCoherent s' := by
  obtain ⟨event, seq, payload, stateVersion⟩ := frame
  replace hr : applyEvent clock { s with lastSeq := seq } ⟨event, seq, payload, stateVersion⟩ =
      .ok s' := hr
  have hs : RunCoherent { s with lastSeq := seq } := h.congr rfl
  cases event with
  | chat => exact hs.chat htyped hr
  | toolStatus => exact hs.tool htyped hr
  | agent =>
    obtain ⟨⟨runId, hrun⟩, -, ts, hts⟩ := htyped
    obtain ⟨-, stream, -, rfl⟩ := applyAgentStream_iff.1 hr
    exact hs.append _ (by simp [hrun]) (by simp [hts])
  | runStatus =>
    obtain rfl := applyRunStatus_cases hr
    split_ifs
    · exact runCoherent_of_ended rfl
    · exact hs
  | approvalRequested => exact hs.congr (effect_requested hr).1
  | approvalResolved => exact hs.congr (effect_resolved hr).1
  | sessionMessage | sessionsChanged | shutdown =>
    cases hr
    exact hs

theorem RunCoherent.step (h : RunCoherent s) {i : Clock × RealtimeAction} (htyped : i.2.TypedRun) :
    RunCoherent (reduceStep s i) := by
  obtain ⟨clock, action⟩ := i
  cases action with
  | sessionReset => exact runCoherent_of_ended rfl
  | userQueue text => exact ⟨iff_of_true rfl (List.concat_ne_nil _ _), h.started, h.run⟩
  | event frame =>
    cases hr : realtimeReducer clock s (.event frame) with
    | error e =>
      rw [reduceStep_of_error hr]
      exact h
    | ok s' =>
      rw [reduceStep_of_ok hr]
      exact h.event htyped hr
  | _ => exact h.congr rfl

/-- The parts of the run agree in every state of a run whose payloads have the types of the
contract. -/
theorem run_coherent (steps : List (Clock × RealtimeAction)) (h : ∀ i ∈ steps, i.2.TypedRun) :
    Always reduceStep RunCoherent initialRealtimeState steps := by
  refine Always.of_each (fun s i hs htyped => hs.step htyped) (runCoherent_of_ended rfl) ?_
  exact (each_iff_split _ _).2 fun early i late hsplit => h i (by simp [hsplit])

/-- A user's message, the agent's answer with a tool call in it, and the end of the run. -/
def answeredMessage : List (Clock × RealtimeAction) :=
  [(fun _ => 0, .userQueue "Hello"),
    (fun _ => 0, .event ⟨.agent, .undefined, .obj [("runId", .str "r1"), ("stream", .str "Hi"),
      ("ts", .num (.finite 1))], .undefined⟩),
    (fun _ => 0, .event ⟨.toolStatus, .undefined, .obj [("runId", .str "r1"),
      ("toolCallId", .str "a")], .undefined⟩),
    chatStep [("runId", .str "r1"), ("state", .str "final")]]

theorem run_coherent_answered :
    Always reduceStep RunCoherent initialRealtimeState answeredMessage := by
  refine run_coherent answeredMessage ?_
  simp only [answeredMessage, List.forall_mem_cons]
  exact ⟨trivial, ⟨⟨_, rfl⟩, ⟨_, rfl⟩, _, rfl⟩, ⟨_, rfl⟩, ⟨_, rfl⟩, fun _ => nofun⟩

end Vertx
