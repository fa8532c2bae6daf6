import Vertx.Web.Events

/-!
# What an event does to the stream

An event that does not throw leaves the stream alone, appends a text to it, cuts it into a segment
or ends the run.  The end of a run clears the stream: only a final answer with a text archives it
first, so that the partial answer of a run that is aborted, fails or ends without a text is gone.
-/

namespace Vertx

open Runs

/-- The reducer, an action with the times it reads.  An action that throws leaves no state after it,
and the state before it is the last one. -/
def reduceStep (s : RealtimeState) (i : Clock × RealtimeAction) : RealtimeState :=
  (realtimeReducer i.1 s i.2).toOption.getD s

theorem reduceStep_of_ok {s s' : RealtimeState} {i : Clock × RealtimeAction}
    (h : realtimeReducer i.1 s i.2 = .ok s') : reduceStep s i = s' := by
  rw [reduceStep, h]
  rfl

theorem reduceStep_of_error {s : RealtimeState} {i : Clock × RealtimeAction} {e : JsError}
    (h : realtimeReducer i.1 s i.2 = .error e) : reduceStep s i = s := by
  rw [reduceStep, h]
  rfl

/-- The part of the state that belongs to the run in progress. -/
structure RunPart where
  chatStream : Option String
  chatStreamStartedAt : JsValue
  chatRunId : JsValue
  chatQueue : List QueuedTask
  chatSending : Bool
  deriving DecidableEq

def RealtimeState.runPart (s : RealtimeState) : RunPart where
  chatStream := s.chatStream
  chatStreamStartedAt := s.chatStreamStartedAt
  chatRunId := s.chatRunId
  chatQueue := s.chatQueue
  chatSending := s.chatSending

/-- No run in progress. -/
def RunPart.ended : RunPart := ⟨none, .null, .null, [], false⟩

namespace EventFrame

/-- A chat frame or a `run.status` frame that ends a run. -/
def EndsRun (frame : EventFrame) : Prop :=
  match frame.event with
  | .chat => (frame.payload.stringAt "state").any (· ∈ endedChatStates)
  | .runStatus => (runStatusText frame.payload).any (· ∈ endedWords)
  | _ => False

/-- The text of a chat delta. -/
def deltaText (frame : EventFrame) : Option String :=
  if frame.event = .chat ∧ frame.payload.stringAt "state" = some "delta" then chatText frame.payload
  else none

/-- The text that an agent frame appends. -/
def agentText (frame : EventFrame) : Option String :=
  if frame.event = .agent then (frame.payload.field "stream").toStr.toOption else none

/-- The text of a final answer. -/
def answerText (frame : EventFrame) : Option String :=
  if frame.event = .chat ∧ frame.payload.stringAt "state" = some "final" then chatText frame.payload
  else none

instance (frame : EventFrame) : Decidable frame.EndsRun := by
  unfold EndsRun
  cases frame.event <;> infer_instance

end EventFrame

/-- The texts of the segments and of the assistant's messages. -/
def RealtimeState.archive (s : RealtimeState) : List StreamSegment × List ChatMessage :=
  (s.chatStreamSegments, s.chatMessages)

/-- What an event frame does to the stream. -/
inductive StreamEffect (frame : EventFrame) (s s' : RealtimeState) : Prop
  /-- A frame without a text that ends nothing. -/
  | kept (hends : ¬ frame.EndsRun) (hdelta : frame.deltaText = none) (hagent : frame.event ≠ .agent)
      (htool : frame.event ≠ .toolStatus) (hrun : s'.runPart = s.runPart)
      (harchive : s'.archive = s.archive)
  /-- A delta. -/
  | delta (text : String) (hends : ¬ frame.EndsRun) (hdelta : frame.deltaText = some text)
      (hstream : s'.chatStream = some (s.chatStream.getD "" ++ text))
      (hrun : s'.chatRunId = chatPayloadRunId frame.payload)
  /-- An agent frame. -/
  | agent (text : String) (hevent : frame.event = .agent) (htext : frame.agentText = some text)
      (hstream : s'.chatStream = some (s.chatStream.getD "" ++ text))
      (hrun : s'.chatRunId = frame.payload.field "runId")
  /-- A tool frame. -/
  | cut (hevent : frame.event = .toolStatus)
      (hstream : s'.chatStream = if (shownStream s.chatStream).isSome then none else s.chatStream)
      (hsegments : ∀ text, shownStream s.chatStream = some text →
        ∃ segment ∈ s'.chatStreamSegments, segment.text = text)
      (hrun : s'.chatRunId = frame.payload.field "runId")
  /-- The end of a run without an answer. -/
  | cleared (hends : frame.EndsRun) (hanswer : frame.answerText = none)
      (hrun : s'.runPart = .ended) (harchive : s'.archive = s.archive)
  /-- The end of a run with its answer. -/
  | answered (text : String) (hends : frame.EndsRun) (hanswer : frame.answerText = some text)
      (hrun : s'.runPart = .ended)
      (hsegments : ∀ text, shownStream s.chatStream = some text →
        ∃ segment ∈ s'.chatStreamSegments, segment.text = text)

variable {clock : Clock} {s s' : RealtimeState} {payload seq stateVersion : JsValue}

theorem effect_chat (h : applyChatEvent clock s payload = .ok s') :
    StreamEffect ⟨.chat, seq, payload, stateVersion⟩ s s' := by
  cases applyChatEvent_cases h with
  | kept hends hdelta =>
    refine .kept hends ?_ nofun nofun rfl rfl
    exact ite_eq_right_iff.2 fun hframe => hdelta hframe.2
  | delta text hstate htext =>
    refine .delta text ?_ ((if_pos ⟨rfl, hstate⟩).trans htext) rfl rfl
    simp [EventFrame.EndsRun, hstate, endedChatStates]
  | cleared hends hanswer =>
    refine .cleared hends ?_ rfl rfl
    exact ite_eq_right_iff.2 fun hframe => hanswer hframe.2
  | answered text hstate htext =>
    refine .answered text ?_ ((if_pos ⟨rfl, hstate⟩).trans htext) rfl fun shown hshown => ?_
    · simp [EventFrame.EndsRun, hstate, endedChatStates]
    · refine ⟨⟨shown, clock 0⟩, ?_, rfl⟩
      simp [finalizeChatRun, pushAnswer, hshown]

theorem effect_agent (h : applyAgentStream s payload = .ok s') :
    StreamEffect ⟨.agent, seq, payload, stateVersion⟩ s s' := by
  obtain ⟨-, stream, hstream, rfl⟩ := applyAgentStream_iff.1 h
  refine .agent stream rfl ?_ rfl rfl
  rw [EventFrame.agentText, if_pos rfl]
  exact congrArg Except.toOption hstream

theorem effect_tool (h : applyToolStatus clock s payload = .ok s') :
    StreamEffect ⟨.toolStatus, seq, payload, stateVersion⟩ s s' := by
  obtain ⟨-, key, messages, -, -, rfl⟩ := applyToolStatus_iff.1 h
  refine .cut rfl ?_ (fun text hshown => ?_) rfl
  · cases hshown : shownStream s.chatStream with
    | none =>
      rw [cutStream_of_none hshown]
      rfl
    | some text =>
      rw [cutStream_of_shown hshown]
      rfl
  · rw [cutStream_of_shown hshown]
    exact ⟨⟨text, clock 0⟩, by simp, rfl⟩

theorem effect_runStatus (h : applyRunStatus s payload = .ok s') :
    StreamEffect ⟨.runStatus, seq, payload, stateVersion⟩ s s' := by
  obtain rfl := applyRunStatus_cases h
  split_ifs with hends
  · exact .cleared hends rfl rfl rfl
  · exact .kept hends rfl nofun nofun rfl rfl

theorem effect_requested (h : applyApprovalRequested s payload = .ok s') :
    s'.runPart = s.runPart ∧ s'.archive = s.archive := by
  obtain ⟨pending, rfl⟩ := applyApprovalRequested_cases h
  exact ⟨rfl, rfl⟩

theorem effect_resolved (h : applyApprovalResolved s payload = .ok s') :
    s'.runPart = s.runPart ∧ s'.archive = s.archive := by
  obtain ⟨pending, rfl⟩ := applyApprovalResolved_cases h
  exact ⟨rfl, rfl⟩

/-- What an event frame does, whatever it is. -/
theorem effect_event {frame : EventFrame} (h : realtimeReducer clock s (.event frame) = .ok s') :
    StreamEffect frame s s' := by
  obtain ⟨event, seq, payload, stateVersion⟩ := frame
  replace h : applyEvent clock { s with lastSeq := seq } ⟨event, seq, payload, stateVersion⟩ =
      .ok s' := h
  suffices hsuff : StreamEffect ⟨event, seq, payload, stateVersion⟩ { s with lastSeq := seq } s' by
    cases hsuff with
    | kept hends hdelta hagent htool hrun harchive =>
      exact .kept hends hdelta hagent htool hrun harchive
    | delta text hends hdelta hstream hrun => exact .delta text hends hdelta hstream hrun
    | agent text hevent htext hstream hrun => exact .agent text hevent htext hstream hrun
    | cut hevent hstream hsegments hrun => exact .cut hevent hstream hsegments hrun
    | cleared hends hanswer hrun harchive => exact .cleared hends hanswer hrun harchive
    | answered text hends hanswer hrun hsegments =>
      exact .answered text hends hanswer hrun hsegments
  cases event with
  | chat => exact effect_chat h
  | agent => exact effect_agent h
  | toolStatus => exact effect_tool h
  | runStatus => exact effect_runStatus h
  | approvalRequested =>
    obtain ⟨hrun, harchive⟩ := effect_requested h
    exact .kept id rfl nofun nofun hrun harchive
  | approvalResolved =>
    obtain ⟨hrun, harchive⟩ := effect_resolved h
    exact .kept id rfl nofun nofun hrun harchive
  | sessionMessage | sessionsChanged | shutdown =>
    cases h
    exact .kept id rfl nofun nofun rfl rfl

theorem applyChatEvent_ok (clock : Clock) (s : RealtimeState) (h : payload.isNullish = false) :
    ∃ s', applyChatEvent clock s payload = .ok s' := by
  unfold applyChatEvent
  rw [if_neg (by simp [h])]
  dsimp only
  split
  · split <;> exact ⟨_, rfl⟩
  · split <;> exact ⟨_, rfl⟩

theorem applyRunStatus_ok (s : RealtimeState) (h : payload.isNullish = false) :
    ∃ s', applyRunStatus s payload = .ok s' := by
  unfold applyRunStatus
  rw [if_neg (by simp [h])]
  split
  · split_ifs <;> exact ⟨_, rfl⟩
  · exact ⟨_, rfl⟩

/-- A frame that ends a run has a payload that the reducer can read. -/
theorem reduce_of_endsRun {frame : EventFrame} (clock : Clock) (s : RealtimeState)
    (h : frame.EndsRun) : ∃ s', realtimeReducer clock s (.event frame) = .ok s' := by
  obtain ⟨event, seq, payload, stateVersion⟩ := frame
  cases event with
  | chat =>
    obtain ⟨word, hword, -⟩ := (Option.any_eq_true _ _).1 h
    exact applyChatEvent_ok clock _ (not_isNullish_of_stringAt hword)
  | runStatus =>
    obtain ⟨word, hword, -⟩ := (Option.any_eq_true _ _).1 h
    refine applyRunStatus_ok _ ?_
    rcases Option.or_eq_some_iff.1 hword with hstatus | ⟨-, hphase⟩
    · exact not_isNullish_of_stringAt hstatus
    · exact not_isNullish_of_stringAt hphase
  | _ => exact absurd h id

/-! ## Partial answers -/

/-- The text is a segment or part of an answer. -/
def RealtimeState.Archives (s : RealtimeState) (text : String) : Prop :=
  (∃ segment ∈ s.chatStreamSegments, segment.text = text) ∨
    ∃ message ∈ s.chatMessages, message.role = .assistant ∧ text.toList <:+: message.text.toList

/-- The text is what the stream begins with, a segment or part of an answer. -/
def RealtimeState.Shows (s : RealtimeState) (text : String) : Prop :=
  (∃ stream, s.chatStream = some stream ∧ text.toList <+: stream.toList) ∨ s.Archives text

/-- An event frame leaves the text of the stream visible. -/
def KeepsStream (s : RealtimeState) (i : Clock × RealtimeAction) : Prop :=
  match i.2 with
  | .event _ => ∀ text, shownStream s.chatStream = some text → (reduceStep s i).Shows text
  | _ => True

/-- A run that ends without an answer has its stream in the archive already. -/
def EndsArchived (s : RealtimeState) (i : Clock × RealtimeAction) : Prop :=
  match i.2 with
  | .event frame => frame.EndsRun → frame.answerText = none →
      ∀ text, shownStream s.chatStream = some text → s.Archives text
  | _ => True

theorem shownStream_eq {stream : Option String} {text : String}
    (h : shownStream stream = some text) : stream = some text := (Option.filter_eq_some_iff.1 h).1

theorem shows_of_append {text more : String} (hs : shownStream s.chatStream = some text)
    (hs' : s'.chatStream = some (s.chatStream.getD "" ++ more)) : s'.Shows text := by
  refine .inl ⟨_, hs', ?_⟩
  rw [shownStream_eq hs, Option.getD_some, String.toList_append]
  exact List.prefix_append _ _

/-- Only the end of a run without an answer can take the text away. -/
theorem shows_event_iff {frame : EventFrame} {text : String} (he : StreamEffect frame s s')
    (hs : shownStream s.chatStream = some text) :
    s'.Shows text ↔ (frame.EndsRun → frame.answerText = none → s.Archives text) := by
  have hstream := shownStream_eq hs
  cases he with
  | kept hends hdelta hagent htool hrun harchive =>
    refine iff_of_true (.inl ⟨text, ?_, List.prefix_rfl⟩) fun h => absurd h hends
    exact (congrArg RunPart.chatStream hrun).trans hstream
  | delta more hends hdelta happend hrun =>
    exact iff_of_true (shows_of_append hs happend) fun h => absurd h hends
  | agent more hevent htext happend hrun =>
    refine iff_of_true (shows_of_append hs happend) fun h => ?_
    simp [EventFrame.EndsRun, hevent] at h
  | cut hevent hcut hsegments hrun =>
    refine iff_of_true (.inr (.inl (hsegments text hs))) fun h => ?_
    simp [EventFrame.EndsRun, hevent] at h
  | cleared hends hanswer hrun harchive =>
    have hnone : s'.chatStream = none := congrArg RunPart.chatStream hrun
    have hsame : s'.Archives text ↔ s.Archives text := by
      obtain ⟨hsegments, hmessages⟩ := Prod.ext_iff.1 harchive
      dsimp only [RealtimeState.archive] at hsegments hmessages
      rw [RealtimeState.Archives, RealtimeState.Archives, hsegments, hmessages]
    simp [RealtimeState.Shows, hnone, hsame, hends, hanswer]
  | answered answer hends hanswer hrun hsegments =>
    refine iff_of_true (.inr (.inl (hsegments text hs))) fun _ h => ?_
    rw [hanswer] at h
    cases h

/-- A streamed text stays visible exactly when no run ends without an answer while its stream shows
a text that is not in the archive. -/
theorem stream_kept_iff (steps : List (Clock × RealtimeAction)) :
    Each reduceStep KeepsStream initialRealtimeState steps ↔
      Each reduceStep EndsArchived initialRealtimeState steps := by
  refine each_congr (fun s i => ?_) _ _
  obtain ⟨clock, action⟩ := i
  cases action with
  | event frame =>
    refine ⟨fun h hends hanswer text hs => ?_, fun h text hs => ?_⟩
    · cases hr : realtimeReducer clock s (.event frame) with
      | ok s' =>
        have hshows := h text hs
        rw [reduceStep_of_ok hr, shows_event_iff (effect_event hr) hs] at hshows
        exact hshows hends hanswer
      | error e =>
        obtain ⟨s', hs'⟩ := reduce_of_endsRun clock s hends
        rw [hr] at hs'
        cases hs'
    · cases hr : realtimeReducer clock s (.event frame) with
      | ok s' =>
        rw [reduceStep_of_ok hr, shows_event_iff (effect_event hr) hs]
        exact fun hends hanswer => h hends hanswer text hs
      | error e =>
        rw [reduceStep_of_error hr]
        exact .inl ⟨text, shownStream_eq hs, List.prefix_rfl⟩
  | _ => exact Iff.rfl

/-- A chat frame of a run. -/
def chatStep (fields : List (String × JsValue)) : Clock × RealtimeAction :=
  (fun _ => 0, .event ⟨.chat, .undefined, .obj fields, .undefined⟩)

/-- A delta of run `runId`. -/
def deltaStep (runId text : String) : Clock × RealtimeAction :=
  chatStep [("runId", .str runId), ("state", .str "delta"), ("message", .obj [("text", .str text)])]

/-- An answer that is aborted after its first words is gone. -/
theorem aborted_answer_lost :
    ¬ Each reduceStep KeepsStream initialRealtimeState
      [deltaStep "r1" "The answer",
        chatStep [("runId", .str "r1"), ("state", .str "aborted")]] := by
  rintro ⟨-, hkeeps, -⟩
  rcases hkeeps "The answer" (by decide) with ⟨stream, hstream, -⟩ | hsegment | hmessage
  · revert hstream
    exact nofun
  · obtain ⟨segment, hmem, -⟩ := hsegment
    revert hmem
    exact nofun
  · obtain ⟨message, hmem, -⟩ := hmessage
    revert hmem
    exact nofun

end Vertx
