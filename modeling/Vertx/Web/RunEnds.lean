import Vertx.Domain.MirrorTimes
import Vertx.Domain.RunStatus
import Vertx.Web.Stream

/-!
# Three readings of the end of a run

The reducer, the page's `isTerminalRunFrame` and the mirror each decide for themselves whether an
event ends its run.  The reducer looks at texts only, the page converts the state of a chat event to
a string, and the mirror knows more words and takes the phase only when there is no status.
`consumers_agree_iff` says for which events the three agree.
-/

namespace Vertx

open Repository

/-- The two kinds of events that can end a run. -/
inductive RunEvent
  | chat
  | runStatus
  deriving DecidableEq, Repr

def RunEvent.published : RunEvent → GatewayEventName
  | chat => .chat
  | runStatus => .runStatus

def RunEvent.mirrored : RunEvent → MirrorEventName
  | chat => .chat
  | runStatus => .runStatus

/-- An event about a run with a JSON object as its payload, as all the consumers receive it. -/
structure RunInput where
  event : RunEvent
  fields : List (String × JsValue)
  seq : JsValue
  stateVersion : JsValue

namespace RunInput

variable (i : RunInput)

def frame : EventFrame where
  event := i.event.published
  seq := i.seq
  payload := .obj i.fields
  stateVersion := i.stateVersion

def mirrorEvent : ProductApiMirrorEvent where
  event := i.event.mirrored
  payload := .obj i.fields

/-! ## The three readings -/

/-- The reducer clears the active run, whatever it is. -/
def Clears : Prop :=
  ∀ clock s, ∃ s', realtimeReducer clock s (.event i.frame) = .ok s' ∧ s'.runPart = .ended

/-- The page takes the frame for the end of a run. -/
def Terminal : Prop := isTerminalRunFrame i.frame = .ok true

end RunInput

/-- The run is recorded as completed or failed. -/
def ProductApiState.RunEnded (state : ProductApiState) (runId : String) : Prop :=
  state.runStatus runId = some .completed ∨ state.runStatus runId = some .failed

namespace RunInput

variable (i : RunInput)

/-- The mirror can record the run: it is known, or the time of the event is a date. -/
def Recordable (state : ProductApiState) (runId : String) : Prop :=
  i.event = .chat ∨ (state.getRunDetail runId).isSome ∨
    (JsValue.lookup "ts" i.fields).outOfRange = false

/-- The event has the same reading for all: a chat event has no state that only the mirror or only
the page takes for an end; a status that is no text comes without a phase that ends the run; and
otherwise the word that the event reports is not the mirror's own, and is recorded if it is one for
an end. -/
def OneReading (state : ProductApiState) (runId : String) : Prop :=
  match i.event with
  | .chat =>
    match JsValue.lookup "state" i.fields with
    | .str word => word ≠ "completed" ∧ word ≠ "failed"
    | value => ∀ word ∈ endedChatStates, value.toStr ≠ .ok word
  | .runStatus =>
    let status := JsValue.lookup "status" i.fields
    let word := runStatusText (.obj i.fields)
    if status.isNullish ∨ status.asString?.isSome then
      (word = some "final" → ¬ i.Recordable state runId) ∧
        (word.any (· ∈ endedWords) → i.Recordable state runId)
    else ¬ word.any (· ∈ endedWords)

variable {i}

theorem frame_event (hevent : i.frame.event = .agent ∨ i.frame.event = .toolStatus) : False := by
  cases hi : i.event <;> simp [frame, RunEvent.published, hi] at hevent

/-- The reducer clears the run at exactly the frames that end one. -/
theorem clears_iff : i.Clears ↔ i.frame.EndsRun := by
  constructor
  · intro h
    by_contra hends
    obtain ⟨s', hs', hrun⟩ := h (fun _ => 0) { initialRealtimeState with chatRunId := .bool true }
    cases effect_event hs' with
    | kept _ _ _ _ hkept =>
      rw [hkept] at hrun
      exact absurd hrun (by decide)
    | delta text _ _ hstream =>
      have hnone := congrArg RunPart.chatStream hrun
      rw [RealtimeState.runPart, hstream] at hnone
      cases hnone
    | agent _ hevent => exact frame_event (.inl hevent)
    | cut hevent => exact frame_event (.inr hevent)
    | cleared hends' => exact hends hends'
    | answered _ hends' => exact hends hends'
  · intro hends clock s
    obtain ⟨s', hs'⟩ := reduce_of_endsRun clock s hends
    refine ⟨s', hs', ?_⟩
    cases effect_event hs' with
    | kept hends' => exact absurd hends hends'
    | delta _ hends' => exact absurd hends hends'
    | agent _ hevent => exact (frame_event (.inl hevent)).elim
    | cut hevent => exact (frame_event (.inr hevent)).elim
    | cleared _ _ hrun => exact hrun
    | answered _ _ _ hrun => exact hrun

theorem terminal_chat (hchat : i.event = .chat) :
    i.Terminal ↔ ∃ word ∈ endedChatStates, (JsValue.lookup "state" i.fields).toStr = .ok word := by
  simp only [Terminal, frame, hchat, RunEvent.published, isTerminalRunFrame]
  cases (JsValue.lookup "state" i.fields).toStr with
  | error e => simp [bind, Except.bind]
  | ok word => simp [bind, Except.bind, pure, Except.pure]

theorem terminal_runStatus (hstatus : i.event = .runStatus) :
    i.Terminal ↔ (runStatusText (.obj i.fields)).any (· ∈ endedWords) := by
  simp only [Terminal, frame, hstatus, RunEvent.published, isTerminalRunFrame]
  cases runStatusText (.obj i.fields) with
  | none => simp [endedWords]
  | some word => simp

/-! ## The mirror -/

variable (i) in
/-- The status that the mirror reads from the event. -/
def reported : JsValue :=
  match i.event with
  | .chat => .ofString? (stringField (.obj i.fields) ["state"])
  | .runStatus => (JsValue.lookup "status" i.fields).orElse (JsValue.lookup "phase" i.fields)

/-- The words that the mirror takes for the end of a run. -/
def mirroredWords : List String := RunStatus.completed.words ++ RunStatus.failed.words

theorem runId?_mirrorEvent {runId : String} (hrun : JsValue.lookup "runId" i.fields = .str runId)
    (hblank : nonBlank runId) (clock : Clock) (state : ProductApiState) :
    i.mirrorEvent.runId? clock state = some runId ↔ i.Recordable state runId := by
  have hiso := isoFromValue_isOk clock 0 (JsValue.lookup "ts" i.fields)
  cases hi : i.event with
  | chat =>
    simp [ProductApiMirrorEvent.runId?, ProductApiMirrorEvent.run?, mirrorEvent, RunEvent.mirrored,
      Recordable, hi, stringField, hrun, hblank, JsValue.isObject, chatRunInput, isoFromValue,
      Except.toOption]
  | runStatus =>
    simp [ProductApiMirrorEvent.runId?, ProductApiMirrorEvent.run?, mirrorEvent, RunEvent.mirrored,
      Recordable, hi, stringField, hrun, hblank, JsValue.isObject, runStatusInput, hiso]
    cases state.getRunDetail runId <;> simp

theorem status?_mirrorEvent {runId : String} (hrun : JsValue.lookup "runId" i.fields = .str runId)
    (hblank : nonBlank runId) : i.mirrorEvent.status? = some (toRunStatus i.reported) := by
  cases hi : i.event <;>
    simp [ProductApiMirrorEvent.status?, ProductApiMirrorEvent.run?, mirrorEvent,
      RunEvent.mirrored, reported, hi, stringField, hrun, hblank, JsValue.isObject, chatRunInput,
      runStatusInput]

/-- The mirror leaves the run ended exactly if it can record it and reads one of its words. -/
theorem runEnded_iff {δ : Type} [Persist δ] [ReliablePersist δ] {runId : String}
    (hrun : JsValue.lookup "runId" i.fields = .str runId) (hblank : nonBlank runId) (clock : Clock)
    (r : Repository δ) :
    ((mirrorRealtimeEventToProductApiRepository clock i.mirrorEvent).stateAfter r).state.RunEnded
        runId ↔
      (i.Recordable r.state runId ∧ ∃ word ∈ mirroredWords, i.reported = .str word) := by
  have hstate :
      ((mirrorRealtimeEventToProductApiRepository clock i.mirrorEvent).stateAfter r).state =
        mirrorNext clock r.state i.mirrorEvent := by
    rw [stateAfter_mirror, updates_state, mirrorNext]
  rw [hstate, ProductApiState.RunEnded, runStatus_mirror]
  by_cases hrecord : i.Recordable r.state runId
  · rw [if_pos ((runId?_mirrorEvent hrun hblank clock r.state).2 hrecord),
      status?_mirrorEvent hrun hblank, Option.some.injEq, Option.some.injEq,
      toRunStatus_eq_iff (.inl rfl), toRunStatus_eq_iff (.inr rfl), and_iff_right hrecord]
    simp only [mirroredWords, List.mem_append, or_and_right, exists_or]
  · have hunknown : r.state.runStatus runId = none := by
      unfold Recordable at hrecord
      simp only [not_or, Bool.not_eq_true, Option.isSome_eq_false_iff,
        Option.isNone_iff_eq_none] at hrecord
      rw [ProductApiState.runStatus, hrecord.2.1]
      rfl
    rw [if_neg (mt (runId?_mirrorEvent hrun hblank clock r.state).1 hrecord), hunknown]
    simp [hrecord]

/-! ## Agreement -/

theorem reported_chat (hchat : i.event = .chat) (word : String) (hblank : nonBlank word) :
    i.reported = .str word ↔ JsValue.lookup "state" i.fields = .str word := by
  have hfield := @stringField_eq_some (.obj i.fields) "state" word
  rw [and_iff_left hblank, JsValue.field_obj] at hfield
  rw [← hfield, reported, hchat]
  cases stringField (.obj i.fields) ["state"] <;> simp [JsValue.ofString?]

theorem agree_chat (hchat : i.event = .chat) {ended : Prop}
    (hended : ended ↔ ∃ word ∈ mirroredWords, JsValue.lookup "state" i.fields = .str word)
    (state : ProductApiState) (runId : String) :
    ((i.Clears ↔ i.Terminal) ∧ (i.Terminal ↔ ended)) ↔ i.OneReading state runId := by
  have hclears : i.Clears ↔
      ((JsValue.lookup "state" i.fields).asString?).any (· ∈ endedChatStates) := by
    rw [clears_iff, EventFrame.EndsRun, frame, hchat]
    rfl
  rw [hclears, terminal_chat hchat, hended, OneReading, hchat]
  cases JsValue.lookup "state" i.fields with
  | str word =>
    simp only [JsValue.asString?, JsValue.toStr, endedChatStates, mirroredWords, RunStatus.words]
    simp
    grind
  | _ => simp [JsValue.asString?]

theorem mem_mirroredWords {word : String} :
    word ∈ mirroredWords ↔ word ∈ endedWords ∨ word = "final" := by
  simp only [mirroredWords, RunStatus.words, endedWords, List.mem_append, List.mem_cons,
    List.not_mem_nil]
  tauto

/-- The mirror and the others agree on a word that all of them read. -/
theorem agree_word (word : String) (recordable : Prop) :
    (word ∈ endedWords ↔ recordable ∧ word ∈ mirroredWords) ↔
      (word = "final" → ¬ recordable) ∧ (word ∈ endedWords → recordable) := by
  rw [mem_mirroredWords]
  by_cases hfinal : word = "final"
  · subst hfinal
    simp [endedWords]
  · tauto

theorem agree_runStatus (hstatus : i.event = .runStatus) (state : ProductApiState)
    (runId : String) :
    ((i.Clears ↔ i.Terminal) ∧
      (i.Terminal ↔ i.Recordable state runId ∧ ∃ word ∈ mirroredWords, i.reported = .str word)) ↔
      i.OneReading state runId := by
  have hclears : i.Clears ↔ (runStatusText (.obj i.fields)).any (· ∈ endedWords) := by
    rw [clears_iff, EventFrame.EndsRun, frame, hstatus]
    rfl
  rw [hclears, terminal_runStatus hstatus, and_iff_right Iff.rfl, OneReading, hstatus, reported,
    hstatus]
  simp only [runStatusText, JsValue.stringAt, JsValue.field_obj]
  generalize i.Recordable state runId = recordable
  cases JsValue.lookup "status" i.fields with
  | str word => simpa [JsValue.orElse, JsValue.isNullish, JsValue.asString?] using
      agree_word word recordable
  | undefined | null =>
    cases JsValue.lookup "phase" i.fields with
    | str word => simpa [JsValue.orElse, JsValue.isNullish, JsValue.asString?] using
        agree_word word recordable
    | _ => simp [JsValue.orElse, JsValue.isNullish, JsValue.asString?]
  | _ => simp [JsValue.orElse, JsValue.isNullish, JsValue.asString?]

end RunInput

/-- The reducer, the page and the mirror agree on whether an event about a run ends it exactly if
the event has one reading. -/
theorem consumers_agree_iff {δ : Type} [Persist δ] [ReliablePersist δ] (i : RunInput)
    (runId : String) (hrun : JsValue.lookup "runId" i.fields = .str runId)
    (hblank : nonBlank runId) (clock : Clock) (r : Repository δ) :
    ((i.Clears ↔ i.Terminal) ∧
      (i.Terminal ↔
        ((mirrorRealtimeEventToProductApiRepository clock
          i.mirrorEvent).stateAfter r).state.RunEnded runId)) ↔
      i.OneReading r.state runId := by
  cases hi : i.event with
  | chat =>
    refine RunInput.agree_chat hi ?_ r.state runId
    rw [RunInput.runEnded_iff hrun hblank, and_iff_right (.inl hi)]
    refine exists_congr fun word => and_congr_right fun hword => ?_
    refine RunInput.reported_chat hi word ?_
    rcases List.mem_append.1 hword with h | h
    · exact nonBlank_of_mem_words h
    · exact nonBlank_of_mem_words h
  | runStatus =>
    rw [RunInput.runEnded_iff hrun hblank]
    exact RunInput.agree_runStatus hi r.state runId

/-- The reducer, the page and the mirror agree on a completed run that the mirror has not heard
of. -/
theorem consumers_agree_completed :
    let i : RunInput := ⟨.runStatus, [("runId", .str "run"), ("status", .str "completed")],
      .undefined, .undefined⟩
    (i.Clears ↔ i.Terminal) ∧
      (i.Terminal ↔
        ((mirrorRealtimeEventToProductApiRepository (fun _ => 0) i.mirrorEvent).stateAfter
          (createInMemoryProductApiRepository
            createMockProductApiState)).state.RunEnded "run") := by
  intro i
  refine (consumers_agree_iff i "run" rfl (by decide) (fun _ => 0) _).2 ?_
  have hword : runStatusText (.obj i.fields) = some "completed" := rfl
  have hrecord : i.Recordable createMockProductApiState "run" := .inr (.inr rfl)
  refine ⟨fun h => ?_, fun _ => hrecord⟩
  rw [hword] at h
  exact absurd h (by decide)

/-- A `run.status` event with status `final` ends the run for the mirror only. -/
theorem final_runStatus_ends_for_mirror :
    let i : RunInput := ⟨.runStatus, [("runId", .str "run"), ("status", .str "final")],
      .undefined, .undefined⟩
    ¬ i.Clears ∧ ¬ i.Terminal ∧
      ((mirrorRealtimeEventToProductApiRepository (fun _ => 0) i.mirrorEvent).stateAfter
        (createInMemoryProductApiRepository createMockProductApiState)).state.RunEnded "run" := by
  intro i
  refine ⟨?_, ?_, .inl (by decide +kernel)⟩
  · rw [RunInput.clears_iff]
    decide +kernel
  · rw [RunInput.terminal_runStatus rfl]
    decide +kernel

end Vertx
