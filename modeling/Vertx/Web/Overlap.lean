import Vertx.Web.Stream

/-!
# Overlapping runs

Frames of several runs can be interleaved in one session.  Beside the state of a page stand the
pieces of its stream, each with the run whose frame brought it.  The reducer compares no run ids:
the runs stay apart exactly as long as the frames that append to the stream, cut it or end a run are
those of the run that the page shows.
-/

namespace Vertx

open Runs

/-- The state of a page and the pieces of its stream, each with its run. -/
structure OverlapState where
  page : RealtimeState
  pieces : List (JsValue × String)

namespace EventFrame

/-- The run that a frame makes the run of the page. -/
def broughtRun (frame : EventFrame) : Option JsValue :=
  match frame.event with
  | .chat => frame.deltaText.map fun _ => chatPayloadRunId frame.payload
  | .agent | .toolStatus => some (frame.payload.field "runId")
  | _ => none

/-- The text that a frame appends to the stream. -/
def broughtText (frame : EventFrame) : Option String := frame.deltaText.or frame.agentText

end EventFrame

section

variable {frame : EventFrame}

theorem endsRun_event (h : frame.EndsRun) : frame.event = .chat ∨ frame.event = .runStatus := by
  unfold EventFrame.EndsRun at h
  cases hevent : frame.event <;> simp_all

theorem deltaText_eq_some {text : String} (h : frame.deltaText = some text) :
    frame.event = .chat ∧ frame.payload.stringAt "state" = some "delta" ∧ text ≠ "" := by
  unfold EventFrame.deltaText at h
  split_ifs at h with hchat
  exact ⟨hchat.1, hchat.2, by simpa using (Option.filter_eq_some_iff.1 h).2⟩

theorem deltaText_of_endsRun (h : frame.EndsRun) : frame.deltaText = none := by
  cases htext : frame.deltaText with
  | none => rfl
  | some text =>
    obtain ⟨hevent, hdelta, -⟩ := deltaText_eq_some htext
    simp [EventFrame.EndsRun, hevent, hdelta, endedChatStates] at h

theorem agentText_of_ne (h : frame.event ≠ .agent) : frame.agentText = none := if_neg h

/-- Only a delta, an agent frame and a tool frame bring a run. -/
theorem broughtRun_eq_none (hdelta : frame.deltaText = none) (hagent : frame.event ≠ .agent)
    (htool : frame.event ≠ .toolStatus) : frame.broughtRun = none := by
  unfold EventFrame.broughtRun
  cases hevent : frame.event with
  | chat => simp [hdelta]
  | agent => exact absurd hevent hagent
  | toolStatus => exact absurd hevent htool
  | _ => rfl

end

namespace OverlapState

def initial : OverlapState := ⟨initialRealtimeState, []⟩

/-- The pieces of the stream after a frame. -/
def piecesAfter (s : OverlapState) (frame : EventFrame) : List (JsValue × String) :=
  if frame.EndsRun then []
  else if frame.event = .toolStatus ∧ (shownStream s.page.chatStream).isSome then []
  else s.pieces ++ (frame.broughtText.map (frame.broughtRun.getD .null, ·)).toList

def step (s : OverlapState) (i : Clock × RealtimeAction) : OverlapState :=
  match realtimeReducer i.1 s.page i.2 with
  | .error _ => s
  | .ok page =>
    match i.2 with
    | .sessionReset => ⟨page, []⟩
    | .event frame => ⟨page, s.piecesAfter frame⟩
    | _ => ⟨page, s.pieces⟩

/-- The action does not take the page down. -/
def Accepted (s : OverlapState) (i : Clock × RealtimeAction) : Prop :=
  ∃ page, realtimeReducer i.1 s.page i.2 = .ok page

/-- The stream holds text of the run of the page only. -/
structure Owned (s : OverlapState) : Prop where
  stream : s.page.chatStream.getD "" = String.join (s.pieces.map (·.2))
  run : ∀ piece ∈ s.pieces, piece.2 ≠ "" → piece.1 = s.page.chatRunId

/-- The page shows a run, and the frame is one of another run. -/
def OfOther (s : OverlapState) (frame : EventFrame) : Prop :=
  s.page.chatRunId ≠ .null ∧
    ∃ runId, frame.payload.field "runId" = .str runId ∧ .str runId ≠ s.page.chatRunId

/-- A chat frame or a `run.status` frame of another run leaves the run of the page alone. -/
def Apart (s : OverlapState) (i : Clock × RealtimeAction) : Prop :=
  match i.2 with
  | .event frame =>
    frame.event = .chat ∨ frame.event = .runStatus → s.OfOther frame →
      (frame.EndsRun → (s.step i).page.runPart = s.page.runPart) ∧
      (frame.event = .chat → frame.payload.stringAt "state" = some "delta" →
        (s.step i).page.chatStream = s.page.chatStream)
  | _ => True

/-- The runs do not interfere in a step. -/
@[mk_iff] structure RunsApart (s : OverlapState) (i : Clock × RealtimeAction) : Prop where
  apart : s.Apart i
  owned : (s.step i).Owned

/-- Text that a frame leaves in the stream. -/
def leftText (s : OverlapState) (frame : EventFrame) : String :=
  if frame.event = .toolStatus ∧ (shownStream s.page.chatStream).isSome then ""
  else s.page.chatStream.getD ""

/-- No frame of another run ends a run or brings a text, and a frame that makes its run the run of
the page finds no text of another one in the stream. -/
def Fits (s : OverlapState) (i : Clock × RealtimeAction) : Prop :=
  match i.2 with
  | .event frame =>
    (frame.EndsRun ∨ frame.deltaText.isSome → ¬ s.OfOther frame) ∧
      ∀ runId ∈ frame.broughtRun, s.leftText frame ≠ "" → runId = s.page.chatRunId
  | _ => True

variable {s : OverlapState} {i : Clock × RealtimeAction} {frame : EventFrame}

theorem join_ne_empty_iff (pieces : List (JsValue × String)) :
    String.join (pieces.map (·.2)) ≠ "" ↔ ∃ piece ∈ pieces, piece.2 ≠ "" := by
  induction pieces with
  | nil => simp
  | cons piece pieces ih =>
    rw [List.map_cons, String.join_cons, ne_eq, String.append_eq_empty_iff, not_and_or,
      List.exists_mem_cons_iff]
    exact or_congr_right ih

/-- Pieces of `old` followed by pieces of `run` belong to `run` exactly when the first ones are
empty or the two runs are one. -/
theorem run_append_iff {pieces new : List (JsValue × String)} {old run : JsValue}
    (hold : ∀ piece ∈ pieces, piece.2 ≠ "" → piece.1 = old) (hnew : ∀ piece ∈ new, piece.1 = run) :
    (∀ piece ∈ pieces ++ new, piece.2 ≠ "" → piece.1 = run) ↔
      (String.join (pieces.map (·.2)) ≠ "" → run = old) := by
  constructor
  · intro h hne
    obtain ⟨piece, hmem, hpiece⟩ := (join_ne_empty_iff pieces).1 hne
    rw [← h piece (List.mem_append_left new hmem) hpiece, hold piece hmem hpiece]
  · intro h piece hmem hpiece
    rcases List.mem_append.1 hmem with hmem | hmem
    · rw [hold piece hmem hpiece, h ((join_ne_empty_iff pieces).2 ⟨piece, hmem, hpiece⟩)]
    · exact hnew piece hmem

theorem step_event (clock : Clock) {page : RealtimeState}
    (h : realtimeReducer clock s.page (.event frame) = .ok page) :
    s.step (clock, .event frame) = ⟨page, s.piecesAfter frame⟩ := by
  rw [step, h]

/-- An action that is no event leaves the run and the stream alone, or resets both. -/
theorem owned_local {clock : Clock} {action : RealtimeAction} (h : s.Owned)
    (haction : ∀ frame, action ≠ .event frame) : (s.step (clock, action)).Owned := by
  cases action with
  | event frame => exact absurd rfl (haction frame)
  | sessionReset => exact ⟨rfl, nofun⟩
  | _ => exact ⟨h.stream, h.run⟩

/-- The pieces that an append adds are of the run that it brings. -/
theorem owned_append_iff (h : s.Owned) {page : RealtimeState} {new : List (JsValue × String)}
    {runId : JsValue} (hnew : ∀ piece ∈ new, piece.1 = runId)
    (hstream : page.chatStream.getD "" = s.page.chatStream.getD "" ++ String.join (new.map (·.2)))
    (hrun : page.chatRunId = runId) :
    Owned ⟨page, s.pieces ++ new⟩ ↔
      (s.page.chatStream.getD "" ≠ "" → runId = s.page.chatRunId) := by
  rw [h.stream, ← run_append_iff h.run hnew]
  constructor
  · intro howned
    rw [← hrun]
    exact howned.run
  · intro hpieces
    refine ⟨?_, ?_⟩
    · show page.chatStream.getD "" = _
      rw [hstream, h.stream, List.map_append, String.join_append]
    · show ∀ piece ∈ s.pieces ++ new, piece.2 ≠ "" → piece.1 = page.chatRunId
      rw [hrun]
      exact hpieces

/-- A frame that ends a run brings none. -/
theorem broughtRun_of_endsRun (h : frame.EndsRun) : frame.broughtRun = none := by
  apply broughtRun_eq_none (deltaText_of_endsRun h)
  · rcases endsRun_event h with hevent | hevent <;> simp [hevent]
  · rcases endsRun_event h with hevent | hevent <;> simp [hevent]

/-- The end of a run, whatever it archives. -/
theorem runsApart_ends_iff {page : RealtimeState} {clock : Clock}
    (he : realtimeReducer clock s.page (.event frame) = .ok page) (hends : frame.EndsRun)
    (hrun : page.runPart = .ended) :
    s.RunsApart (clock, .event frame) ↔ s.Fits (clock, .event frame) := by
  have hstep : s.step (clock, .event frame) = ⟨page, []⟩ := by
    rw [step_event clock he, piecesAfter, if_pos hends]
  have hapart : s.Apart (clock, .event frame) ↔ ¬ s.OfOther frame := by
    dsimp only [Apart]
    rw [hstep]
    constructor
    · intro h hother
      have hsame :=
        congrArg RunPart.chatRunId (hrun.symm.trans ((h (endsRun_event hends) hother).1 hends))
      exact hother.1 hsame.symm
    · exact fun h _ hother => absurd hother h
  have howned : (s.step (clock, .event frame)).Owned := by
    rw [hstep]
    refine ⟨?_, nofun⟩
    rw [show page.chatStream = none from congrArg RunPart.chatStream hrun]
    rfl
  rw [runsApart_iff, and_iff_left howned, hapart]
  constructor
  · exact fun h => ⟨fun _ => h, by simp [broughtRun_of_endsRun hends]⟩
  · exact fun h => h.1 (.inl hends)

/-- An event that is accepted keeps the runs apart exactly when it fits. -/
theorem runsApart_event_iff {page : RealtimeState} {clock : Clock} (h : s.Owned)
    (he : realtimeReducer clock s.page (.event frame) = .ok page) :
    s.RunsApart (clock, .event frame) ↔ s.Fits (clock, .event frame) := by
  have hstep := step_event clock he
  cases effect_event he with
  | kept hends hdelta hagent htool hrun harchive =>
    have hpieces : s.piecesAfter frame = s.pieces := by
      simp [piecesAfter, hends, htool, EventFrame.broughtText, hdelta, agentText_of_ne hagent]
    have hstream : page.chatStream = s.page.chatStream := congrArg RunPart.chatStream hrun
    rw [hpieces] at hstep
    refine iff_of_true ⟨fun _ _ => ?_, ?_⟩ ⟨?_, ?_⟩
    · refine ⟨fun h => absurd h hends, fun _ _ => ?_⟩
      rw [hstep]
      exact hstream
    · rw [hstep]
      refine ⟨?_, ?_⟩
      · rw [hstream]
        exact h.stream
      · rw [show page.chatRunId = s.page.chatRunId from congrArg RunPart.chatRunId hrun]
        exact h.run
    · rintro (hends' | hsome)
      · exact absurd hends' hends
      · simp [hdelta] at hsome
    · simp [broughtRun_eq_none hdelta hagent htool]
  | delta text hends hdelta hstream hrun =>
    obtain ⟨hevent, hstate, hne⟩ := deltaText_eq_some hdelta
    have hbrought : frame.broughtRun = some (chatPayloadRunId frame.payload) := by
      simp [EventFrame.broughtRun, hevent, hdelta]
    have hpieces : s.piecesAfter frame = s.pieces ++ [(chatPayloadRunId frame.payload, text)] := by
      simp [piecesAfter, hends, hevent, EventFrame.broughtText, hdelta, hbrought]
    have hleft : s.leftText frame = s.page.chatStream.getD "" := if_neg (by simp [hevent])
    have hgrows : page.chatStream ≠ s.page.chatStream := by
      rw [hstream]
      cases s.page.chatStream with
      | none => exact nofun
      | some old => simp [hne]
    rw [hpieces] at hstep
    have hapart : s.Apart (clock, .event frame) ↔ ¬ s.OfOther frame := by
      dsimp only [Apart]
      rw [hstep]
      constructor
      · exact fun h hother => hgrows ((h (.inl hevent) hother).2 hevent hstate)
      · exact fun h _ hother => absurd hother h
    rw [runsApart_iff, hapart, hstep,
      owned_append_iff h (by simp) (by rw [hstream]; simp) hrun]
    simp [Fits, hends, hdelta, hbrought, hleft]
  | agent text hevent htext hstream hrun =>
    have hdelta : frame.deltaText = none := if_neg (by simp [hevent])
    have hends : ¬ frame.EndsRun := by simp [EventFrame.EndsRun, hevent]
    have hbrought : frame.broughtRun = some (frame.payload.field "runId") := by
      simp [EventFrame.broughtRun, hevent]
    have hpieces : s.piecesAfter frame = s.pieces ++ [(frame.payload.field "runId", text)] := by
      simp [piecesAfter, hends, hevent, EventFrame.broughtText, hdelta, htext, hbrought]
    have hleft : s.leftText frame = s.page.chatStream.getD "" := if_neg (by simp [hevent])
    have hapart : s.Apart (clock, .event frame) := by simp [Apart, hevent]
    rw [hpieces] at hstep
    rw [runsApart_iff, and_iff_right hapart, hstep,
      owned_append_iff h (by simp) (by rw [hstream]; simp) hrun]
    simp [Fits, hends, hdelta, hbrought, hleft]
  | cut hevent hstream hsegments hrun =>
    have hdelta : frame.deltaText = none := if_neg (by simp [hevent])
    have hends : ¬ frame.EndsRun := by simp [EventFrame.EndsRun, hevent]
    have hbrought : frame.broughtRun = some (frame.payload.field "runId") := by
      simp [EventFrame.broughtRun, hevent]
    have hapart : s.Apart (clock, .event frame) := by simp [Apart, hevent]
    rw [runsApart_iff, and_iff_right hapart, hstep]
    by_cases hshown : (shownStream s.page.chatStream).isSome
    · have hpieces : s.piecesAfter frame = [] := by simp [piecesAfter, hevent, hshown]
      have hleft : s.leftText frame = "" := if_pos ⟨hevent, hshown⟩
      rw [if_pos hshown] at hstream
      rw [hpieces]
      refine iff_of_true ⟨by rw [hstream]; rfl, fun _ hpiece => absurd hpiece List.not_mem_nil⟩ ?_
      simp [Fits, hends, hdelta, hleft]
    · have hpieces : s.piecesAfter frame = s.pieces ++ [] := by
        simp [piecesAfter, hends, hevent, hshown, EventFrame.broughtText, hdelta,
          EventFrame.agentText]
      have hleft : s.leftText frame = s.page.chatStream.getD "" := if_neg fun hcut => hshown hcut.2
      rw [if_neg hshown] at hstream
      rw [hpieces, owned_append_iff h (by simp) (by rw [hstream]; simp) hrun]
      simp [Fits, hends, hdelta, hbrought, hleft]
  | cleared hends hanswer hrun harchive => exact runsApart_ends_iff he hends hrun
  | answered text hends hanswer hrun hsegments => exact runsApart_ends_iff he hends hrun

/-- Runs stay apart through all accepted actions exactly as long as every frame fits. -/
theorem runs_apart_iff (steps : List (Clock × RealtimeAction))
    (h : Each step Accepted initial steps) :
    Each step RunsApart initial steps ↔ Each step Fits initial steps := by
  have hboth : Each step (fun s i => s.Accepted i ∧ s.RunsApart i) initial steps ↔
      Each step (fun s i => s.Accepted i ∧ s.Fits i) initial steps := by
    have hiff (s : OverlapState) (i : Clock × RealtimeAction) (hs : s.Owned) :
        (s.Accepted i ∧ s.RunsApart i ↔ s.Accepted i ∧ s.Fits i) := by
      refine and_congr_right fun ⟨page, he⟩ => ?_
      obtain ⟨clock, action⟩ := i
      cases action with
      | event frame => exact runsApart_event_iff hs he
      | _ => exact iff_of_true ⟨trivial, owned_local hs nofun⟩ trivial
    have hinit : initial.Owned := ⟨rfl, fun _ hpiece => by cases hpiece⟩
    refine each_iff_each hiff (fun s i hs hok => ?_) hinit steps
    exact ((hiff s i hs).2 hok).2.owned
  rw [each_and, each_and, and_iff_right h, and_iff_right h] at hboth
  exact hboth

/-- Two deltas of one run and its end. -/
theorem runs_apart_single_run :
    Each step RunsApart initial [deltaStep "r1" "The", deltaStep "r1" " answer",
        chatStep [("runId", .str "r1"), ("state", .str "aborted")]] ↔
      Each step Fits initial [deltaStep "r1" "The", deltaStep "r1" " answer",
        chatStep [("runId", .str "r1"), ("state", .str "aborted")]] :=
  runs_apart_iff _ ⟨⟨_, rfl⟩, ⟨_, rfl⟩, ⟨_, rfl⟩, trivial⟩

/-- The end of a run clears the stream of another one. -/
theorem other_run_ends :
    ¬ Each step RunsApart initial [deltaStep "r1" "The answer",
      chatStep [("runId", .str "r2"), ("state", .str "final")]] := by
  rintro ⟨-, hapart, -⟩
  have hother : OfOther (initial.step (deltaStep "r1" "The answer"))
      ⟨.chat, .undefined, .obj [("runId", .str "r2"), ("state", .str "final")], .undefined⟩ :=
    ⟨by decide, "r2", rfl, by decide⟩
  have hsame := (hapart.apart (.inl rfl) hother).1 (by decide)
  revert hsame
  decide

end OverlapState

end Vertx
