import Vertx.Domain.Sessions

/-!
# Counting the messages of a session

The upstream gateway reports every message of a transcript with a `session.message` frame, and the
end of an assistant's answer with a chat frame besides.  The mirror counts both, so that a session
counts one message more for each answer that was completed.
-/

namespace Vertx

open Repository Runs Keyed

namespace ProductApiMirrorEvent

variable (e : ProductApiMirrorEvent)

/-- The events that count as a message: a session message, and a chat frame at the end of a run that
was not aborted. -/
def CountsMessage : Prop :=
  e.event = .sessionMessage ∨
    e.event = .chat ∧
      (stringField e.payload ["state"] = some "final" ∨
        stringField e.payload ["state"] = some "error")

instance : Decidable e.CountsMessage := inferInstanceAs (Decidable (_ ∨ _ ∧ (_ ∨ _)))

theorem increment_iff_of_session {clock : Clock}
    {input : MirrorSessionInput} (h : e.session? clock = some input) :
    input.incrementMessageCount = true ↔ e.CountsMessage := by
  have hobject := isObject_of_session h
  rw [ProductApiMirrorEvent.session?, if_pos hobject] at h
  unfold CountsMessage
  cases hevent : e.event <;> rw [hevent] at h <;> dsimp only at h
  case chat =>
    obtain ⟨id, -, rfl⟩ := Option.map_eq_some_iff.1 h
    simp [chatSessionInput]
  case sessionMessage =>
    obtain ⟨id, -, rfl⟩ := Option.map_eq_some_iff.1 h
    simp [sessionMessageInput]
  case sessionsChanged =>
    obtain ⟨id, -, rfl⟩ := Option.map_eq_some_iff.1 h
    simp [sessionsChangedInput]
  all_goals cases h

end ProductApiMirrorEvent

/-- A session counts the events that name it, that count and that the mirror does not throw on. -/
theorem sessionMessages_mirror (clock : Clock) (state : ProductApiState) (e : ProductApiMirrorEvent)
    (sessionId : String) [Decidable (e.Writes state sessionId)] :
    (mirrorNext clock state e).sessionMessages sessionId =
      state.sessionMessages sessionId +
        if e.Writes state sessionId ∧ e.CountsMessage then 1 else 0 := by
  by_cases hwrites : e.Writes state sessionId
  · obtain ⟨input, hinput, -, hcount⟩ := session_of_writes hwrites clock
    rw [hcount]
    simp only [e.increment_iff_of_session hinput, hwrites, true_and]
  · rw [if_neg fun h => hwrites h.1, add_zero]
    exact congrArg (fun o : Option SessionDetail => (o.bind (·.messageCount)).getD 0)
      (getSessionDetail_of_not_writes hwrites)

/-! ## A conversation -/

/-- A message of a transcript, with the payload of the frame that reports it and, where it completes
an assistant's answer, of the chat frame that says so.  The frames carry the key of the session, and
the first has no time of its own. -/
structure AppendedMessage where
  sessionKey : String
  payload : JsValue
  finalPayload : Option JsValue
  named : payload.isObject ∧ sessionIdFromPayload payload = some sessionKey
  noTime : payload.field "ts" = .undefined
  final : ∀ p ∈ finalPayload, p.isObject ∧ sessionIdFromPayload p = some sessionKey ∧
    stringField p ["state"] = some "final"

namespace AppendedMessage

variable (m : AppendedMessage)

/-- The message completes an assistant's answer. -/
def CompletesAnswer : Prop := m.finalPayload.isSome

instance : Decidable m.CompletesAnswer := inferInstanceAs (Decidable (_ = true))

/-- The frames that the upstream gateway sends of a message. -/
def frames : List ProductApiMirrorEvent :=
  ⟨.sessionMessage, m.payload⟩ :: m.finalPayload.toList.map (⟨.chat, ·⟩)

/-- Each frame of a message counts and names its session. -/
theorem of_mem_frames {m : AppendedMessage} {e : ProductApiMirrorEvent} (h : e ∈ m.frames) :
    e.CountsMessage ∧ e.namedSession? = some m.sessionKey := by
  rw [frames, List.mem_cons, List.mem_map] at h
  unfold ProductApiMirrorEvent.CountsMessage ProductApiMirrorEvent.namedSession?
  rcases h with rfl | ⟨p, hp, rfl⟩
  · exact ⟨.inl rfl, by rw [if_pos m.named.1]; exact m.named.2⟩
  · obtain ⟨hobject, hid, hstate⟩ := m.final p (Option.mem_toList.1 hp)
    exact ⟨.inr ⟨rfl, .inl hstate⟩, by rw [if_pos hobject]; exact hid⟩

/-- The mirror does not throw on a frame of a message. -/
theorem not_badTime_of_mem_frames {m : AppendedMessage} {e : ProductApiMirrorEvent}
    (h : e ∈ m.frames) (state : ProductApiState) : ¬ e.BadTime state := by
  intro hbad
  rw [frames, List.mem_cons, List.mem_map] at h
  rcases h with rfl | ⟨p, hp, rfl⟩
  · have htime := hbad.2.1
    rw [m.noTime] at htime
    cases htime
  · exact hbad.2.2

/-- The frames of a message that name a session: those of its session. -/
theorem countP_frames (m : AppendedMessage) (sessionId : String) :
    (m.frames.countP fun e => e.namedSession? = some sessionId) =
      if m.sessionKey = sessionId then 1 + if m.CompletesAnswer then 1 else 0 else 0 := by
  by_cases hid : m.sessionKey = sessionId
  · have hlength : m.frames.length = 1 + if m.CompletesAnswer then 1 else 0 := by
      unfold frames
      by_cases hanswer : m.CompletesAnswer
      · obtain ⟨p, hp⟩ := Option.isSome_iff_exists.1 hanswer
        rw [if_pos hanswer, hp]
        rfl
      · rw [if_neg hanswer, Option.not_isSome_iff_eq_none.1 hanswer]
        rfl
    rw [if_pos hid, ← hlength]
    refine List.countP_eq_length.2 fun e he => ?_
    exact decide_eq_true ((of_mem_frames he).2.trans (congrArg some hid))
  · rw [if_neg hid]
    refine List.countP_eq_zero.2 fun e he hnamed => hid ?_
    rw [(of_mem_frames he).2, decide_eq_true_iff] at hnamed
    exact Option.some_inj.1 hnamed

end AppendedMessage

/-- The frame of a step that counts as a message. -/
def ServerStep.countedFrame? : ServerStep → Option ProductApiMirrorEvent
  | .mirror _ e => if e.CountsMessage then some e else none
  | _ => none

/-- The steps mirror the frames of a conversation in some order.  Anything else may happen between
them, but no other frame that counts as a message. -/
def Mirrors (steps : List ServerStep) (conversation : List AppendedMessage) : Prop :=
  (steps.filterMap ServerStep.countedFrame?).Perm (conversation.flatMap AppendedMessage.frames)

theorem sessionMessages_step {s : Server} {i : ServerStep} (hs : SummariesInv s)
    (sessionId : String)
    (h : ∀ e ∈ i.countedFrame?, ∃ m : AppendedMessage, e ∈ m.frames) :
    (serverStep s i).repository.state.sessionMessages sessionId =
      s.repository.state.sessionMessages sessionId +
        i.countedFrame?.toList.countP fun e => e.namedSession? = some sessionId := by
  classical
  have hcount {detail : Option SessionDetail}
      (h : detail = s.repository.state.getSessionDetail sessionId) :
      (detail.bind (·.messageCount)).getD 0 = s.repository.state.sessionMessages sessionId + 0 := by
    rw [h]
    rfl
  cases i with
  | mirror clock e =>
    rw [mirror_state, sessionMessages_mirror]
    by_cases hcounts : e.CountsMessage
    · have hframe : (ServerStep.mirror clock e).countedFrame? = some e := if_pos hcounts
      obtain ⟨m, hm⟩ := h e (by rw [hframe]; rfl)
      have hwrites : e.Writes s.repository.state sessionId ↔ e.namedSession? = some sessionId :=
        and_iff_left (AppendedMessage.not_badTime_of_mem_frames hm _)
      rw [hframe, Option.toList_some, List.countP_singleton]
      simp only [hwrites, hcounts, and_true, decide_eq_true_eq]
    · have hframe : (ServerStep.mirror clock e).countedFrame? = none := if_neg hcounts
      rw [hframe, if_neg fun h => hcounts h.2]
      rfl
  | call clock op =>
    exact hcount (getSessionDetail_step hs.coherent.saved fun _ _ h => nomatch h)
  | restart =>
    exact hcount (getSessionDetail_step hs.coherent.saved fun _ _ h => nomatch h)

/-- What the counted frames of a run add to the messages of a session. -/
theorem sessionMessages_run {s : Server} (hs : SummariesInv s) (sessionId : String)
    {steps : List ServerStep}
    (h : ∀ e ∈ steps.filterMap ServerStep.countedFrame?, ∃ m : AppendedMessage, e ∈ m.frames) :
    (run serverStep s steps).repository.state.sessionMessages sessionId =
      s.repository.state.sessionMessages sessionId +
        (steps.filterMap ServerStep.countedFrame?).countP
          fun e => e.namedSession? = some sessionId := by
  induction steps generalizing s with
  | nil => rfl
  | cons i steps ih =>
    have hsplit : (i :: steps).filterMap ServerStep.countedFrame? =
        i.countedFrame?.toList ++ steps.filterMap ServerStep.countedFrame? := by
      rw [List.filterMap_cons]
      cases i.countedFrame? <;> rfl
    rw [hsplit] at h
    have hstep := sessionMessages_step hs sessionId fun e (he : e ∈ i.countedFrame?) =>
      h e (List.mem_append_left _ (Option.mem_toList.2 he))
    rw [run_cons, ih (summariesInv_step s i hs) fun e he => h e (List.mem_append_right _ he), hstep,
      hsplit, List.countP_append, add_assoc]

/-! ## What a conversation adds -/

/-- The messages of a conversation that were appended to a session. -/
def appendedTo (conversation : List AppendedMessage) (sessionId : String) : List AppendedMessage :=
  conversation.filter (·.sessionKey = sessionId)

/-- A conversation adds its messages to a session, and one more for each answer it completes. -/
theorem sessionMessages_conversation {s : Server} (hs : SummariesInv s) {steps : List ServerStep}
    {conversation : List AppendedMessage} (h : Mirrors steps conversation) (sessionId : String) :
    (run serverStep s steps).repository.state.sessionMessages sessionId =
      s.repository.state.sessionMessages sessionId + (appendedTo conversation sessionId).length +
        (appendedTo conversation sessionId).countP (·.CompletesAnswer) := by
  rw [sessionMessages_run hs sessionId fun e he => ?_, h.countP_eq, add_assoc]
  · congr 1
    clear h
    induction conversation with
    | nil => rfl
    | cons m conversation ih =>
      rw [List.flatMap_cons, List.countP_append, ih, m.countP_frames]
      unfold appendedTo
      by_cases hid : m.sessionKey = sessionId
      · rw [if_pos hid, List.filter_cons_of_pos (by simpa using hid), List.length_cons,
          List.countP_cons]
        simp only [decide_eq_true_eq]
        omega
      · rw [if_neg hid, List.filter_cons_of_neg (by simpa using hid), zero_add]
  · obtain ⟨m, -, hm⟩ := List.mem_flatMap.1 (h.mem_iff.1 he)
    exact ⟨m, hm⟩

/-- Each session counts the messages that were appended to it exactly when no message of the
conversation completes an assistant's answer. -/
theorem messages_counted_iff (early steps : List ServerStep) (conversation : List AppendedMessage)
    (h : Mirrors steps conversation) :
    (∀ sessionId,
      (run serverStep (run serverStep initialServer early) steps).repository.state.sessionMessages
          sessionId =
        (run serverStep initialServer early).repository.state.sessionMessages sessionId +
          (appendedTo conversation sessionId).length) ↔
      ∀ m ∈ conversation, ¬ m.CompletesAnswer := by
  have hs : SummariesInv (run serverStep initialServer early) :=
    run_of_step summariesInv_step ⟨coherent_initial, rfl⟩ early
  have hiff : ∀ sessionId,
      (run serverStep (run serverStep initialServer early) steps).repository.state.sessionMessages
          sessionId =
        (run serverStep initialServer early).repository.state.sessionMessages sessionId +
          (appendedTo conversation sessionId).length ↔
      ∀ m ∈ appendedTo conversation sessionId, ¬ m.CompletesAnswer := by
    intro sessionId
    rw [sessionMessages_conversation hs h, Nat.add_eq_left, List.countP_eq_zero]
    simp only [decide_eq_true_eq]
  refine (forall_congr' hiff).trans ?_
  simp only [appendedTo, List.mem_filter, decide_eq_true_eq]
  exact ⟨fun hall m hm => hall m.sessionKey m ⟨hm, rfl⟩, fun hall _ m hm => hall m hm.1⟩

/-- The payload that reports a message. -/
def messagePayload (sessionKey role : String) : JsValue :=
  .obj [("sessionKey", .str sessionKey), ("message", .obj [("role", .str role)])]

/-- A message that completes no answer. -/
def plainMessage (sessionKey role : String)
    (named : sessionIdFromPayload (messagePayload sessionKey role) = some sessionKey) :
    AppendedMessage where
  sessionKey := sessionKey
  payload := messagePayload sessionKey role
  finalPayload := none
  named := ⟨rfl, named⟩
  noTime := rfl
  final := by simp

/-- Messages of two sessions, reported in another order, with a chat delta and a restart between
them. -/
theorem conversation_counted :
    let steps : List ServerStep := [
      .mirror (fun _ => 0) ⟨.sessionMessage, messagePayload "main" "user"⟩,
      .mirror (fun _ => 0) ⟨.chat, .obj [("sessionKey", .str "main"), ("state", .str "delta")]⟩,
      .mirror (fun _ => 0) ⟨.sessionMessage, messagePayload "main" "toolResult"⟩,
      .restart,
      .mirror (fun _ => 0) ⟨.sessionMessage, messagePayload "other" "user"⟩]
    (run serverStep initialServer steps).repository.state.sessionMessages "main" =
        initialServer.repository.state.sessionMessages "main" + 2 ∧
      (run serverStep initialServer steps).repository.state.sessionMessages "other" =
        initialServer.repository.state.sessionMessages "other" + 1 := by
  intro steps
  have hframes : Mirrors steps [plainMessage "main" "user" (by decide),
      plainMessage "other" "user" (by decide), plainMessage "main" "toolResult" (by decide)] := by
    unfold Mirrors
    decide
  have hcounted := (messages_counted_iff [] steps _ hframes).2 (by decide)
  exact ⟨hcounted "main", hcounted "other"⟩

/-- A completed answer of the assistant. -/
def completedAnswer : AppendedMessage where
  sessionKey := "main"
  payload := .obj [("sessionKey", .str "main"), ("message", .obj [("role", .str "assistant")])]
  finalPayload := some (.obj [("runId", .str "run-9"), ("sessionKey", .str "main"),
    ("state", .str "final")])
  named := by decide
  noTime := rfl
  final := by
    rintro p ⟨⟩
    decide

/-- The frames of a message, mirrored in the order in which they are sent. -/
def AppendedMessage.mirrored (m : AppendedMessage) : List ServerStep :=
  m.frames.map fun e => .mirror (fun _ => 0) e

/-- A completed answer counts as two messages. -/
theorem completed_answer_counts_twice :
    Mirrors completedAnswer.mirrored [completedAnswer] ∧
      (appendedTo [completedAnswer] "main").length = 1 ∧
      (run serverStep initialServer completedAnswer.mirrored).repository.state.sessionMessages
          "main" =
        initialServer.repository.state.sessionMessages "main" + 2 := by
  refine ⟨?_, rfl, by decide +kernel⟩
  unfold Mirrors
  decide

end Vertx
