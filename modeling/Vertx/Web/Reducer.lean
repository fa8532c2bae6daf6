import Vertx.Web.Page

/-!
# What an event leads to

The helpers of the reducer throw, or lead to a state that the payload fixes.  Each is opened here
once: whoever asks what an event changes reads it off the state after it.
-/

namespace Vertx

variable {clock : Clock} {state state' : RealtimeState} {payload : JsValue}

theorem get_eq_ok {key : String} {v : JsValue} :
    payload.get key = .ok v ↔ payload.isNullish = false ∧ payload.field key = v := by
  unfold JsValue.get
  split_ifs with h
  · simp [h]
  · simp [h]

theorem stringAt_eq_some {payload : JsValue} {key text : String}
    (h : payload.stringAt key = some text) :
    ∃ fields, payload = .obj fields ∧ JsValue.lookup key fields = .str text := by
  unfold JsValue.stringAt at h
  cases payload with
  | obj fields =>
    refine ⟨fields, rfl, ?_⟩
    rw [JsValue.field_obj] at h
    cases hv : JsValue.lookup key fields with
    | str s =>
      rw [hv] at h
      cases h
      rfl
    | _ =>
      rw [hv] at h
      cases h
  | _ => cases h

/-- A computation in two steps that does not throw. -/
theorem bind_eq_ok {α β : Type} {x : Except JsError α} {f : α → Except JsError β} {b : β}
    (h : x >>= f = .ok b) : ∃ a, x = .ok a ∧ f a = .ok b := by
  cases x with
  | error e => cases h
  | ok a => exact ⟨a, rfl, h⟩

theorem ended_iff (chatState : Option String) :
    (chatState = some "aborted" ∨ chatState = some "error" ∨ chatState = some "final") ↔
      chatState.any (· ∈ endedChatStates) = true := by
  cases chatState with
  | none => simp
  | some word =>
    simp only [endedChatStates, Option.some.injEq, Option.any_some, decide_eq_true_eq,
      List.mem_cons, List.not_mem_nil, or_false]
    tauto

/-! ## Runs -/

/-- The states that a chat event leads to. -/
inductive ChatEffect (clock : Clock) (state : RealtimeState) (payload : JsValue) :
    RealtimeState → Prop
  | kept (hends : ¬ (payload.stringAt "state").any (· ∈ endedChatStates))
      (hdelta : payload.stringAt "state" = some "delta" → chatText payload = none) :
      ChatEffect clock state payload state
  | delta (text : String) (hstate : payload.stringAt "state" = some "delta")
      (htext : chatText payload = some text) :
      ChatEffect clock state payload { state with
        chatRunId := chatPayloadRunId payload
        chatStream := some (state.chatStream.getD "" ++ text)
        chatStreamStartedAt := state.chatStreamStartedAt.orElse (.num (.finite (clock 0))) }
  | cleared (hends : (payload.stringAt "state").any (· ∈ endedChatStates))
      (hanswer : payload.stringAt "state" = some "final" → chatText payload = none) :
      ChatEffect clock state payload (finalizeChatRun state)
  | answered (text : String) (hstate : payload.stringAt "state" = some "final")
      (htext : chatText payload = some text) :
      ChatEffect clock state payload (finalizeChatRun (pushAnswer clock state payload text))

theorem applyChatEvent_cases (h : applyChatEvent clock state payload = .ok state') :
    ChatEffect clock state payload state' := by
  unfold applyChatEvent at h
  split_ifs at h
  dsimp only at h
  by_cases hdelta : payload.stringAt "state" = some "delta"
  · rw [if_pos hdelta] at h
    cases htext : chatText payload with
    | none =>
      rw [htext] at h
      cases h
      exact .kept (by simp [hdelta, endedChatStates]) fun _ => htext
    | some text =>
      rw [htext] at h
      cases h
      exact .delta text hdelta htext
  · rw [if_neg hdelta] at h
    by_cases hfinal : payload.stringAt "state" = some "final"
    · have hends : (payload.stringAt "state").any (· ∈ endedChatStates) := by
        simp [hfinal, endedChatStates]
      cases htext : chatText payload with
      | none =>
        simp only [htext, hfinal, or_true, if_true] at h
        cases h
        exact .cleared hends fun _ => htext
      | some text =>
        simp only [htext, hfinal, or_true, if_true] at h
        cases h
        exact .answered text hfinal htext
    · simp only [ended_iff] at h
      obtain ⟨answered, rfl, hended⟩ : ∃ answered, answered = state ∧
          (if (payload.stringAt "state").any (· ∈ endedChatStates) then
            Except.ok (finalizeChatRun answered) else Except.ok answered) = .ok state' := by
        refine ⟨_, ?_, h⟩
        split
        · exact if_neg hfinal
        · rfl
      split_ifs at hended with hends
      · cases hended
        exact .cleared hends fun h => absurd h hfinal
      · cases hended
        exact .kept hends fun h => absurd h hdelta

theorem applyRunStatus_cases (h : applyRunStatus state payload = .ok state') :
    state' = if (runStatusText payload).any (· ∈ endedWords) then finalizeChatRun state
      else state := by
  unfold applyRunStatus at h
  split_ifs at h
  cases hstatus : runStatusText payload with
  | none =>
    rw [hstatus] at h
    cases h
    rfl
  | some status =>
    rw [hstatus] at h
    simp only [Option.any_some, decide_eq_true_eq]
    dsimp only at h
    split_ifs at h ⊢ <;> cases h <;> rfl

theorem applyAgentStream_iff : applyAgentStream state payload = .ok state' ↔
    payload.isNullish = false ∧ ∃ stream, (payload.field "stream").toStr = .ok stream ∧
      state' = { state with
        chatRunId := payload.field "runId"
        chatStream := some (state.chatStream.getD "" ++ stream)
        chatStreamStartedAt := state.chatStreamStartedAt.orElse (payload.field "ts") } := by
  unfold applyAgentStream
  constructor
  · intro h
    obtain ⟨runId, hrun, h⟩ := bind_eq_ok h
    obtain ⟨stream, hstream, h⟩ := bind_eq_ok h
    cases h
    obtain ⟨hnull, rfl⟩ := get_eq_ok.1 hrun
    exact ⟨hnull, stream, hstream, rfl⟩
  · rintro ⟨hnull, stream, hstream, rfl⟩
    rw [get_eq_ok.2 ⟨hnull, rfl⟩, hstream]
    rfl

/-! ## Tool cards -/

theorem cutStream_of_shown {text : String} (h : shownStream state.chatStream = some text) :
    cutStream clock state = { state with
      chatStreamSegments := state.chatStreamSegments ++ [⟨text, clock 0⟩]
      chatStream := none
      chatStreamStartedAt := .null } := by
  rw [cutStream, h]

theorem cutStream_of_none (h : shownStream state.chatStream = none) :
    cutStream clock state = state := by
  rw [cutStream, h]

/-- Only the stream and its segments are cut. -/
theorem cutStream_eq (clock : Clock) (state : RealtimeState) :
    cutStream clock state = { state with
      chatStreamSegments := (cutStream clock state).chatStreamSegments
      chatStream := (cutStream clock state).chatStream
      chatStreamStartedAt := (cutStream clock state).chatStreamStartedAt } := by
  unfold cutStream
  split <;> rfl

/-- The order of the cards, a new one last. -/
def orderWith (toolCallId : JsValue) (order : List JsValue) : List JsValue :=
  if order.any (JsValue.sameValueZero toolCallId) then order else order ++ [toolCallId]

theorem mem_orderWith {toolCallId id : JsValue} {order : List JsValue}
    (h : id ∈ orderWith toolCallId order) : id ∈ order ∨ id = toolCallId := by
  unfold orderWith at h
  split_ifs at h
  · exact .inl h
  · simpa using h

/-- A tool event leads to a state when its payload, its key and all keys in the order can be
read. -/
theorem applyToolStatus_iff : applyToolStatus clock state payload = .ok state' ↔
    payload.isNullish = false ∧ ∃ key messages, (payload.field "toolCallId").toStr = .ok key ∧
      syncToolMessages (cardPrototype key payload) (setCard key payload state.toolStreamById)
        (orderWith (payload.field "toolCallId") state.toolStreamOrder) = .ok messages ∧
      state' = { state with
        chatStreamSegments := (cutStream clock state).chatStreamSegments
        chatStream := (cutStream clock state).chatStream
        chatStreamStartedAt := (cutStream clock state).chatStreamStartedAt
        chatRunId := payload.field "runId"
        toolStreamById := setCard key payload state.toolStreamById
        toolStreamOrder := orderWith (payload.field "toolCallId") state.toolStreamOrder
        chatToolMessages := messages } := by
  unfold applyToolStatus
  rw [cutStream_eq]
  constructor
  · intro h
    obtain ⟨runId, hrun, h⟩ := bind_eq_ok h
    obtain ⟨key, hkey, h⟩ := bind_eq_ok h
    obtain ⟨messages, hmessages, h⟩ := bind_eq_ok h
    cases h
    obtain ⟨hnull, rfl⟩ := get_eq_ok.1 hrun
    exact ⟨hnull, key, messages, hkey, hmessages, rfl⟩
  · rintro ⟨hnull, key, messages, hkey, hmessages, rfl⟩
    unfold orderWith at hmessages
    simp only [get_eq_ok.2 ⟨hnull, rfl⟩, bind, Except.bind, hkey, hmessages]
    rfl

/-! ## Approvals -/

/-- The title that a request for an approval shows. -/
def approvalTitle (payload : JsValue) : String :=
  ((payload.stringAt "title").or (payload.stringAt "name")).getD "待审批操作"

/-- The id by which an approval is listed. -/
def approvalId? (payload : JsValue) : Option String := (payload.stringAt "id").filter (· ≠ "")

/-- The list after a request. -/
def requestApproval (payload : JsValue) (pending : List PendingApproval) : List PendingApproval :=
  match approvalId? payload with
  | none => pending
  | some id =>
    if pending.any (·.id = id) then pending else pending ++ [⟨id, approvalTitle payload⟩]

/-- The list after a resolution. -/
def resolveApproval (payload : JsValue) (pending : List PendingApproval) : List PendingApproval :=
  match approvalId? payload with
  | none => pending
  | some id => pending.filter (·.id ≠ id)

theorem applyApprovalRequested_eq (state : RealtimeState) (h : payload.isNullish = false) :
    applyApprovalRequested state payload =
      .ok { state with pendingApprovals := requestApproval payload state.pendingApprovals } := by
  unfold applyApprovalRequested requestApproval approvalId?
  rw [if_neg (by simp [h])]
  dsimp only
  cases (payload.stringAt "id").filter (· ≠ "") with
  | none => rfl
  | some id =>
    dsimp only
    split_ifs <;> rfl

theorem applyApprovalResolved_eq (state : RealtimeState) (h : payload.isNullish = false) :
    applyApprovalResolved state payload =
      .ok { state with pendingApprovals := resolveApproval payload state.pendingApprovals } := by
  unfold applyApprovalResolved resolveApproval approvalId?
  rw [if_neg (by simp [h])]
  cases (payload.stringAt "id").filter (· ≠ "") <;> rfl

/-- An event of an approval changes nothing but the approvals. -/
theorem applyApprovalRequested_cases (h : applyApprovalRequested state payload = .ok state') :
    ∃ pending, state' = { state with pendingApprovals := pending } := by
  cases hnull : payload.isNullish with
  | true => simp [applyApprovalRequested, hnull] at h
  | false =>
    rw [applyApprovalRequested_eq state hnull] at h
    cases h
    exact ⟨_, rfl⟩

theorem applyApprovalResolved_cases (h : applyApprovalResolved state payload = .ok state') :
    ∃ pending, state' = { state with pendingApprovals := pending } := by
  cases hnull : payload.isNullish with
  | true => simp [applyApprovalResolved, hnull] at h
  | false =>
    rw [applyApprovalResolved_eq state hnull] at h
    cases h
    exact ⟨_, rfl⟩

end Vertx
