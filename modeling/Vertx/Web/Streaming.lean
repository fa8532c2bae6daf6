import Vertx.Web.State

/-!
# Streaming an answer

Upstream sends the whole text so far with every chat delta; the reducer appends the text of every
delta to the stream.  Through the normaliser, the adapter and the reducer a run of deltas therefore
shows the concatenation of its snapshots, which is the answer only when there is one.
-/

namespace Vertx

/-- A chat delta as upstream sends it: the text so far, with the numbers of its payload and of its
frame.  A targeted frame has no number. -/
structure ChatDelta where
  text : String
  timestamp : ℤ
  payloadSeq : ℕ
  frameSeq : Option JsNumber
  stateVersion : JsValue

/-- The frame of a delta of run `runId`. -/
def ChatDelta.frame (d : ChatDelta) (runId sessionKey : String) : OpenClawEventFrame where
  event := .str "chat"
  seq := (d.frameSeq.map .num).getD .undefined
  stateVersion := d.stateVersion
  payload := .obj [
    ("runId", .str runId),
    ("sessionKey", .str sessionKey),
    ("seq", .num (.ofNat d.payloadSeq)),
    ("state", .str "delta"),
    ("message", .obj [
      ("role", .str "assistant"),
      ("content", .arr [.obj [("type", .str "text"), ("text", .str d.text)]]),
      ("timestamp", .num (.finite d.timestamp))])]

/-- Publishes events in order, the reducer consuming each frame. -/
def consumeEvents (clock : Clock) (context : RealtimeBridgeContext) :
    List RealtimeSourceEvent → RealtimeBridgeAdapter × RealtimeState →
      Except JsError (RealtimeBridgeAdapter × RealtimeState)
  | [], p => .ok p
  | event :: events, (adapter, state) => do
    let (frame, adapter) ← adapter.createEventFrame event context
    let state ← realtimeReducer clock state (.event frame)
    consumeEvents clock context events (adapter, state)

/-- An upstream frame on its way through the normaliser, the adapter and the reducer. -/
def consumeFrame (context : RealtimeBridgeContext) (p : RealtimeBridgeAdapter × RealtimeState)
    (input : Clock × OpenClawEventFrame) :
    Except JsError (RealtimeBridgeAdapter × RealtimeState) := do
  let events ← normalizeOpenClawEvent input.1 input.2
  consumeEvents input.1 context events p

/-- A run of deltas on its way to the page. -/
def consumeDeltas (context : RealtimeBridgeContext) (runId sessionKey : String)
    (p : RealtimeBridgeAdapter × RealtimeState) (deltas : List (Clock × ChatDelta)) :
    Except JsError (RealtimeBridgeAdapter × RealtimeState) :=
  deltas.foldlM (fun p d => consumeFrame context p (d.1, d.2.frame runId sessionKey)) p

/-- The payload of a delta after normalisation. -/
def ChatDelta.normalizedPayload (d : ChatDelta) (runId sessionKey : String) : JsValue :=
  .obj [
    ("runId", .str runId),
    ("sessionKey", .str sessionKey),
    ("seq", .num (.ofNat d.payloadSeq)),
    ("state", .str "delta"),
    ("message", .obj [("text", .str d.text)])]

theorem normalize_delta (clock : Clock) {d : ChatDelta} (runId sessionKey : String)
    (ht : nonBlank d.text) :
    normalizeOpenClawEvent clock (d.frame runId sessionKey) =
      .ok [(d.frame runId sessionKey).normalized .chat (d.normalizedPayload runId sessionKey)] := by
  have htext : extractOpenClawChatPayloadText (d.frame runId sessionKey).payload = .str d.text := by
    simp [extractOpenClawChatPayloadText, ChatDelta.frame, extractTextParts, blockText,
      JsValue.stringAt, JsValue.lookup_cons, JsValue.asString?, Option.filter, ht]
  unfold normalizeOpenClawEvent
  rw [htext]
  simp [ChatDelta.frame, JsValue.asString?, JsValue.truthy, JsValue.spread, JsValue.setField,
    ChatDelta.normalizedPayload]

/-- The frame of a delta has a number that the adapter can count. -/
theorem createEventFrame_delta (adapter : RealtimeBridgeAdapter) (d : ChatDelta)
    (runId sessionKey : String) (context : RealtimeBridgeContext) (payload : JsValue) :
    ∃ frame adapter', adapter.createEventFrame
        ((d.frame runId sessionKey).normalized .chat payload) context = .ok (frame, adapter') ∧
      frame.event = .chat ∧ frame.payload = injectContext payload context := by
  unfold RealtimeBridgeAdapter.createEventFrame
  cases hs : d.frameSeq <;>
    exact ⟨_, _, by simp only [OpenClawEventFrame.normalized, ChatDelta.frame, hs]; rfl, rfl, rfl⟩

/-- A delta appends its text to the stream. -/
theorem consumeFrame_delta (context : RealtimeBridgeContext) (adapter : RealtimeBridgeAdapter)
    (state : RealtimeState) (clock : Clock) {d : ChatDelta} (runId sessionKey : String)
    (ht : nonBlank d.text) :
    ∃ adapter' state', consumeFrame context (adapter, state) (clock, d.frame runId sessionKey) =
        .ok (adapter', state') ∧
      state'.chatStream = some (state.chatStream.getD "" ++ d.text) := by
  obtain ⟨frame, adapter', hframe, hevent, hpayload⟩ := createEventFrame_delta adapter d runId
    sessionKey context (d.normalizedPayload runId sessionKey)
  have hstate : (injectContext (d.normalizedPayload runId sessionKey) context).stringAt "state" =
      some "delta" := by
    rw [JsValue.stringAt, ChatDelta.normalizedPayload, field_injectContext (by decide)]
    rfl
  have htext : chatText (injectContext (d.normalizedPayload runId sessionKey) context) =
      some d.text := by
    rw [chatText, ChatDelta.normalizedPayload, field_injectContext (by decide)]
    simp [JsValue.lookup_cons, JsValue.stringAt, JsValue.asString?, nonBlank_ne_empty ht]
  have hreduce : realtimeReducer clock state (.event frame) =
      applyChatEvent clock { state with lastSeq := frame.seq } frame.payload := by
    simp only [realtimeReducer, applyEvent, hevent]
  rw [hpayload, applyChatEvent_delta hstate htext] at hreduce
  refine ⟨adapter', { state with
    lastSeq := frame.seq
    chatRunId := chatPayloadRunId (injectContext (d.normalizedPayload runId sessionKey) context)
    chatStream := some (state.chatStream.getD "" ++ d.text)
    chatStreamStartedAt := state.chatStreamStartedAt.orElse (.num (.finite (clock 0))) }, ?_, rfl⟩
  simp only [consumeFrame, normalize_delta clock runId sessionKey ht, consumeEvents, bind,
    Except.bind, hframe, hreduce]

/-- A run of deltas appends all its texts to a stream that has begun. -/
theorem consumeDeltas_begun (context : RealtimeBridgeContext) (runId sessionKey : String)
    (deltas : List (Clock × ChatDelta)) (ht : ∀ d ∈ deltas, nonBlank d.2.text)
    (adapter : RealtimeBridgeAdapter) {state : RealtimeState} {s : String}
    (hs : state.chatStream = some s) :
    ∃ adapter' state', consumeDeltas context runId sessionKey (adapter, state) deltas =
        .ok (adapter', state') ∧
      state'.chatStream = some ((deltas.map (·.2.text)).foldl (· ++ ·) s) := by
  induction deltas generalizing adapter state s with
  | nil => exact ⟨adapter, state, rfl, hs⟩
  | cons d deltas ih =>
    obtain ⟨clock, d⟩ := d
    obtain ⟨hd, hdeltas⟩ := List.forall_mem_cons.1 ht
    obtain ⟨adapter₁, state₁, h₁, hs₁⟩ :=
      consumeFrame_delta context adapter state clock runId sessionKey hd
    rw [hs, Option.getD_some] at hs₁
    obtain ⟨adapter₂, state₂, h₂, hs₂⟩ := ih hdeltas adapter₁ hs₁
    refine ⟨adapter₂, state₂, ?_, hs₂⟩
    simp only [consumeDeltas, List.foldlM_cons, bind, Except.bind, h₁]
    exact h₂

theorem foldl_append_ne_empty {s : String} (hs : s ≠ "") (texts : List String) :
    texts.foldl (· ++ ·) s ≠ "" := by
  induction texts generalizing s with
  | nil => exact hs
  | cons t texts ih => exact ih (by simp [hs])

/-- A text appended to something is not the whole. -/
theorem foldl_append_ne_last {s : String} (hs : s ≠ "") (texts : List String) (t : String) :
    (texts ++ [t]).foldl (· ++ ·) s ≠ t := by
  rw [List.foldl_append]
  intro heq
  have hlen := congrArg String.length heq
  simp only [List.foldl_cons, List.foldl_nil, String.length_append, Nat.add_eq_right,
    String.length_eq_zero_iff] at hlen
  exact foldl_append_ne_empty hs texts hlen

/-- The answer is displayed once exactly when it arrives in a single delta. -/
theorem chatStream_eq_answer_iff (context : RealtimeBridgeContext) (runId sessionKey : String)
    (deltas : List (Clock × ChatDelta)) (hne : deltas ≠ []) (ht : ∀ d ∈ deltas, nonBlank d.2.text)
    (adapter : RealtimeBridgeAdapter) (state : RealtimeState) (hs : state.chatStream = none) :
    ∃ adapter' state', consumeDeltas context runId sessionKey (adapter, state) deltas =
        .ok (adapter', state') ∧
      (state'.chatStream = some (deltas.getLast hne).2.text ↔ deltas.length = 1) := by
  obtain ⟨⟨clock, d⟩, rest, rfl⟩ := List.exists_cons_of_ne_nil hne
  obtain ⟨hd, hrest⟩ := List.forall_mem_cons.1 ht
  obtain ⟨adapter₁, state₁, h₁, hs₁⟩ :=
    consumeFrame_delta context adapter state clock runId sessionKey hd
  rw [hs, Option.getD_none, String.empty_append] at hs₁
  obtain ⟨adapter₂, state₂, h₂, hs₂⟩ :=
    consumeDeltas_begun context runId sessionKey rest hrest adapter₁ hs₁
  refine ⟨adapter₂, state₂, ?_, ?_⟩
  · simp only [consumeDeltas, List.foldlM_cons, bind, Except.bind, h₁]
    exact h₂
  · rw [hs₂, Option.some.injEq]
    rcases List.eq_nil_or_concat rest with rfl | ⟨init, last, rfl⟩
    · simp
    · have hne := foldl_append_ne_last (nonBlank_ne_empty hd) (init.map (·.2.text)) last.2.text
      simp only [List.concat_eq_append, List.map_append, List.map_cons, List.map_nil]
      simp only [List.getLast_cons (List.concat_ne_nil _ _), List.getLast_append_singleton,
        List.length_cons, List.length_append, List.length_nil, hne, false_iff]
      omega

/-- A delta with the given text, sent as frame `n`. -/
def sampleDelta (n : ℕ) (text : String) : Clock × ChatDelta :=
  (fun _ => 0, ⟨text, 0, n, some (.ofNat n), .undefined⟩)

/-- The context of a gateway for one workspace. -/
def sampleContext : RealtimeBridgeContext := ⟨"default", none, none⟩

/-- An answer of one delta is displayed. -/
theorem chatStream_eq_answer_single :
    ∃ adapter' state', consumeDeltas sampleContext "run" "main" (.initial, initialRealtimeState)
        [sampleDelta 1 "Hello"] = .ok (adapter', state') ∧
      (state'.chatStream = some "Hello" ↔ [sampleDelta 1 "Hello"].length = 1) :=
  chatStream_eq_answer_iff sampleContext "run" "main" [sampleDelta 1 "Hello"]
    (List.cons_ne_nil _ _) (by decide) .initial initialRealtimeState rfl

/-- The answer `Hello` sent in two snapshots is displayed as `HelHello`. -/
theorem chatStream_repeats_prefix :
    ¬ ∃ adapter' state', consumeDeltas sampleContext "run" "main" (.initial, initialRealtimeState)
        [sampleDelta 1 "Hel", sampleDelta 2 "Hello"] = .ok (adapter', state') ∧
      state'.chatStream = some "Hello" := by
  rintro ⟨adapter', state', h, hs⟩
  have hshown := congrArg (fun r => r.toOption.bind (·.2.chatStream)) h
  dsimp only [Except.toOption, Option.bind_some] at hshown
  rw [hs] at hshown
  revert hshown
  decide

end Vertx
