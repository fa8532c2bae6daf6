import Vertx.Web.View

/-!
# Session isolation

Neither the reducer nor the end-of-run check of `handleFrame` looks at the session of a chat, tool
or run event.  A frame of another session therefore leaves the page alone only when it would not
change the page for its own session either.
-/

namespace Vertx

open Runs

/-- A chat, tool or run event whose payload names another session. -/
def Foreign (sessionKey : String) (frame : EventFrame) : Prop :=
  frame.event ∈ [GatewayEventName.chat, .toolStatus, .runStatus] ∧
    ∃ key, frame.payload.stringAt "sessionKey" = some key ∧ key ≠ sessionKey

instance (sessionKey : String) (frame : EventFrame) : Decidable (Foreign sessionKey frame) :=
  decidable_of_iff (frame.event ∈ [GatewayEventName.chat, .toolStatus, .runStatus] ∧
    (frame.payload.stringAt "sessionKey").any (· ≠ sessionKey))
      (by simp [Foreign, Option.any_eq_true])

/-- The page is the same but for the number of the last frame. -/
def OnlyLastSeq (p q : Page) : Prop :=
  q.crashed = p.crashed ∧ { q.state with lastSeq := p.state.lastSeq } = p.state

/-- A frame of another session changes nothing but the number of the last frame. -/
def IgnoresForeign (p : Page) (step : PageStep) : Prop :=
  ∀ clock frame, step = .frame clock (.event frame) → Foreign p.sessionKey frame →
    OnlyLastSeq p (pageStep p step)

/-! ## When a frame changes nothing -/

/-- A chat event that shows a text. -/
def CarriesText (payload : JsValue) : Prop :=
  (payload.stringAt "state" = some "delta" ∨ payload.stringAt "state" = some "final") ∧
    (chatText payload).isSome

/-- An event on which the reducer clears the active run. -/
def Finalizes (frame : EventFrame) : Prop :=
  match frame.event with
  | .chat => ∃ word ∈ endedChatStates, frame.payload.stringAt "state" = some word
  | .runStatus => ∃ word ∈ endedWords, runStatusText frame.payload = some word
  | _ => False

/-- An event on which `handleFrame` fetches a delayed session message. -/
def FetchesDelayed (p : Page) (frame : EventFrame) : Prop :=
  isTerminalRunFrame frame = .ok true ∧ p.pendingReload ∧ p.hasClient

/-- No run is active, apart from the loading flag. -/
structure RunCleared (state : RealtimeState) : Prop where
  runId : state.chatRunId = .null
  sending : state.chatSending = false
  stream : state.chatStream = none
  startedAt : state.chatStreamStartedAt = .null
  queue : state.chatQueue = []

/-- A delayed session message is being fetched already. -/
structure FetchingDelayed (state : RealtimeState) : Prop where
  status : state.connectionStatus = .recovering
  reason : state.lastError = .str runEndedReason
  loading : state.chatLoading = true

/-- The card of a tool event is on the page as it is, for the active run and with nothing left to
cut from the stream. -/
structure CardShown (state : RealtimeState) (payload : JsValue) : Prop where
  stream : shownStream state.chatStream = none
  runId : state.chatRunId = payload.field "runId"
  card : ∃ key, (payload.field "toolCallId").toStr = .ok key ∧
    (key = "__proto__" ∨ JsValue.lookup key state.toolStreamById = payload) ∧
    syncToolMessages (cardPrototype key payload) state.toolStreamById state.toolStreamOrder =
      .ok state.chatToolMessages
  order : state.toolStreamOrder.any (JsValue.sameValueZero (payload.field "toolCallId"))

/-- A chat, tool or run event that finds the page as it would leave it. -/
def Inert (p : Page) (frame : EventFrame) : Prop :=
  if frame.event = .toolStatus then CardShown p.state frame.payload
  else
    (frame.event = .chat → ¬ CarriesText frame.payload) ∧
    (Finalizes frame → RunCleared p.state) ∧
    (FetchesDelayed p frame → FetchingDelayed p.state) ∧
    (Finalizes frame → ¬ FetchesDelayed p frame → p.state.chatLoading = false)

/-! ## One frame -/

theorem Foreign.payload {sessionKey : String} {frame : EventFrame} (h : Foreign sessionKey frame) :
    ∃ fields, frame.payload = .obj fields := by
  obtain ⟨-, key, hkey, -⟩ := h
  cases hp : frame.payload with
  | obj fields => exact ⟨fields, rfl⟩
  | _ => rw [hp] at hkey; cases hkey

theorem Foreign.event_ne {sessionKey : String} {frame : EventFrame} (h : Foreign sessionKey frame) :
    frame.event ≠ .sessionMessage := by
  intro he
  have := h.1
  rw [he] at this
  simp at this

/-- The state while a delayed session message is fetched. -/
def fetchingDelayed (state : RealtimeState) : RealtimeState :=
  { state with
    connectionStatus := .recovering, lastError := .str runEndedReason, chatLoading := true }

section

variable {clock : Clock} {p : Page} {frame : EventFrame}

/-- The page after a foreign frame that the reducer accepts. -/
theorem pageStep_foreign {state : RealtimeState} (hf : Foreign p.sessionKey frame)
    (hc : p.crashed = false)
    (hr : realtimeReducer clock p.state (.event frame) = .ok state) :
    let q := pageStep p (.frame clock (.event frame))
    q.crashed = false ∧
      (FetchesDelayed p frame → q.state = fetchingDelayed state) ∧
      (¬ FetchesDelayed p frame → q.state = state) := by
  have hd : p.dispatch clock (.event frame) = { p with state } := by
    simp only [Page.dispatch, hc, hr, Bool.false_eq_true, if_false]
  simp only [pageStep, handleFrame, hd, hf.event_ne, false_and, if_false, FetchesDelayed]
  cases ht : isTerminalRunFrame frame with
  | error e => simp [hc]
  | ok terminal =>
    cases terminal with
    | false => simp [hc]
    | true =>
      cases hp : p.pendingReload with
      | false => simp [hc]
      | true =>
        cases p.hasClient with
        | false => simp [hc, Page.requestHistory]
        | true => simp [hc, Page.requestHistory, Page.dispatch, realtimeReducer, fetchingDelayed]

/-- A frame on which the reducer throws takes the page down. -/
theorem pageStep_throws {e : JsError} (hf : Foreign p.sessionKey frame) (hc : p.crashed = false)
    (hr : realtimeReducer clock p.state (.event frame) = .error e) :
    (pageStep p (.frame clock (.event frame))).crashed = true := by
  have hd : p.dispatch clock (.event frame) = { p with crashed := true } := by
    simp only [Page.dispatch, hc, hr, Bool.false_eq_true, if_false]
  simp only [pageStep, handleFrame, hd, hf.event_ne, false_and, if_false]
  cases isTerminalRunFrame frame with
  | error e => rfl
  | ok terminal =>
    cases terminal with
    | false => rfl
    | true =>
      cases p.pendingReload <;> cases p.hasClient <;>
        simp [Page.requestHistory, Page.dispatch]

/-- A chat event that shows a text changes the stream or the messages. -/
theorem reduce_text {state : RealtimeState} (he : frame.event = .chat)
    (ht : CarriesText frame.payload) :
    ∃ next, realtimeReducer clock state (.event frame) = .ok next ∧
      (next.chatStream ≠ state.chatStream ∨ next.chatMessages ≠ state.chatMessages) := by
  obtain ⟨hstate, htext⟩ := ht
  obtain ⟨text, htext⟩ := Option.isSome_iff_exists.1 htext
  have hne : text ≠ "" := by
    have := (Option.filter_eq_some_iff.1 htext).2
    simpa using this
  simp only [realtimeReducer, applyEvent, he]
  rcases hstate with hstate | hstate
  · rw [applyChatEvent_delta hstate htext]
    refine ⟨_, rfl, .inl ?_⟩
    cases hs : state.chatStream with
    | none => simp
    | some stream => simp [hne]
  · refine ⟨finalizeChatRun
      (pushAnswer clock { state with lastSeq := frame.seq } frame.payload text), ?_, .inr ?_⟩
    · simp [applyChatEvent, not_isNullish_of_stringAt hstate, hstate, htext]
    · simp [finalizeChatRun, pushAnswer]

/-- Any other chat or run event clears the run or does nothing. -/
theorem reduce_quiet {state : RealtimeState} (hf : Foreign p.sessionKey frame)
    (he : frame.event ≠ .toolStatus) (ht : frame.event = .chat → ¬ CarriesText frame.payload) :
    (Finalizes frame → realtimeReducer clock state (.event frame) =
      .ok (finalizeChatRun { state with lastSeq := frame.seq })) ∧
    (¬ Finalizes frame → realtimeReducer clock state (.event frame) =
      .ok { state with lastSeq := frame.seq }) := by
  obtain ⟨fields, hp⟩ := hf.payload
  have hn : frame.payload.isNullish = false := by rw [hp]; rfl
  have hev := hf.1
  simp only [List.mem_cons, List.not_mem_nil, or_false] at hev
  rcases hev with hev | hev | hev
  · simp only [Finalizes, realtimeReducer, applyEvent, hev, applyChatEvent, hn,
      Bool.false_eq_true, if_false]
    have ht := ht hev
    simp only [CarriesText, not_and, Bool.not_eq_true, Option.isSome_eq_false_iff,
      Option.isNone_iff_eq_none] at ht
    by_cases hdelta : frame.payload.stringAt "state" = some "delta"
    · simp [hdelta, ht (.inl hdelta), endedChatStates]
    · by_cases hfinal : frame.payload.stringAt "state" = some "final"
      · simp [hfinal, ht (.inr hfinal), endedChatStates]
      · cases chatText frame.payload <;> simp [hdelta, hfinal, endedChatStates] <;> grind
  · exact absurd hev he
  · simp only [Finalizes, realtimeReducer, applyEvent, hev, applyRunStatus, hn,
      Bool.false_eq_true, if_false]
    cases runStatusText frame.payload with
    | none => simp
    | some word => by_cases hw : word ∈ endedWords <;> simp [hw]

theorem setCard_eq_self {key : String} {payload : JsValue} {cards : List (String × JsValue)}
    (hp : payload ≠ .undefined) :
    setCard key payload cards = cards ↔ key = "__proto__" ∨ JsValue.lookup key cards = payload := by
  unfold setCard
  split_ifs with hk
  · simp [hk]
  · simp [hk, JsValue.setField_eq_self hp]

theorem shown_none_of_segments {state : RealtimeState}
    (h : (cutStream clock state).chatStreamSegments = state.chatStreamSegments) :
    shownStream state.chatStream = none := by
  unfold cutStream at h
  cases hs : shownStream state.chatStream with
  | none => rfl
  | some text => simp [hs] at h

/-- A tool event leaves the state alone exactly when its card is shown. -/
theorem reduce_tool {state : RealtimeState} (he : frame.event = .toolStatus)
    {fields : List (String × JsValue)} (hp : frame.payload = .obj fields) :
    (∃ next, realtimeReducer clock state (.event frame) = .ok next ∧
      { next with lastSeq := state.lastSeq } = state) ↔ CardShown state frame.payload := by
  have hne : frame.payload ≠ .undefined := by rw [hp]; simp
  have hget : frame.payload.get "runId" = .ok (frame.payload.field "runId") := by rw [hp]; rfl
  simp only [realtimeReducer, applyEvent, he, applyToolStatus, hget, bind, Except.bind]
  constructor
  · rintro ⟨next, hnext, hsame⟩
    cases hkey : (frame.payload.field "toolCallId").toStr with
    | error e => simp [hkey] at hnext
    | ok key =>
      simp only [hkey] at hnext
      split at hnext
      · cases hnext
      · rename_i messages hsync
        obtain rfl := Except.ok.inj hnext
        have hstream : shownStream state.chatStream = none :=
          @shown_none_of_segments clock { state with lastSeq := frame.seq }
            (congrArg (·.chatStreamSegments) hsame)
        have hcut : cutStream clock { state with lastSeq := frame.seq } =
            { state with lastSeq := frame.seq } := cutStream_of_none hstream
        rw [hcut] at hsame hsync
        have hcards := congrArg (·.toolStreamById) hsame
        have horder := congrArg (·.toolStreamOrder) hsame
        have hmessages : messages = state.chatToolMessages := congrArg (·.chatToolMessages) hsame
        dsimp only at hcards horder hsync
        have hmem : state.toolStreamOrder.any
            (JsValue.sameValueZero (frame.payload.field "toolCallId")) := by
          by_contra hmem
          simp [hmem] at horder
        rw [hcards, if_pos hmem, hmessages] at hsync
        exact ⟨hstream, (congrArg (·.chatRunId) hsame).symm,
          ⟨key, hkey, (setCard_eq_self hne).1 hcards, hsync⟩, hmem⟩
  · intro h
    obtain ⟨key, hkey, hcard, hsync⟩ := h.card
    have hcut : cutStream clock { state with lastSeq := frame.seq } =
        { state with lastSeq := frame.seq } := cutStream_of_none h.stream
    simp only [hcut, hkey, (setCard_eq_self hne).2 hcard, h.order, if_true, hsync]
    exact ⟨_, rfl, by rw [← h.runId]⟩

theorem not_fetchesDelayed_of_tool (he : frame.event = .toolStatus) : ¬ FetchesDelayed p frame := by
  rintro ⟨ht, -⟩
  unfold isTerminalRunFrame at ht
  cases hp : frame.payload <;> simp [hp, he] at ht

theorem finalizeChatRun_of_cleared {state : RealtimeState} (h : RunCleared state) :
    finalizeChatRun state = { state with chatLoading := false } := by
  obtain ⟨hid, hsending, hstream, hstarted, hqueue⟩ := h
  simp only [finalizeChatRun, hid, hsending, hstream, hstarted, hqueue]

theorem fetchingDelayed_of_fetching {state : RealtimeState} (h : FetchingDelayed state) :
    fetchingDelayed state = state := by
  obtain ⟨hstatus, hreason, hloading⟩ := h
  simp only [fetchingDelayed, ← hstatus, ← hreason, ← hloading]

theorem same_finalized_iff (state : RealtimeState) (seq : JsValue) :
    { finalizeChatRun { state with lastSeq := seq } with lastSeq := state.lastSeq } = state ↔
      RunCleared state ∧ state.chatLoading = false := by
  constructor
  · intro h
    exact ⟨⟨congrArg (·.chatRunId) h.symm, congrArg (·.chatSending) h.symm,
      congrArg (·.chatStream) h.symm, congrArg (·.chatStreamStartedAt) h.symm,
      congrArg (·.chatQueue) h.symm⟩, congrArg (·.chatLoading) h.symm⟩
  · rintro ⟨h, hloading⟩
    change finalizeChatRun state = state
    rw [finalizeChatRun_of_cleared h, ← hloading]

theorem same_fetching_iff (state : RealtimeState) (seq : JsValue) :
    { fetchingDelayed { state with lastSeq := seq } with lastSeq := state.lastSeq } = state ↔
      FetchingDelayed state := by
  constructor
  · intro h
    exact ⟨congrArg (·.connectionStatus) h.symm, congrArg (·.lastError) h.symm,
      congrArg (·.chatLoading) h.symm⟩
  · exact fun h => fetchingDelayed_of_fetching h

theorem same_finalized_fetching_iff (state : RealtimeState) (seq : JsValue) :
    { fetchingDelayed (finalizeChatRun { state with lastSeq := seq }) with
      lastSeq := state.lastSeq } = state ↔ RunCleared state ∧ FetchingDelayed state := by
  constructor
  · intro h
    exact ⟨⟨congrArg (·.chatRunId) h.symm, congrArg (·.chatSending) h.symm,
      congrArg (·.chatStream) h.symm, congrArg (·.chatStreamStartedAt) h.symm,
      congrArg (·.chatQueue) h.symm⟩, congrArg (·.connectionStatus) h.symm,
      congrArg (·.lastError) h.symm, congrArg (·.chatLoading) h.symm⟩
  · rintro ⟨h, hfetching⟩
    change fetchingDelayed (finalizeChatRun state) = state
    rw [finalizeChatRun_of_cleared h]
    exact fetchingDelayed_of_fetching hfetching

/-- A frame of another session leaves the page alone exactly when it is inert. -/
theorem onlyLastSeq_iff_inert (hf : Foreign p.sessionKey frame) (hc : p.crashed = false) :
    OnlyLastSeq p (pageStep p (.frame clock (.event frame))) ↔ Inert p frame := by
  unfold Inert OnlyLastSeq
  by_cases he : frame.event = .toolStatus
  · obtain ⟨fields, hp⟩ := hf.payload
    rw [if_pos he, ← @reduce_tool clock frame p.state he fields hp]
    cases hr : realtimeReducer clock p.state (.event frame) with
    | error e => simp [pageStep_throws hf hc hr, hc]
    | ok next =>
      obtain ⟨hcrash, -, hstate⟩ := pageStep_foreign hf hc hr
      simp [hcrash, hc, hstate (not_fetchesDelayed_of_tool he)]
  · rw [if_neg he]
    by_cases ht : frame.event = .chat ∧ CarriesText frame.payload
    · obtain ⟨next, hr, hne⟩ := @reduce_text clock frame p.state ht.1 ht.2
      obtain ⟨-, hfetch, hstate⟩ := pageStep_foreign hf hc hr
      simp only [ht, true_implies, not_true_eq_false, false_and, iff_false]
      rintro ⟨-, hsame⟩
      have hkeeps : (pageStep p (.frame clock (.event frame))).state.chatStream = next.chatStream ∧
          (pageStep p (.frame clock (.event frame))).state.chatMessages = next.chatMessages := by
        by_cases hd : FetchesDelayed p frame
        · rw [hfetch hd]
          exact ⟨rfl, rfl⟩
        · rw [hstate hd]
          exact ⟨rfl, rfl⟩
      rcases hne with hne | hne
      · exact hne (hkeeps.1.symm.trans (congrArg (·.chatStream) hsame))
      · exact hne (hkeeps.2.symm.trans (congrArg (·.chatMessages) hsame))
    · have ht : frame.event = .chat → ¬ CarriesText frame.payload := not_and.1 ht
      obtain ⟨hfinal, hnone⟩ := @reduce_quiet clock p frame p.state hf he ht
      rw [iff_true_intro ht, true_and]
      by_cases hfz : Finalizes frame
      · obtain ⟨hcrash, hfetch, hstate⟩ := pageStep_foreign hf hc (hfinal hfz)
        by_cases hd : FetchesDelayed p frame
        · simp only [hcrash, hc, hfetch hd, same_finalized_fetching_iff, hfz, hd]
          simp
        · simp only [hcrash, hc, hstate hd, same_finalized_iff, hfz, hd]
          simp
      · obtain ⟨hcrash, hfetch, hstate⟩ := pageStep_foreign hf hc (hnone hfz)
        by_cases hd : FetchesDelayed p frame
        · simp only [hcrash, hc, hfetch hd, same_fetching_iff, hfz, hd]
          simp
        · simp [hcrash, hc, hstate hd, hfz, hd]

end

/-! ## Two runs -/

/-- A step that is no frame of another session. -/
def PageStep.own (sessionKey : String) : PageStep → Bool
  | .frame _ (.event f) => ¬ Foreign sessionKey f
  | _ => true

/-- A frame of another session finds the page as it would leave it, or finds it down. -/
def ForeignInert (p : Page) (step : PageStep) : Prop :=
  ∀ clock frame, step = .frame clock (.event frame) → Foreign p.sessionKey frame →
    p.crashed ∨ Inert p frame

/-- Nothing changes on a page that is down. -/
theorem onlyLastSeq_of_crashed {p : Page} (h : p.crashed) (clock : Clock) (frame : EventFrame) :
    OnlyLastSeq p (pageStep p (.frame clock (.event frame))) := by
  have hdown : (handleFrame clock p (.event frame)).crashed = true ∧
      (handleFrame clock p (.event frame)).state = p.state := by
    refine Page.handleFrame_induction (P := fun q => q.crashed = true ∧ q.state = p.state)
      ?_ ?_ ⟨h, rfl⟩ _
    · intro q action _ hq
      rw [Page.dispatch_of_crashed hq.1]
      exact hq
    · intro q _ _ _ hq
      exact hq
  refine ⟨hdown.1.trans h.symm, ?_⟩
  show { (handleFrame clock p (.event frame)).state with lastSeq := p.state.lastSeq } = p.state
  rw [hdown.2]

theorem ignoresForeign_iff_inert (p : Page) (step : PageStep) :
    IgnoresForeign p step ↔ ForeignInert p step := by
  unfold IgnoresForeign ForeignInert
  refine forall₄_congr fun clock frame hstep hf => ?_
  subst hstep
  by_cases hc : p.crashed
  · simp [hc, onlyLastSeq_of_crashed hc]
  · rw [onlyLastSeq_iff_inert hf (by simpa using hc)]
    simp [hc]

@[simp] theorem pageStep_sessionKey (p : Page) (step : PageStep) :
    (pageStep p step).sessionKey = p.sessionKey := by
  have hdispatch (q : Page) (clock : Clock) (action : RealtimeAction) :
      (q.dispatch clock action).sessionKey = q.sessionKey := by
    obtain ⟨state, crashed, h⟩ := q.dispatch_eq clock action
    rw [h]
  cases step with
  | frame clock frame =>
    refine Page.handleFrame_induction (P := fun q => q.sessionKey = p.sessionKey) ?_ ?_ rfl frame
    · intro q action _ hq
      exact (hdispatch q clock action).trans hq
    · intro q _ _ _ hq
      exact hq
  | commit => rfl
  | act clock action => exact hdispatch p clock action

theorem OnlyLastSeq.view {p q : Page} (h : OnlyLastSeq p q) : q.view = p.view := by
  obtain ⟨hcrashed, hstate⟩ := h
  have hview := congrArg RealtimeState.view hstate
  exact Prod.ext hview hcrashed

/-- Leaving out the frames of other sessions, when they are inert, leaves the view as it is. -/
theorem view_run_own {p q : Page} (h : p.view = q.view) (steps : List PageStep)
    (hok : Each pageStep ForeignInert p steps) :
    (run pageStep p steps).view =
      (run pageStep q (steps.filter (·.own p.sessionKey))).view := by
  induction steps generalizing p q with
  | nil => exact h
  | cons step steps ih =>
    obtain ⟨hstep, hsteps⟩ := hok
    rw [run_cons]
    by_cases hown : step.own p.sessionKey
    · rw [List.filter_cons_of_pos hown, run_cons, ← pageStep_sessionKey p step]
      exact ih (view_pageStep h (sameStep_refl step)) hsteps
    · rw [List.filter_cons_of_neg hown, ← pageStep_sessionKey p step]
      refine ih (Eq.trans ?_ h) hsteps
      cases step with
      | frame clock frame =>
        cases frame with
        | event frame =>
          have hf : Foreign p.sessionKey frame := by simpa [PageStep.own] using hown
          exact ((ignoresForeign_iff_inert p _).2 hstep clock frame rfl hf).view
        | _ => exact absurd rfl hown
      | _ => exact absurd rfl hown

/-- Runs whose steps differ in their clocks only show the same. -/
theorem view_run_same {p q : Page} (h : p.view = q.view) {steps steps' : List PageStep}
    (hs : List.Forall₂ SameStep steps steps') :
    (run pageStep p steps).view = (run pageStep q steps').view := by
  induction hs generalizing p q with
  | nil => exact h
  | cons hstep _ ih => exact ih (view_pageStep h hstep)

/-- Frames of other sessions change nothing but the frame number in exactly the runs in which each
of them is inert; two such runs with the same steps otherwise show the same. -/
theorem session_isolation (p : Page) (steps : List PageStep) :
    (Each pageStep IgnoresForeign p steps ↔ Each pageStep ForeignInert p steps) ∧
    (Each pageStep ForeignInert p steps → ∀ steps', Each pageStep ForeignInert p steps' →
      List.Forall₂ SameStep (steps.filter (·.own p.sessionKey))
        (steps'.filter (·.own p.sessionKey)) →
      (run pageStep p steps).view = (run pageStep p steps').view) := by
  refine ⟨each_congr ignoresForeign_iff_inert p steps, fun hsteps steps' hsteps' hsame => ?_⟩
  rw [view_run_own rfl steps hsteps, view_run_own rfl steps' hsteps']
  exact view_run_same rfl hsame

/-- A chat frame with the given session, state and text. -/
def chatFrame (sessionKey state text : String) : EventFrame where
  event := .chat
  seq := .num (.ofNat 1)
  payload := .obj [("sessionKey", .str sessionKey), ("runId", .str "run"), ("state", .str state),
    ("message", .obj [("text", .str text)])]
  stateVersion := .undefined

/-- A delta without text is inert, so a run with one more shows the same. -/
theorem session_isolation_empty_delta :
    (run pageStep (openedPage "main")
      [.frame (fun _ => 0) (.event (chatFrame "other" "delta" ""))]).view =
      (run pageStep (openedPage "main") []).view := by
  refine (session_isolation (openedPage "main")
    [.frame (fun _ => 0) (.event (chatFrame "other" "delta" ""))]).2
    ⟨fun clock frame hstep hf => .inr ?_, trivial⟩ [] trivial ?_
  · obtain rfl : chatFrame "other" "delta" "" = frame := by
      injection hstep with _ hframe
      injection hframe
    have hfinal : ¬ Finalizes (chatFrame "other" "delta" "") := by
      rintro ⟨word, hw, hword⟩
      have hstate : (chatFrame "other" "delta" "").payload.stringAt "state" = some "delta" := by
        decide
      obtain rfl : "delta" = word := Option.some.inj (hstate.symm.trans hword)
      exact absurd hw (by decide)
    exact ⟨fun _ h => absurd h.2 (by decide), fun h => absurd h hfinal,
      fun h => absurd h.2.1 (by decide), fun h => absurd h hfinal⟩
  · have hown : (PageStep.frame (fun _ => 0) (.event (chatFrame "other" "delta" ""))).own "main" =
        false := by decide
    simp only [openedPage, List.filter_cons, hown, List.filter_nil]
    exact .nil

/-- A delta of another session is shown on the page. -/
theorem foreign_delta_shown :
    ¬ Each pageStep IgnoresForeign (openedPage "main")
      [.frame (fun _ => 0) (.event (chatFrame "other" "delta" "Hi"))] := by
  intro h
  have hsame := (h.1 _ _ rfl (by decide)).2
  revert hsame
  decide

end Vertx
