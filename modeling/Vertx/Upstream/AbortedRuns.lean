import Vertx.Upstream.AbortRights

/-!
# Runs that are aborted

An abort marks the run.  While the mark is there, no event and no timer brings about a `chat` event
of the run: its text is not streamed any more (`aborted_silent`), and its end, which takes the mark,
sends no `final` and no `error` (`aborted_end_silent`).  The mark goes with the end of the run, or
when it is an hour old (`aborted_run`).
-/

namespace Vertx

namespace GatewayChat

/-! ## The marks -/

/-- The run is marked as aborted. -/
def Marked (c : String) (g : GatewayChat) : Prop := g.chatRunState.abortedRuns.has c = true

/-- The end of a run takes the marks of the agent run and of the run that clients know it by, when
clients may see the run and it has a session. -/
def EndTakes (view : ChatView) (evt : AgentEventPayload) (c : String) (g : GatewayChat) : Prop :=
  (g.linkRun view evt).1.shownKey.isSome = true ∧ (g.linkRun view evt).1.isControlUiVisible = true ∧
    (c = g.clientRunIdOf evt.runId ∨ c = evt.runId)

theorem isAbortedRun_of_marked {c runId : String} {g : GatewayChat} (h : g.Marked c)
    (hc : c = g.clientRunIdOf runId ∨ c = runId) : g.isAbortedRun runId = true := by
  unfold isAbortedRun
  rcases hc with rfl | rfl
  · rw [show g.chatRunState.abortedRuns.has _ = true from h, Bool.true_or]
  · rw [show g.chatRunState.abortedRuns.has _ = true from h, Bool.or_true]

theorem Marked.congr {c : String} {g g' : GatewayChat}
    (h : g'.chatRunState.abortedRuns = g.chatRunState.abortedRuns) : g'.Marked c ↔ g.Marked c := by
  unfold Marked
  rw [h]

theorem has_endedRuns (link : RunLink) (runId c : String) (runs : ChatRunState) :
    (endedRuns link runId runs).abortedRuns.has c = true ↔
      runs.abortedRuns.has c = true ∧
        ¬ (link.isAborted = true ∧ (c = link.clientRunId ∨ c = runId)) := by
  rw [abortedRuns_endedRuns]
  split_ifs with haborted
  · simp only [OrderedMap.has_delete]
    tauto
  · tauto

theorem marked_ended (view : ChatView) (evt : AgentEventPayload) (c : String) (g : GatewayChat) :
    (g.ended view evt).Marked c ↔ g.Marked c ∧ ¬ g.EndTakes view evt c := by
  have haborted := @isAbortedRun_of_marked c evt.runId g
  unfold Marked EndTakes at *
  rw [chatRunState_ended, ← linkRun_clientRunId view g evt]
  rw [← linkRun_clientRunId view g evt, ← linkRun_isAborted view g evt] at haborted
  generalize (g.linkRun view evt).1 = link at *
  split_ifs with hshown
  · rw [Bool.and_eq_true] at hshown
    rw [has_endedRuns]
    simp only [hshown, true_and]
    exact and_congr_right fun h => not_congr ⟨fun h' => h'.2, fun h' => ⟨haborted h h', h'⟩⟩
  · rw [Bool.and_eq_true] at hshown
    exact ⟨fun h => ⟨h, fun h' => hshown ⟨h'.1, h'.2.1⟩⟩, fun h => h.1⟩

theorem marked_received (view : ChatView) (evt : AgentEventPayload) (c : String) (g : GatewayChat) :
    (g.received view evt).Marked c ↔ g.Marked c := by
  obtain ⟨agentEvents, sessionKeyCache, -, hstate⟩ := linked_state view g evt
  apply Marked.congr
  unfold received
  rw [hstate]

theorem linkRun_received (view : ChatView) (evt : AgentEventPayload) (g : GatewayChat) :
    ((g.received view evt).linkRun view evt).1 = (g.linkRun view evt).1 := by
  rw [← linked_fst view evt g]
  have hstate : ((g.received view evt).linkRun view evt).1 =
      ((g.linked view evt).2.linkRun view evt).1 := linkRun_fst_congr view evt rfl rfl rfl
  rw [hstate]
  unfold linked
  exact linkRun_again view evt _

theorem endTakes_received (view : ChatView) (evt : AgentEventPayload) (c : String)
    (g : GatewayChat) : (g.received view evt).EndTakes view evt c ↔ g.EndTakes view evt c := by
  unfold EndTakes
  rw [← linkRun_clientRunId view, ← linkRun_clientRunId view, linkRun_received]

/-- What an agent event does to a mark. -/
theorem marked_handle (rules : ReplyTextRules) (view : ChatView) (evt : AgentEventPayload)
    (c : String) (g : GatewayChat) :
    (g.handleAgentEvent rules view evt).Marked c ↔
      g.Marked c ∧ ¬ (Ends evt ∧ g.EndTakes view evt c) := by
  rcases handle_cases rules view g evt with ⟨hnot, h⟩ | ⟨hends, h⟩ | ⟨herror, hlive, h⟩
  · rw [Marked.congr h.abortedRuns, marked_received]
    exact ⟨fun hc => ⟨hc, fun h' => hnot h'.1⟩, fun hc => hc.1⟩
  · have hends' : Ends evt := hends.imp_right fun h => h.1
    rw [Marked.congr h.abortedRuns, marked_ended, marked_received, endTakes_received]
    exact and_congr_right fun _ => not_congr ⟨fun h' => ⟨hends', h'⟩, fun h' => h'.2⟩
  · rw [Marked.congr h.abortedRuns]
    show (g.received view evt).Marked c ↔ _
    rw [marked_received]
    refine ⟨fun hc => ⟨hc, fun h' => ?_⟩, fun hc => hc.1⟩
    have haborted := isAbortedRun_of_marked hc h'.2.2.2
    rw [hlive] at haborted
    cases haborted

theorem get?_abortedRuns_abort {now : ℤ} {stopReason : Option String} {c : String}
    (g : GatewayChat) (runId sessionKey : String) :
    (g.abortChatRunById now runId sessionKey stopReason).2.chatRunState.abortedRuns.get? c =
      if runId = c ∧ g.HasRun c sessionKey then some now
      else g.chatRunState.abortedRuns.get? c := by
  by_cases h : g.HasRun runId sessionKey
  · obtain ⟨agentRunSeq, -, habort⟩ := abort_of_hasRun h now stopReason
    rw [habort]
    show (g.chatRunState.abortedRuns.set runId now).get? c = _
    rw [OrderedMap.get?_set]
    by_cases hc : c = runId
    · subst hc
      simp [h]
    · rw [if_neg hc, if_neg fun h' => hc h'.1.symm]
  · rw [abort_of_not h, if_neg]
    rintro ⟨rfl, h'⟩
    exact h h'

theorem get?_abortedRuns_abortAll (now : ℤ) (stopReason : Option String) (c : String)
    (runs : List (String × String)) (g : GatewayChat) :
    (g.abortAll now stopReason runs).chatRunState.abortedRuns.get? c =
      if g.Among c runs then some now else g.chatRunState.abortedRuns.get? c :=
  abortAll_ite (f := fun g : GatewayChat => g.chatRunState.abortedRuns.get? c)
    get?_abortedRuns_abort runs g

theorem marked_abortAll (now : ℤ) (stopReason : Option String) (c : String)
    (runs : List (String × String)) (g : GatewayChat) :
    (g.abortAll now stopReason runs).Marked c ↔ g.Among c runs ∨ g.Marked c := by
  unfold Marked OrderedMap.has
  rw [get?_abortedRuns_abortAll]
  split_ifs with h <;> simp [h]

/-- The mark is older than an hour. -/
def MarkIsOld (now : ℤ) (c : String) (g : GatewayChat) : Prop :=
  ∃ abortedAt, g.chatRunState.abortedRuns.get? c = some abortedAt ∧
    abortedRunTtlMs < now - abortedAt

theorem get?_abortedRuns_maintain (now : ℤ) (c : String) (g : GatewayChat) :
    (g.maintain now).chatRunState.abortedRuns.get? c =
      (if g.Among c (g.expiredRuns now) then some now
        else g.chatRunState.abortedRuns.get? c).filter
          fun abortedAt => decide (now - abortedAt ≤ abortedRunTtlMs) := by
  have hexpired : ∀ g₀ : GatewayChat, g₀.chatAbortControllers = g.chatAbortControllers →
      g₀.chatRunState = g.chatRunState → (g₀.abortExpired now).chatRunState.abortedRuns.get? c =
        if g.Among c (g.expiredRuns now) then some now
        else g.chatRunState.abortedRuns.get? c := by
    intro g₀ hcontrollers hchat
    have hamong : g₀.Among c (g₀.expiredRuns now) ↔ g.Among c (g.expiredRuns now) := by
      rw [among_expiredRuns, among_expiredRuns, hcontrollers]
    rw [abortExpired_eq, get?_abortedRuns_abortAll, hchat]
    exact if_congr hamong rfl rfl
  unfold maintain
  dsimp only
  rw [← hexpired { g with
    dedupe := cleanDedupe now g.dedupe
    agentRunSeq := pruneAgentRunSeq g.agentRunSeq } rfl rfl]
  generalize abortExpired now _ = g'
  show ((g'.chatRunState.abortedRuns.deleteAll _).get? c) = _
  rw [OrderedMap.get?_deleteAll_filter]
  congr 1
  funext abortedAt
  rw [← decide_not]
  exact decide_eq_decide.2 not_lt

/-- What takes the mark of a run. -/
def Unmarks (c : String) (g : GatewayChat) (i : ChatInput) : Prop :=
  match i.act with
  | .emit runId stream data sessionKey =>
    let evt := g.agentEvents.enriched i.view.now runId stream data sessionKey
    Ends evt ∧ (g.counted i.view.now runId).EndTakes i.view evt c
  | .timer runId => ∃ pending, g.pendingTerminalLifecycleErrors.get? runId = some pending ∧
    pending.dueAt ≤ i.view.now ∧ Ends pending.event ∧ g.EndTakes i.view pending.event c
  | .maintain => g.MarkIsOld i.view.now c
  | _ => False

theorem marked_maintain (now : ℤ) (c : String) (g : GatewayChat) :
    (g.maintain now).Marked c ↔
      g.Among c (g.expiredRuns now) ∨ (g.Marked c ∧ ¬ g.MarkIsOld now c) := by
  unfold Marked MarkIsOld OrderedMap.has
  rw [get?_abortedRuns_maintain]
  split_ifs with hexpired
  · simp [hexpired, Option.filter, abortedRunTtlMs, minuteMs]
  · cases g.chatRunState.abortedRuns.get? c with
    | none => simp [hexpired]
    | some abortedAt => simp [hexpired, Option.filter, not_lt]

theorem marked_timer (rules : ReplyTextRules) (view : ChatView) (runId c : String)
    (g : GatewayChat) :
    (g.firePendingLifecycleError rules view runId).Marked c ↔
      g.Marked c ∧ ¬ ∃ pending, g.pendingTerminalLifecycleErrors.get? runId = some pending ∧
        pending.dueAt ≤ view.now ∧ Ends pending.event ∧ g.EndTakes view pending.event c := by
  unfold firePendingLifecycleError
  cases hpending : g.pendingTerminalLifecycleErrors.get? runId with
  | none => simp
  | some pending =>
    dsimp only
    split_ifs with hdue
    · by_cases hends : Ends pending.event
      · have h := onlyTexts_finalize rules view (g.clearPendingTerminalLifecycleError runId) hends
          pending.skipChatErrorFinal
        have htakes : EndTakes view pending.event c (g.clearPendingTerminalLifecycleError runId) ↔
            g.EndTakes view pending.event c := by
          have hlink : ((g.clearPendingTerminalLifecycleError runId).linkRun view pending.event).1 =
              (g.linkRun view pending.event).1 := linkRun_fst_congr view pending.event rfl rfl rfl
          unfold EndTakes
          rw [hlink]
          rfl
        rw [Marked.congr h.abortedRuns, marked_ended, htakes]
        simp only [Option.some.injEq, exists_eq_left', hdue, hends, true_and]
        rfl
      · rw [finalize_of_not rules view _ hends]
        simp only [Option.some.injEq, exists_eq_left', hends, false_and, and_false,
          not_false_eq_true, and_true]
        rfl
    · simp [hdue]

theorem marked_step (rules : ReplyTextRules) (c : String) (g : GatewayChat) (i : ChatInput) :
    (step rules g i).Marked c ↔ g.Among c (g.abortedBy i) ∨ (g.Marked c ∧ ¬ Unmarks c g i) := by
  obtain ⟨view, act⟩ := i
  have hnone : ∀ g' : GatewayChat, g'.chatRunState.abortedRuns = g.chatRunState.abortedRuns →
      (g'.Marked c ↔ g.Among c [] ∨ (g.Marked c ∧ ¬ False)) := by
    intro g' h
    rw [Marked.congr h]
    simp [Among]
  cases act with
  | emit runId stream data sessionKey =>
    show (handleAgentEvent rules view _ _).Marked c ↔ _
    rw [marked_handle]
    simp only [abortedBy, Among, List.not_mem_nil, false_and, exists_false, false_or]
    rfl
  | timer runId =>
    show (g.firePendingLifecycleError rules view runId).Marked c ↔ _
    rw [marked_timer]
    simp only [abortedBy, Among, List.not_mem_nil, false_and, exists_false, false_or]
    rfl
  | registerContext runId context => exact hnone _ rfl
  | clearContext runId => exact hnone _ rfl
  | addChatRun sessionId entry => exact hnone _ rfl
  | sendStarts runId entry => exact hnone _ rfl
  | sendEnds runId => exact hnone _ rfl
  | sendFinal runId sessionKey message => exact hnone _ rfl
  | sendError runId sessionKey errorMessage => exact hnone _ rfl
  | abort sessionKey runId requester =>
    obtain ⟨snapshots, h⟩ := chatAbort_eq view.now sessionKey runId requester g
    show (g.chatAbort view.now sessionKey runId requester).2.Marked c ↔ _
    rw [h]
    show (g.abortAll view.now (some "rpc") (g.abortTargets sessionKey runId requester)).Marked c ↔ _
    rw [marked_abortAll]
    simp [abortedBy, Unmarks]
  | stop sessionKey requester =>
    obtain ⟨snapshots, h⟩ :=
      abortSession_eq view.now sessionKey .stopCommand (some "stop") requester g
    show (g.abortChatRunsForSessionKeyWithPartials view.now sessionKey .stopCommand (some "stop")
      requester).2.Marked c ↔ _
    rw [h]
    show (g.abortAll view.now (some "stop") (g.authorizedRuns sessionKey requester)).Marked c ↔ _
    rw [marked_abortAll]
    simp [abortedBy, Unmarks]
  | registerToolEventRecipient runId connId => exact hnone _ rfl
  | subscription op => exact hnone _ rfl
  | answered key entry => exact hnone _ rfl
  | maintain => exact marked_maintain view.now c g

/-! ## Silence -/

/-- A `chat.send` itself ends its run for the clients. -/
def SpeaksFor (c : String) (i : ChatInput) : Prop :=
  match i.act with
  | .sendFinal runId _ _ => runId = c
  | .sendError runId _ _ => runId = c
  | _ => False

/-- A `chat.send` registers the run. -/
def Registers (c : String) (i : ChatInput) : Prop :=
  match i.act with
  | .sendStarts runId _ => runId = c
  | _ => False

/-- The output carries no `chat` event of the run. -/
def Silent (c : String) (output : ChatOutput) : Prop :=
  ∀ payload, output.frame? = some payload → payload.runId ≠ c

theorem silent_of_none {c : String} {output : ChatOutput} (h : output.frame? = none) :
    Silent c output := by
  intro payload hp
  rw [h] at hp
  cases hp

theorem endOutput_silent {c : String} {g : GatewayChat} {evt : AgentEventPayload}
    {output : ChatOutput} (hmark : g.Marked c) (h : EndOutput g evt output) : Silent c output := by
  have hlive : ∀ payload, FrameOf (g.clientRunIdOf evt.runId) evt payload →
      g.isAbortedRun evt.runId = false → payload.runId ≠ c := by
    rintro payload hframe hlive rfl
    rw [isAbortedRun_of_marked hmark (.inl hframe.runId)] at hlive
    cases hlive
  cases h with
  | chat payload dropIfSlow hframe hl =>
    rintro _ ⟨⟩
    exact hlive _ hframe hl
  | nodeChat payload hframe hl =>
    rintro _ ⟨⟩
    exact hlive _ hframe hl
  | changed sessionKey phase snapshot => exact silent_of_none rfl
  | persist sessionKey => exact silent_of_none rfl

theorem eventOutput_silent {c : String} {view : ChatView} {g : GatewayChat}
    {evt : AgentEventPayload} {output : ChatOutput} (hmark : g.Marked c)
    (h : EventOutput view g evt output) : Silent c output := by
  cases h with
  | ofEnd _ h => exact endOutput_silent hmark h
  | _ => exact silent_of_none rfl

/-- A run that is marked and that cannot be aborted again. -/
structure Silenced (c : String) (g : GatewayChat) : Prop where
  marked : g.Marked c
  gone : g.chatAbortControllers.get? c = none

/-- The acts that may break the silence about a run. -/
def Breaks (c : String) (g : GatewayChat) (i : ChatInput) : Prop :=
  Unmarks c g i ∨ SpeaksFor c i ∨ Registers c i

/-- Aborts are silent about a run that cannot be aborted. -/
theorem sent_abortAll_silent {now : ℤ} {c : String} (stopReason : Option String)
    (runs : List (String × String)) (g : GatewayChat)
    (hc : g.chatAbortControllers.get? c = none) :
    Appends (Silent c) g.sent (g.abortAll now stopReason runs).sent := by
  have habort : ∀ (g' : GatewayChat) (runId sessionKey : String) (stopReason : Option String),
      Appends (Silent c) g.sent g'.sent ∧ g'.chatAbortControllers.get? c = none →
      Appends (Silent c) g.sent (g'.abortChatRunById now runId sessionKey stopReason).2.sent ∧
        (g'.abortChatRunById now runId sessionKey stopReason).2.chatAbortControllers.get? c =
          none := by
    rintro g' runId sessionKey stopReason ⟨hsent, hnone⟩
    constructor
    · refine hsent.trans (sent_abort g' runId sessionKey fun hrun => ?_)
      have hne : runId ≠ c := by
        rintro rfl
        rw [HasRun, hnone] at hrun
        cases hrun
      constructor
      · rintro payload dropIfSlow ⟨hp, -⟩ _ ⟨⟩
        rwa [hp]
      · rintro payload ⟨hp, -⟩ _ ⟨⟩
        rwa [hp]
    · rw [get?_chatAbortControllers_abort, hnone, ite_self]
  exact (abortAll_rule habort stopReason runs g ⟨Appends.refl _, hc⟩).1

theorem sent_terminal_silent {c runId : String} (hne : runId ≠ c) (sessionKey : String)
    (state : ChatEventState) (message : Option ChatEventMessage) (errorMessage : Option String)
    (g : GatewayChat) :
    Appends (Silent c) g.sent
      (g.broadcastTerminal runId sessionKey state message errorMessage).sent := by
  have hP : TakesFrames (Silent c) fun p => p.runId ≠ c := by
    constructor
    · rintro payload dropIfSlow hp _ ⟨⟩
      exact hp
    · rintro payload hp _ ⟨⟩
      exact hp
  exact sent_sendChat hP g hne false

/-- As long as the run is marked, an act is silent about it, also one that takes the mark. -/
theorem step_silent (rules : ReplyTextRules) {c : String} {g : GatewayChat} {i : ChatInput}
    (hg : g.Silenced c) (hi : ¬ SpeaksFor c i) :
    Appends (Silent c) g.sent (step rules g i).sent := by
  obtain ⟨view, act⟩ := i
  cases act with
  | emit runId stream data sessionKey =>
    have hsent := handle_sent rules view
      (g.agentEvents.enriched view.now runId stream data sessionKey) (g.counted view.now runId)
    exact hsent.imp fun output h => eventOutput_silent (g := g.counted view.now runId) hg.marked h
  | timer runId =>
    refine (fire_sent rules view runId g).imp fun output h => ?_
    obtain ⟨pending, -, h⟩ := h
    exact endOutput_silent hg.marked h
  | sendFinal runId sessionKey message =>
    exact sent_terminal_silent hi _ _ _ _ g
  | sendError runId sessionKey errorMessage =>
    exact sent_terminal_silent hi _ _ _ _ g
  | abort sessionKey runId requester =>
    obtain ⟨snapshots, h⟩ := chatAbort_eq view.now sessionKey runId requester g
    show Appends _ _ (g.chatAbort view.now sessionKey runId requester).2.sent
    rw [h]
    exact (sent_abortAll_silent _ _ g hg.gone).trans
      (appends_persist (fun _ _ => silent_of_none rfl) _ _ _)
  | stop sessionKey requester =>
    obtain ⟨snapshots, h⟩ :=
      abortSession_eq view.now sessionKey .stopCommand (some "stop") requester g
    show Appends _ _ (g.abortChatRunsForSessionKeyWithPartials view.now sessionKey .stopCommand
      (some "stop") requester).2.sent
    rw [h]
    exact (sent_abortAll_silent _ _ g hg.gone).trans
      (appends_persist (fun _ _ => silent_of_none rfl) _ _ _)
  | maintain =>
    show Appends _ _ (abortExpired view.now _).sent
    rw [abortExpired_eq]
    exact sent_abortAll_silent _ _ { g with
      dedupe := cleanDedupe view.now g.dedupe
      agentRunSeq := pruneAgentRunSeq g.agentRunSeq } hg.gone
  | _ => exact Appends.refl _

theorem registers_of_starts {c : String} {active : ChatAbortControllerEntry} {i : ChatInput}
    (h : Starts c active i) : Registers c i := by
  obtain ⟨view, act⟩ := i
  cases act with
  | sendStarts runId entry => exact h.1
  | _ => exact h.elim

theorem gone_step (rules : ReplyTextRules) {c : String} {g : GatewayChat} {i : ChatInput}
    (hg : g.chatAbortControllers.get? c = none) (hi : ¬ Registers c i) :
    (step rules g i).chatAbortControllers.get? c = none := by
  rw [Option.eq_none_iff_forall_ne_some]
  intro active hactive
  rcases (active_step rules c active g i).1 hactive with hstarts | ⟨h, -⟩
  · exact hi (registers_of_starts hstarts)
  · rw [hg] at h
    cases h

theorem silenced_step (rules : ReplyTextRules) {c : String} {g : GatewayChat} {i : ChatInput}
    (hg : g.Silenced c) (hi : ¬ Breaks c g i) : (step rules g i).Silenced c where
  marked := (marked_step rules c g i).2 (.inr ⟨hg.marked, fun h => hi (.inl h)⟩)
  gone := gone_step rules hg.gone fun h => hi (.inr (.inr h))

theorem silenced_abort (rules : ReplyTextRules) {c : String} {g : GatewayChat} {i : ChatInput}
    (h : g.Among c (g.abortedBy i)) : (step rules g i).Silenced c where
  marked := (marked_step rules c g i).2 (.inl h)
  gone := by rw [get?_chatAbortControllers_step rules c g (canAbort_of_among h), if_pos h]

open Runs

/-- A run is marked exactly when an abort has marked it and nothing has taken the mark since. -/
theorem marked_run (rules : ReplyTextRules) (c : String) (is : List ChatInput) :
    (run (step rules) initial is).Marked c ↔ ∃ early i late, is = early ++ i :: late ∧
      (run (step rules) initial early).Among c ((run (step rules) initial early).abortedBy i) ∧
      Each (step rules) (fun g j => ¬ Unmarks c g j)
        (run (step rules) initial (early ++ [i])) late := by
  have hnone : ¬ initial.Marked c := by
    show ¬ (OrderedMap.empty : OrderedMap String ℤ).has c = true
    simp
  have hkeep : ∀ (g : GatewayChat) (j : ChatInput), True → True := fun _ _ h => h
  rw [run_iff_since hkeep (fun g j _ => marked_step rules c g j) trivial]
  exact ⟨fun h => h.resolve_left fun h' => hnone h'.1, .inr⟩

/-- A run is marked exactly when a `chat.send` registered it, an act that this registration entitles
aborted it while the registration was live, and nothing has taken the mark since. -/
theorem aborted_run (rules : ReplyTextRules) (c : String) (is : List ChatInput) :
    (run (step rules) initial is).Marked c ↔
      ∃ active early start mid abort late, is = early ++ start :: mid ++ abort :: late ∧
        Starts c active start ∧ (∀ j ∈ mid, ¬ Removes c active j) ∧ Entitled c active abort ∧
        Each (step rules) (fun g j => ¬ Unmarks c g j)
          (run (step rules) initial (early ++ start :: mid ++ [abort])) late := by
  rw [marked_run]
  constructor
  · rintro ⟨early, abort, late, rfl, hamong, hlate⟩
    obtain ⟨active, hactive, hentitled⟩ := among_abortedBy_iff.1 hamong
    obtain ⟨early, start, mid, rfl, hstart, hmid⟩ := (active_run rules early c active).1 hactive
    exact ⟨active, early, start, mid, abort, late, rfl, hstart, hmid, hentitled, hlate⟩
  · rintro ⟨active, early, start, mid, abort, late, rfl, hstart, hmid, hentitled, hlate⟩
    have hactive : (run (step rules) initial (early ++ start :: mid)).chatAbortControllers.get? c =
        some active := (active_run rules _ c active).2 ⟨early, start, mid, rfl, hstart, hmid⟩
    exact ⟨early ++ start :: mid, abort, late, rfl,
      among_abortedBy_iff.2 ⟨active, hactive, hentitled⟩, hlate⟩

theorem silent_run (rules : ReplyTextRules) {c : String} {g : GatewayChat} {late : List ChatInput}
    (hg : g.Silenced c) (hlate : Each (step rules) (fun g j => ¬ Breaks c g j) g late) :
    Appends (Silent c) g.sent (run (step rules) g late).sent :=
  Appends.run (fun _ _ => silenced_step rules)
    (fun _ _ hg hi => step_silent rules hg fun h => hi (.inr (.inl h))) hg hlate

/-- From the abort of a run on, no `chat` event of the run is sent until the mark is taken or a
`chat.send` speaks for the run or registers it again. -/
theorem aborted_silent (rules : ReplyTextRules) (c : String) (g : GatewayChat) (i : ChatInput)
    (habort : g.Among c (g.abortedBy i)) (late : List ChatInput)
    (hlate : Each (step rules) (fun g j => ¬ Breaks c g j) (step rules g i) late) :
    Appends (Silent c) (step rules g i).sent (run (step rules) g (i :: late)).sent :=
  silent_run rules (silenced_abort rules habort) hlate

/-- The agent writes on after its run was aborted. -/
theorem aborted_silent_text :
    Appends (Silent "run")
      (run (step plainRules) initial
        [⟨plainView 0, .sendStarts "run" ⟨"id", "main", 0, 60000, some "conn", none⟩⟩,
          ⟨plainView 1, .abort "main" none ⟨some "conn", none, false⟩⟩]).sent
      (run (step plainRules) initial
        [⟨plainView 0, .sendStarts "run" ⟨"id", "main", 0, 60000, some "conn", none⟩⟩,
          ⟨plainView 1, .abort "main" none ⟨some "conn", none, false⟩⟩,
          ⟨plainView 2, .emit "run" "assistant" (.obj [("text", .str "late")])
            (some "main")⟩]).sent := by
  refine aborted_silent plainRules "run"
    (step plainRules initial
      ⟨plainView 0, .sendStarts "run" ⟨"id", "main", 0, 60000, some "conn", none⟩⟩)
    ⟨plainView 1, .abort "main" none ⟨some "conn", none, false⟩⟩ (by decide +kernel)
    [⟨plainView 2, .emit "run" "assistant" (.obj [("text", .str "late")]) (some "main")⟩]
    ⟨?_, trivial⟩
  rintro (⟨h | h, -⟩ | h | h)
  · simp [AgentEventPayload.lifecyclePhase?, AgentEventState.enriched] at h
  · simp [AgentEventPayload.lifecyclePhase?, AgentEventState.enriched] at h
  · exact h
  · exact h

/-- The act that takes the mark, such as the end of the run, is silent as well unless it is a
`chat.send` that speaks for the run. -/
theorem aborted_end_silent (rules : ReplyTextRules) (c : String) (g : GatewayChat) (i : ChatInput)
    (habort : g.Among c (g.abortedBy i)) (late : List ChatInput)
    (hlate : Each (step rules) (fun g j => ¬ Breaks c g j) (step rules g i) late)
    (last : ChatInput) (hlast : ¬ SpeaksFor c last) :
    Appends (Silent c) (step rules g i).sent (run (step rules) g (i :: late ++ [last])).sent := by
  have hsilenced := silenced_abort rules habort
  have hmarked : (run (step rules) (step rules g i) late).Silenced c :=
    (always_iff_run (step rules) _ _ late).1
      (Always.of_each (fun _ _ => silenced_step rules) hsilenced hlate) late []
      (List.append_nil _).symm
  rw [List.cons_append, run_cons, run_append]
  exact (silent_run rules hsilenced hlate).trans (step_silent rules hmarked hlast)

end GatewayChat

end Vertx
