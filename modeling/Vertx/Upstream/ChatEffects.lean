import Vertx.Lib.Log
import Vertx.Upstream.Abort

/-!
# What an agent event does to the chat

The functions of the agent event handler that only write texts and send leave everything else alone
(`OnlyTexts`).  From this follow the handler's effect on each part of the state and a list of all
that one event may send (`EventOutput`).
-/

namespace Vertx

namespace GatewayChat

/-- The states differ in the runs' texts and in what was sent at most. -/
structure OnlyTexts (g g' : GatewayChat) : Prop where
  agentEvents : g'.agentEvents = g.agentEvents
  sessionKeyCache : g'.sessionKeyCache = g.sessionKeyCache
  registry : g'.chatRunState.registry = g.chatRunState.registry
  abortedRuns : g'.chatRunState.abortedRuns = g.chatRunState.abortedRuns
  agentRunSeq : g'.agentRunSeq = g.agentRunSeq
  chatAbortControllers : g'.chatAbortControllers = g.chatAbortControllers
  toolEventRecipients : g'.toolEventRecipients = g.toolEventRecipients
  sessionSubscribers : g'.sessionSubscribers = g.sessionSubscribers
  pending : g'.pendingTerminalLifecycleErrors = g.pendingTerminalLifecycleErrors
  dedupe : g'.dedupe = g.dedupe

namespace OnlyTexts

variable {g g' g'' : GatewayChat}

theorem refl (g : GatewayChat) : OnlyTexts g g := by constructor <;> rfl

theorem trans (h : OnlyTexts g g') (h' : OnlyTexts g' g'') : OnlyTexts g g'' where
  agentEvents := h'.agentEvents.trans h.agentEvents
  sessionKeyCache := h'.sessionKeyCache.trans h.sessionKeyCache
  registry := h'.registry.trans h.registry
  abortedRuns := h'.abortedRuns.trans h.abortedRuns
  agentRunSeq := h'.agentRunSeq.trans h.agentRunSeq
  chatAbortControllers := h'.chatAbortControllers.trans h.chatAbortControllers
  toolEventRecipients := h'.toolEventRecipients.trans h.toolEventRecipients
  sessionSubscribers := h'.sessionSubscribers.trans h.sessionSubscribers
  pending := h'.pending.trans h.pending
  dedupe := h'.dedupe.trans h.dedupe

end OnlyTexts

section

variable (rules : ReplyTextRules) (view : ChatView) (g : GatewayChat)

theorem onlyTexts_send (output : ChatOutput) : OnlyTexts g (g.send output) := by
  constructor <;> rfl

theorem onlyTexts_sendChat (payload : ChatEventPayload) (dropIfSlow : Bool) :
    OnlyTexts g (g.sendChat payload dropIfSlow) := by
  constructor <;> rfl

theorem onlyTexts_sendDelta (sessionKey clientRunId : String) (seq : ℕ) (text : String) :
    OnlyTexts g (g.sendDelta view sessionKey clientRunId seq text) := by
  constructor <;> rfl

theorem onlyTexts_clearBufferedChatState (clientRunId : String) :
    OnlyTexts g (g.clearBufferedChatState clientRunId) := by
  constructor <;> rfl

theorem onlyTexts_sendSessionsChanged (sessionKey phase : String) (evt : AgentEventPayload) :
    OnlyTexts g (g.sendSessionsChanged view sessionKey phase evt) := by
  unfold sendSessionsChanged
  dsimp only
  split_ifs
  · exact OnlyTexts.refl g
  · exact onlyTexts_send g _

theorem onlyTexts_emitChatDelta (sessionKey clientRunId sourceRunId : String) (seq : ℕ)
    (text : String) (delta : JsValue) :
    OnlyTexts g (g.emitChatDelta rules view sessionKey clientRunId sourceRunId seq text delta) := by
  unfold emitChatDelta
  dsimp only
  split_ifs <;> constructor <;> rfl

theorem onlyTexts_flush (sessionKey clientRunId sourceRunId : String) (seq : ℕ) :
    OnlyTexts g
      (g.flushBufferedChatDeltaIfNeeded rules view sessionKey clientRunId sourceRunId seq) := by
  unfold flushBufferedChatDeltaIfNeeded
  dsimp only
  split_ifs
  · exact OnlyTexts.refl g
  · exact OnlyTexts.refl g
  · exact onlyTexts_sendDelta view g _ _ _ _

theorem onlyTexts_emitChatFinal (sessionKey clientRunId sourceRunId : String) (seq : ℕ)
    (failed : Bool) (error : JsValue) (stopReason errorKind : Option String) :
    OnlyTexts g (g.emitChatFinal rules view sessionKey clientRunId sourceRunId seq failed error
      stopReason errorKind) := by
  have hflush := onlyTexts_flush rules view g sessionKey clientRunId sourceRunId seq
  have hclear := hflush.trans (onlyTexts_clearBufferedChatState _ clientRunId)
  unfold emitChatFinal
  dsimp only
  split_ifs <;> exact hclear.trans (onlyTexts_sendChat _ _ _)

theorem onlyTexts_flushBefore (phase : Option String) (link : RunLink) (evt : AgentEventPayload) :
    OnlyTexts g (g.flushBefore rules view phase link evt) := by
  unfold flushBefore
  split
  · split_ifs
    · exact onlyTexts_flush rules view g _ _ _ _
    · exact OnlyTexts.refl g
  · exact OnlyTexts.refl g

theorem onlyTexts_sendToNodes (sessionKey : String) (link : RunLink) (toolVerbose : VerboseLevel)
    (toolPayload evt : AgentEventPayload) :
    OnlyTexts g (g.sendToNodes view sessionKey link toolVerbose toolPayload evt) := by
  unfold sendToNodes
  split_ifs
  · exact OnlyTexts.refl g
  · exact onlyTexts_send g _
  · exact onlyTexts_send g _

theorem onlyTexts_showText (sessionKey : String) (link : RunLink) (evt : AgentEventPayload) :
    OnlyTexts g (g.showText rules view sessionKey link evt) := by
  unfold showText
  split
  · split_ifs
    · exact onlyTexts_emitChatDelta rules view g _ _ _ _ _ _
    · exact OnlyTexts.refl g
  · exact OnlyTexts.refl g

theorem onlyTexts_sendVisible (link : RunLink) (toolVerbose : VerboseLevel)
    (toolPayload evt : AgentEventPayload) :
    OnlyTexts g (g.sendVisible rules view link toolVerbose toolPayload evt) := by
  unfold sendVisible
  split
  · split_ifs
    · exact (onlyTexts_sendToNodes view g _ _ _ _ _).trans (onlyTexts_showText rules view _ _ _ _)
    · exact OnlyTexts.refl g
  · exact OnlyTexts.refl g

/-- The recipients of tool events after an event was announced. -/
def recipientsAfter (evt : AgentEventPayload) (g : GatewayChat) : ToolEventRecipientRegistry :=
  if evt.stream = "tool" then (g.toolEventRecipients.get view.now evt.runId).2
  else g.toolEventRecipients

theorem onlyTexts_sendToRecipients (snapshot : Option SessionEventSnapshot)
    (toolPayload evt : AgentEventPayload) :
    OnlyTexts { g with toolEventRecipients := (g.toolEventRecipients.get view.now evt.runId).2 }
      (g.sendToRecipients view snapshot toolPayload evt) := by
  unfold sendToRecipients
  dsimp only
  split
  · split_ifs <;> constructor <;> rfl
  · exact OnlyTexts.refl _

theorem onlyTexts_sendSessionTool (snapshot : Option SessionEventSnapshot)
    (toolPayload : AgentEventPayload) : OnlyTexts g (g.sendSessionTool snapshot toolPayload) := by
  unfold sendSessionTool
  dsimp only
  split
  · split_ifs
    · exact OnlyTexts.refl g
    · exact onlyTexts_send g _
  · exact OnlyTexts.refl g

theorem onlyTexts_announce (link : RunLink) (toolPayload evt : AgentEventPayload) :
    OnlyTexts { g with toolEventRecipients := g.recipientsAfter view evt }
      (g.announce rules view link toolPayload evt) := by
  unfold announce recipientsAfter
  dsimp only
  split_ifs with htool hitem
  · have hflush := onlyTexts_flushBefore rules view g (evt.data.field "phase").asString? link evt
    unfold sendToolEvent
    generalize g.flushBefore rules view (evt.data.field "phase").asString? link evt = g' at hflush
    have hget : OnlyTexts
        { g with toolEventRecipients := (g.toolEventRecipients.get view.now evt.runId).2 }
        { g' with toolEventRecipients := (g'.toolEventRecipients.get view.now evt.runId).2 } :=
      { hflush with toolEventRecipients := by rw [hflush.toolEventRecipients] }
    exact (hget.trans (onlyTexts_sendToRecipients view g' _ _ _)).trans
      (onlyTexts_sendSessionTool _ _ _)
  · exact (onlyTexts_flushBefore rules view g _ link evt).trans (onlyTexts_send _ _)
  · exact onlyTexts_send g _

/-! ## The run of an event -/

/-- The run that clients know an agent run by. -/
def clientRunIdOf (runId : String) : String :=
  ((g.chatRunState.registry.peek runId).map (·.clientRunId)).getD runId

/-- The agent run is aborted, or the run that clients know it by. -/
def isAbortedRun (runId : String) : Bool :=
  g.chatRunState.abortedRuns.has (g.clientRunIdOf runId) || g.chatRunState.abortedRuns.has runId

theorem linkRun_clientRunId (evt : AgentEventPayload) :
    (g.linkRun view evt).1.clientRunId = g.clientRunIdOf evt.runId := by
  unfold linkRun
  dsimp only
  split <;> rfl

theorem linkRun_isAborted (evt : AgentEventPayload) :
    (g.linkRun view evt).1.isAborted = g.isAbortedRun evt.runId := by
  unfold linkRun
  dsimp only
  split <;> rfl

theorem linkRun_chatLink (evt : AgentEventPayload) :
    (g.linkRun view evt).1.chatLink = g.chatRunState.registry.peek evt.runId := by
  unfold linkRun
  dsimp only
  split <;> rfl

/-- Looking for the session of a run keeps the numbers of all runs. -/
theorem linkRun_state (evt : AgentEventPayload) :
    ∃ agentEvents sessionKeyCache, agentEvents.seqByRun = g.agentEvents.seqByRun ∧
      (g.linkRun view evt).2 = { g with agentEvents, sessionKeyCache } := by
  unfold linkRun
  dsimp only
  split
  · exact ⟨_, _, rfl, rfl⟩
  · exact ⟨_, _, seqByRun_resolveSessionKeyForRun _ _ _ _ _, rfl⟩

/-! ## The end of a run -/

/-- What the end of a run does to the runs that are known. -/
def endedRuns (link : RunLink) (runId : String) (c : ChatRunState) : ChatRunState :=
  if link.isAborted then
    { c with
      abortedRuns := (c.abortedRuns.delete link.clientRunId).delete runId
      registry :=
        if link.chatLink.isSome then (c.registry.remove runId link.clientRunId link.sessionKey).2
        else c.registry }
  else
    { c with registry := if link.chatLink.isSome then (c.registry.shift runId).2 else c.registry }

theorem abortedRuns_endedRuns (link : RunLink) (runId : String) (c : ChatRunState) :
    (endedRuns link runId c).abortedRuns =
      if link.isAborted then (c.abortedRuns.delete link.clientRunId).delete runId
      else c.abortedRuns := by
  unfold endedRuns
  split_ifs <;> rfl

theorem onlyTexts_finishChat (link : RunLink) (sessionKey : String)
    (failed skipChatErrorFinal : Bool)
    (evt : AgentEventPayload) :
    OnlyTexts { g with chatRunState := endedRuns link evt.runId g.chatRunState }
      (g.finishChat rules view link sessionKey failed skipChatErrorFinal evt) := by
  unfold finishChat endedRuns
  dsimp only
  cases link.chatLink with
  | none =>
    simp only [Option.isSome_none, Bool.false_eq_true, if_false]
    split_ifs
    · constructor <;> rfl
    · exact OnlyTexts.refl g
    · exact onlyTexts_emitChatFinal rules view g _ _ _ _ _ _ _ _
  | some entry =>
    simp only [Option.isSome_some, if_true]
    split_ifs
    · constructor <;> rfl
    · exact OnlyTexts.refl _
    · exact onlyTexts_emitChatFinal rules view _ _ _ _ _ _ _ _ _

/-- A lifecycle event that can end its run. -/
def Ends (evt : AgentEventPayload) : Prop :=
  evt.lifecyclePhase? = some "end" ∨ evt.lifecyclePhase? = some "error"

/-- The state after the end of a run, but for the texts and what was sent. -/
def ended (evt : AgentEventPayload) : GatewayChat :=
  let linked := (g.clearPendingTerminalLifecycleError evt.runId).linkRun view evt
  let g := linked.2
  let g := if linked.1.shownKey.isSome && linked.1.isControlUiVisible then
      { g with chatRunState := endedRuns linked.1 evt.runId g.chatRunState }
    else g
  g.forgetRun view linked.1.clientRunId evt.runId

variable {g} in
theorem OnlyTexts.forgetRun {g' : GatewayChat} (h : OnlyTexts g g') (clientRunId runId : String) :
    OnlyTexts (g.forgetRun view clientRunId runId) (g'.forgetRun view clientRunId runId) :=
  { h with
    agentEvents := by simp only [GatewayChat.forgetRun, h.agentEvents]
    agentRunSeq := by simp only [GatewayChat.forgetRun, h.agentRunSeq]
    toolEventRecipients := by simp only [GatewayChat.forgetRun, h.toolEventRecipients] }

theorem onlyTexts_finalize {evt : AgentEventPayload} (h : Ends evt) (skipChatErrorFinal : Bool) :
    OnlyTexts (g.ended view evt) (g.finalizeLifecycleEvent rules view evt skipChatErrorFinal) := by
  have hphase : ∃ phase, evt.lifecyclePhase? = some phase ∧ (phase = "end" ∨ phase = "error") := by
    rcases h with h | h
    · exact ⟨_, h, .inl rfl⟩
    · exact ⟨_, h, .inr rfl⟩
  obtain ⟨phase, hphase, hends⟩ := hphase
  unfold finalizeLifecycleEvent ended
  simp only [hphase, if_pos hends]
  generalize (g.clearPendingTerminalLifecycleError evt.runId).linkRun view evt = linked
  cases hkey : linked.1.shownKey with
  | none => exact OnlyTexts.refl _
  | some sessionKey =>
    simp only [Option.isSome_some, Bool.true_and]
    refine OnlyTexts.trans ?_
      ((onlyTexts_send _ _).trans (onlyTexts_sendSessionsChanged view _ _ _ _))
    apply OnlyTexts.forgetRun
    split_ifs
    · exact onlyTexts_finishChat rules view _ _ _ _ _ _
    · exact OnlyTexts.refl _

theorem finalize_of_not {evt : AgentEventPayload} (h : ¬ Ends evt) (skipChatErrorFinal : Bool) :
    g.finalizeLifecycleEvent rules view evt skipChatErrorFinal = g := by
  unfold finalizeLifecycleEvent
  split
  · rename_i phase hphase
    rw [if_neg]
    rintro (rfl | rfl)
    · exact h (.inl hphase)
    · exact h (.inr hphase)
  · rfl

/-! ## One event -/

/-- The run of an event, and the state once it was looked up. -/
def linked (evt : AgentEventPayload) : RunLink × GatewayChat :=
  (if evt.lifecyclePhase? = some "error" then g
    else g.clearPendingTerminalLifecycleError evt.runId).linkRun view evt

/-- The state in which the handler comes to the end of a run. -/
def delivered (evt : AgentEventPayload) : GatewayChat :=
  let (link, g) := g.linked view evt
  let toolVerbose := g.toolVerbose view link evt
  let toolPayload := toolPayload link toolVerbose evt
  let g := (g.checkSeq view link evt).announce rules view link toolPayload evt
  g.sendVisible rules view link toolVerbose toolPayload evt

/-- `delivered` without the texts and what was sent. -/
def received (evt : AgentEventPayload) : GatewayChat :=
  let g := (g.linked view evt).2
  { g with
    agentRunSeq := g.agentRunSeq.set evt.runId evt.seq
    toolEventRecipients := g.recipientsAfter view evt }

theorem onlyTexts_checkSeq (link : RunLink) (evt : AgentEventPayload) :
    OnlyTexts { g with agentRunSeq := g.agentRunSeq.set evt.runId evt.seq }
      (g.checkSeq view link evt) := by
  unfold checkSeq
  dsimp only
  split_ifs <;> constructor <;> rfl

theorem onlyTexts_delivered (evt : AgentEventPayload) :
    OnlyTexts (g.received view evt) (g.delivered rules view evt) := by
  unfold received delivered
  dsimp only
  generalize g.linked view evt = linked
  have hseq := onlyTexts_checkSeq view linked.2 linked.1 evt
  generalize linked.2.checkSeq view linked.1 evt = g' at hseq
  have hrecipients : OnlyTexts
      { linked.2 with
        agentRunSeq := linked.2.agentRunSeq.set evt.runId evt.seq
        toolEventRecipients := linked.2.recipientsAfter view evt }
      { g' with toolEventRecipients := g'.recipientsAfter view evt } :=
    { hseq with
      toolEventRecipients := by
        unfold recipientsAfter
        rw [hseq.toolEventRecipients] }
  exact (hrecipients.trans (onlyTexts_announce rules view g' _ _ _)).trans
    (onlyTexts_sendVisible rules view _ _ _ _ _)

theorem handleAgentEvent_eq (evt : AgentEventPayload) :
    g.handleAgentEvent rules view evt =
      (g.delivered rules view evt).followLifecycle rules view (g.linked view evt).1 evt := rfl

variable {g}

theorem OnlyTexts.linkRun_fst {g' : GatewayChat} (h : OnlyTexts g g') (evt : AgentEventPayload) :
    (g'.linkRun view evt).1 = (g.linkRun view evt).1 := by
  unfold GatewayChat.linkRun
  simp only [h.registry, h.agentEvents, h.abortedRuns, h.sessionKeyCache]
  split <;> rfl

theorem OnlyTexts.linkRun_snd {g' : GatewayChat} (h : OnlyTexts g g') (evt : AgentEventPayload) :
    OnlyTexts (g.linkRun view evt).2 (g'.linkRun view evt).2 := by
  unfold GatewayChat.linkRun
  simp only [h.registry, h.agentEvents, h.sessionKeyCache]
  split
  · exact h
  · exact { h with agentEvents := rfl, sessionKeyCache := rfl }

theorem OnlyTexts.clearPending {g' : GatewayChat} (h : OnlyTexts g g') (runId : String) :
    OnlyTexts (g.clearPendingTerminalLifecycleError runId)
      (g'.clearPendingTerminalLifecycleError runId) :=
  { h with pending := by simp only [clearPendingTerminalLifecycleError, h.pending] }

theorem OnlyTexts.ended {g' : GatewayChat} (h : OnlyTexts g g') (evt : AgentEventPayload) :
    OnlyTexts (g.ended view evt) (g'.ended view evt) := by
  have hfst := (h.clearPending evt.runId).linkRun_fst view evt
  have hsnd := (h.clearPending evt.runId).linkRun_snd view evt
  unfold GatewayChat.ended
  simp only [hfst]
  generalize ((g.clearPendingTerminalLifecycleError evt.runId).linkRun view evt).1 = link
  generalize ((g.clearPendingTerminalLifecycleError evt.runId).linkRun view evt).2 = g₁ at hsnd ⊢
  generalize ((g'.clearPendingTerminalLifecycleError evt.runId).linkRun view evt).2 = g₂ at hsnd ⊢
  apply OnlyTexts.forgetRun
  split_ifs
  · refine { hsnd with registry := ?_, abortedRuns := ?_ }
    · unfold endedRuns
      dsimp only
      split_ifs <;> simp only [hsnd.registry]
    · unfold endedRuns
      dsimp only
      split_ifs <;> simp only [hsnd.abortedRuns]
  · exact hsnd

theorem OnlyTexts.schedule {g' : GatewayChat} (h : OnlyTexts g g') (evt : AgentEventPayload)
    (skipChatErrorFinal : Bool) :
    OnlyTexts (g.scheduleTerminalLifecycleError view evt skipChatErrorFinal)
      (g'.scheduleTerminalLifecycleError view evt skipChatErrorFinal) :=
  { h with pending := by simp only [scheduleTerminalLifecycleError, h.pending] }

variable (g)

theorem linked_clientRunId (evt : AgentEventPayload) :
    (g.linked view evt).1.clientRunId = g.clientRunIdOf evt.runId := by
  unfold linked
  rw [linkRun_clientRunId]
  split_ifs <;> rfl

theorem linked_isAborted (evt : AgentEventPayload) :
    (g.linked view evt).1.isAborted = g.isAbortedRun evt.runId := by
  unfold linked
  rw [linkRun_isAborted]
  split_ifs <;> rfl

theorem linked_chatLink (evt : AgentEventPayload) :
    (g.linked view evt).1.chatLink = g.chatRunState.registry.peek evt.runId := by
  unfold linked
  rw [linkRun_chatLink]
  split_ifs <;> rfl

/-- The errors that wait once an event has arrived, unless it is an error itself. -/
def pendingAfter (evt : AgentEventPayload) : OrderedMap String PendingLifecycleError :=
  if evt.lifecyclePhase? = some "error" then g.pendingTerminalLifecycleErrors
  else g.pendingTerminalLifecycleErrors.delete evt.runId

theorem linked_state (evt : AgentEventPayload) :
    ∃ agentEvents sessionKeyCache, agentEvents.seqByRun = g.agentEvents.seqByRun ∧
      (g.linked view evt).2 =
        { g with
          agentEvents, sessionKeyCache
          pendingTerminalLifecycleErrors := g.pendingAfter evt } := by
  unfold linked pendingAfter
  split_ifs with herror
  · obtain ⟨agentEvents, sessionKeyCache, hseq, hstate⟩ := linkRun_state view g evt
    exact ⟨agentEvents, sessionKeyCache, hseq, hstate⟩
  · obtain ⟨agentEvents, sessionKeyCache, hseq, hstate⟩ :=
      linkRun_state view (g.clearPendingTerminalLifecycleError evt.runId) evt
    exact ⟨agentEvents, sessionKeyCache, hseq, hstate⟩

/-- The error of a run that a `chat.send` waits for is left to it. -/
def skipsChatError (evt : AgentEventPayload) : Bool :=
  g.chatAbortControllers.has evt.runId && (g.chatRunState.registry.peek evt.runId).isNone

/-- An event of a run ends the run, or lets its error wait, or does neither. -/
theorem handle_cases (evt : AgentEventPayload) :
    (¬ Ends evt ∧ OnlyTexts (g.received view evt) (g.handleAgentEvent rules view evt)) ∨
    ((evt.lifecyclePhase? = some "end" ∨
        evt.lifecyclePhase? = some "error" ∧ g.isAbortedRun evt.runId = true) ∧
      OnlyTexts ((g.received view evt).ended view evt) (g.handleAgentEvent rules view evt)) ∨
    (evt.lifecyclePhase? = some "error" ∧ g.isAbortedRun evt.runId = false ∧
      OnlyTexts
        ((g.received view evt).scheduleTerminalLifecycleError view evt (g.skipsChatError evt))
        (g.handleAgentEvent rules view evt)) := by
  have hd := onlyTexts_delivered rules view g evt
  have hcontrollers :
      (g.delivered rules view evt).chatAbortControllers = g.chatAbortControllers := by
    obtain ⟨agentEvents, sessionKeyCache, -, hstate⟩ := linked_state view g evt
    rw [hd.chatAbortControllers]
    unfold received
    simp only [hstate]
  rw [handleAgentEvent_eq]
  unfold followLifecycle
  split
  · rename_i hphase
    have hclear := hd.trans (onlyTexts_clearBufferedChatState _ (g.linked view evt).1.clientRunId)
    simp only [linked_isAborted, linked_chatLink]
    split_ifs with haborted
    · exact .inr (.inl ⟨.inr ⟨hphase, haborted⟩, (hclear.ended view evt).trans
        (onlyTexts_finalize rules view _ (.inr hphase) _)⟩)
    · refine .inr (.inr ⟨hphase, by simpa using haborted, ?_⟩)
      unfold skipsChatError
      rw [← hcontrollers]
      exact hclear.schedule view evt _
  · rename_i hphase
    exact .inr (.inl ⟨.inl hphase, (hd.ended view evt).trans
      (onlyTexts_finalize rules view _ (.inl hphase) _)⟩)
  · rename_i hphase
    have hnot : ¬ Ends evt := by
      unfold Ends
      rw [hphase]
      decide
    refine .inl ⟨hnot, ?_⟩
    split
    · exact hd.trans ((onlyTexts_send _ _).trans (onlyTexts_sendSessionsChanged view _ _ _ _))
    · exact hd
  · rename_i herror hend hstart
    exact .inl ⟨fun h => h.elim hend herror, hd⟩

end

/-! ## The run of an event does not depend on when it is looked up -/

section

variable (view : ChatView) (evt : AgentEventPayload)

theorem linkRun_fst_congr {g g' : GatewayChat} (hevents : g'.agentEvents = g.agentEvents)
    (hcache : g'.sessionKeyCache = g.sessionKeyCache) (hchat : g'.chatRunState = g.chatRunState) :
    (g'.linkRun view evt).1 = (g.linkRun view evt).1 := by
  unfold linkRun
  rw [hevents, hcache, hchat]
  dsimp only
  split <;> rfl

theorem linked_fst (g : GatewayChat) : (g.linked view evt).1 = (g.linkRun view evt).1 := by
  unfold linked
  split_ifs
  · rfl
  · exact linkRun_fst_congr view evt rfl rfl rfl

/-- The end of a run finds what its event has found. -/
theorem linkRun_again (g : GatewayChat) :
    ((g.linkRun view evt).2.linkRun view evt).1 = (g.linkRun view evt).1 := by
  unfold linkRun
  dsimp only
  cases hkey : ((g.chatRunState.registry.peek evt.runId).map (·.sessionKey)).or
      evt.eventSessionKey with
  | some sessionKey => simp only [hkey]
  | none =>
    simp only [hkey, resolveSessionKeyForRun_again, isControlUiVisible_resolveSessionKeyForRun]

theorem chatRunState_ended (g : GatewayChat) :
    (g.ended view evt).chatRunState =
      if (g.linkRun view evt).1.shownKey.isSome && (g.linkRun view evt).1.isControlUiVisible then
        endedRuns (g.linkRun view evt).1 evt.runId g.chatRunState
      else g.chatRunState := by
  have hfst : ((g.clearPendingTerminalLifecycleError evt.runId).linkRun view evt).1 =
      (g.linkRun view evt).1 := linkRun_fst_congr view evt rfl rfl rfl
  obtain ⟨agentEvents, sessionKeyCache, -, hstate⟩ :=
    linkRun_state view (g.clearPendingTerminalLifecycleError evt.runId) evt
  unfold ended
  simp only [hfst, hstate]
  split_ifs <;> rfl

end

theorem chatAbortControllers_ended (view : ChatView) (evt : AgentEventPayload) (g : GatewayChat) :
    (g.ended view evt).chatAbortControllers = g.chatAbortControllers := by
  obtain ⟨agentEvents, sessionKeyCache, -, hstate⟩ :=
    linkRun_state view (g.clearPendingTerminalLifecycleError evt.runId) evt
  unfold ended
  simp only [hstate]
  split_ifs <;> rfl

theorem toolEventRecipients_ended (view : ChatView) (evt : AgentEventPayload) (g : GatewayChat) :
    (g.ended view evt).toolEventRecipients =
      g.toolEventRecipients.markFinal view.now evt.runId := by
  obtain ⟨agentEvents, sessionKeyCache, -, hstate⟩ :=
    linkRun_state view (g.clearPendingTerminalLifecycleError evt.runId) evt
  unfold ended
  simp only [hstate]
  split_ifs <;> rfl

theorem pending_ended (view : ChatView) (evt : AgentEventPayload) (g : GatewayChat) :
    (g.ended view evt).pendingTerminalLifecycleErrors =
      g.pendingTerminalLifecycleErrors.delete evt.runId := by
  obtain ⟨agentEvents, sessionKeyCache, -, hstate⟩ :=
    linkRun_state view (g.clearPendingTerminalLifecycleError evt.runId) evt
  unfold ended
  simp only [hstate]
  split_ifs <;> rfl

theorem sessionSubscribers_ended (view : ChatView) (evt : AgentEventPayload) (g : GatewayChat) :
    (g.ended view evt).sessionSubscribers = g.sessionSubscribers := by
  obtain ⟨agentEvents, sessionKeyCache, -, hstate⟩ :=
    linkRun_state view (g.clearPendingTerminalLifecycleError evt.runId) evt
  unfold ended
  simp only [hstate]
  split_ifs <;> rfl

theorem sessionSubscribers_finalize (rules : ReplyTextRules) (view : ChatView)
    (evt : AgentEventPayload) (skipChatErrorFinal : Bool) (g : GatewayChat) :
    (g.finalizeLifecycleEvent rules view evt skipChatErrorFinal).sessionSubscribers =
      g.sessionSubscribers := by
  by_cases h : Ends evt
  · rw [(onlyTexts_finalize rules view g h _).sessionSubscribers, sessionSubscribers_ended]
  · rw [finalize_of_not rules view g h]

theorem sessionSubscribers_handle (rules : ReplyTextRules) (view : ChatView)
    (evt : AgentEventPayload) (g : GatewayChat) :
    (g.handleAgentEvent rules view evt).sessionSubscribers = g.sessionSubscribers := by
  have hreceived : (g.received view evt).sessionSubscribers = g.sessionSubscribers := by
    obtain ⟨agentEvents, sessionKeyCache, -, hstate⟩ := linked_state view g evt
    unfold received
    rw [hstate]
  rcases handle_cases rules view g evt with ⟨-, h⟩ | ⟨-, h⟩ | ⟨-, -, h⟩
  · rw [h.sessionSubscribers, hreceived]
  · rw [h.sessionSubscribers, sessionSubscribers_ended, hreceived]
  · rw [h.sessionSubscribers]
    exact hreceived

theorem chatAbortControllers_finalize (rules : ReplyTextRules) (view : ChatView)
    (evt : AgentEventPayload) (skipChatErrorFinal : Bool) (g : GatewayChat) :
    (g.finalizeLifecycleEvent rules view evt skipChatErrorFinal).chatAbortControllers =
      g.chatAbortControllers := by
  by_cases h : Ends evt
  · rw [(onlyTexts_finalize rules view g h _).chatAbortControllers, chatAbortControllers_ended]
  · rw [finalize_of_not rules view g h]

theorem chatAbortControllers_handle (rules : ReplyTextRules) (view : ChatView)
    (evt : AgentEventPayload) (g : GatewayChat) :
    (g.handleAgentEvent rules view evt).chatAbortControllers = g.chatAbortControllers := by
  have hreceived : (g.received view evt).chatAbortControllers = g.chatAbortControllers := by
    obtain ⟨agentEvents, sessionKeyCache, -, hstate⟩ := linked_state view g evt
    unfold received
    rw [hstate]
  rcases handle_cases rules view g evt with ⟨-, h⟩ | ⟨-, h⟩ | ⟨-, -, h⟩
  · rw [h.chatAbortControllers, hreceived]
  · rw [h.chatAbortControllers, chatAbortControllers_ended, hreceived]
  · rw [h.chatAbortControllers]
    exact hreceived

end GatewayChat

end Vertx
