import Vertx.Upstream.ChatEffects

/-!
# What an agent event may send

`EventOutput` lists everything that one event of an agent run may send, with what must hold in the
state in which the event arrives.  `handle_sent` says that the handler sends nothing else, and
`fire_sent` that an error whose timer fires sends what an end may send.
-/

namespace Vertx

/-- The frame of a `chat` event that an agent event of a run may bring about. -/
structure FrameOf (clientRunId : String) (evt : AgentEventPayload) (payload : ChatEventPayload) :
    Prop where
  runId : payload.runId = clientRunId
  seq : payload.seq = evt.seq
  state : payload.state = .delta ∨ payload.state = .final ∧ evt.lifecyclePhase? = some "end" ∨
    payload.state = .error ∧ evt.lifecyclePhase? = some "error"

namespace GatewayChat

/-- The verbose level of a tool event that arrives. -/
def verboseOf (view : ChatView) (g : GatewayChat) (evt : AgentEventPayload) : VerboseLevel :=
  (g.linked view evt).2.toolVerbose view (g.linked view evt).1 evt

/-- The event as the receivers of tool events are sent it. -/
def payloadOf (view : ChatView) (g : GatewayChat) (evt : AgentEventPayload) : AgentEventPayload :=
  toolPayload (g.linked view evt).1 (g.verboseOf view evt) evt

/-- What the end of a run may send. -/
inductive EndOutput (g : GatewayChat) (evt : AgentEventPayload) : ChatOutput → Prop
  | chat (payload : ChatEventPayload) (dropIfSlow : Bool)
      (hframe : FrameOf (g.clientRunIdOf evt.runId) evt payload)
      (hlive : g.isAbortedRun evt.runId = false) :
      EndOutput g evt (.broadcast (.chat payload) dropIfSlow)
  | nodeChat (payload : ChatEventPayload)
      (hframe : FrameOf (g.clientRunIdOf evt.runId) evt payload)
      (hlive : g.isAbortedRun evt.runId = false) :
      EndOutput g evt (.nodeSendToSession payload.sessionKey (.chat payload))
  | changed (sessionKey phase : String) (snapshot : SessionEventSnapshot) :
      EndOutput g evt (.broadcastToConnIds
        (.sessionsChanged sessionKey phase evt.runId evt.ts snapshot)
        g.sessionSubscribers.sessionEventSubscribers true)
  | persist (sessionKey : String) : EndOutput g evt (.persistLifecycle sessionKey evt)

/-- What an event of a run may send. -/
inductive EventOutput (view : ChatView) (g : GatewayChat) (evt : AgentEventPayload) :
    ChatOutput → Prop
  | ofEnd (output : ChatOutput) (h : EndOutput g evt output) : EventOutput view g evt output
  | gap (last : ℕ) (hlast : g.agentRunSeq.get? evt.runId = some last) (hpos : 0 < last)
      (hne : evt.seq ≠ last + 1) :
      EventOutput view g evt (.broadcast (.seqGap (g.linked view evt).1.clientRunId
        (g.linked view evt).1.sessionKey (last + 1) evt.seq view.now) false)
  | toAll (htool : evt.stream ≠ "tool") :
      EventOutput view g evt
        (.broadcast (.agent (eventForClients (g.linked view evt).1 evt) none) false)
  | toRecipients (connIds : OrderedSet String) (snapshot : Option SessionEventSnapshot)
      (htool : evt.stream = "tool")
      (hconnIds : (g.toolEventRecipients.get? evt.runId).map (·.connIds) = some connIds) :
      EventOutput view g evt
        (.broadcastToConnIds (.agent (g.payloadOf view evt) snapshot) connIds false)
  | toSubscribers (snapshot : SessionEventSnapshot) (htool : evt.stream = "tool") :
      EventOutput view g evt (.broadcastToConnIds (.sessionTool (g.payloadOf view evt) snapshot)
        g.sessionSubscribers.sessionEventSubscribers true)
  | toNodes (sessionKey : String) (snapshot : Option SessionEventSnapshot)
      (htool : evt.stream = "tool" → g.verboseOf view evt ≠ .off) :
      EventOutput view g evt
        (.nodeSendToSession sessionKey (.agent (g.payloadOf view evt) snapshot))

section

variable (rules : ReplyTextRules) (view : ChatView)

/-- The outputs with `P` contain all `chat` events with `F`. -/
structure TakesFrames (P : ChatOutput → Prop) (F : ChatEventPayload → Prop) : Prop where
  broadcast : ∀ payload dropIfSlow, F payload → P (.broadcast (.chat payload) dropIfSlow)
  node : ∀ payload, F payload → P (.nodeSendToSession payload.sessionKey (.chat payload))

variable {P : ChatOutput → Prop} {F : ChatEventPayload → Prop} (hP : TakesFrames P F)
include hP

theorem sent_sendChat (g : GatewayChat) {payload : ChatEventPayload} (hF : F payload)
    (dropIfSlow : Bool) : Appends P g.sent (g.sendChat payload dropIfSlow).sent :=
  (Appends.concat (hP.broadcast payload dropIfSlow hF) _).trans
    (Appends.concat (hP.node payload hF) _)

variable {sessionKey clientRunId : String} {seq : ℕ}

theorem sent_sendDelta (hF : ∀ p : ChatEventPayload, p.runId = clientRunId → p.seq = seq →
    p.state = .delta → F p) (text : String) (g : GatewayChat) :
    Appends P g.sent (g.sendDelta view sessionKey clientRunId seq text).sent :=
  sent_sendChat hP _ (hF _ rfl rfl rfl) _

theorem sent_emitChatDelta (hF : ∀ p : ChatEventPayload, p.runId = clientRunId → p.seq = seq →
    p.state = .delta → F p) (sourceRunId text : String) (delta : JsValue) (g : GatewayChat) :
    Appends P g.sent
      (g.emitChatDelta rules view sessionKey clientRunId sourceRunId seq text delta).sent := by
  unfold emitChatDelta
  dsimp only
  split_ifs
  any_goals exact Appends.refl _
  exact sent_sendDelta view hP hF _ _

theorem sent_flush (hF : ∀ p : ChatEventPayload, p.runId = clientRunId → p.seq = seq →
    p.state = .delta → F p) (sourceRunId : String) (g : GatewayChat) :
    Appends P g.sent
      (g.flushBufferedChatDeltaIfNeeded rules view sessionKey clientRunId sourceRunId
        seq).sent := by
  unfold flushBufferedChatDeltaIfNeeded
  dsimp only
  split_ifs
  · exact Appends.refl _
  · exact Appends.refl _
  · exact sent_sendDelta view hP hF _ _

theorem sent_emitChatFinal {failed : Bool} (hF : ∀ p : ChatEventPayload, p.runId = clientRunId →
    p.seq = seq → p.state = .delta ∨ p.state = (if failed then .error else .final) → F p)
    (sourceRunId : String) (error : JsValue) (stopReason errorKind : Option String)
    (g : GatewayChat) :
    Appends P g.sent (g.emitChatFinal rules view sessionKey clientRunId sourceRunId seq failed error
      stopReason errorKind).sent := by
  have hflush : Appends P g.sent
      (g.flushBufferedChatDeltaIfNeeded rules view sessionKey clientRunId sourceRunId seq).sent :=
    sent_flush rules view hP (fun p hr hs hd => hF p hr hs (.inl hd)) sourceRunId g
  unfold emitChatFinal
  dsimp only
  generalize g.flushBufferedChatDeltaIfNeeded rules view sessionKey clientRunId sourceRunId seq = g'
    at hflush ⊢
  cases failed with
  | true => exact hflush.trans (sent_sendChat hP _ (hF _ rfl rfl (.inr rfl)) _)
  | false => exact hflush.trans (sent_sendChat hP _ (hF _ rfl rfl (.inr rfl)) _)

end

section

variable (rules : ReplyTextRules) (view : ChatView)

theorem sent_finishChat {P : ChatOutput → Prop} {link : RunLink} {evt : AgentEventPayload}
    {failed : Bool} (hP : link.isAborted = false → TakesFrames P (FrameOf link.clientRunId evt))
    (hphase : evt.lifecyclePhase? = some (if failed then "error" else "end")) (sessionKey : String)
    (skipChatErrorFinal : Bool) (g : GatewayChat) :
    Appends P g.sent
      (g.finishChat rules view link sessionKey failed skipChatErrorFinal evt).sent := by
  have hframe : ∀ p : ChatEventPayload, p.runId = link.clientRunId → p.seq = evt.seq →
      p.state = .delta ∨ p.state = (if failed then .error else .final) →
      FrameOf link.clientRunId evt p := by
    intro p hrun hseq hstate
    refine ⟨hrun, hseq, hstate.imp_right fun hstate => ?_⟩
    cases failed with
    | true => exact .inr ⟨hstate, hphase⟩
    | false => exact .inl ⟨hstate, hphase⟩
  unfold finishChat
  dsimp only
  cases haborted : link.isAborted with
  | true =>
    simp only [if_true]
    split_ifs <;> exact Appends.refl _
  | false =>
    simp only [Bool.false_eq_true, if_false]
    cases link.chatLink with
    | none =>
      dsimp only
      split_ifs
      · exact Appends.refl _
      · exact sent_emitChatFinal rules view (hP haborted) hframe _ _ _ _ _
    | some entry =>
      dsimp only
      split_ifs
      · exact Appends.refl _
      · refine Appends.trans ?_ (sent_emitChatFinal rules view (hP haborted) hframe _ _ _ _ _)
        exact Appends.refl _

theorem sent_sendSessionsChanged {P : ChatOutput → Prop} {sessionKey phase : String}
    {evt : AgentEventPayload} (g : GatewayChat)
    (hP : ∀ snapshot, P (.broadcastToConnIds
      (.sessionsChanged sessionKey phase evt.runId evt.ts snapshot)
      g.sessionSubscribers.sessionEventSubscribers true)) :
    Appends P g.sent (g.sendSessionsChanged view sessionKey phase evt).sent := by
  unfold sendSessionsChanged
  dsimp only
  split_ifs
  · exact Appends.refl _
  · exact Appends.concat (hP _) _

theorem takesFrames_endOutput {g : GatewayChat} {evt : AgentEventPayload}
    (hlive : g.isAbortedRun evt.runId = false) :
    TakesFrames (EndOutput g evt) (FrameOf (g.clientRunIdOf evt.runId) evt) where
  broadcast payload dropIfSlow hframe := .chat payload dropIfSlow hframe hlive
  node payload hframe := .nodeChat payload hframe hlive

theorem finalize_sent (evt : AgentEventPayload) (skipChatErrorFinal : Bool) (g : GatewayChat) :
    Appends (EndOutput g evt) g.sent
      (g.finalizeLifecycleEvent rules view evt skipChatErrorFinal).sent := by
  unfold finalizeLifecycleEvent
  split
  · rename_i phase hphase
    split_ifs with hends
    · dsimp only
      have hrun := linkRun_clientRunId view (g.clearPendingTerminalLifecycleError evt.runId) evt
      have habort := linkRun_isAborted view (g.clearPendingTerminalLifecycleError evt.runId) evt
      obtain ⟨agentEvents, sessionKeyCache, -, hstate⟩ :=
        linkRun_state view (g.clearPendingTerminalLifecycleError evt.runId) evt
      generalize (g.clearPendingTerminalLifecycleError evt.runId).linkRun view evt = linked at *
      have hsent : linked.2.sent = g.sent := by rw [hstate]; rfl
      have hsubscribers : linked.2.sessionSubscribers = g.sessionSubscribers := by rw [hstate]; rfl
      cases hkey : linked.1.shownKey with
      | none => exact Appends.of_eq hsent
      | some sessionKey =>
        dsimp only
        have hfinish : ∃ g', (if linked.1.isControlUiVisible then
              linked.2.finishChat rules view linked.1 sessionKey (decide (phase = "error"))
                skipChatErrorFinal evt
            else linked.2) = g' ∧ Appends (EndOutput g evt) g.sent g'.sent ∧
            g'.sessionSubscribers = g.sessionSubscribers := by
          refine ⟨_, rfl, ?_⟩
          split_ifs
          · constructor
            · rw [← hsent]
              apply sent_finishChat
              · intro hlive
                rw [hrun]
                exact takesFrames_endOutput (habort.symm.trans hlive)
              · rcases hends with rfl | rfl <;> simp [hphase]
            · rw [(onlyTexts_finishChat rules view linked.2 _ _ _ _ _).sessionSubscribers,
                hsubscribers]
          · exact ⟨Appends.of_eq hsent, hsubscribers⟩
        obtain ⟨g', hg', hfinished, hsubscribers'⟩ := hfinish
        rw [hg']
        refine hfinished.trans (Appends.trans (Appends.concat (.persist sessionKey) _)
          (sent_sendSessionsChanged view _ ?_))
        intro snapshot
        have h := @EndOutput.changed g evt sessionKey phase snapshot
        rw [← hsubscribers'] at h
        exact h
    · exact Appends.refl _
  · exact Appends.refl _

theorem sent_checkSeq {P : ChatOutput → Prop} {link : RunLink} {evt : AgentEventPayload}
    (g : GatewayChat)
    (hP : ∀ last, g.agentRunSeq.get? evt.runId = some last → 0 < last → evt.seq ≠ last + 1 →
      P (.broadcast (.seqGap link.clientRunId link.sessionKey (last + 1) evt.seq view.now) false)) :
    Appends P g.sent (g.checkSeq view link evt).sent := by
  unfold checkSeq
  dsimp only
  split_ifs with h
  · refine Appends.concat (hP _ ?_ h.1 h.2) _
    cases hlast : g.agentRunSeq.get? evt.runId with
    | none => simp [hlast] at h
    | some last => rfl
  · exact Appends.refl _

theorem sent_sendToolEvent {P : ChatOutput → Prop} {link : RunLink}
    {evt toolPayload : AgentEventPayload} (g : GatewayChat)
    (hrecipients : ∀ connIds snapshot,
      (g.toolEventRecipients.get? evt.runId).map (·.connIds) = some connIds →
      P (.broadcastToConnIds (.agent toolPayload snapshot) connIds false))
    (hsubscribers : ∀ snapshot, P (.broadcastToConnIds (.sessionTool toolPayload snapshot)
      g.sessionSubscribers.sessionEventSubscribers true)) :
    Appends P g.sent (g.sendToolEvent view link toolPayload evt).sent := by
  unfold sendToolEvent
  dsimp only
  generalize link.shownKey.map (fun key => buildSessionEventSnapshot view key none) = snapshot
  have hfirst : Appends P g.sent (g.sendToRecipients view snapshot toolPayload evt).sent := by
    unfold sendToRecipients ToolEventRecipientRegistry.get
    cases hentry : g.toolEventRecipients.get? evt.runId with
    | none => exact Appends.refl _
    | some entry =>
      dsimp only
      split_ifs
      · exact Appends.refl _
      · exact Appends.concat (hrecipients _ _ (by rw [hentry]; rfl)) _
  have hsame := (onlyTexts_sendToRecipients view g snapshot toolPayload evt).sessionSubscribers
  generalize g.sendToRecipients view snapshot toolPayload evt = g' at hfirst hsame
  refine hfirst.trans ?_
  unfold sendSessionTool
  dsimp only
  rw [hsame]
  split
  · split_ifs
    · exact Appends.refl _
    · exact Appends.concat (hsubscribers _) _
  · exact Appends.refl _

section

variable {P : ChatOutput → Prop} {link : RunLink} {evt toolPayload : AgentEventPayload}
  (hchat : link.isAborted = false → TakesFrames P (FrameOf link.clientRunId evt))
include hchat

theorem sent_flushBefore (phase : Option String) (g : GatewayChat) :
    Appends P g.sent (g.flushBefore rules view phase link evt).sent := by
  unfold flushBefore
  split
  · split_ifs with h
    · exact sent_flush rules view (hchat (by simpa using h.2.2))
        (fun p hrun hseq hdelta => ⟨hrun, hseq, .inl hdelta⟩) _ _
    · exact Appends.refl _
  · exact Appends.refl _

theorem sent_showText (sessionKey : String) (g : GatewayChat) :
    Appends P g.sent (g.showText rules view sessionKey link evt).sent := by
  unfold showText
  split
  · split_ifs with h
    · exact sent_emitChatDelta rules view (hchat (by simpa using h.2))
        (fun p hrun hseq hdelta => ⟨hrun, hseq, .inl hdelta⟩) _ _ _ _
    · exact Appends.refl _
  · exact Appends.refl _

theorem sent_sendVisible {toolVerbose : VerboseLevel}
    (hnodes : ∀ sessionKey snapshot, (evt.stream = "tool" → toolVerbose ≠ .off) →
      P (.nodeSendToSession sessionKey (.agent toolPayload snapshot)))
    (htool : evt.stream ≠ "tool" → toolPayload = eventForClients link evt) (g : GatewayChat) :
    Appends P g.sent (g.sendVisible rules view link toolVerbose toolPayload evt).sent := by
  unfold sendVisible
  split
  · rename_i sessionKey _
    split_ifs
    · have hsent : Appends P g.sent
          (g.sendToNodes view sessionKey link toolVerbose toolPayload evt).sent := by
        unfold sendToNodes
        split_ifs with hstream hoff
        · exact Appends.refl _
        · exact Appends.concat (hnodes _ _ fun _ => hoff) _
        · rw [← htool hstream]
          exact Appends.concat (hnodes _ _ fun h => absurd h hstream) _
      exact hsent.trans (sent_showText rules view hchat _ _)
    · exact Appends.refl _
  · exact Appends.refl _

theorem sent_announce (g : GatewayChat)
    (hall : evt.stream ≠ "tool" → P (.broadcast (.agent (eventForClients link evt) none) false))
    (hrecipients : ∀ connIds snapshot, evt.stream = "tool" →
      (g.toolEventRecipients.get? evt.runId).map (·.connIds) = some connIds →
      P (.broadcastToConnIds (.agent toolPayload snapshot) connIds false))
    (hsubscribers : ∀ snapshot, evt.stream = "tool" →
      P (.broadcastToConnIds (.sessionTool toolPayload snapshot)
        g.sessionSubscribers.sessionEventSubscribers true)) :
    Appends P g.sent (g.announce rules view link toolPayload evt).sent := by
  have hflush := sent_flushBefore rules view hchat (evt.data.field "phase").asString? g
  unfold announce
  dsimp only
  split_ifs with htool hitem
  · have hsame := onlyTexts_flushBefore rules view g (evt.data.field "phase").asString? link evt
    generalize g.flushBefore rules view (evt.data.field "phase").asString? link evt = g' at *
    refine hflush.trans (sent_sendToolEvent view g' ?_ ?_)
    · intro connIds snapshot hconnIds
      rw [hsame.toolEventRecipients] at hconnIds
      exact hrecipients connIds snapshot htool hconnIds
    · intro snapshot
      rw [hsame.sessionSubscribers]
      exact hsubscribers snapshot htool
  · exact hflush.trans (Appends.concat (hall htool) _)
  · exact Appends.concat (hall htool) _

end

theorem takesFrames_eventOutput (g : GatewayChat) (evt : AgentEventPayload)
    (hlive : (g.linked view evt).1.isAborted = false) :
    TakesFrames (EventOutput view g evt) (FrameOf (g.linked view evt).1.clientRunId evt) := by
  rw [linked_clientRunId]
  have h := takesFrames_endOutput ((linked_isAborted view g evt).symm.trans hlive)
  exact ⟨fun p d hp => .ofEnd _ (h.broadcast p d hp), fun p hp => .ofEnd _ (h.node p hp)⟩

/-- What is sent of an event before the handler comes to the end of a run. -/
theorem delivered_sent (evt : AgentEventPayload) (g : GatewayChat) :
    Appends (EventOutput view g evt) g.sent (g.delivered rules view evt).sent := by
  have hchat := takesFrames_eventOutput view g evt
  have hgap := @EventOutput.gap view g evt
  have hall := @EventOutput.toAll view g evt
  have hrecipients := @EventOutput.toRecipients view g evt
  have hsubscribers := @EventOutput.toSubscribers view g evt
  have hnodes := @EventOutput.toNodes view g evt
  generalize EventOutput view g evt = P at *
  unfold payloadOf verboseOf at hrecipients hsubscribers hnodes
  obtain ⟨agentEvents, sessionKeyCache, -, hstate⟩ := linked_state view g evt
  unfold delivered
  generalize g.linked view evt = linked at *
  obtain ⟨link, g'⟩ := linked
  dsimp only at *
  generalize g'.toolVerbose view link evt = toolVerbose at *
  have hseq : Appends P g.sent (g'.checkSeq view link evt).sent := by
    rw [show g.sent = g'.sent by rw [hstate]]
    apply sent_checkSeq
    rw [hstate]
    exact hgap
  have hsame := onlyTexts_checkSeq view g' link evt
  generalize g'.checkSeq view link evt = g₁ at hseq hsame
  have hannounce : Appends P g₁.sent
      (g₁.announce rules view link (toolPayload link toolVerbose evt) evt).sent := by
    apply sent_announce rules view hchat g₁ hall
    · intro connIds snapshot htool hconnIds
      rw [hsame.toolEventRecipients, hstate] at hconnIds
      exact hrecipients connIds snapshot htool hconnIds
    · intro snapshot htool
      rw [hsame.sessionSubscribers, hstate]
      exact hsubscribers snapshot htool
  refine (hseq.trans hannounce).trans (sent_sendVisible rules view hchat hnodes ?_ _)
  intro htool
  rw [toolPayload, if_neg (fun h => htool h.1)]

theorem EndOutput.congr {g g' : GatewayChat} {evt : AgentEventPayload} {output : ChatOutput}
    (h : EndOutput g' evt output)
    (hregistry : g'.chatRunState.registry = g.chatRunState.registry)
    (haborted : g'.chatRunState.abortedRuns = g.chatRunState.abortedRuns)
    (hsubscribers : g'.sessionSubscribers = g.sessionSubscribers) : EndOutput g evt output := by
  have hrun : g'.clientRunIdOf evt.runId = g.clientRunIdOf evt.runId := by
    unfold clientRunIdOf
    rw [hregistry]
  have hlive : g'.isAbortedRun evt.runId = g.isAbortedRun evt.runId := by
    unfold isAbortedRun
    rw [hrun, haborted]
  cases h with
  | chat payload dropIfSlow hframe hl => exact .chat payload dropIfSlow (hrun ▸ hframe) (hlive ▸ hl)
  | nodeChat payload hframe hl => exact .nodeChat payload (hrun ▸ hframe) (hlive ▸ hl)
  | changed sessionKey phase snapshot =>
    rw [hsubscribers]
    exact .changed sessionKey phase snapshot
  | persist sessionKey => exact .persist sessionKey

theorem sent_followLifecycle (link : RunLink) (evt : AgentEventPayload) (g : GatewayChat) :
    Appends (EndOutput g evt) g.sent (g.followLifecycle rules view link evt).sent := by
  unfold followLifecycle
  split
  · dsimp only
    split_ifs
    · have hend := finalize_sent rules view evt
        (g.chatAbortControllers.has evt.runId && link.chatLink.isNone)
        (g.clearBufferedChatState link.clientRunId)
      exact hend.imp fun output h => h.congr rfl rfl rfl
    · exact Appends.refl _
  · exact finalize_sent rules view evt false g
  · split
    · rename_i sessionKey _
      exact Appends.trans (Appends.concat (.persist sessionKey) _)
        (sent_sendSessionsChanged view _ fun snapshot => .changed sessionKey _ snapshot)
    · exact Appends.refl _
  · exact Appends.refl _

/-- An event of a run sends nothing but what `EventOutput` lists. -/
theorem handle_sent (evt : AgentEventPayload) (g : GatewayChat) :
    Appends (EventOutput view g evt) g.sent (g.handleAgentEvent rules view evt).sent := by
  have hsent := delivered_sent rules view evt g
  have hsame := onlyTexts_delivered rules view g evt
  obtain ⟨agentEvents, sessionKeyCache, -, hstate⟩ := linked_state view g evt
  rw [handleAgentEvent_eq]
  refine hsent.trans ((sent_followLifecycle rules view _ evt _).imp fun output h => ?_)
  refine .ofEnd output (h.congr ?_ ?_ ?_)
  · rw [hsame.registry]
    unfold received
    rw [hstate]
  · rw [hsame.abortedRuns]
    unfold received
    rw [hstate]
  · rw [hsame.sessionSubscribers]
    unfold received
    rw [hstate]

/-- An error whose timer fires sends what the end of its run may send. -/
theorem fire_sent (runId : String) (g : GatewayChat) :
    Appends (fun output => ∃ pending,
        g.pendingTerminalLifecycleErrors.get? runId = some pending ∧
          EndOutput g pending.event output)
      g.sent (g.firePendingLifecycleError rules view runId).sent := by
  unfold firePendingLifecycleError
  split
  · rename_i pending hpending
    split_ifs
    · have hend := finalize_sent rules view pending.event pending.skipChatErrorFinal
        (g.clearPendingTerminalLifecycleError runId)
      exact hend.imp fun output h => ⟨pending, hpending, h.congr rfl rfl rfl⟩
    · exact Appends.refl _
  · exact Appends.refl _

end

end GatewayChat

end Vertx
