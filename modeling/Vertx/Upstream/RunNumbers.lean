import Vertx.Upstream.AbortedRuns

/-!
# Gaps in the numbers of a run

The handler compares the number of an agent event with the last one of its run and reports a gap.
The numbers come from the same process and in order, so that no event is ever missing: a gap is
reported exactly when the numbers of a run were restarted that the gateway still remembers, which
clearing the run's context does.
-/

namespace Vertx

/-- A reported gap: the run's id for clients, the number that was expected and the one received. -/
def ChatOutput.gap? : ChatOutput → Option (String × ℕ × ℕ)
  | .broadcast (.seqGap runId _ expected received _) _ => some (runId, expected, received)
  | _ => none

namespace GatewayChat

open Runs

/-- The gaps that were reported. -/
def gaps (g : GatewayChat) : List (String × ℕ × ℕ) := g.sent.filterMap ChatOutput.gap?

/-- No number of the second state was not there in the first. -/
structure Forgets (g g' : GatewayChat) : Prop where
  agentRunSeq : ∀ r n, g'.agentRunSeq.get? r = some n → g.agentRunSeq.get? r = some n
  seqByRun : ∀ r n, g'.agentEvents.seqByRun.get? r = some n → g.agentEvents.seqByRun.get? r = some n

/-- The last number of a run that the gateway remembers is the last one that was given. -/
structure Numbered (g : GatewayChat) : Prop where
  pos : ∀ r n, g.agentRunSeq.get? r = some n → 0 < n
  last : ∀ r n m, g.agentRunSeq.get? r = some n → g.agentEvents.seqByRun.get? r = some m → m = n

namespace Forgets

variable {g g' g'' : GatewayChat}

theorem refl (g : GatewayChat) : Forgets g g := ⟨fun _ _ h => h, fun _ _ h => h⟩

theorem trans (h : Forgets g g') (h' : Forgets g' g'') : Forgets g g'' :=
  ⟨fun r n hn => h.agentRunSeq r n (h'.agentRunSeq r n hn),
    fun r n hn => h.seqByRun r n (h'.seqByRun r n hn)⟩

theorem numbered (h : Forgets g g') (hg : g.Numbered) : g'.Numbered where
  pos r n hn := hg.pos r n (h.agentRunSeq r n hn)
  last r n m hn hm := hg.last r n m (h.agentRunSeq r n hn) (h.seqByRun r m hm)

theorem of_onlyTexts (h : OnlyTexts g g') : Forgets g g' :=
  ⟨fun r n hn => by rwa [h.agentRunSeq] at hn, fun r n hn => by rwa [h.agentEvents] at hn⟩

end Forgets

section

variable (view : ChatView) (evt : AgentEventPayload)

/-- The end of a run makes the gateway forget its numbers. -/
theorem numbers_ended (g : GatewayChat) :
    (g.ended view evt).agentRunSeq =
        (g.agentRunSeq.delete evt.runId).delete (g.clientRunIdOf evt.runId) ∧
      (g.ended view evt).agentEvents.seqByRun = g.agentEvents.seqByRun.delete evt.runId := by
  have hclient := linkRun_clientRunId view (g.clearPendingTerminalLifecycleError evt.runId) evt
  obtain ⟨agentEvents, sessionKeyCache, hseq, hstate⟩ :=
    linkRun_state view (g.clearPendingTerminalLifecycleError evt.runId) evt
  unfold ended
  simp only [hclient, hstate]
  have hnumbers : agentEvents.seqByRun.delete evt.runId = g.agentEvents.seqByRun.delete evt.runId :=
    congrArg (OrderedMap.delete · evt.runId) hseq
  split_ifs
  · exact ⟨rfl, hnumbers⟩
  · exact ⟨rfl, hnumbers⟩

theorem forgets_ended (g : GatewayChat) : Forgets g (g.ended view evt) := by
  obtain ⟨hrunSeq, hseq⟩ := numbers_ended view evt g
  constructor
  · intro r n h
    rw [hrunSeq] at h
    exact OrderedMap.get?_of_delete (OrderedMap.get?_of_delete h)
  · intro r n h
    rw [hseq] at h
    exact OrderedMap.get?_of_delete h

theorem forgets_finalize (rules : ReplyTextRules) (skipChatErrorFinal : Bool) (g : GatewayChat) :
    Forgets g (g.finalizeLifecycleEvent rules view evt skipChatErrorFinal) := by
  by_cases h : Ends evt
  · exact (forgets_ended view evt g).trans
      (Forgets.of_onlyTexts (onlyTexts_finalize rules view g h _))
  · rw [finalize_of_not rules view g h]
    exact Forgets.refl g

end

theorem forgets_abort {now : ℤ} {stopReason : Option String} (g : GatewayChat)
    (runId sessionKey : String) :
    Forgets g (g.abortChatRunById now runId sessionKey stopReason).2 := by
  by_cases h : g.HasRun runId sessionKey
  · obtain ⟨agentRunSeq, hseq, habort⟩ := abort_of_hasRun h now stopReason
    rw [habort]
    exact ⟨fun r n hn => OrderedMap.get?_of_delete ((hseq r).symm.trans hn), fun _ _ h => h⟩
  · rw [abort_of_not h]
    exact Forgets.refl g

theorem forgets_abortAll (now : ℤ) (stopReason : Option String) (runs : List (String × String))
    (g : GatewayChat) : Forgets g (g.abortAll now stopReason runs) :=
  abortAll_rule (fun g' runId sessionKey _ h => h.trans (forgets_abort g' runId sessionKey))
    stopReason runs g (Forgets.refl g)

theorem get?_of_pruneAgentRunSeq {agentRunSeq : OrderedMap String ℕ} {r : String} {n : ℕ}
    (h : (pruneAgentRunSeq agentRunSeq).get? r = some n) : agentRunSeq.get? r = some n := by
  unfold pruneAgentRunSeq at h
  exact OrderedMap.get?_of_deleteAll h

theorem forgets_of_agentRunSeq (g : GatewayChat) (dedupe : OrderedMap String DedupeEntry)
    {agentRunSeq : OrderedMap String ℕ}
    (h : ∀ r n, agentRunSeq.get? r = some n → g.agentRunSeq.get? r = some n) :
    Forgets g { g with dedupe, agentRunSeq } := ⟨h, fun _ _ h => h⟩

theorem forgets_maintain (now : ℤ) (g : GatewayChat) : Forgets g (g.maintain now) := by
  have hprune := forgets_of_agentRunSeq g (cleanDedupe now g.dedupe)
    fun _ _ => get?_of_pruneAgentRunSeq
  unfold maintain
  dsimp only
  rw [abortExpired_eq]
  refine (hprune.trans (forgets_abortAll now (some "timeout") _ _)).trans ⟨fun _ _ h => h, ?_⟩
  intro r n h
  have hsweep :
      ((AgentEventState.sweepStaleRunContexts now AgentEventState.defaultRunContextMaxAgeMs
      (GatewayChat.agentEvents _)).seqByRun.get? r) = some n := h
  unfold AgentEventState.sweepStaleRunContexts at hsweep
  rw [AgentEventState.get?_seqByRun_clearAll] at hsweep
  split_ifs at hsweep
  exact hsweep

section

variable (view : ChatView) (runId stream : String) (data : JsValue) (sessionKey : Option String)

/-- An event that arrives is remembered under the number that it was given. -/
theorem numbers_received (g : GatewayChat) :
    (∀ r, ((g.counted view.now runId).received view
        (g.agentEvents.enriched view.now runId stream data
          sessionKey)).agentEvents.seqByRun.get? r =
      if r = runId then some ((g.agentEvents.seqByRun.get? runId).getD 0 + 1)
      else g.agentEvents.seqByRun.get? r) ∧
    ∀ r, ((g.counted view.now runId).received view
        (g.agentEvents.enriched view.now runId stream data sessionKey)).agentRunSeq.get? r =
      if r = runId then some ((g.agentEvents.seqByRun.get? runId).getD 0 + 1)
      else g.agentRunSeq.get? r := by
  obtain ⟨agentEvents, sessionKeyCache, hseq, hstate⟩ := linked_state view
    (g.counted view.now runId) (g.agentEvents.enriched view.now runId stream data sessionKey)
  unfold received
  rw [hstate]
  constructor
  · intro r
    show agentEvents.seqByRun.get? r = _
    rw [hseq]
    exact AgentEventState.get?_seqByRun_afterEmit
  · exact fun r => OrderedMap.get?_set _ _ _ _

theorem numbered_emit (rules : ReplyTextRules) {g : GatewayChat} (hg : g.Numbered) :
    (g.emitAgentEvent rules view runId stream data sessionKey).Numbered := by
  obtain ⟨hlast, hnumber⟩ := numbers_received view runId stream data sessionKey g
  have hreceived : ((g.counted view.now runId).received view
      (g.agentEvents.enriched view.now runId stream data sessionKey)).Numbered := by
    constructor
    · intro r n hn
      rw [hnumber] at hn
      split_ifs at hn
      · cases hn
        exact Nat.succ_pos _
      · exact hg.pos r n hn
    · intro r n m hn hm
      rw [hnumber] at hn
      rw [hlast] at hm
      split_ifs at hn hm
      · cases hn
        cases hm
        rfl
      · exact hg.last r n m hn hm
  unfold emitAgentEvent
  rcases handle_cases rules view (g.counted view.now runId)
    (g.agentEvents.enriched view.now runId stream data sessionKey) with ⟨-, h⟩ | ⟨-, h⟩ | ⟨-, -, h⟩
  · exact (Forgets.of_onlyTexts h).numbered hreceived
  · exact ((forgets_ended view _ _).trans (Forgets.of_onlyTexts h)).numbered hreceived
  · refine (Forgets.trans ?_ (Forgets.of_onlyTexts h)).numbered hreceived
    exact ⟨fun _ _ h => h, fun _ _ h => h⟩

end

theorem numbered_step (rules : ReplyTextRules) (g : GatewayChat) (i : ChatInput) (hg : g.Numbered) :
    (step rules g i).Numbered := by
  obtain ⟨view, act⟩ := i
  cases act with
  | emit runId stream data sessionKey => exact numbered_emit view _ _ _ _ rules hg
  | timer runId =>
    show (g.firePendingLifecycleError rules view runId).Numbered
    unfold firePendingLifecycleError
    split
    · split_ifs
      · exact (forgets_finalize view _ rules _ _).numbered ⟨hg.pos, hg.last⟩
      · exact hg
    · exact hg
  | registerContext runId context =>
    refine ⟨hg.pos, fun r n m hn hm => hg.last r n m hn ?_⟩
    rwa [← AgentEventState.seqByRun_registerAgentRunContext context]
  | clearContext runId =>
    exact ⟨hg.pos, fun r n m hn hm => hg.last r n m hn (OrderedMap.get?_of_delete hm)⟩
  | sendFinal runId sessionKey message =>
    exact ⟨fun r n hn => hg.pos r n (OrderedMap.get?_of_delete hn),
      fun r n m hn hm => hg.last r n m (OrderedMap.get?_of_delete hn) hm⟩
  | sendError runId sessionKey errorMessage =>
    exact ⟨fun r n hn => hg.pos r n (OrderedMap.get?_of_delete hn),
      fun r n m hn hm => hg.last r n m (OrderedMap.get?_of_delete hn) hm⟩
  | abort sessionKey runId requester =>
    obtain ⟨snapshots, h⟩ := chatAbort_eq view.now sessionKey runId requester g
    show (g.chatAbort view.now sessionKey runId requester).2.Numbered
    rw [h]
    have habort := (forgets_abortAll view.now (some "rpc")
      (g.abortTargets sessionKey runId requester) g).numbered hg
    exact ⟨habort.pos, habort.last⟩
  | stop sessionKey requester =>
    obtain ⟨snapshots, h⟩ :=
      abortSession_eq view.now sessionKey .stopCommand (some "stop") requester g
    show (g.abortChatRunsForSessionKeyWithPartials view.now sessionKey .stopCommand (some "stop")
      requester).2.Numbered
    rw [h]
    have habort := (forgets_abortAll view.now (some "stop")
      (g.authorizedRuns sessionKey requester) g).numbered hg
    exact ⟨habort.pos, habort.last⟩
  | maintain => exact (forgets_maintain view.now g).numbered hg
  | _ => exact ⟨hg.pos, hg.last⟩

theorem numbered_run (rules : ReplyTextRules) (is : List ChatInput) :
    (run (step rules) initial is).Numbered := by
  have hinitial : initial.Numbered := by
    constructor
    · intro r n h
      simp [initial] at h
    · intro r n m h
      simp [initial] at h
  exact run_of_step (numbered_step rules) hinitial is

/-! ## What is reported -/

/-- An output that reports no gap. -/
def NoGap (output : ChatOutput) : Prop := output.gap? = none

theorem gaps_of_appends {g g' : GatewayChat} (h : Appends NoGap g.sent g'.sent) :
    g'.gaps = g.gaps :=
  h.filterMap_eq fun _ h => h

theorem noGap_endOutput {g : GatewayChat} {evt : AgentEventPayload} {output : ChatOutput}
    (h : EndOutput g evt output) : NoGap output := by
  cases h <;> rfl

/-- An agent event reports what the check of its number reports. -/
theorem gaps_handle (rules : ReplyTextRules) (view : ChatView) (evt : AgentEventPayload)
    (g : GatewayChat) :
    (g.handleAgentEvent rules view evt).gaps =
      ((g.linked view evt).2.checkSeq view (g.linked view evt).1 evt).gaps := by
  rw [handleAgentEvent_eq, gaps_of_appends
    ((sent_followLifecycle rules view _ evt _).imp fun _ h => noGap_endOutput h)]
  unfold delivered
  generalize g.linked view evt = linked
  dsimp only
  have hchat : linked.1.isAborted = false →
      TakesFrames NoGap (FrameOf linked.1.clientRunId evt) :=
        fun _ => ⟨fun _ _ _ => rfl, fun _ _ => rfl⟩
  apply gaps_of_appends
  refine Appends.trans (sent_announce rules view hchat _ (fun _ => rfl) (fun _ _ _ _ => rfl)
    fun _ _ => rfl) (sent_sendVisible rules view hchat (fun _ _ _ => rfl) (fun htool => ?_) _)
  rw [toolPayload, if_neg fun h => htool h.1]

theorem gaps_checkSeq (view : ChatView) (link : RunLink) (evt : AgentEventPayload) (g : GatewayChat)
    {last : ℕ} (hlast : g.agentRunSeq.get? evt.runId = some last) (hpos : 0 < last) :
    (g.checkSeq view link evt).gaps =
      g.gaps ++ if evt.seq = last + 1 then [] else [(link.clientRunId, last + 1, evt.seq)] := by
  unfold checkSeq
  rw [hlast]
  simp only [Option.getD_some, hpos, true_and]
  by_cases heq : evt.seq = last + 1
  · rw [if_neg (not_not_intro heq), if_pos heq, List.append_nil]
    rfl
  · rw [if_pos heq, if_neg heq]
    exact List.filterMap_append

theorem gaps_checkSeq_none (view : ChatView) (link : RunLink) (evt : AgentEventPayload)
    (g : GatewayChat) (hlast : g.agentRunSeq.get? evt.runId = none) :
    (g.checkSeq view link evt).gaps = g.gaps := by
  unfold checkSeq
  rw [hlast]
  rfl

/-- The gap that an act reports: an event of a run that the gateway remembers under a number and
whose numbers start again. -/
def restarted (g : GatewayChat) (i : ChatInput) : List (String × ℕ × ℕ) :=
  match i.act with
  | .emit runId _ _ _ =>
    match g.agentRunSeq.get? runId, g.agentEvents.seqByRun.get? runId with
    | some last, none => [(g.clientRunIdOf runId, last + 1, 1)]
    | _, _ => []
  | _ => []

theorem gaps_emit (rules : ReplyTextRules) (view : ChatView) (runId stream : String)
    (data : JsValue) (sessionKey : Option String) {g : GatewayChat} (hg : g.Numbered) :
    (g.emitAgentEvent rules view runId stream data sessionKey).gaps =
      g.gaps ++ restarted g ⟨view, .emit runId stream data sessionKey⟩ := by
  unfold emitAgentEvent
  rw [gaps_handle]
  have hclient := linked_clientRunId view (g.counted view.now runId)
    (g.agentEvents.enriched view.now runId stream data sessionKey)
  obtain ⟨agentEvents, sessionKeyCache, -, hstate⟩ := linked_state view
    (g.counted view.now runId) (g.agentEvents.enriched view.now runId stream data sessionKey)
  generalize (g.counted view.now runId).linked view _ = linked at *
  have hgaps : linked.2.gaps = g.gaps := by rw [hstate]; rfl
  have hrunSeq : linked.2.agentRunSeq = g.agentRunSeq := by rw [hstate]; rfl
  unfold restarted
  dsimp only
  cases hlast : g.agentRunSeq.get? runId with
  | none =>
    rw [gaps_checkSeq_none view linked.1 _ linked.2 (hrunSeq ▸ hlast), hgaps]
    exact (List.append_nil _).symm
  | some last =>
    rw [gaps_checkSeq view linked.1 _ linked.2 (hrunSeq ▸ hlast) (hg.pos runId last hlast), hgaps,
      hclient]
    have hpos := hg.pos runId last hlast
    cases hnumber : g.agentEvents.seqByRun.get? runId with
    | none =>
      have hseq : (g.agentEvents.enriched view.now runId stream data sessionKey).seq = 1 := by
        simp [AgentEventState.enriched, hnumber]
      rw [hseq, if_neg (by omega)]
      rfl
    | some m =>
      have hseq :
          (g.agentEvents.enriched view.now runId stream data sessionKey).seq = last + 1 := by
        simp [AgentEventState.enriched, hnumber, hg.last runId last m hlast hnumber]
      rw [hseq, if_pos rfl]

theorem gaps_step (rules : ReplyTextRules) {g : GatewayChat} (hg : g.Numbered) (i : ChatInput) :
    (step rules g i).gaps = g.gaps ++ restarted g i := by
  have hsame : ∀ g' : GatewayChat, Appends NoGap g.sent g'.sent → g'.gaps = g.gaps ++ [] := by
    intro g' h
    rw [gaps_of_appends h, List.append_nil]
  have haborts : CanAbort i → (step rules g i).gaps = g.gaps ++ [] := fun hi =>
    hsame _ (appends_aborts rules ⟨fun _ _ _ => rfl, fun _ _ => rfl⟩ (fun _ _ => rfl) g hi)
  obtain ⟨view, act⟩ := i
  cases act with
  | emit runId stream data sessionKey => exact gaps_emit rules view _ _ _ _ hg
  | timer runId =>
    refine hsame _ ((fire_sent rules view runId g).imp fun output h => ?_)
    obtain ⟨pending, -, h⟩ := h
    exact noGap_endOutput h
  | sendFinal runId sessionKey message =>
    exact hsame _ (sent_sendChat (P := NoGap) (F := fun _ => True)
      ⟨fun _ _ _ => rfl, fun _ _ => rfl⟩ g trivial false)
  | sendError runId sessionKey errorMessage =>
    exact hsame _ (sent_sendChat (P := NoGap) (F := fun _ => True)
      ⟨fun _ _ _ => rfl, fun _ _ => rfl⟩ g trivial false)
  | abort sessionKey runId requester => exact haborts trivial
  | stop sessionKey requester => exact haborts trivial
  | maintain => exact haborts trivial
  | _ => exact hsame _ (Appends.refl _)

/-- In every reachable state, an act reports the gap of numbers that start again, and no other. -/
theorem gaps_run (rules : ReplyTextRules) (is : List ChatInput) (i : ChatInput) :
    (run (step rules) initial (is ++ [i])).gaps =
      (run (step rules) initial is).gaps ++ restarted (run (step rules) initial is) i := by
  rw [run_append]
  exact gaps_step rules (numbered_run rules is) i

/-! ## Where gaps come from -/

/-- The gateway remembers a number of the run, and the run's numbers start again. -/
def Stale (r : String) (g : GatewayChat) : Prop :=
  g.agentRunSeq.has r = true ∧ g.agentEvents.seqByRun.get? r = none

/-- The act clears the context of a run: a command that is done, or the timer for a run that has
been idle. -/
def Clears (r : String) (g : GatewayChat) (i : ChatInput) : Prop :=
  match i.act with
  | .clearContext runId => runId = r
  | .maintain => r ∈ g.agentEvents.staleRuns i.view.now AgentEventState.defaultRunContextMaxAgeMs
  | _ => False

theorem Stale.of_same {r : String} {g g' : GatewayChat} (h : g'.Stale r)
    (hrunSeq : ∀ n, g'.agentRunSeq.get? r = some n → g.agentRunSeq.get? r = some n)
    (hseq : g'.agentEvents.seqByRun.get? r = g.agentEvents.seqByRun.get? r) : g.Stale r := by
  obtain ⟨n, hn⟩ := OrderedMap.has_iff.1 h.1
  exact ⟨OrderedMap.has_iff.2 ⟨n, hrunSeq n hn⟩, hseq ▸ h.2⟩

theorem stale_ended {view : ChatView} {evt : AgentEventPayload} {r : String} {g : GatewayChat}
    (h : (g.ended view evt).Stale r) : g.Stale r := by
  obtain ⟨hrunSeq, hseq⟩ := numbers_ended view evt g
  obtain ⟨n, hn⟩ := OrderedMap.has_iff.1 h.1
  have hne : r ≠ evt.runId := by
    rintro rfl
    rw [hrunSeq] at hn
    have hn' := OrderedMap.get?_of_delete hn
    rw [OrderedMap.get?_delete_self] at hn'
    cases hn'
  refine h.of_same ((forgets_ended view evt g).agentRunSeq r) ?_
  rw [hseq, OrderedMap.get?_delete_of_ne hne]

theorem Stale.of_onlyTexts {r : String} {g g' : GatewayChat} (h : OnlyTexts g g')
    (hs : g'.Stale r) :
    g.Stale r :=
  hs.of_same ((Forgets.of_onlyTexts h).agentRunSeq r) (by rw [h.agentEvents])

theorem stale_emit {rules : ReplyTextRules} {view : ChatView} {runId stream : String}
    {data : JsValue} {sessionKey : Option String} {r : String} {g : GatewayChat}
    (h : (g.emitAgentEvent rules view runId stream data sessionKey).Stale r) : g.Stale r := by
  have hreceived : ((g.counted view.now runId).received view
      (g.agentEvents.enriched view.now runId stream data sessionKey)).Stale r := by
    unfold emitAgentEvent at h
    rcases handle_cases rules view (g.counted view.now runId)
      (g.agentEvents.enriched view.now runId stream data sessionKey) with
      ⟨-, hs⟩ | ⟨-, hs⟩ | ⟨-, -, hs⟩
    · exact h.of_onlyTexts hs
    · exact stale_ended (h.of_onlyTexts hs)
    · exact (h.of_onlyTexts hs).of_same (fun _ h => h) rfl
  obtain ⟨hlast, hnumber⟩ := numbers_received view runId stream data sessionKey g
  obtain ⟨n, hn⟩ := OrderedMap.has_iff.1 hreceived.1
  have hnone := hreceived.2
  rw [hlast] at hnone
  rw [hnumber] at hn
  split_ifs at hnone hn
  exact ⟨OrderedMap.has_iff.2 ⟨n, hn⟩, hnone⟩

theorem stale_abortAll {now : ℤ} {stopReason : Option String} {runs : List (String × String)}
    {r : String} {g : GatewayChat} (h : (g.abortAll now stopReason runs).Stale r) : g.Stale r :=
  h.of_same ((forgets_abortAll now stopReason runs g).agentRunSeq r) (by rw [agentEvents_abortAll])

theorem stale_maintain {now : ℤ} {r : String} {g : GatewayChat} (h : (g.maintain now).Stale r) :
    g.Stale r ∨
      (r ∈ g.agentEvents.staleRuns now AgentEventState.defaultRunContextMaxAgeMs ∧
        g.agentRunSeq.has r = true) := by
  obtain ⟨n, hn⟩ := OrderedMap.has_iff.1 h.1
  have hhas : g.agentRunSeq.has r = true :=
    OrderedMap.has_iff.2 ⟨n, (forgets_maintain now g).agentRunSeq r n hn⟩
  by_cases hswept : r ∈ g.agentEvents.staleRuns now AgentEventState.defaultRunContextMaxAgeMs
  · exact .inr ⟨hswept, hhas⟩
  · refine .inl ⟨hhas, ?_⟩
    have hnone : (AgentEventState.sweepStaleRunContexts now
        AgentEventState.defaultRunContextMaxAgeMs
          (abortExpired now _).agentEvents).seqByRun.get? r = none := h.2
    rw [abortExpired_eq, agentEvents_abortAll] at hnone
    unfold AgentEventState.sweepStaleRunContexts at hnone
    rwa [AgentEventState.get?_seqByRun_clearAll, if_neg hswept] at hnone

theorem stale_step (rules : ReplyTextRules) {r : String} {g : GatewayChat} {i : ChatInput}
    (h : (step rules g i).Stale r) :
    g.Stale r ∨ (Clears r g i ∧ g.agentRunSeq.has r = true) := by
  obtain ⟨view, act⟩ := i
  cases act with
  | emit runId stream data sessionKey => exact .inl (stale_emit h)
  | timer runId =>
    refine .inl ?_
    change (g.firePendingLifecycleError rules view runId).Stale r at h
    unfold firePendingLifecycleError at h
    split at h
    · rename_i pending _
      split_ifs at h
      · by_cases hends : Ends pending.event
        · exact (stale_ended (h.of_onlyTexts (onlyTexts_finalize rules view _ hends _))).of_same
            (fun _ h => h) rfl
        · rw [finalize_of_not rules view _ hends] at h
          exact h
      · exact h
    · exact h
  | registerContext runId context =>
    refine .inl (Stale.of_same h (fun _ h => h) ?_)
    exact congrArg (OrderedMap.get? · r) (AgentEventState.seqByRun_registerAgentRunContext context)
  | clearContext runId =>
    by_cases hr : r = runId
    · exact .inr ⟨hr.symm, h.1⟩
    · exact .inl (Stale.of_same h (fun _ h => h) (OrderedMap.get?_delete_of_ne hr))
  | sendFinal runId sessionKey message =>
    exact .inl (Stale.of_same h (fun _ => OrderedMap.get?_of_delete) rfl)
  | sendError runId sessionKey errorMessage =>
    exact .inl (Stale.of_same h (fun _ => OrderedMap.get?_of_delete) rfl)
  | abort sessionKey runId requester =>
    obtain ⟨snapshots, heq⟩ := chatAbort_eq view.now sessionKey runId requester g
    change (g.chatAbort view.now sessionKey runId requester).2.Stale r at h
    rw [heq] at h
    exact .inl (stale_abortAll (h.of_same (fun _ h => h) rfl))
  | stop sessionKey requester =>
    obtain ⟨snapshots, heq⟩ :=
      abortSession_eq view.now sessionKey .stopCommand (some "stop") requester g
    change (g.abortChatRunsForSessionKeyWithPartials view.now sessionKey .stopCommand (some "stop")
      requester).2.Stale r at h
    rw [heq] at h
    exact .inl (stale_abortAll (h.of_same (fun _ h => h) rfl))
  | maintain => exact stale_maintain h
  | _ => exact .inl h

theorem restarted_of_not_stale {g : GatewayChat} (h : ∀ r, ¬ g.Stale r) (i : ChatInput) :
    restarted g i = [] := by
  unfold restarted
  split
  · rename_i runId _ _ _ _
    split
    · rename_i last hlast hseq
      exact absurd ⟨OrderedMap.has_iff.2 ⟨last, hlast⟩, hseq⟩ (h runId)
    · rfl
  · rfl

/-- When the context of a run is cleared only once the gateway has forgotten the run's numbers, no
gap is ever reported. -/
theorem noGaps_run (rules : ReplyTextRules) (is : List ChatInput)
    (h : Each (step rules)
      (fun g i => ∀ r, Clears r g i → g.agentRunSeq.has r = false) initial is) :
    (run (step rules) initial is).gaps = [] := by
  have hkeep : ∀ (is : List ChatInput) (g : GatewayChat), g.Numbered → (∀ r, ¬ g.Stale r) →
      Each (step rules) (fun g i => ∀ r, Clears r g i → g.agentRunSeq.has r = false) g is →
      (run (step rules) g is).gaps = g.gaps := by
    intro is
    induction is with
    | nil => exact fun _ _ _ _ => rfl
    | cons i is ih =>
      intro g hg hstale hok
      have hstale' : ∀ r, ¬ (step rules g i).Stale r := by
        intro r hr
        rcases stale_step rules hr with hr | ⟨hclear, hhas⟩
        · exact hstale r hr
        · rw [hok.1 r hclear] at hhas
          cases hhas
      rw [run_cons, ih _ (numbered_step rules g i hg) hstale' hok.2, gaps_step rules hg,
        restarted_of_not_stale hstale, List.append_nil]
  refine (hkeep is initial (numbered_run rules []) ?_ h).trans rfl
  rintro r ⟨hr, -⟩
  exact absurd hr (by simp [initial])

/-- A run that goes on under its id after its end. -/
theorem noGaps_run_again :
    (run (step plainRules) initial
      [⟨plainView 0, .emit "run" "assistant" (.obj []) (some "main")⟩,
        ⟨plainView 1, .emit "run" "lifecycle" (.obj [("phase", .str "end")]) (some "main")⟩,
        ⟨plainView 2, .clearContext "run"⟩,
        ⟨plainView 3, .emit "run" "assistant" (.obj []) (some "main")⟩]).gaps = [] := by
  refine noGaps_run plainRules _
    ⟨fun _ h => h.elim, fun _ h => h.elim, ?_, fun _ h => h.elim, trivial⟩
  rintro r rfl
  decide +kernel

-- The context is cleared while the run goes on.
example :
    (run (step plainRules) initial
      [⟨plainView 0, .emit "run" "assistant" (.obj []) (some "main")⟩,
        ⟨plainView 1, .clearContext "run"⟩,
        ⟨plainView 2, .emit "run" "assistant" (.obj []) (some "main")⟩]).gaps =
          [("run", 2, 1)] := by
  decide +kernel

end GatewayChat

end Vertx
