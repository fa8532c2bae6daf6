import Vertx.Lib.Runs
import Vertx.Upstream.ChatOutputs

/-!
# The upstream chat as a system

`ChatAct` is everything that acts on the state of the chat: agent events, the timers of failed runs,
requests, the parts of a `chat.send` and the maintenance timer, in any order.
-/

namespace Vertx

inductive ChatAct
  /-- `emitAgentEvent`, with the handler as its listener. -/
  | emit (runId stream : String) (data : JsValue) (sessionKey : Option String)
  /-- The timer of a run's error fires. -/
  | timer (runId : String)
  | registerContext (runId : String) (context : AgentRunContext)
  | clearContext (runId : String)
  | addChatRun (sessionId : String) (entry : ChatRunEntry)
  /-- A `chat.send` registers its run, and takes it back when it is settled. -/
  | sendStarts (runId : String) (entry : ChatAbortControllerEntry)
  | sendEnds (runId : String)
  | sendFinal (runId sessionKey : String) (message : Option JsValue)
  | sendError (runId sessionKey errorMessage : String)
  /-- A `chat.abort` request. -/
  | abort (sessionKey : String) (runId : Option String) (requester : ChatAbortRequester)
  /-- A `chat.send` with a stop command. -/
  | stop (sessionKey : String) (requester : ChatAbortRequester)
  | registerToolEventRecipient (runId connId : String)
  | subscription (op : SubscriptionStep)
  | answered (key : String) (entry : DedupeEntry)
  | maintain

/-- An act, and what the chat reads from its environment at that time. -/
structure ChatInput where
  view : ChatView
  act : ChatAct

namespace GatewayChat

/-- The state in which the listeners of `emitAgentEvent` are called. -/
def counted (now : ℤ) (runId : String) (g : GatewayChat) : GatewayChat :=
  { g with agentEvents := g.agentEvents.afterEmit now runId }

/-- `emitAgentEvent` with the handler as its listener. -/
def emitAgentEvent (rules : ReplyTextRules) (view : ChatView) (runId stream : String)
    (data : JsValue) (sessionKey : Option String) (g : GatewayChat) : GatewayChat :=
  (g.counted view.now runId).handleAgentEvent rules view
    (g.agentEvents.enriched view.now runId stream data sessionKey)

def step (rules : ReplyTextRules) (g : GatewayChat) (i : ChatInput) : GatewayChat :=
  match i.act with
  | .emit runId stream data sessionKey => g.emitAgentEvent rules i.view runId stream data sessionKey
  | .timer runId => g.firePendingLifecycleError rules i.view runId
  | .registerContext runId context =>
    { g with agentEvents := g.agentEvents.registerAgentRunContext i.view.now runId context }
  | .clearContext runId => { g with agentEvents := g.agentEvents.clearAgentRunContext runId }
  | .addChatRun sessionId entry =>
    g.modifyChatRunState fun c => { c with registry := c.registry.add sessionId entry }
  | .sendStarts runId entry =>
    { g with chatAbortControllers := g.chatAbortControllers.set runId entry }
  | .sendEnds runId => { g with chatAbortControllers := g.chatAbortControllers.delete runId }
  | .sendFinal runId sessionKey message => g.broadcastChatFinal runId sessionKey message
  | .sendError runId sessionKey errorMessage => g.broadcastChatError runId sessionKey errorMessage
  | .abort sessionKey runId requester => (g.chatAbort i.view.now sessionKey runId requester).2
  | .stop sessionKey requester =>
    (g.abortChatRunsForSessionKeyWithPartials i.view.now sessionKey .stopCommand (some "stop")
      requester).2
  | .registerToolEventRecipient runId connId =>
    { g with toolEventRecipients := g.toolEventRecipients.add i.view.now runId connId }
  | .subscription op => { g with sessionSubscribers := g.sessionSubscribers.step op }
  | .answered key entry => { g with dedupe := g.dedupe.set key entry }
  | .maintain => g.maintain i.view.now

/-- The rules of upstream where no text is a heartbeat's. -/
def plainRules : ReplyTextRules := replyTextRules Char.isAlphanum fun _ text => ⟨false, text, false⟩

/-- A gateway that knows no sessions. -/
def plainView (now : ℤ) : ChatView where
  now
  hideHeartbeat := false
  heartbeatAckMaxChars := 300
  loadGatewaySessionRow _ := none
  sessionVerboseLevel _ := .off
  storeSessionKey _ := none
  formatForLog _ := "error"
  detectErrorKind _ := none

/-! ## Aborts -/

/-- The run can be aborted as a run of the session. -/
def HasRun (runId sessionKey : String) (g : GatewayChat) : Prop :=
  (g.chatAbortControllers.get? runId).map (·.sessionKey) = some sessionKey

instance (runId sessionKey : String) (g : GatewayChat) : Decidable (g.HasRun runId sessionKey) :=
  inferInstanceAs (Decidable (_ = _))

theorem clientRunId_of_remove {sessionId clientRunId : String} {sessionKey : Option String}
    {r : ChatRunRegistry} {entry : ChatRunEntry}
    (h : (r.remove sessionId clientRunId sessionKey).1 = some entry) :
    entry.clientRunId = clientRunId := by
  unfold ChatRunRegistry.remove at h
  dsimp only at h
  split at h
  · simp at h
  · rename_i idx hidx
    obtain ⟨hlt, htest, -⟩ := List.findIdx?_eq_some_iff_getElem.1 hidx
    rw [List.getElem?_eq_getElem hlt, Option.some.injEq] at h
    rw [Bool.and_eq_true, h] at htest
    simpa using htest.1

/-- The state after an abort; the numbers of the run are forgotten. -/
theorem abort_of_hasRun {runId sessionKey : String} {g : GatewayChat}
    (h : g.HasRun runId sessionKey)
    (now : ℤ) (stopReason : Option String) :
    ∃ agentRunSeq, (∀ r, agentRunSeq.get? r = (g.agentRunSeq.delete runId).get? r) ∧
      g.abortChatRunById now runId sessionKey stopReason =
        (true, { (g.dropAborted now runId sessionKey).sendChat
          (g.abortedPayload now runId sessionKey stopReason) false with agentRunSeq }) := by
  obtain ⟨active, hactive, hkey⟩ := Option.map_eq_some_iff.1 h
  unfold abortChatRunById
  rw [hactive]
  dsimp only
  rw [if_neg (not_not_intro hkey)]
  refine ⟨_, ?_, rfl⟩
  intro r
  split
  · rename_i clientRunId hremoved
    obtain ⟨entry, hentry, rfl⟩ := Option.map_eq_some_iff.1 (Option.filter_eq_some_iff.1 hremoved).1
    rw [clientRunId_of_remove hentry, OrderedMap.get?_delete]
    split_ifs with hr
    · rw [hr]
      exact (OrderedMap.get?_delete_self _ _).symm
    · rfl
  · rfl

theorem abort_of_not {runId sessionKey : String} {g : GatewayChat}
    (h : ¬ g.HasRun runId sessionKey) (now : ℤ) (stopReason : Option String) :
    g.abortChatRunById now runId sessionKey stopReason = (false, g) := by
  unfold abortChatRunById
  split
  · rfl
  · rename_i active hactive
    rw [if_pos]
    intro hkey
    exact h (by rw [HasRun, hactive, Option.map_some, hkey])

/-- Aborts runs of sessions one after the other. -/
def abortAll (now : ℤ) (stopReason : Option String) (runs : List (String × String))
    (g : GatewayChat) : GatewayChat :=
  runs.foldl (fun g r => (g.abortChatRunById now r.1 r.2 stopReason).2) g

/-- The run is one of those that are aborted. -/
def Among (c : String) (runs : List (String × String)) (g : GatewayChat) : Prop :=
  ∃ r ∈ runs, r.1 = c ∧ g.HasRun c r.2

instance (c : String) (runs : List (String × String)) (g : GatewayChat) :
    Decidable (g.Among c runs) :=
  inferInstanceAs (Decidable (∃ r ∈ runs, r.1 = c ∧ g.HasRun c r.2))

section

variable {now : ℤ} {stopReason : Option String}

theorem hasRun_abort {runId sessionKey c key : String} {g : GatewayChat} :
    (g.abortChatRunById now runId sessionKey stopReason).2.HasRun c key ↔
      g.HasRun c key ∧ ¬ (runId = c ∧ g.HasRun c sessionKey) := by
  by_cases h : g.HasRun runId sessionKey
  · obtain ⟨agentRunSeq, -, habort⟩ := abort_of_hasRun h now stopReason
    rw [habort]
    show (((g.chatAbortControllers.delete runId).get? c).map (·.sessionKey)) = some key ↔ _
    rw [OrderedMap.get?_delete]
    by_cases hc : c = runId
    · subst hc
      simp [h]
    · rw [if_neg hc]
      exact ⟨fun hkey => ⟨hkey, fun h' => hc h'.1.symm⟩, fun h' => h'.1⟩
  · rw [abort_of_not h]
    refine ⟨fun hkey => ⟨hkey, ?_⟩, fun h' => h'.1⟩
    rintro ⟨rfl, h'⟩
    exact h h'

/-- What an abort sets for its run and leaves for all others, aborts in a row set for their runs. -/
theorem abortAll_ite {α : Type*} {f : GatewayChat → α} {v : α} {c : String}
    (hf : ∀ g runId sessionKey, f (g.abortChatRunById now runId sessionKey stopReason).2 =
      if runId = c ∧ g.HasRun c sessionKey then v else f g)
    (runs : List (String × String)) (g : GatewayChat) :
    f (g.abortAll now stopReason runs) = if g.Among c runs then v else f g := by
  induction runs generalizing g with
  | nil => simp [abortAll, Among]
  | cons r runs ih =>
    rw [abortAll, List.foldl_cons, ← abortAll, ih, hf]
    simp only [Among, hasRun_abort, List.mem_cons, exists_eq_or_imp]
    by_cases hr : r.1 = c ∧ g.HasRun c r.2
    · simp [hr]
    · simp only [eq_false hr, not_false_eq_true, and_true, false_or, if_false]

variable {Q : GatewayChat → Prop}
  (habort : ∀ g runId sessionKey stopReason, Q g →
    Q (g.abortChatRunById now runId sessionKey stopReason).2)
include habort

theorem abortAll_rule (stopReason : Option String) (runs : List (String × String))
    (g : GatewayChat) (hg : Q g) : Q (g.abortAll now stopReason runs) := by
  induction runs generalizing g with
  | nil => exact hg
  | cons r runs ih => exact ih _ (habort g r.1 r.2 stopReason hg)

end

/-- The runs of a session that the requester may abort. -/
def authorizedRuns (sessionKey : String) (requester : ChatAbortRequester) (g : GatewayChat) :
    List (String × String) :=
  (g.resolveAuthorizedRunIdsForSession sessionKey requester).2.map fun runId => (runId, sessionKey)

/-- The runs whose time is up. -/
def expiredRuns (now : ℤ) (g : GatewayChat) : List (String × String) :=
  (g.chatAbortControllers.entries.filter fun e => e.2.expiresAtMs < now).map
    fun e => (e.1, e.2.sessionKey)

theorem abortRuns_eq (now : ℤ) (sessionKey : String) (stopReason : Option String)
    (runIds : List String) (g : GatewayChat) :
    (g.abortRuns now sessionKey stopReason runIds).2 =
      g.abortAll now stopReason (runIds.map fun runId => (runId, sessionKey)) := by
  induction runIds generalizing g with
  | nil => rfl
  | cons runId runIds ih => exact ih _

theorem abortExpired_eq (now : ℤ) (g : GatewayChat) :
    g.abortExpired now = g.abortAll now (some "timeout") (g.expiredRuns now) := by
  unfold abortExpired abortAll expiredRuns
  rw [List.foldl_map]

/-- The runs that a `chat.abort` request aborts. -/
def abortTargets (sessionKey : String) (runId : Option String) (requester : ChatAbortRequester)
    (g : GatewayChat) : List (String × String) :=
  match nonEmpty? runId with
  | none => g.authorizedRuns sessionKey requester
  | some runId =>
    match g.chatAbortControllers.get? runId with
    | none => []
    | some active =>
      if active.sessionKey = sessionKey ∧ canRequesterAbortChatRun active requester then
        [(runId, sessionKey)]
      else []

theorem persistAbortedPartials_nil (sessionKey : String) (g : GatewayChat) :
    g.persistAbortedPartials sessionKey [] = g := by
  simp [persistAbortedPartials]

theorem abortSession_eq (now : ℤ) (sessionKey : String) (abortOrigin : AbortOrigin)
    (stopReason : Option String) (requester : ChatAbortRequester) (g : GatewayChat) :
    ∃ snapshots, (g.abortChatRunsForSessionKeyWithPartials now sessionKey abortOrigin stopReason
        requester).2 =
      (g.abortAll now stopReason (g.authorizedRuns sessionKey requester)).persistAbortedPartials
        sessionKey snapshots := by
  unfold abortChatRunsForSessionKeyWithPartials authorizedRuns
  dsimp only
  rw [← abortRuns_eq]
  split_ifs with hnone
  · rw [hnone]
    exact ⟨[], (persistAbortedPartials_nil _ _).symm⟩
  · exact ⟨[], (persistAbortedPartials_nil _ _).symm⟩
  · exact ⟨_, rfl⟩

theorem chatAbort_eq (now : ℤ) (sessionKey : String) (runId : Option String)
    (requester : ChatAbortRequester) (g : GatewayChat) :
    ∃ snapshots, (g.chatAbort now sessionKey runId requester).2 =
      (g.abortAll now (some "rpc")
      (g.abortTargets sessionKey runId requester)).persistAbortedPartials
        sessionKey snapshots := by
  unfold chatAbort abortTargets
  cases nonEmpty? runId with
  | none => exact abortSession_eq now sessionKey _ _ requester g
  | some runId =>
    dsimp only
    cases g.chatAbortControllers.get? runId with
    | none => exact ⟨[], (persistAbortedPartials_nil _ _).symm⟩
    | some active =>
      dsimp only
      by_cases hkey : active.sessionKey = sessionKey
      · by_cases hcan : canRequesterAbortChatRun active requester = true
        · simp only [hkey, hcan, ne_eq, not_true_eq_false, if_false, Bool.not_true,
            Bool.false_eq_true, and_self, if_true]
          exact ⟨_, rfl⟩
        · refine ⟨[], ?_⟩
          rw [persistAbortedPartials_nil]
          simp [hkey, hcan, abortAll]
      · refine ⟨[], ?_⟩
        rw [persistAbortedPartials_nil]
        simp [hkey, abortAll]

/-- The runs that an act aborts. -/
def abortedBy (i : ChatInput) (g : GatewayChat) : List (String × String) :=
  match i.act with
  | .abort sessionKey runId requester => g.abortTargets sessionKey runId requester
  | .stop sessionKey requester => g.authorizedRuns sessionKey requester
  | .maintain => g.expiredRuns i.view.now
  | _ => []

variable {g : GatewayChat} {c : String}

theorem among_authorizedRuns {sessionKey : String} {requester : ChatAbortRequester} :
    g.Among c (g.authorizedRuns sessionKey requester) ↔
      ∃ active, g.chatAbortControllers.get? c = some active ∧ active.sessionKey = sessionKey ∧
        canRequesterAbortChatRun active requester = true := by
  unfold Among authorizedRuns resolveAuthorizedRunIdsForSession HasRun
  constructor
  · rintro ⟨r, hr, rfl, hrun⟩
    obtain ⟨runId, hrunId, rfl⟩ := List.mem_map.1 hr
    obtain ⟨e, he, rfl⟩ := List.mem_map.1 hrunId
    obtain ⟨he, hcan⟩ := List.mem_filter.1 he
    obtain ⟨he, hkey⟩ := List.mem_filter.1 he
    exact ⟨e.2, OrderedMap.get?_eq_some.2 he, by simpa using hkey, hcan⟩
  · rintro ⟨active, hactive, hkey, hcan⟩
    refine ⟨(c, sessionKey), List.mem_map_of_mem ?_, rfl, by rw [hactive, Option.map_some, hkey]⟩
    refine List.mem_map.2 ⟨(c, active), List.mem_filter.2 ⟨List.mem_filter.2 ⟨?_, ?_⟩, hcan⟩, rfl⟩
    · exact OrderedMap.get?_eq_some.1 hactive
    · simpa using hkey

theorem among_abortTargets {sessionKey : String} {runId : Option String}
    {requester : ChatAbortRequester} :
    g.Among c (g.abortTargets sessionKey runId requester) ↔
      ∃ active, g.chatAbortControllers.get? c = some active ∧ active.sessionKey = sessionKey ∧
        canRequesterAbortChatRun active requester = true ∧ ∀ r ∈ nonEmpty? runId, r = c := by
  unfold abortTargets
  cases nonEmpty? runId with
  | none =>
    rw [among_authorizedRuns]
    simp
  | some runId =>
    dsimp only
    simp only [Option.mem_def, Option.some.injEq, forall_eq']
    constructor
    · cases hactive : g.chatAbortControllers.get? runId with
      | none =>
        rintro ⟨r, hr, -⟩
        simp at hr
      | some active =>
        dsimp only
        split_ifs with h
        · rintro ⟨r, hr, rfl, -⟩
          obtain rfl := List.mem_singleton.1 hr
          exact ⟨active, hactive, h.1, h.2, rfl⟩
        · rintro ⟨r, hr, -⟩
          simp at hr
    · rintro ⟨active, hactive, hkey, hcan, rfl⟩
      rw [hactive]
      dsimp only
      rw [if_pos ⟨hkey, hcan⟩]
      refine ⟨_, List.mem_singleton_self _, rfl, ?_⟩
      rw [HasRun, hactive, Option.map_some, hkey]

theorem among_expiredRuns {now : ℤ} :
    g.Among c (g.expiredRuns now) ↔
      ∃ active, g.chatAbortControllers.get? c = some active ∧ active.expiresAtMs < now := by
  unfold Among expiredRuns HasRun
  constructor
  · rintro ⟨r, hr, rfl, -⟩
    obtain ⟨e, he, rfl⟩ := List.mem_map.1 hr
    obtain ⟨he, hexp⟩ := List.mem_filter.1 he
    exact ⟨e.2, OrderedMap.get?_eq_some.2 he, by simpa using hexp⟩
  · rintro ⟨active, hactive, hexp⟩
    refine ⟨(c, active.sessionKey), List.mem_map.2 ⟨(c, active), List.mem_filter.2 ⟨?_, ?_⟩, rfl⟩,
      rfl, by rw [hactive, Option.map_some]⟩
    · exact OrderedMap.get?_eq_some.1 hactive
    · simpa using hexp

/-- The acts that abort runs. -/
def CanAbort (i : ChatInput) : Prop :=
  match i.act with
  | .abort _ _ _ => True
  | .stop _ _ => True
  | .maintain => True
  | _ => False

theorem canAbort_of_among {c : String} {g : GatewayChat} {i : ChatInput}
    (h : g.Among c (g.abortedBy i)) : CanAbort i := by
  obtain ⟨r, hr, -⟩ := h
  unfold abortedBy at hr
  unfold CanAbort
  split at hr
  all_goals simp_all

/-! ## What aborts send and which runs they leave -/

theorem sent_abort {now : ℤ} {stopReason : Option String} {P : ChatOutput → Prop}
    (g : GatewayChat) (runId sessionKey : String)
    (hP : g.HasRun runId sessionKey → TakesFrames P fun p => p.runId = runId ∧ p.state = .aborted) :
    Appends P g.sent (g.abortChatRunById now runId sessionKey stopReason).2.sent := by
  by_cases h : g.HasRun runId sessionKey
  · obtain ⟨agentRunSeq, -, habort⟩ := abort_of_hasRun h now stopReason
    rw [habort]
    exact sent_sendChat (hP h) (g.dropAborted now runId sessionKey) ⟨rfl, rfl⟩ false
  · rw [abort_of_not h]
    exact Appends.refl _

theorem appends_abortAll {now : ℤ} {stopReason : Option String} {P : ChatOutput → Prop}
    (hP : TakesFrames P fun p => p.state = .aborted) (runs : List (String × String))
    (g : GatewayChat) : Appends P g.sent (g.abortAll now stopReason runs).sent := by
  have habort : ∀ (g' : GatewayChat) (runId sessionKey : String) (stopReason : Option String),
      Appends P g.sent g'.sent →
      Appends P g.sent (g'.abortChatRunById now runId sessionKey stopReason).2.sent :=
    fun g' runId sessionKey _ h => h.trans (sent_abort g' runId sessionKey fun _ =>
      ⟨fun p d hp => hP.broadcast p d hp.2, fun p hp => hP.node p hp.2⟩)
  exact abortAll_rule habort stopReason runs g (Appends.refl _)

theorem appends_persist {P : ChatOutput → Prop}
    (hP : ∀ sessionKey snapshot, P (.persistPartial sessionKey snapshot)) (sessionKey : String)
    (snapshots : List AbortedPartialSnapshot) (g : GatewayChat) :
    Appends P g.sent (g.persistAbortedPartials sessionKey snapshots).sent := by
  refine Appends.append ?_ _
  intro output houtput
  obtain ⟨snapshot, -, rfl⟩ := List.mem_map.1 houtput
  exact hP _ _

/-- What an act that aborts runs may send. -/
theorem appends_aborts (rules : ReplyTextRules) {P : ChatOutput → Prop}
    (hframes : TakesFrames P fun p => p.state = .aborted)
    (hpersist : ∀ sessionKey snapshot, P (.persistPartial sessionKey snapshot)) (g : GatewayChat)
    {i : ChatInput} (hi : CanAbort i) : Appends P g.sent (step rules g i).sent := by
  obtain ⟨view, act⟩ := i
  cases act with
  | abort sessionKey runId requester =>
    obtain ⟨snapshots, h⟩ := chatAbort_eq view.now sessionKey runId requester g
    show Appends _ _ (g.chatAbort view.now sessionKey runId requester).2.sent
    rw [h]
    exact (appends_abortAll hframes _ g).trans (appends_persist hpersist _ _ _)
  | stop sessionKey requester =>
    obtain ⟨snapshots, h⟩ :=
      abortSession_eq view.now sessionKey .stopCommand (some "stop") requester g
    show Appends _ _ (g.abortChatRunsForSessionKeyWithPartials view.now sessionKey .stopCommand
      (some "stop") requester).2.sent
    rw [h]
    exact (appends_abortAll hframes _ g).trans (appends_persist hpersist _ _ _)
  | maintain =>
    show Appends _ _ (abortExpired view.now _).sent
    rw [abortExpired_eq]
    exact appends_abortAll hframes _ { g with
      dedupe := cleanDedupe view.now g.dedupe
      agentRunSeq := pruneAgentRunSeq g.agentRunSeq }
  | _ => exact hi.elim

theorem get?_chatAbortControllers_abort {now : ℤ} {stopReason : Option String} {c : String}
    (g : GatewayChat) (runId sessionKey : String) :
    (g.abortChatRunById now runId sessionKey stopReason).2.chatAbortControllers.get? c =
      if runId = c ∧ g.HasRun c sessionKey then none else g.chatAbortControllers.get? c := by
  by_cases h : g.HasRun runId sessionKey
  · obtain ⟨agentRunSeq, -, habort⟩ := abort_of_hasRun h now stopReason
    rw [habort]
    show (g.chatAbortControllers.delete runId).get? c = _
    rw [OrderedMap.get?_delete]
    by_cases hc : c = runId
    · subst hc
      simp [h]
    · rw [if_neg hc, if_neg fun h' => hc h'.1.symm]
  · rw [abort_of_not h, if_neg]
    rintro ⟨rfl, h'⟩
    exact h h'

theorem get?_chatAbortControllers_abortAll (now : ℤ) (stopReason : Option String) (c : String)
    (runs : List (String × String)) (g : GatewayChat) :
    (g.abortAll now stopReason runs).chatAbortControllers.get? c =
      if g.Among c runs then none else g.chatAbortControllers.get? c :=
  abortAll_ite (f := fun g : GatewayChat => g.chatAbortControllers.get? c)
    get?_chatAbortControllers_abort runs g

theorem get?_chatAbortControllers_step (rules : ReplyTextRules) (c : String) (g : GatewayChat)
    {i : ChatInput} (hi : CanAbort i) :
    (step rules g i).chatAbortControllers.get? c =
      if g.Among c (g.abortedBy i) then none else g.chatAbortControllers.get? c := by
  obtain ⟨view, act⟩ := i
  cases act with
  | abort sessionKey runId requester =>
    obtain ⟨snapshots, h⟩ := chatAbort_eq view.now sessionKey runId requester g
    show (g.chatAbort view.now sessionKey runId requester).2.chatAbortControllers.get? c = _
    rw [h]
    exact get?_chatAbortControllers_abortAll _ _ _ _ g
  | stop sessionKey requester =>
    obtain ⟨snapshots, h⟩ :=
      abortSession_eq view.now sessionKey .stopCommand (some "stop") requester g
    show (g.abortChatRunsForSessionKeyWithPartials view.now sessionKey .stopCommand (some "stop")
      requester).2.chatAbortControllers.get? c = _
    rw [h]
    exact get?_chatAbortControllers_abortAll _ _ _ _ g
  | maintain =>
    show (abortExpired view.now _).chatAbortControllers.get? c = _
    rw [abortExpired_eq, get?_chatAbortControllers_abortAll]
    refine if_congr ?_ rfl rfl
    show Among c (expiredRuns _ _) _ ↔ g.Among c (g.expiredRuns view.now)
    rw [among_expiredRuns, among_expiredRuns]
  | _ => exact hi.elim

theorem agentEvents_abortAll (now : ℤ) (stopReason : Option String) (runs : List (String × String))
    (g : GatewayChat) : (g.abortAll now stopReason runs).agentEvents = g.agentEvents := by
  have habort : ∀ (g' : GatewayChat) (runId sessionKey : String) (stopReason : Option String),
      g'.agentEvents = g.agentEvents →
      (g'.abortChatRunById now runId sessionKey stopReason).2.agentEvents = g.agentEvents := by
    intro g' runId sessionKey stopReason h
    by_cases hrun : g'.HasRun runId sessionKey
    · obtain ⟨agentRunSeq, -, habort⟩ := abort_of_hasRun hrun now stopReason
      rw [habort]
      exact h
    · rw [abort_of_not hrun]
      exact h
  exact abortAll_rule habort stopReason runs g rfl

/-- What no act that aborts runs touches. -/
structure Kept (g g' : GatewayChat) : Prop where
  toolEventRecipients : g'.toolEventRecipients = g.toolEventRecipients
  sessionSubscribers : g'.sessionSubscribers = g.sessionSubscribers
  pending : g'.pendingTerminalLifecycleErrors = g.pendingTerminalLifecycleErrors

theorem kept_abortAll (now : ℤ) (stopReason : Option String) (runs : List (String × String))
    (g : GatewayChat) : Kept g (g.abortAll now stopReason runs) := by
  have habort : ∀ (g' : GatewayChat) (runId sessionKey : String) (stopReason : Option String),
      Kept g g' → Kept g (g'.abortChatRunById now runId sessionKey stopReason).2 := by
    intro g' runId sessionKey stopReason h
    by_cases hrun : g'.HasRun runId sessionKey
    · obtain ⟨agentRunSeq, -, habort⟩ := abort_of_hasRun hrun now stopReason
      rw [habort]
      exact ⟨h.toolEventRecipients, h.sessionSubscribers, h.pending⟩
    · rwa [abort_of_not hrun]
  exact abortAll_rule habort stopReason runs g ⟨rfl, rfl, rfl⟩

theorem kept_maintain (now : ℤ) (g : GatewayChat) : Kept g (g.maintain now) := by
  have hexpired : ∀ g₀ : GatewayChat, Kept g g₀ → Kept g (g₀.abortExpired now) := by
    intro g₀ h
    have h' := kept_abortAll now (some "timeout") (g₀.expiredRuns now) g₀
    rw [abortExpired_eq]
    exact ⟨h'.toolEventRecipients.trans h.toolEventRecipients,
      h'.sessionSubscribers.trans h.sessionSubscribers, h'.pending.trans h.pending⟩
  have h := hexpired { g with
    dedupe := cleanDedupe now g.dedupe
    agentRunSeq := pruneAgentRunSeq g.agentRunSeq } ⟨rfl, rfl, rfl⟩
  unfold maintain
  dsimp only
  generalize abortExpired now _ = g' at h
  exact ⟨h.toolEventRecipients, h.sessionSubscribers, h.pending⟩

theorem kept_aborts (rules : ReplyTextRules) (g : GatewayChat) {i : ChatInput} (hi : CanAbort i) :
    Kept g (step rules g i) := by
  obtain ⟨view, act⟩ := i
  cases act with
  | abort sessionKey runId requester =>
    obtain ⟨snapshots, h⟩ := chatAbort_eq view.now sessionKey runId requester g
    show Kept g (g.chatAbort view.now sessionKey runId requester).2
    rw [h]
    have hkept := kept_abortAll view.now (some "rpc") (g.abortTargets sessionKey runId requester) g
    exact ⟨hkept.toolEventRecipients, hkept.sessionSubscribers, hkept.pending⟩
  | stop sessionKey requester =>
    obtain ⟨snapshots, h⟩ :=
      abortSession_eq view.now sessionKey .stopCommand (some "stop") requester g
    show Kept g (g.abortChatRunsForSessionKeyWithPartials view.now sessionKey .stopCommand
      (some "stop") requester).2
    rw [h]
    have hkept := kept_abortAll view.now (some "stop") (g.authorizedRuns sessionKey requester) g
    exact ⟨hkept.toolEventRecipients, hkept.sessionSubscribers, hkept.pending⟩
  | maintain => exact kept_maintain view.now g
  | _ => exact hi.elim

end GatewayChat

end Vertx
