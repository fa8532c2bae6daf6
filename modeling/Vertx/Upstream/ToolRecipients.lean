import Vertx.Upstream.RunNumbers

/-!
# Who receives tool events

Tool events are not broadcast.  They go to the connections that were registered for their run, to
those that listen to all sessions and to the nodes of their session when it is verbose, and they
carry a tool's results only when it is fully verbose.
-/

namespace Vertx

open Runs

namespace ToolEventRecipientRegistry

/-- The connection is registered for the run. -/
def Holds (runId connId : String) (r : ToolEventRecipientRegistry) : Prop :=
  ∃ entry, r.get? runId = some entry ∧ entry.connIds.has connId = true

variable {now : ℤ} {run runId connId conn : String} {r : ToolEventRecipientRegistry}

theorem holds_prune (h : (prune now r).Holds runId connId) : r.Holds runId connId := by
  obtain ⟨entry, hentry, hconn⟩ := h
  rw [prune, OrderedMap.get?_filter] at hentry
  exact ⟨entry, (Option.filter_eq_some_iff.1 hentry).1, hconn⟩

theorem holds_set {entry : ToolRecipientEntry} (h : Holds runId connId (r.set run entry)) :
    r.Holds runId connId ∨ (runId = run ∧ entry.connIds.has connId = true) := by
  obtain ⟨e, he, hconn⟩ := h
  rw [OrderedMap.get?_set] at he
  split_ifs at he with hrun
  · cases he
    exact .inr ⟨hrun, hconn⟩
  · exact .inl ⟨e, he, hconn⟩

theorem holds_add (h : (add now run conn r).Holds runId connId) :
    r.Holds runId connId ∨ (runId = run ∧ connId = conn) := by
  unfold add at h
  split_ifs at h
  · exact .inl h
  · rcases holds_set (holds_prune h) with h | ⟨hrun, hconn⟩
    · exact .inl h
    · cases hentry : r.get? run with
      | none =>
        rw [hentry] at hconn
        dsimp only at hconn
        rw [OrderedSet.has_add] at hconn
        exact .inr ⟨hrun, by simpa using hconn⟩
      | some existing =>
        rw [hentry] at hconn
        dsimp only at hconn
        rw [OrderedSet.has_add, Bool.or_eq_true, decide_eq_true_eq] at hconn
        rcases hconn with hconn | hconn
        · exact .inr ⟨hrun, hconn⟩
        · exact .inl ⟨existing, hrun ▸ hentry, hconn⟩

theorem holds_get (h : (get now run r).2.Holds runId connId) : r.Holds runId connId := by
  unfold get at h
  split at h
  · exact h
  · rename_i entry hentry
    rcases holds_set (holds_prune h) with h | ⟨hrun, hconn⟩
    · exact h
    · exact ⟨entry, hrun ▸ hentry, hconn⟩

theorem holds_markFinal (h : (markFinal now run r).Holds runId connId) : r.Holds runId connId := by
  unfold markFinal at h
  split at h
  · exact h
  · rename_i entry hentry
    rcases holds_set (holds_prune h) with h | ⟨hrun, hconn⟩
    · exact h
    · exact ⟨entry, hrun ▸ hentry, hconn⟩

end ToolEventRecipientRegistry

def ChatAct.subscription? : ChatAct → Option SubscriptionStep
  | .subscription op => some op
  | _ => none

/-- The agent event that an output carries. -/
def ChatOutput.agentEvent? : ChatOutput → Option AgentEventPayload
  | .broadcast (.agent event _) _ => some event
  | .broadcastToConnIds (.agent event _) _ _ => some event
  | .broadcastToConnIds (.sessionTool event _) _ _ => some event
  | .nodeSendToSession _ (.agent event _) => some event
  | _ => none

namespace GatewayChat

/-! ## Registrations -/

/-- The act registers the connection for the run. -/
def RegistersTool (runId connId : String) (i : ChatInput) : Prop :=
  match i.act with
  | .registerToolEventRecipient run conn => run = runId ∧ conn = connId
  | _ => False

def HoldsTool (runId connId : String) (g : GatewayChat) : Prop :=
  g.toolEventRecipients.Holds runId connId

variable {view : ChatView} {evt : AgentEventPayload} {runId connId : String} {g : GatewayChat}

theorem holds_received (h : (g.received view evt).HoldsTool runId connId) :
    g.HoldsTool runId connId := by
  obtain ⟨agentEvents, sessionKeyCache, -, hstate⟩ := linked_state view g evt
  unfold HoldsTool received recipientsAfter at h
  rw [hstate] at h
  dsimp only at h
  split_ifs at h
  · exact ToolEventRecipientRegistry.holds_get h
  · exact h

theorem holds_ended (h : (g.ended view evt).HoldsTool runId connId) : g.HoldsTool runId connId := by
  rw [HoldsTool, toolEventRecipients_ended] at h
  exact ToolEventRecipientRegistry.holds_markFinal h

theorem HoldsTool.of_onlyTexts {g' : GatewayChat} (h : OnlyTexts g g')
    (hg : g'.HoldsTool runId connId) : g.HoldsTool runId connId := by
  rwa [HoldsTool, h.toolEventRecipients] at hg

theorem holds_handle {rules : ReplyTextRules}
    (h : (g.handleAgentEvent rules view evt).HoldsTool runId connId) :
    g.HoldsTool runId connId := by
  rcases handle_cases rules view g evt with ⟨-, hs⟩ | ⟨-, hs⟩ | ⟨-, -, hs⟩
  · exact holds_received (h.of_onlyTexts hs)
  · exact holds_received (holds_ended (h.of_onlyTexts hs))
  · have hscheduled := h.of_onlyTexts hs
    exact holds_received hscheduled

theorem holds_finalize {rules : ReplyTextRules} {skipChatErrorFinal : Bool}
    (h : (g.finalizeLifecycleEvent rules view evt skipChatErrorFinal).HoldsTool runId connId) :
    g.HoldsTool runId connId := by
  by_cases hends : Ends evt
  · exact holds_ended (h.of_onlyTexts (onlyTexts_finalize rules view g hends _))
  · rwa [finalize_of_not rules view g hends] at h

theorem holds_step (rules : ReplyTextRules) (g : GatewayChat) (i : ChatInput)
    (h : (step rules g i).HoldsTool runId connId) :
    g.HoldsTool runId connId ∨ RegistersTool runId connId i := by
  have haborts : CanAbort i → g.HoldsTool runId connId ∨ RegistersTool runId connId i := by
    intro hi
    rw [HoldsTool, (kept_aborts rules g hi).toolEventRecipients] at h
    exact .inl h
  obtain ⟨view, act⟩ := i
  cases act with
  | emit run stream data sessionKey => exact .inl (holds_handle (g := g.counted view.now run) h)
  | timer run =>
    refine .inl ?_
    change (g.firePendingLifecycleError rules view run).HoldsTool runId connId at h
    unfold firePendingLifecycleError at h
    split at h
    · split_ifs at h
      · exact holds_finalize (g := g.clearPendingTerminalLifecycleError run) h
      · exact h
    · exact h
  | registerToolEventRecipient run conn =>
    rcases ToolEventRecipientRegistry.holds_add h with h | ⟨rfl, rfl⟩
    · exact .inl h
    · exact .inr ⟨rfl, rfl⟩
  | abort sessionKey run requester => exact haborts trivial
  | stop sessionKey requester => exact haborts trivial
  | maintain => exact haborts trivial
  | _ => exact .inl h

/-- The connections of a run's tool events were registered for the run. -/
theorem registered_of_holds (rules : ReplyTextRules) (is : List ChatInput)
    (h : (run (step rules) initial is).HoldsTool runId connId) :
    ∃ early i late, is = early ++ i :: late ∧ RegistersTool runId connId i := by
  refine exists_of_run (fun g i => holds_step rules g i) ?_ h
  rintro ⟨entry, hentry, -⟩
  simp [initial] at hentry

/-! ## Subscriptions -/

theorem sessionSubscribers_step (rules : ReplyTextRules) (g : GatewayChat) (i : ChatInput) :
    (step rules g i).sessionSubscribers =
      run SessionSubscribers.step g.sessionSubscribers i.act.subscription?.toList := by
  have haborts : CanAbort i → (step rules g i).sessionSubscribers = g.sessionSubscribers :=
    fun hi => (kept_aborts rules g hi).sessionSubscribers
  obtain ⟨view, act⟩ := i
  cases act with
  | emit runId stream data sessionKey => exact sessionSubscribers_handle rules view _ _
  | timer runId =>
    show (g.firePendingLifecycleError rules view runId).sessionSubscribers = g.sessionSubscribers
    unfold firePendingLifecycleError
    split
    · split_ifs
      · exact sessionSubscribers_finalize rules view _ _ _
      · rfl
    · rfl
  | abort sessionKey runId requester => exact haborts trivial
  | stop sessionKey requester => exact haborts trivial
  | maintain => exact haborts trivial
  | _ => rfl

/-- The subscription acts of a run. -/
def subscriptions (is : List ChatInput) : List SubscriptionStep :=
  is.filterMap (·.act.subscription?)

theorem sessionSubscribers_run (rules : ReplyTextRules) (is : List ChatInput) (g : GatewayChat) :
    (run (step rules) g is).sessionSubscribers =
      run SessionSubscribers.step g.sessionSubscribers (subscriptions is) := by
  induction is generalizing g with
  | nil => rfl
  | cons i is ih =>
    rw [run_cons, ih, sessionSubscribers_step, ← run_append]
    congr 1
    unfold subscriptions
    rw [List.filterMap_cons]
    cases i.act.subscription? <;> rfl

/-! ## Tool events -/

/-- What may be sent of a tool event after a run of acts: to connections that were registered for
its run or that listen to all sessions, to nodes unless the level is `off`, and the results only
when it is `full`. -/
structure ToolPrivate (is : List ChatInput) (runId : String) (level : VerboseLevel)
    (output : ChatOutput) : Prop where
  notAll : ∀ event snapshot dropIfSlow, output ≠ .broadcast (.agent event snapshot) dropIfSlow
  toConnIds : ∀ payload connIds dropIfSlow connId,
    output = .broadcastToConnIds payload connIds dropIfSlow → connIds.has connId = true →
    (∃ early i late, is = early ++ i :: late ∧ RegistersTool runId connId i) ∨
      (connId ≠ "" ∧ LiveSince (SubscriptionStep.SubscribesToAll connId)
        (SubscriptionStep.CancelsAll connId) (subscriptions is))
  toNodes : ∀ sessionKey event snapshot,
    output = .nodeSendToSession sessionKey (.agent event snapshot) → level ≠ .off
  results : ∀ event, output.agentEvent? = some event → level ≠ .full →
    event.data.field "result" = .undefined ∧ event.data.field "partialResult" = .undefined

theorem lookup_filter {fields : List (String × JsValue)} {p : String × JsValue → Bool}
    {key : String}
    (h : ∀ f ∈ fields, p f = true → f.1 ≠ key) :
    JsValue.lookup key (fields.filter p) = .undefined := by
  unfold JsValue.lookup
  rw [List.find?_eq_none.2]
  intro f hf
  obtain ⟨hmem, hp⟩ := List.mem_filter.1 hf
  simpa using h f hmem hp

theorem field_withoutResults (evt : AgentEventPayload) :
    evt.withoutResults.data.field "result" = .undefined ∧
      evt.withoutResults.data.field "partialResult" = .undefined := by
  constructor
  · apply lookup_filter
    intro f _ hf
    simp only [decide_eq_true_eq] at hf
    exact hf.1
  · apply lookup_filter
    intro f _ hf
    simp only [decide_eq_true_eq] at hf
    exact hf.2

theorem field_payloadOf {view : ChatView} {g : GatewayChat} {evt : AgentEventPayload}
    (htool : evt.stream = "tool") (hlevel : g.verboseOf view evt ≠ .full) :
    (g.payloadOf view evt).data.field "result" = .undefined ∧
      (g.payloadOf view evt).data.field "partialResult" = .undefined := by
  unfold payloadOf toolPayload
  rw [if_pos ⟨htool, hlevel⟩]
  exact field_withoutResults _

/-- In every reachable state a tool event is sent to its recipients only. -/
theorem toolEvent_private (rules : ReplyTextRules) (is : List ChatInput) (view : ChatView)
    (runId : String) (data : JsValue) (sessionKey : Option String) :
    Appends
      (ToolPrivate is runId (((run (step rules) initial is).counted view.now runId).verboseOf view
        ((run (step rules) initial is).agentEvents.enriched view.now runId "tool" data sessionKey)))
      (run (step rules) initial is).sent
      (run (step rules) initial (is ++ [⟨view, .emit runId "tool" data sessionKey⟩])).sent := by
  have hholds := fun connId => @registered_of_holds runId connId rules is
  have hsubscribed : ∀ connId,
      (run (step rules) initial is).sessionSubscribers.sessionEventSubscribers.has connId = true →
      connId ≠ "" ∧ LiveSince (SubscriptionStep.SubscribesToAll connId)
        (SubscriptionStep.CancelsAll connId) (subscriptions is) := by
    intro connId h
    rw [sessionSubscribers_run] at h
    exact (SessionSubscribers.mem_events_run (subscriptions is) connId).1 h
  rw [run_append]
  generalize run (step rules) initial is = g at *
  show Appends _ g.sent (g.emitAgentEvent rules view runId "tool" data sessionKey).sent
  unfold emitAgentEvent
  refine (handle_sent rules view _ (g.counted view.now runId)).imp fun output h => ?_
  have htool : (g.agentEvents.enriched view.now runId "tool" data sessionKey).stream = "tool" := rfl
  have hrun : (g.agentEvents.enriched view.now runId "tool" data sessionKey).runId = runId := rfl
  have hresults := @field_payloadOf view (g.counted view.now runId)
    (g.agentEvents.enriched view.now runId "tool" data sessionKey) htool
  generalize g.agentEvents.enriched view.now runId "tool" data sessionKey = evt at *
  cases h with
  | ofEnd _ h =>
    cases h with
    | chat payload dropIfSlow hframe hlive =>
      refine ⟨?_, ?_, ?_, ?_⟩ <;> simp [ChatOutput.agentEvent?]
    | nodeChat payload hframe hlive =>
      refine ⟨?_, ?_, ?_, ?_⟩ <;> simp [ChatOutput.agentEvent?]
    | changed key phase snapshot =>
      refine ⟨by simp, ?_, by simp, by simp [ChatOutput.agentEvent?]⟩
      rintro _ _ _ connId ⟨⟩ hconn
      exact .inr (hsubscribed connId hconn)
    | persist key => refine ⟨?_, ?_, ?_, ?_⟩ <;> simp [ChatOutput.agentEvent?]
  | gap last hlast hpos hne => refine ⟨?_, ?_, ?_, ?_⟩ <;> simp [ChatOutput.agentEvent?]
  | toAll hnot => exact absurd htool hnot
  | toRecipients connIds snapshot _ hconnIds =>
    refine ⟨by simp, ?_, by simp, ?_⟩
    · rintro _ _ _ connId ⟨⟩ hconn
      obtain ⟨entry, hentry, rfl⟩ := Option.map_eq_some_iff.1 hconnIds
      exact .inl (hholds connId ⟨entry, hrun ▸ hentry, hconn⟩)
    · rintro _ ⟨⟩ hlevel
      exact hresults hlevel
  | toSubscribers snapshot _ =>
    refine ⟨by simp, ?_, by simp, ?_⟩
    · rintro _ _ _ connId ⟨⟩ hconn
      exact .inr (hsubscribed connId hconn)
    · rintro _ ⟨⟩ hlevel
      exact hresults hlevel
  | toNodes key snapshot hverbose =>
    refine ⟨by simp, by simp, ?_, ?_⟩
    · rintro _ _ _ ⟨⟩
      exact hverbose htool
    · rintro _ ⟨⟩ hlevel
      exact hresults hlevel

end GatewayChat

end Vertx
