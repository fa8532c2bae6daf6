import Vertx.Adapter.Exceptions
import Vertx.Gateway.Server
import Vertx.Lib.Broadcast
import Vertx.Lib.Runs

/-!
# Published events and their receivers

Seen from its event frames the gateway is a broadcast channel whose subscribers are its clients:
hellos, responses and errors do not matter.  So every client is sent its part of the published
events (`fanout_exact`), and clients see only their own workspace exactly while every event is
published to clients of that workspace (`isolated_iff`).
-/

namespace Vertx

open Runs Broadcast

/-- The event frames handed to the socket of a client. -/
def GatewayConnection.events (c : GatewayConnection) : List EventFrame :=
  c.sent.filterMap ServerFrame.event?

/-- The part of a connection that concerns events. -/
def GatewayConnection.subscriber (c : GatewayConnection) :
    Subscriber EventFrame RealtimeBridgeContext where
  data := c.context
  member := c.member
  received := c.events
  joined := c.joined
  left := c.left

namespace RealtimeGateway

/-- The gateway as a channel of event frames. -/
def channel (g : RealtimeGateway) : Channel EventFrame RealtimeBridgeContext where
  subscribers := g.connections.map (·.subscriber)
  log := g.published

variable (options : RealtimeGatewayOptions)

/-- What a step of the gateway does to the channel. -/
def action (g : RealtimeGateway) : GatewayStep → Option (Action EventFrame RealtimeBridgeContext)
  | .connect resolved _ => some (.join (options.resolveClientContext resolved))
  | .publish event =>
    match g.adapter.createEventFrame event options.baseContext with
    | .ok (frame, _) => some (.publish frame)
    | .error _ => none
  | .close i => some (.leave i)
  | _ => none

variable {g : RealtimeGateway}

/-- A change of a connection that does not concern events. -/
theorem channel_modifyConnection (i : ℕ) {f : GatewayConnection → GatewayConnection}
    (h : ∀ c, (f c).subscriber = c.subscriber) (g : RealtimeGateway) :
    (g.modifyConnection i f).channel = g.channel := by
  simp only [channel, modifyConnection, Keyed.map_modify_of_eq h]

theorem channel_send {frame : ServerFrame} (h : frame.event? = none) (i : ℕ)
    (g : RealtimeGateway) : (g.send i frame).channel = g.channel :=
  channel_modifyConnection i (fun c => by
    simp [GatewayConnection.subscriber, GatewayConnection.events, h]) g

theorem channel_setHello (i : ℕ) (stage : HelloStage) (g : RealtimeGateway) :
    (g.setHello i stage).channel = g.channel :=
  channel_modifyConnection i (by intro c; rfl) g

@[simp] theorem channel_leave (error : Option JsError) (g : RealtimeGateway) :
    (g.leave error).channel = g.channel := rfl

theorem channel_sendHello (i : ℕ) (snapshot : JsValue) (audit : Audit) (g : RealtimeGateway) :
    (g.sendHello options i snapshot audit).channel = g.channel := by
  unfold sendHello
  split
  · rfl
  · rw [channel_leave, channel_setHello, channel_send rfl]

theorem channel_continueHello (i : ℕ) (snapshot : JsValue) (audit : Audit) (g : RealtimeGateway) :
    (g.continueHello options i snapshot audit).channel = g.channel := by
  unfold continueHello
  split_ifs
  · exact channel_setHello i .source g
  · exact channel_sendHello options i snapshot audit g

theorem channel_rejectHello (i : ℕ) (error : JsError) (g : RealtimeGateway) :
    (g.rejectHello i error).channel = g.channel :=
  channel_setHello i .failed g

theorem channel_respond (i : ℕ) (id : String) (result : Except JsError JsValue) (audit : Audit)
    (g : RealtimeGateway) : (g.respond i id result audit).channel = g.channel := by
  unfold respond
  cases result with
  | error e => rw [channel_leave, channel_send rfl]
  | ok value =>
    dsimp only
    split
    · exact channel_send rfl i g
    · rw [channel_leave, channel_send rfl, channel_send rfl]

theorem channel_handleSocketMessage (i : ℕ) (raw : Option JsValue) (audit : Audit)
    (g : RealtimeGateway) : (g.handleSocketMessage options i raw audit).channel = g.channel := by
  unfold handleSocketMessage
  split
  · exact channel_send rfl i g
  · split
    · unfold handleRequestFrame
      split_ifs
      · exact channel_modifyConnection i (by intro c; rfl) g
      · rw [channel_leave, channel_send rfl]
    · exact channel_send rfl i g

/-- The gateway's steps are those of the channel. -/
theorem channel_step (step : GatewayStep) :
    (g.step options step).channel =
      match g.action options step with
      | some action => g.channel.step action
      | none => g.channel := by
  cases step with
  | connect resolved audit =>
    have hjoin : ({ g with
        connections := g.connections ++ [⟨options.resolveClientContext resolved, true, .snapshot,
          [], [], g.published.length, none⟩] } : RealtimeGateway).channel =
        g.channel.step (.join (options.resolveClientContext resolved)) := by
      simp [channel, Channel.step, GatewayConnection.subscriber, GatewayConnection.events]
    simp only [RealtimeGateway.step, connect, action]
    split_ifs
    · exact hjoin
    · rw [channel_continueHello, hjoin]
  | snapshot i result audit =>
    simp only [RealtimeGateway.step, action]
    split_ifs
    · cases result with
      | ok snapshot => exact channel_continueHello options i snapshot audit g
      | error e => exact channel_rejectHello i e g
    · rfl
  | sourceSnapshot i result audit =>
    simp only [RealtimeGateway.step, action]
    split_ifs
    · cases result with
      | ok snapshot => exact channel_sendHello options i snapshot audit g
      | error e => exact channel_rejectHello i e g
    · rfl
  | message i raw audit =>
    simp only [RealtimeGateway.step, action]
    split_ifs
    · exact channel_handleSocketMessage options i raw audit g
    · rfl
  | answer i r result audit =>
    simp only [RealtimeGateway.step, action]
    split
    · rfl
    · split_ifs
      · rfl
      · rw [channel_respond]
        exact channel_modifyConnection i (by intro c; rfl) g
  | publish event =>
    simp only [RealtimeGateway.step, publish, action]
    cases g.adapter.createEventFrame event options.baseContext with
    | error e => rfl
    | ok frame =>
      have hreceive (c : GatewayConnection) :
          (if c.member then { c with sent := c.sent ++ [.event frame.1] } else c).subscriber =
            c.subscriber.receive frame.1 := by
        unfold Subscriber.receive
        by_cases hm : c.member
        · simp [GatewayConnection.subscriber, GatewayConnection.events, hm, ServerFrame.event?]
        · simp [GatewayConnection.subscriber, hm]
      simp [channel, Channel.step, hreceive]
  | close i =>
    have hleave (c : GatewayConnection) :
        (if c.member then { c with member := false, left := some g.published.length }
          else c).subscriber = c.subscriber.leave g.published.length := by
      unfold Subscriber.leave
      by_cases hm : c.member
      · simp [GatewayConnection.subscriber, GatewayConnection.events, hm]
      · simp [GatewayConnection.subscriber, hm]
    simp only [RealtimeGateway.step, action, channel, modifyConnection, Channel.step,
      Keyed.map_modify hleave]

/-! ## Exactly once and in order -/

/-- Every client has been sent the events published between its connection and its close, and the
`k`-th publication reached all the clients of that moment as the same frame. -/
structure ExactlyOnce (g : RealtimeGateway) : Prop where
  segment : ∀ c ∈ g.connections,
    c.events = (g.published.take (c.left.getD g.published.length)).drop c.joined
  same : ∀ c ∈ g.connections, ∀ c' ∈ g.connections, ∀ k,
    c.joined ≤ k → k < c.left.getD g.published.length →
    c'.joined ≤ k → k < c'.left.getD g.published.length →
    c.events[k - c.joined]? = c'.events[k - c'.joined]?

/-- Every client has received its part of the channel's log. -/
def Consistent (g : RealtimeGateway) : Prop := g.channel.Consistent

theorem Consistent.exactlyOnce (h : g.Consistent) : g.ExactlyOnce := by
  have hsegment : ∀ c ∈ g.connections,
      c.events = (g.published.take (c.left.getD g.published.length)).drop c.joined :=
    fun c hc => (h c.subscriber (List.mem_map_of_mem hc)).received
  have hat : ∀ c ∈ g.connections, ∀ k, c.joined ≤ k → k < c.left.getD g.published.length →
      c.events[k - c.joined]? = g.published[k]? := by
    intro c hc k hjoined hleft
    rw [hsegment c hc, List.getElem?_drop, List.getElem?_take]
    rw [show c.joined + (k - c.joined) = k by omega, if_pos hleft]
  refine ⟨hsegment, fun c hc c' hc' k h1 h2 h3 h4 => ?_⟩
  rw [hat c hc k h1 h2, hat c' hc' k h3 h4]

theorem consistent_step (step : GatewayStep) (h : g.Consistent) :
    (g.step options step).Consistent := by
  rw [Consistent, channel_step]
  cases g.action options step with
  | none => exact h
  | some action => exact Channel.consistent_step h action

/-- In every state of every run the clients have been sent exactly the events published while they
were connected, each once and in order. -/
theorem fanout_exact (steps : List GatewayStep) :
    Always (RealtimeGateway.step options) ExactlyOnce initial steps := by
  have hinitial : initial.Consistent := nofun
  have hconsistent : Always (RealtimeGateway.step options) Consistent initial steps :=
    Always.of_step (fun _ step => consistent_step options step) hinitial steps
  exact hconsistent.imp fun _ => Consistent.exactlyOnce

/-! ## Isolation -/

/-- The identity on the payload of a frame is the one in a client's context. -/
def Isolated (context : RealtimeBridgeContext) (frame : EventFrame) : Prop :=
  frame.payload.field "workspaceId" = .str context.workspaceId ∧
    (∀ tenantId ∈ context.tenantId, frame.payload.field "tenantId" = .str tenantId) ∧
    ∀ userId ∈ context.userId, frame.payload.field "userId" = .str userId

/-- No client has been sent an event of another workspace, tenant or user. -/
def AllIsolated (g : RealtimeGateway) : Prop :=
  ∀ c ∈ g.connections, ∀ frame ∈ c.events, Isolated c.context frame

/-- An event that can be published is so only while all the clients belong to the gateway's
workspace and to the tenant and the user that the event itself names. -/
def PublishesWithin (g : RealtimeGateway) : GatewayStep → Prop
  | .publish event => event.seq.unprintable = false → ∀ c ∈ g.connections, c.member →
      c.context.workspaceId = options.workspaceId ∧
      (∀ tenantId ∈ c.context.tenantId, event.payload.field "tenantId" = .str tenantId) ∧
      ∀ userId ∈ c.context.userId, event.payload.field "userId" = .str userId
  | _ => True

/-- The gateway stamps its workspace on a payload and nothing else. -/
theorem field_injectContext_base (payload : JsValue) :
    (injectContext payload options.baseContext).field "workspaceId" = .str options.workspaceId ∧
      (injectContext payload options.baseContext).field "tenantId" = payload.field "tenantId" ∧
      (injectContext payload options.baseContext).field "userId" = payload.field "userId" := by
  have hfields : options.baseContext.contextFields =
      [("workspaceId", JsValue.str options.workspaceId)] := rfl
  unfold injectContext
  split
  · next fields =>
    simp [hfields, JsValue.merge, JsValue.lookup_setField]
  · next hnone =>
    rw [hfields]
    refine ⟨rfl, ?_, ?_⟩ <;> cases payload <;> first | rfl | exact absurd rfl (hnone _)

theorem isolated_injectContext (context : RealtimeBridgeContext) {event : RealtimeSourceEvent}
    {frame : EventFrame} (h : frame.payload = injectContext event.payload options.baseContext) :
    Isolated context frame ↔ context.workspaceId = options.workspaceId ∧
      (∀ tenantId ∈ context.tenantId, event.payload.field "tenantId" = .str tenantId) ∧
      ∀ userId ∈ context.userId, event.payload.field "userId" = .str userId := by
  obtain ⟨hworkspace, htenant, huser⟩ := field_injectContext_base options event.payload
  rw [Isolated, h, hworkspace, htenant, huser, JsValue.str.injEq]
  exact and_congr_left' eq_comm

theorem allIsolated_iff : g.AllIsolated ↔ g.channel.Safe Isolated := by
  simp [AllIsolated, Channel.Safe, channel, GatewayConnection.subscriber]

theorem permits_iff (step : GatewayStep) :
    g.PublishesWithin options step ↔
      ∀ action ∈ g.action options step, g.channel.Permits Isolated action := by
  cases step with
  | publish event =>
    simp only [PublishesWithin, action]
    cases hcreate : g.adapter.createEventFrame event options.baseContext with
    | error e => simp [unprintable_of_thrown hcreate]
    | ok frame =>
      obtain ⟨-, hpayload, -⟩ := createEventFrame_spec hcreate
      simp [printable_of_created hcreate, Channel.Permits, channel, GatewayConnection.subscriber,
        isolated_injectContext options _ hpayload]
  | _ => simp [PublishesWithin, action, Channel.Permits]

theorem allIsolated_step_iff (step : GatewayStep) :
    (g.step options step).AllIsolated ↔ g.AllIsolated ∧ g.PublishesWithin options step := by
  rw [allIsolated_iff, allIsolated_iff, permits_iff, channel_step]
  cases g.action options step with
  | none => simp
  | some action => simp [Channel.safe_step_iff]

/-- Clients are sent events of their own workspace, tenant and user alone in exactly the runs that
publish every event within the workspace, tenant and user of all clients. -/
theorem isolated_iff (steps : List GatewayStep) :
    Always (RealtimeGateway.step options) AllIsolated initial steps ↔
      Each (RealtimeGateway.step options) (PublishesWithin options) initial steps := by
  have hinitial : AllIsolated initial := by
    intro c hc
    cases hc
  exact always_iff_each (fun _ h => h)
    (fun _ step h hok => (allIsolated_step_iff options step).2 ⟨h, hok⟩)
    (fun _ step _ hok h => hok ((allIsolated_step_iff options step).1 h).2) hinitial steps

/-- A client of another workspace is sent an event of the gateway's. -/
theorem event_to_other_workspace :
    ¬ Always (RealtimeGateway.step ⟨"workspace-1", none, none, none, false, false, false, false⟩)
      AllIsolated initial
      [.connect ⟨some "workspace-2", none, none⟩ (fun _ => none),
        .publish ⟨.chat, .obj [], .undefined, .undefined⟩] := by
  intro h
  have hworkspace := (h.2.2 _ (List.mem_singleton.2 rfl) _ (List.mem_singleton.2 rfl)).1
  revert hworkspace
  decide

end RealtimeGateway

end Vertx
