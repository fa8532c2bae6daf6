import Vertx.Adapter.Failures
import Vertx.Gateway.Hello

/-!
# Failures of the gateway

The connection handler and the message handler call `async` functions with `void`.  A hello whose
snapshot cannot be had is such a promise left rejected, and its client gets no frame.
-/

namespace Vertx

open Runs

/-- A client whose hello could not be built has been sent an error frame, or is gone. -/
def GatewayConnection.Told (c : GatewayConnection) : Prop :=
  c.hello = .failed → (∃ code message, ServerFrame.error code message ∈ c.sent) ∨ c.member = false

namespace RealtimeGateway

variable (options : RealtimeGatewayOptions) {g : RealtimeGateway}

/-- No promise has been left rejected, and every client has been told of a hello that failed. -/
structure FailuresTold (g : RealtimeGateway) : Prop where
  unhandled : g.unhandled = []
  told : ∀ c ∈ g.connections, c.Told

/-- What the continuation of a hello leaves rejected. -/
def helloRejections (snapshot : JsValue) (audit : Audit) : List JsError :=
  if snapshot.isNullish ∧ options.sourceGetSnapshot then [] else (audit 0).toList

/-- What a step leaves rejected: hellos without their snapshot, and records that throw. -/
def leftRejected (g : RealtimeGateway) : GatewayStep → List JsError
  | .connect _ audit => if options.snapshot then [] else helloRejections options .undefined audit
  | .snapshot i result audit =>
    if g.connections[i]?.any (·.hello = .snapshot) then
      match result with
      | .ok snapshot => helloRejections options snapshot audit
      | .error e => [e]
    else []
  | .sourceSnapshot i result audit =>
    if g.connections[i]?.any (·.hello = .source) then
      match result with
      | .ok _ => (audit 0).toList
      | .error e => [e]
    else []
  | .message i raw audit =>
    if g.connections[i]?.any (·.member) ∧ raw.any isRequestFrame ∧
        ¬ (options.requestHandler ∨ options.sourceRequest) then
      (audit 0).toList
    else []
  | .answer i r result audit =>
    match g.connections[i]?.bind (·.tasks[r]?) with
    | none => []
    | some task =>
      if task.answered then []
      else
        match result with
        | .ok _ => if (audit 0).isSome then (audit 1).toList else []
        | .error _ => (audit 0).toList
  | .publish _ => []
  | .close _ => []

/-! ## What the parts of a step leave rejected -/

theorem unhandled_sendHello {i : ℕ} {c : GatewayConnection} (hc : g.connections[i]? = some c)
    (snapshot : JsValue) (audit : Audit) :
    (g.sendHello options i snapshot audit).unhandled = g.unhandled ++ (audit 0).toList := by
  unfold sendHello
  rw [hc]
  rfl

theorem unhandled_continueHello {i : ℕ} {c : GatewayConnection} (hc : g.connections[i]? = some c)
    (snapshot : JsValue) (audit : Audit) :
    (g.continueHello options i snapshot audit).unhandled =
      g.unhandled ++ helloRejections options snapshot audit := by
  unfold continueHello helloRejections
  split_ifs
  · exact (List.append_nil _).symm
  · exact unhandled_sendHello options hc snapshot audit

theorem unhandled_connect (resolved : ResolvedContext) (audit : Audit) :
    (g.connect options resolved audit).unhandled =
      g.unhandled ++ if options.snapshot then [] else helloRejections options .undefined audit := by
  unfold connect
  dsimp only
  split_ifs
  · exact (List.append_nil _).symm
  · refine unhandled_continueHello options (c := ⟨options.resolveClientContext resolved, true,
      .snapshot, [], [], g.published.length, none⟩) ?_ .undefined audit
    simp

theorem unhandled_handleSocketMessage (i : ℕ) (raw : Option JsValue) (audit : Audit) :
    (g.handleSocketMessage options i raw audit).unhandled =
      g.unhandled ++
        if raw.any isRequestFrame ∧ ¬ (options.requestHandler ∨ options.sourceRequest) then
          (audit 0).toList
        else [] := by
  unfold handleSocketMessage
  cases raw with
  | none => exact (List.append_nil _).symm
  | some parsed =>
    dsimp only
    split
    · next id method hframe hid hmethod =>
      unfold handleRequestFrame
      rw [Option.any_some, hframe]
      by_cases hhandler : (options.requestHandler ∨ options.sourceRequest : Prop)
      · rw [if_pos hhandler, if_neg fun h => h.2 hhandler, List.append_nil]
        rfl
      · rw [if_neg hhandler, if_pos ⟨rfl, hhandler⟩]
        rfl
    · next hnot =>
      have hframe : ¬ isRequestFrame parsed = true := by
        intro hframe
        have hparts := hframe
        simp only [isRequestFrame, Bool.and_eq_true, Option.isSome_iff_exists] at hparts
        obtain ⟨⟨-, id, hid⟩, method, hmethod⟩ := hparts
        exact hnot id method hframe (asString?_eq_some.1 hid) (asString?_eq_some.1 hmethod)
      rw [Option.any_some, if_neg fun h => hframe h.1, List.append_nil]
      rfl

theorem unhandled_respond (i : ℕ) (id : String) (result : Except JsError JsValue) (audit : Audit) :
    (g.respond i id result audit).unhandled =
      g.unhandled ++
        match result with
        | .ok _ => if (audit 0).isSome then (audit 1).toList else []
        | .error _ => (audit 0).toList := by
  unfold respond
  cases result with
  | error e => rfl
  | ok value =>
    dsimp only
    cases audit 0 with
    | none => exact (List.append_nil _).symm
    | some e => rfl

/-- A step of the gateway leaves rejected what `leftRejected` lists. -/
theorem unhandled_step (step : GatewayStep) :
    (g.step options step).unhandled = g.unhandled ++ g.leftRejected options step := by
  have hconnection {i : ℕ} {p : GatewayConnection → Bool} (h : g.connections[i]?.any p) :
      ∃ c, g.connections[i]? = some c := by
    obtain ⟨c, hc, -⟩ := (Option.any_eq_true _ _).1 h
    exact ⟨c, hc⟩
  cases step with
  | connect resolved audit => exact unhandled_connect options resolved audit
  | snapshot i result audit =>
    simp only [RealtimeGateway.step, leftRejected]
    split_ifs with hany
    · obtain ⟨c, hc⟩ := hconnection hany
      cases result with
      | ok snapshot => exact unhandled_continueHello options hc snapshot audit
      | error e => rfl
    · exact (List.append_nil _).symm
  | sourceSnapshot i result audit =>
    simp only [RealtimeGateway.step, leftRejected]
    split_ifs with hany
    · obtain ⟨c, hc⟩ := hconnection hany
      cases result with
      | ok snapshot => exact unhandled_sendHello options hc snapshot audit
      | error e => rfl
    · exact (List.append_nil _).symm
  | message i raw audit =>
    simp only [RealtimeGateway.step, leftRejected]
    by_cases hany : g.connections[i]?.any (·.member)
    · rw [if_pos hany, unhandled_handleSocketMessage]
      refine congrArg (g.unhandled ++ ·) (if_congr ?_ rfl rfl)
      exact ⟨fun h => ⟨hany, h⟩, fun h => h.2⟩
    · rw [if_neg hany, if_neg fun h => hany h.1, List.append_nil]
  | answer i r result audit =>
    simp only [RealtimeGateway.step, leftRejected]
    cases g.connections[i]?.bind (·.tasks[r]?) with
    | none => exact (List.append_nil _).symm
    | some task =>
      dsimp only
      by_cases hanswered : task.answered
      · rw [if_pos hanswered, if_pos hanswered, List.append_nil]
      · rw [if_neg hanswered, if_neg hanswered]
        exact unhandled_respond i task.id result audit
  | publish event =>
    simp only [RealtimeGateway.step, publish, leftRejected, List.append_nil]
    split <;> rfl
  | close i => exact (List.append_nil _).symm

/-! ## Hellos that do not fail -/

/-- The hello of no client has failed. -/
def HellosAlive (g : RealtimeGateway) : Prop := ∀ c ∈ g.connections, c.hello ≠ .failed

theorem HellosAlive.send (h : g.HellosAlive) (i : ℕ) (frame : ServerFrame) :
    (g.send i frame).HellosAlive :=
  forall_modifyConnection h fun c hc => h c (List.mem_of_getElem? hc)

theorem HellosAlive.setHello (h : g.HellosAlive) (i : ℕ) {stage : HelloStage}
    (hstage : stage ≠ .failed) : (g.setHello i stage).HellosAlive :=
  forall_modifyConnection h fun _ _ => hstage

theorem HellosAlive.sendHello (h : g.HellosAlive) (i : ℕ) (snapshot : JsValue) (audit : Audit) :
    (g.sendHello options i snapshot audit).HellosAlive := by
  unfold RealtimeGateway.sendHello
  split
  · exact h
  · exact (h.send i _).setHello i (by decide)

theorem HellosAlive.continueHello (h : g.HellosAlive) (i : ℕ) (snapshot : JsValue) (audit : Audit) :
    (g.continueHello options i snapshot audit).HellosAlive := by
  unfold RealtimeGateway.continueHello
  split_ifs
  · exact h.setHello i (by decide)
  · exact h.sendHello options i snapshot audit

/-- A hello fails only in a step that leaves its promise rejected. -/
theorem HellosAlive.step (h : g.HellosAlive) (step : GatewayStep)
    (hok : g.leftRejected options step = []) : (g.step options step).HellosAlive := by
  cases step with
  | connect resolved audit =>
    simp only [RealtimeGateway.step, RealtimeGateway.connect]
    generalize hjoined : ({ g with connections := g.connections ++ [_] } : RealtimeGateway) = joined
    have halive : joined.HellosAlive := by
      rw [← hjoined]
      intro c hc
      rcases List.mem_append.1 hc with hc | hc
      · exact h c hc
      · rw [List.mem_singleton.1 hc]
        simp
    split_ifs
    · exact halive
    · exact halive.continueHello options _ _ audit
  | snapshot i result audit =>
    simp only [RealtimeGateway.step]
    split_ifs with hany
    · cases result with
      | ok snapshot => exact h.continueHello options i snapshot audit
      | error e =>
        simp only [leftRejected, if_pos hany] at hok
        cases hok
    · exact h
  | sourceSnapshot i result audit =>
    simp only [RealtimeGateway.step]
    split_ifs with hany
    · cases result with
      | ok snapshot => exact h.sendHello options i snapshot audit
      | error e =>
        simp only [leftRejected, if_pos hany] at hok
        cases hok
    · exact h
  | message i raw audit =>
    simp only [RealtimeGateway.step]
    split_ifs
    · rcases handleSocketMessage_cases options i raw audit g with
        ⟨-, task, -, -, heq⟩ | ⟨-, frame, error, -, heq⟩
      · rw [heq]
        exact forall_modifyConnection h fun c hc => h c (List.mem_of_getElem? hc)
      · rw [heq]
        exact h.send i frame
    · exact h
  | answer i r result audit =>
    simp only [RealtimeGateway.step]
    split
    · exact h
    · next task _ =>
      split_ifs
      · exact h
      · have hmarked : (g.modifyConnection i fun c => { c with
            tasks := c.tasks.modify r fun task => { task with answered := true } }).HellosAlive :=
          forall_modifyConnection h fun c hc => h c (List.mem_of_getElem? hc)
        unfold respond
        cases result with
        | error e => exact hmarked.send i _
        | ok value =>
          dsimp only
          split
          · exact hmarked.send i _
          · exact (hmarked.send i _).send i _
  | publish event =>
    simp only [RealtimeGateway.step, publish]
    split
    · exact h
    · intro c hc
      obtain ⟨c', hc', rfl⟩ := List.mem_map.1 hc
      split_ifs
      · exact h c' hc'
      · exact h c' hc'
  | close i =>
    refine forall_modifyConnection h fun c hc => ?_
    have halive := h c (List.mem_of_getElem? hc)
    split_ifs
    · exact halive
    · exact halive

/-- In every state of a run no promise has been left rejected and every client has been told of a
hello that failed, in exactly the runs whose steps leave no promise rejected. -/
theorem failuresTold_iff (steps : List GatewayStep) :
    Always (RealtimeGateway.step options) FailuresTold initial steps ↔
      Each (RealtimeGateway.step options) (fun g step => g.leftRejected options step = []) initial
        steps := by
  refine @always_iff_each _ _ (RealtimeGateway.step options) FailuresTold
    (fun g => g.unhandled = [] ∧ g.HellosAlive) (fun g step => g.leftRejected options step = [])
    (fun g h => ⟨h.1, fun c hc hfailed => absurd hfailed (h.2 c hc)⟩)
    (fun g step h hok => ⟨?_, h.2.step options step hok⟩) (fun g step h hok => ?_) initial
    ⟨rfl, nofun⟩ steps
  · rw [unhandled_step, h.1, hok]
    rfl
  · intro htold
    have hunhandled := htold.unhandled
    rw [unhandled_step, h.1] at hunhandled
    exact hok hunhandled

end RealtimeGateway

open OpenClawGatewaySource in
/-- Upstream failures are contained in every run of the source and of the gateway, no promise left
rejected, every failed attempt followed by another and every client told of a hello that failed, in
exactly the runs whose steps leave no promise rejected and abandon no attempt. -/
theorem upstream_failures_contained_iff (uuids : RandomUuids)
    (openclaw : OpenClawGatewaySourceOptions) (options : RealtimeGatewayOptions)
    (sourceSteps : List SourceStep) (gatewaySteps : List GatewayStep) :
    (Always (OpenClawGatewaySource.step uuids openclaw) (fun s => s.unhandled = []) initial
          sourceSteps ∧
        Each (OpenClawGatewaySource.step uuids openclaw)
          (fun s step => s.Retried step (s.step uuids openclaw step)) initial sourceSteps) ∧
      Always (RealtimeGateway.step options) RealtimeGateway.FailuresTold RealtimeGateway.initial
        gatewaySteps ↔
      Each (OpenClawGatewaySource.step uuids openclaw) (ContainsFailure openclaw) initial
          sourceSteps ∧
        Each (RealtimeGateway.step options) (fun g step => g.leftRejected options step = [])
          RealtimeGateway.initial gatewaySteps :=
  and_congr (failures_contained_iff uuids openclaw sourceSteps)
    (RealtimeGateway.failuresTold_iff options gatewaySteps)

open OpenClawGatewaySource in
/-- The first connection of a gateway's source is refused: the promise of `subscribe` is left
rejected. -/
theorem refused_at_start :
    ¬ Always (OpenClawGatewaySource.step .counting .default) (fun s => s.unhandled = []) initial
      [.subscribe 0, .errored 0 (.error "connect ECONNREFUSED 127.0.0.1:18789"), .resume 0] := by
  intro h
  have hlast := h.2.2.2
  cases hlast

end Vertx
