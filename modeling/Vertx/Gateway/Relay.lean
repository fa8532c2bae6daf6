import Vertx.Adapter.Calls
import Vertx.Gateway.Dialogue
import Vertx.Web.Request

/-!
# Browsers, gateway and upstream

The gateway of `createOpenClawBackedRealtimeGatewayServer` between its browsers and its source.  A
frame of a browser arrives at the gateway's connection of the same number; a request that the
gateway takes up becomes a call of the source, unless the options name a request handler; and the
outcome of the call becomes the gateway's answer.  The rest of the gateway and of the source, the
hellos and the published events among it, moves as its environment likes.
-/

namespace Vertx

open Runs

/-- A call of the source and the task of a connection that it was made for. -/
structure Forwarded where
  call : ℕ
  connection : ℕ
  task : ℕ
  deriving DecidableEq, Repr

/-- What the request handler has settled a task with. -/
structure Handled where
  connection : ℕ
  task : ℕ
  result : Except JsError JsValue

structure OpenClawBackedGateway where
  clients : List RealtimeGatewayClient
  gateway : RealtimeGateway
  source : OpenClawGatewaySource
  forwarded : List Forwarded
  handled : List Handled

/-- A step of the whole: a browser connects or acts, the `k`-th frame on the way from the `i`-th
browser or of those sent to it is delivered, the `n`-th call or a request handler has settled, or
the gateway or the source takes a step of its own. -/
inductive RelayStep
  | connect (resolved : ResolvedContext)
  | client (i : ℕ) (step : ClientStep)
  | arrive (i k : ℕ)
  | deliver (i k : ℕ)
  | answer (n : ℕ)
  | handle (i r : ℕ) (result : Except JsError JsValue)
  | gateway (step : GatewayStep)
  | source (step : SourceStep)

/-- A step of the source that is not one of the others. -/
def SourceStep.isOther : SourceStep → Bool
  | request _ _ => false
  | _ => true

/-- The options with the source in them. -/
def RealtimeGatewayOptions.backed (options : RealtimeGatewayOptions) : RealtimeGatewayOptions :=
  { options with sourceRequest := true, sourceGetSnapshot := true }

/-- An audit callback that does not throw. -/
def Audit.silent : Audit := fun _ => none

namespace OpenClawBackedGateway

def initial : OpenClawBackedGateway := ⟨[], .initial, .initial, [], []⟩

variable (uuids : RandomUuids) (options : RealtimeGatewayOptions)
  (openclaw : OpenClawGatewaySourceOptions)

def modifyClient (i : ℕ) (f : RealtimeGatewayClient → RealtimeGatewayClient)
    (s : OpenClawBackedGateway) : OpenClawBackedGateway :=
  { s with clients := s.clients.modify i f }

def gatewayStep (step : GatewayStep) (s : OpenClawBackedGateway) : OpenClawBackedGateway :=
  { s with gateway := s.gateway.step options.backed step }

def sourceStep (step : SourceStep) (s : OpenClawBackedGateway) : OpenClawBackedGateway :=
  { s with source := s.source.step uuids openclaw step }

/-- The gateway calls `source.request` for a task. -/
def forward (i r : ℕ) (task : RequestTask) (s : OpenClawBackedGateway) : OpenClawBackedGateway :=
  { s.sourceStep uuids openclaw (.request task.method task.payload) with
    forwarded := s.forwarded ++ [⟨s.source.calls.length, i, r⟩] }

/-- The gateway receives a frame of the `i`-th browser. -/
def arrive (i : ℕ) (frame : RequestFrame) (s : OpenClawBackedGateway) : OpenClawBackedGateway :=
  let r := s.gateway.taskCount i
  let s := s.gatewayStep options (.message i (some frame.json.wire) .silent)
  match s.gateway.task? i r with
  | none => s
  | some task => if options.requestHandler then s else s.forward uuids openclaw i r task

def step (s : OpenClawBackedGateway) : RelayStep → OpenClawBackedGateway
  | .connect resolved =>
    { s.gatewayStep options (.connect resolved .silent) with clients := s.clients ++ [.connect] }
  | .client i step => s.modifyClient i (·.step step)
  | .arrive i k =>
    match s.clients[i]?.bind (·.outbox[k]?) with
    | none => s
    | some frame =>
      (s.modifyClient i fun c => { c with outbox := c.outbox.eraseIdx k }).arrive uuids options
        openclaw i frame
  | .deliver i k =>
    match s.gateway.connections[i]?.bind (·.sent[k]?) with
    | none => s
    | some frame => s.modifyClient i (·.receive frame)
  | .answer n =>
    match s.forwarded.find? (·.call = n), s.source.settled.find? (·.1 = n) with
    | some f, some (_, result) =>
      s.gatewayStep options (.answer f.connection f.task result .silent)
    | _, _ => s
  | .handle i r result =>
    if options.requestHandler ∧ (s.gateway.task? i r).any (¬ ·.answered) then
      { s.gatewayStep options (.answer i r result .silent) with
        handled := s.handled ++ [⟨i, r, result⟩] }
    else s
  | .gateway step => if step.isOther then s.gatewayStep options step else s
  | .source step => if step.isOther then s.sourceStep uuids openclaw step else s

end OpenClawBackedGateway

/-! ## What passes between a connection and its browser -/

/-- The response in a response frame. -/
def ServerFrame.response? : ServerFrame → Option (String × Except ResponseError JsValue)
  | res id result => some (id, result)
  | hello _ | event _ | error _ _ => none

/-- The tasks of a connection and the responses handed to its socket. -/
structure RequestExchange where
  tasks : List RequestTask
  responses : List (String × Except ResponseError JsValue)

def GatewayConnection.exchange (c : GatewayConnection) : RequestExchange :=
  ⟨c.tasks, c.sent.filterMap (·.response?)⟩

/-- The response that a result becomes. -/
def responseTo (result : Except JsError JsValue) : Except ResponseError JsValue :=
  result.mapError toResponseError

/-- The part of a dialogue that is about requests. -/
def Dialogue.exchange (d : Dialogue) : RequestExchange :=
  ⟨d.tasks, d.answers.filterMap (·.response?)⟩

theorem GatewayConnection.exchange_dialogue (c : GatewayConnection) :
    c.dialogue.exchange = c.exchange := by
  have hanswer (frame : ServerFrame) :
      (if frame.isAnswer then frame.response? else none) = frame.response? := by
    cases frame <;> rfl
  simp [dialogue, exchange, Dialogue.exchange, List.filterMap_filter, hanswer]

theorem Dialogue.exchange_say (d : Dialogue) (frames : List ServerFrame) :
    (d.say frames).exchange = { d.exchange with
      responses := d.exchange.responses ++ frames.filterMap (·.response?) } := by
  simp [exchange, say]

namespace RealtimeGateway

def exchanges (g : RealtimeGateway) : List RequestExchange := g.connections.map (·.exchange)

variable (options : RealtimeGatewayOptions) (g : RealtimeGateway)

theorem exchanges_eq : g.exchanges = g.dialogues.map (·.exchange) := by
  simp [exchanges, dialogues, Function.comp_def, GatewayConnection.exchange_dialogue]

/-- A change of one dialogue. -/
theorem exchanges_of_dialogues {g' : RealtimeGateway} {i : ℕ} {f : Dialogue → Dialogue}
    {h : RequestExchange → RequestExchange} (hg : g'.dialogues = g.dialogues.modify i f)
    (hf : ∀ d, (f d).exchange = h d.exchange) : g'.exchanges = g.exchanges.modify i h := by
  rw [exchanges_eq, exchanges_eq, hg, Keyed.map_modify hf]

/-- The other steps neither take up a request nor answer one. -/
theorem exchanges_other {step : GatewayStep} (hstep : step.isOther = true) :
    (g.step options step).exchanges = g.exchanges := by
  rw [exchanges_eq, exchanges_eq, g.dialogues_other options hstep]

theorem exchanges_connect (resolved : ResolvedContext) (audit : Audit) :
    (g.connect options resolved audit).exchanges = g.exchanges ++ [⟨[], []⟩] := by
  rw [exchanges_eq, exchanges_eq, g.dialogues_connect options resolved audit, List.map_append]
  rfl

/-- A request frame of a browser becomes a task, while its connection is a client. -/
theorem exchanges_message (i : ℕ) (frame : RequestFrame) (audit : Audit) :
    (g.step options.backed (.message i (some frame.json.wire) audit)).exchanges =
      if g.connections[i]?.any (·.member) then
        g.exchanges.modify i fun x =>
          { x with tasks := x.tasks ++ [⟨frame.id, frame.method, frame.payload.wire, false⟩] }
      else g.exchanges := by
  obtain ⟨hobject, htype, hid, hmethod, hpayload⟩ := frame.field_wire
  have hrequest : isRequestFrame frame.json.wire = true := by
    simp [isRequestFrame, hobject, htype, hid, hmethod, JsValue.asString?]
  simp only [RealtimeGateway.step]
  split_ifs
  · simp only [handleSocketMessage, hrequest, hid, hmethod, hpayload, handleRequestFrame,
      RealtimeGatewayOptions.backed, or_true, if_true]
    exact g.exchanges_of_dialogues (g.dialogues_modifyConnection i
      (h := (·.addTask ⟨frame.id, frame.method, frame.payload.wire, false⟩)) fun _ => rfl)
      fun _ => rfl
  · rfl

/-- An answer goes to the task it is for, unless that has been answered. -/
theorem exchanges_answer (i r : ℕ) (result : Except JsError JsValue) :
    (g.step options (.answer i r result .silent)).exchanges = g.exchanges ∨
      ∃ task, g.task? i r = some task ∧ task.answered = false ∧
        (g.step options (.answer i r result .silent)).exchanges = g.exchanges.modify i fun x =>
          { tasks := x.tasks.modify r fun task => { task with answered := true }
            responses := x.responses ++ [(task.id, responseTo result)] } := by
  by_cases hsettled : ∀ task ∈ g.task? i r, task.answered
  · rw [g.step_answer_of_not options hsettled]
    exact Or.inl rfl
  · simp only [Option.mem_def, not_forall, Bool.not_eq_true] at hsettled
    obtain ⟨task, htask, hanswered⟩ := hsettled
    refine Or.inr ⟨task, htask, hanswered, ?_⟩
    refine g.exchanges_of_dialogues (g.dialogues_answer options htask hanswered result .silent) ?_
    intro d
    rw [Dialogue.exchange_say]
    cases result with
    | ok value => rfl
    | error e => rfl

end RealtimeGateway

end Vertx
