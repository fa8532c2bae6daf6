import Vertx.Adapter.Exceptions
import Vertx.Gateway.Server
import Vertx.Lib.Runs

/-!
# The hello frame

A client joins the broadcast when its connection handler runs, while its hello may still wait for a
snapshot.  It is never sent two hellos, and the hello is the first frame exactly while nothing is
published and no request is answered in the meantime.
-/

namespace Vertx

open Runs

namespace GatewayConnection

/-- The first frame is a hello, and no later one is. -/
def HelloFirst (c : GatewayConnection) : Prop :=
  (∀ frame ∈ c.sent.head?, frame.isHello) ∧ ∀ frame ∈ c.sent.tail, frame.isHello = false

/-- Nothing but a hello and what follows it has been sent. -/
def Greeted (c : GatewayConnection) : Prop :=
  if c.hello = .sent then
    ∃ hello rest, c.sent = hello :: rest ∧ hello.isHello ∧ ∀ frame ∈ rest, frame.isHello = false
  else c.sent = []

variable {c : GatewayConnection}

theorem Greeted.helloFirst (h : c.Greeted) : c.HelloFirst := by
  unfold Greeted at h
  split_ifs at h
  · obtain ⟨hello, rest, hsent, hhello, hrest⟩ := h
    rw [HelloFirst, hsent]
    exact ⟨fun frame hframe => Option.some.inj hframe ▸ hhello, hrest⟩
  · rw [HelloFirst, h]
    exact ⟨nofun, nofun⟩

theorem Greeted.sent_eq_nil (h : c.Greeted) (hn : c.hello ≠ .sent) : c.sent = [] := by
  rw [Greeted, if_neg hn] at h
  exact h

/-- A frame sent after the hello. -/
theorem Greeted.append {frame : ServerFrame} (h : c.Greeted) (hs : c.hello = .sent)
    (hframe : frame.isHello = false) : Greeted { c with sent := c.sent ++ [frame] } := by
  rw [Greeted, if_pos hs] at h
  obtain ⟨hello, rest, hsent, hhello, hrest⟩ := h
  rw [Greeted, if_pos hs]
  refine ⟨hello, rest ++ [frame], by rw [hsent]; rfl, hhello, fun f hf => ?_⟩
  rcases List.mem_append.1 hf with hf | hf
  · exact hrest f hf
  · rw [List.mem_singleton.1 hf]
    exact hframe

/-- A frame sent instead of the hello. -/
theorem not_helloFirst_of_head {frame : ServerFrame} (h : c.sent.head? = some frame)
    (hframe : frame.isHello = false) : ¬ c.HelloFirst := by
  intro hfirst
  have hhello := hfirst.1 frame h
  rw [hframe] at hhello
  cases hhello

end GatewayConnection

namespace RealtimeGateway

/-- The first frame of every client is its only hello. -/
def HelloFirst (g : RealtimeGateway) : Prop := ∀ c ∈ g.connections, c.HelloFirst

def Greeted (g : RealtimeGateway) : Prop := ∀ c ∈ g.connections, c.Greeted

variable (options : RealtimeGatewayOptions) {g : RealtimeGateway}

/-- The id of a request frame. -/
def requestId? (raw : Option JsValue) : Option String :=
  raw.bind fun parsed => if isRequestFrame parsed then (parsed.field "id").asString? else none

/-- The one frame that a message gets which no handler is asked about: a response to a request
frame, an error frame to anything else. -/
def Refuses (frame : ServerFrame) (raw : Option JsValue) : Prop :=
  match requestId? raw with
  | some id => ∃ error, frame = .res id (.error error)
  | none => ∃ code message, frame = .error code message

/-- The message reaches the handler or the source. -/
def Handled (raw : Option JsValue) : Prop :=
  raw.any isRequestFrame ∧ (options.requestHandler ∨ options.sourceRequest)

/-- What a step sends other than hellos, it sends to clients that have been sent their hello:
published events, answers to messages that no handler gets, and responses of handlers. -/
def AfterHello (g : RealtimeGateway) : GatewayStep → Prop
  | .publish event => event.seq.unprintable = false →
      ∀ c ∈ g.connections, c.member → c.hello = .sent
  | .message i raw _ => ∀ c ∈ g.connections[i]?, c.member → ¬ Handled options raw →
      c.hello = .sent
  | .answer i r _ _ => ∀ c ∈ g.connections[i]?, (c.tasks[r]?.any (! ·.answered)) → c.hello = .sent
  | _ => True

/-- A change of one connection keeps what holds of all. -/
theorem forall_modifyConnection {P : GatewayConnection → Prop} {i : ℕ}
    {f : GatewayConnection → GatewayConnection} (h : ∀ c ∈ g.connections, P c)
    (hf : ∀ c ∈ g.connections[i]?, P (f c)) : ∀ c ∈ (g.modifyConnection i f).connections, P c := by
  intro c hc
  obtain ⟨j, hj⟩ := List.getElem?_of_mem hc
  simp only [modifyConnection, List.getElem?_modify] at hj
  obtain ⟨c', hc', rfl⟩ := Option.map_eq_some_iff.1 hj
  split_ifs with hij
  · exact hf c' (hij ▸ hc')
  · exact h c' (List.mem_of_getElem? hc')

/-- The changed connection. -/
theorem getElem?_modifyConnection (i : ℕ) (f : GatewayConnection → GatewayConnection) :
    (g.modifyConnection i f).connections[i]? = g.connections[i]?.map f := by
  simp [modifyConnection]

theorem Greeted.send {i : ℕ} {frame : ServerFrame} (h : g.Greeted)
    (hi : ∀ c ∈ g.connections[i]?, c.hello = .sent) (hframe : frame.isHello = false) :
    (g.send i frame).Greeted :=
  forall_modifyConnection h fun c hc => (h c (List.mem_of_getElem? hc)).append (hi c hc) hframe

/-- Sending a frame leaves the stage of the hello. -/
theorem hello_send {i : ℕ} {frame : ServerFrame} (hi : ∀ c ∈ g.connections[i]?, c.hello = .sent) :
    ∀ c ∈ (g.send i frame).connections[i]?, c.hello = .sent := by
  intro c hc
  rw [RealtimeGateway.send, getElem?_modifyConnection] at hc
  obtain ⟨c', hc', rfl⟩ := Option.map_eq_some_iff.1 hc
  exact hi c' hc'

theorem Greeted.setHello {i : ℕ} {stage : HelloStage} (h : g.Greeted) (hstage : stage ≠ .sent)
    (hi : ∀ c ∈ g.connections[i]?, c.hello ≠ .sent) : (g.setHello i stage).Greeted :=
  forall_modifyConnection h fun c hc => by
    rw [GatewayConnection.Greeted, if_neg hstage]
    exact (h c (List.mem_of_getElem? hc)).sent_eq_nil (hi c hc)

theorem Greeted.sendHello {i : ℕ} {snapshot : JsValue} {audit : Audit} (h : g.Greeted)
    (hi : ∀ c ∈ g.connections[i]?, c.hello ≠ .sent) :
    (g.sendHello options i snapshot audit).Greeted := by
  unfold RealtimeGateway.sendHello
  split
  · exact h
  · next c hc =>
    have hboth (frame : ServerFrame) : (g.send i frame).setHello i .sent =
        g.modifyConnection i fun c => { c with sent := c.sent ++ [frame], hello := .sent } := by
      simp [RealtimeGateway.send, RealtimeGateway.setHello, modifyConnection, List.modify_modify_eq,
        Function.comp_def]
    rw [hboth]
    refine forall_modifyConnection h fun c hc => ?_
    have hnone := (h c (List.mem_of_getElem? hc)).sent_eq_nil (hi c hc)
    rw [GatewayConnection.Greeted, if_pos rfl, hnone]
    exact ⟨_, [], rfl, rfl, nofun⟩

theorem Greeted.continueHello {i : ℕ} {snapshot : JsValue} {audit : Audit} (h : g.Greeted)
    (hi : ∀ c ∈ g.connections[i]?, c.hello ≠ .sent) :
    (g.continueHello options i snapshot audit).Greeted := by
  unfold RealtimeGateway.continueHello
  split_ifs
  · exact h.setHello (by decide) hi
  · exact h.sendHello options hi

theorem Greeted.respond {i : ℕ} {id : String} {result : Except JsError JsValue} {audit : Audit}
    (h : g.Greeted) (hi : ∀ c ∈ g.connections[i]?, c.hello = .sent) :
    (g.respond i id result audit).Greeted := by
  unfold RealtimeGateway.respond
  cases result with
  | error e => exact h.send hi rfl
  | ok value =>
    dsimp only
    split
    · exact h.send hi rfl
    · exact (h.send hi rfl).send (hello_send hi) rfl

theorem Refuses.isHello {frame : ServerFrame} {raw : Option JsValue} (h : Refuses frame raw) :
    frame.isHello = false := by
  unfold Refuses at h
  split at h
  · obtain ⟨error, rfl⟩ := h
    rfl
  · obtain ⟨code, message, rfl⟩ := h
    rfl

theorem requestId?_of_isRequestFrame {parsed : JsValue} {id : String}
    (hframe : isRequestFrame parsed = true) (hid : parsed.field "id" = .str id) :
    requestId? (some parsed) = some id := by
  simp [requestId?, hframe, hid, JsValue.asString?]

theorem requestId?_eq_none {parsed : JsValue} (hframe : isRequestFrame parsed = false) :
    requestId? (some parsed) = none := by
  simp [requestId?, hframe]

/-- A message becomes a task of its connection, or is answered by one frame. -/
theorem handleSocketMessage_cases (i : ℕ) (raw : Option JsValue) (audit : Audit)
    (g : RealtimeGateway) :
    (Handled options raw ∧ ∃ task, requestId? raw = some task.id ∧ task.answered = false ∧
        g.handleSocketMessage options i raw audit =
          g.modifyConnection i fun c => { c with tasks := c.tasks ++ [task] }) ∨
      (¬ Handled options raw ∧ ∃ frame error, Refuses frame raw ∧
        g.handleSocketMessage options i raw audit = (g.send i frame).leave error) := by
  have hleave (g : RealtimeGateway) : g = g.leave none := by simp [leave]
  unfold RealtimeGateway.handleSocketMessage
  cases raw with
  | none => exact .inr ⟨by simp [Handled], _, none, ⟨_, _, rfl⟩, hleave _⟩
  | some parsed =>
    dsimp only
    split
    · next id method hframe hid hmethod =>
      have hrequest := requestId?_of_isRequestFrame hframe hid
      unfold handleRequestFrame
      split_ifs with hhandler
      · exact .inl ⟨⟨hframe, hhandler⟩, _, hrequest, rfl, rfl⟩
      · refine .inr ⟨fun h => hhandler h.2, _, _, ?_, rfl⟩
        rw [Refuses, hrequest]
        exact ⟨_, rfl⟩
    · next hnot =>
      have hframe : isRequestFrame parsed = false := by
        by_contra hn
        have hframe : isRequestFrame parsed = true := by simpa using hn
        have hparts := hframe
        simp only [isRequestFrame, Bool.and_eq_true, Option.isSome_iff_exists] at hparts
        obtain ⟨⟨-, id, hid⟩, method, hmethod⟩ := hparts
        exact hnot id method hframe (asString?_eq_some.1 hid) (asString?_eq_some.1 hmethod)
      refine .inr ⟨by simp [Handled, hframe], _, none, ?_, hleave _⟩
      rw [Refuses, requestId?_eq_none hframe]
      exact ⟨_, _, rfl⟩

theorem greeted_connect (resolved : ResolvedContext) (audit : Audit) (h : g.Greeted) :
    (g.connect options resolved audit).Greeted := by
  unfold connect
  dsimp only
  generalize hjoined : ({ g with connections := g.connections ++ [_] } : RealtimeGateway) = joined
  have hgreeted : joined.Greeted := by
    rw [← hjoined]
    intro c hc
    rcases List.mem_append.1 hc with hc | hc
    · exact h c hc
    · rw [List.mem_singleton.1 hc, GatewayConnection.Greeted, if_neg nofun]
  have hi : ∀ c ∈ joined.connections[g.connections.length]?, c.hello ≠ .sent := by
    rw [← hjoined]
    simp
  split_ifs
  · exact hgreeted
  · exact hgreeted.continueHello options hi

theorem greeted_step (step : GatewayStep) (h : g.Greeted) (hok : g.AfterHello options step) :
    (g.step options step).Greeted := by
  have hstage {i : ℕ} {stage : HelloStage} (hstage : stage ≠ .sent)
      (hany : g.connections[i]?.any (·.hello = stage)) :
      ∀ c ∈ g.connections[i]?, c.hello ≠ .sent := by
    intro c hc
    rw [Option.mem_def.1 hc] at hany
    have heq : c.hello = stage := by simpa using hany
    rw [heq]
    exact hstage
  cases step with
  | connect resolved audit => exact greeted_connect options resolved audit h
  | snapshot i result audit =>
    simp only [RealtimeGateway.step]
    split_ifs with hany
    · have hi := hstage (by decide) hany
      cases result with
      | ok snapshot => exact h.continueHello options hi
      | error e => exact h.setHello (by decide) hi
    · exact h
  | sourceSnapshot i result audit =>
    simp only [RealtimeGateway.step]
    split_ifs with hany
    · have hi := hstage (by decide) hany
      cases result with
      | ok snapshot => exact h.sendHello options hi
      | error e => exact h.setHello (by decide) hi
    · exact h
  | message i raw audit =>
    simp only [RealtimeGateway.step]
    split_ifs with hany
    · rcases handleSocketMessage_cases options i raw audit g with
        ⟨-, task, -, -, heq⟩ | ⟨hn, frame, _, hframe, heq⟩
      · rw [heq]
        exact forall_modifyConnection h fun c hc => h c (List.mem_of_getElem? hc)
      · rw [heq]
        refine h.send (fun c hc => hok c hc ?_ hn) hframe.isHello
        rw [Option.mem_def.1 hc] at hany
        simpa using hany
    · exact h
  | answer i r result audit =>
    simp only [RealtimeGateway.step]
    split
    · exact h
    · next task htask =>
      split_ifs with hanswered
      · exact h
      · obtain ⟨c, hc, hr⟩ := Option.bind_eq_some_iff.1 htask
        have hsent : c.hello = .sent := hok c hc (by simp [hr, hanswered])
        refine Greeted.respond ?_ ?_
        · exact forall_modifyConnection h fun c hc => h c (List.mem_of_getElem? hc)
        · intro c' hc'
          rw [getElem?_modifyConnection, hc] at hc'
          rw [← Option.some.inj hc']
          exact hsent
  | publish event =>
    simp only [RealtimeGateway.step, publish]
    cases hcreate : g.adapter.createEventFrame event options.baseContext with
    | error e => exact h
    | ok frame =>
      have hgood := printable_of_created hcreate
      intro c hc
      obtain ⟨c', hc', rfl⟩ := List.mem_map.1 hc
      split_ifs with hm
      · exact (h c' hc').append (hok hgood c' hc' hm) rfl
      · exact h c' hc'
  | close i =>
    refine forall_modifyConnection h fun c hc => ?_
    have hgreeted := h c (List.mem_of_getElem? hc)
    split_ifs
    · exact hgreeted
    · exact hgreeted

/-- The first frame sent to the `i`-th client is no hello. -/
def Spoiled (i : ℕ) (g : RealtimeGateway) : Prop :=
  ∃ c ∈ g.connections[i]?, ∃ frame ∈ c.sent.head?, frame.isHello = false

theorem Spoiled.not_helloFirst {i : ℕ} (h : g.Spoiled i) : ¬ g.HelloFirst := by
  obtain ⟨c, hc, frame, hframe, hhello⟩ := h
  intro hfirst
  exact GatewayConnection.not_helloFirst_of_head hframe hhello (hfirst c (List.mem_of_getElem? hc))

theorem spoiled_send {i : ℕ} {c : GatewayConnection} {frame : ServerFrame}
    (hc : g.connections[i]? = some c) (hsent : c.sent = []) (hframe : frame.isHello = false) :
    (g.send i frame).Spoiled i := by
  refine ⟨{ c with sent := c.sent ++ [frame] }, ?_, frame, ?_, hframe⟩
  · rw [RealtimeGateway.send, getElem?_modifyConnection, hc]
    rfl
  · simp [hsent]

theorem Spoiled.send {i : ℕ} (h : g.Spoiled i) (frame : ServerFrame) :
    (g.send i frame).Spoiled i := by
  obtain ⟨c, hc, first, hfirst, hhello⟩ := h
  refine ⟨{ c with sent := c.sent ++ [frame] }, ?_, first, ?_, hhello⟩
  · rw [RealtimeGateway.send, getElem?_modifyConnection, Option.mem_def.1 hc]
    rfl
  · simp [List.head?_append, Option.mem_def.1 hfirst]

theorem spoiled_respond {i : ℕ} {c : GatewayConnection} {id : String}
    {result : Except JsError JsValue} {audit : Audit} (hc : g.connections[i]? = some c)
    (hsent : c.sent = []) : (g.respond i id result audit).Spoiled i := by
  unfold RealtimeGateway.respond
  cases result with
  | error e => exact spoiled_send hc hsent rfl
  | ok value =>
    dsimp only
    split
    · exact spoiled_send hc hsent rfl
    · exact (spoiled_send hc hsent rfl).send _

theorem not_helloFirst_step (step : GatewayStep) (h : g.Greeted)
    (hok : ¬ g.AfterHello options step) : ¬ (g.step options step).HelloFirst := by
  cases step with
  | message i raw audit =>
    obtain ⟨c, hc, hm, hn, hhello⟩ : ∃ c, g.connections[i]? = some c ∧ c.member ∧
        ¬ Handled options raw ∧ c.hello ≠ .sent := by
      simpa [AfterHello] using hok
    have hsent := (h c (List.mem_of_getElem? hc)).sent_eq_nil hhello
    rcases handleSocketMessage_cases options i raw audit g with
      ⟨hhandled, -⟩ | ⟨-, frame, _, hframe, heq⟩
    · exact absurd hhandled hn
    · simp only [RealtimeGateway.step, hc, Option.any_some, hm, if_true, heq]
      exact Spoiled.not_helloFirst (spoiled_send hc hsent hframe.isHello)
  | answer i r result audit =>
    obtain ⟨c, hc, htask, hhello⟩ : ∃ c, g.connections[i]? = some c ∧
        (c.tasks[r]?.any (! ·.answered)) ∧ c.hello ≠ .sent := by
      simpa [AfterHello] using hok
    have hsent := (h c (List.mem_of_getElem? hc)).sent_eq_nil hhello
    obtain ⟨task, hr, hanswered⟩ : ∃ task, c.tasks[r]? = some task ∧ task.answered = false := by
      cases hr : c.tasks[r]? with
      | none => simp [hr] at htask
      | some task => exact ⟨task, rfl, by simpa [hr] using htask⟩
    simp only [RealtimeGateway.step, hc, Option.bind_some, hr, hanswered]
    apply Spoiled.not_helloFirst
    apply spoiled_respond
    · rw [getElem?_modifyConnection, hc]
      rfl
    · exact hsent
  | publish event =>
    obtain ⟨hgood, c, hc, hm, hhello⟩ : event.seq.unprintable = false ∧
        ∃ c ∈ g.connections, c.member ∧ c.hello ≠ .sent := by
      simpa [AfterHello] using hok
    have hsent := (h c hc).sent_eq_nil hhello
    simp only [RealtimeGateway.step, publish]
    cases hcreate : g.adapter.createEventFrame event options.baseContext with
    | error e =>
      rw [unprintable_of_thrown hcreate] at hgood
      cases hgood
    | ok frame =>
      intro hfirst
      have hmem := hfirst _ (List.mem_map_of_mem hc)
      rw [if_pos hm, hsent] at hmem
      exact GatewayConnection.not_helloFirst_of_head rfl rfl hmem
  | _ => exact absurd trivial hok

/-- No client is sent two hellos, and every client's first frame is its hello, in exactly the runs
in which a client is sent published events and answers only after its hello. -/
theorem helloFirst_iff (steps : List GatewayStep) :
    Always (RealtimeGateway.step options) HelloFirst initial steps ↔
      Each (RealtimeGateway.step options) (AfterHello options) initial steps := by
  have hinitial : initial.Greeted := by
    intro c hc
    cases hc
  have hfirst (g : RealtimeGateway) (h : g.Greeted) : g.HelloFirst :=
    fun c hc => (h c hc).helloFirst
  exact always_iff_each hfirst (fun _ => greeted_step options)
    (fun _ => not_helloFirst_step options) hinitial steps

/-- An event is published while a client waits for the snapshot provider. -/
theorem event_before_hello :
    ¬ Always (RealtimeGateway.step ⟨"workspace-1", none, none, none, true, false, false, false⟩)
      HelloFirst initial
      [.connect ⟨none, none, none⟩ (fun _ => none),
        .publish ⟨.chat, .obj [], .undefined, .undefined⟩] := by
  intro h
  have hhello := (h.2.2 _ (List.mem_singleton.2 rfl)).1 _ rfl
  cases hhello

end RealtimeGateway

end Vertx
