import Vertx.Gateway.Hello
import Vertx.Lib.Keyed

/-!
# What passes on a connection of the gateway

The requests of a client that the gateway has taken up, and the responses and error frames that it
has sent.  Each step of the gateway is one change of the dialogue of one connection, or of none.
-/

namespace Vertx

/-- A response or an error frame. -/
def ServerFrame.isAnswer : ServerFrame → Bool
  | res _ _ | error _ _ => true
  | hello _ | event _ => false

/-- The tasks of a connection and the answers handed to its socket. -/
structure Dialogue where
  tasks : List RequestTask
  answers : List ServerFrame

def GatewayConnection.dialogue (c : GatewayConnection) : Dialogue :=
  ⟨c.tasks, c.sent.filter (·.isAnswer)⟩

/-- A step of the gateway that is not one of the others. -/
def GatewayStep.isOther : GatewayStep → Bool
  | snapshot _ _ _ | sourceSnapshot _ _ _ | publish _ | close _ => true
  | connect _ _ | message _ _ _ | answer _ _ _ _ => false

def RealtimeGateway.task? (g : RealtimeGateway) (i r : ℕ) : Option RequestTask :=
  g.connections[i]?.bind (·.tasks[r]?)

def RealtimeGateway.taskCount (g : RealtimeGateway) (i : ℕ) : ℕ :=
  (g.connections[i]?.map (·.tasks.length)).getD 0

namespace Dialogue

/-- Frames are handed to the socket. -/
def say (frames : List ServerFrame) (d : Dialogue) : Dialogue :=
  { d with answers := d.answers ++ frames }

def addTask (task : RequestTask) (d : Dialogue) : Dialogue := { d with tasks := d.tasks ++ [task] }

/-- The handler of the `r`-th task has settled. -/
def markAnswered (r : ℕ) (d : Dialogue) : Dialogue :=
  { d with tasks := d.tasks.modify r fun task => { task with answered := true } }

end Dialogue

/-- The frames that `respond` sends. -/
def responsesTo (id : String) (result : Except JsError JsValue) (audit : Audit) :
    List ServerFrame :=
  match result with
  | .ok value =>
    .res id (.ok value) :: ((audit 0).map fun e => .res id (.error (toResponseError e))).toList
  | .error e => [.res id (.error (toResponseError e))]

namespace RealtimeGateway

def dialogues (g : RealtimeGateway) : List Dialogue := g.connections.map (·.dialogue)

theorem taskCount_eq (g : RealtimeGateway) (i : ℕ) :
    g.taskCount i = (g.dialogues[i]?.map (·.tasks.length)).getD 0 := by
  simp [taskCount, dialogues, GatewayConnection.dialogue, Function.comp_def]

theorem task?_eq (g : RealtimeGateway) (i r : ℕ) :
    g.task? i r = g.dialogues[i]?.bind (·.tasks[r]?) := by
  simp [task?, dialogues, GatewayConnection.dialogue, Option.bind_map]

variable (options : RealtimeGatewayOptions) (g : RealtimeGateway)

theorem dialogues_modifyConnection (i : ℕ) {f : GatewayConnection → GatewayConnection}
    {h : Dialogue → Dialogue} (hf : ∀ c, (f c).dialogue = h c.dialogue) :
    (g.modifyConnection i f).dialogues = g.dialogues.modify i h := by
  simp only [dialogues, modifyConnection, Keyed.map_modify hf]

theorem dialogues_modifyConnection_of_eq (i : ℕ) {f : GatewayConnection → GatewayConnection}
    (hf : ∀ c, (f c).dialogue = c.dialogue) : (g.modifyConnection i f).dialogues = g.dialogues :=
  Keyed.map_modify_of_eq hf i g.connections

theorem dialogues_leave (error : Option JsError) : (g.leave error).dialogues = g.dialogues := rfl

/-- Sending a frame that is no answer. -/
theorem dialogues_send (i : ℕ) {frame : ServerFrame} (hframe : frame.isAnswer = false) :
    (g.send i frame).dialogues = g.dialogues := by
  refine g.dialogues_modifyConnection_of_eq i fun c => ?_
  simp [GatewayConnection.dialogue, hframe]

theorem dialogues_send_answer (i : ℕ) {frame : ServerFrame} (hframe : frame.isAnswer = true) :
    (g.send i frame).dialogues = g.dialogues.modify i (·.say [frame]) := by
  refine g.dialogues_modifyConnection i fun c => ?_
  simp [GatewayConnection.dialogue, Dialogue.say, hframe]

theorem dialogues_setHello (i : ℕ) (stage : HelloStage) :
    (g.setHello i stage).dialogues = g.dialogues :=
  g.dialogues_modifyConnection_of_eq i fun _ => rfl

theorem dialogues_sendHello (i : ℕ) (snapshot : JsValue) (audit : Audit) :
    (g.sendHello options i snapshot audit).dialogues = g.dialogues := by
  unfold sendHello
  cases g.connections[i]? with
  | none => rfl
  | some c => exact (dialogues_setHello _ i _).trans (g.dialogues_send i rfl)

theorem dialogues_continueHello (i : ℕ) (snapshot : JsValue) (audit : Audit) :
    (g.continueHello options i snapshot audit).dialogues = g.dialogues := by
  unfold continueHello
  split_ifs
  · exact g.dialogues_setHello i _
  · exact g.dialogues_sendHello options i snapshot audit

theorem dialogues_publish (event : RealtimeSourceEvent) :
    (g.publish options event).dialogues = g.dialogues := by
  unfold publish
  cases g.adapter.createEventFrame event options.baseContext with
  | error e => rfl
  | ok frame =>
    simp only [dialogues, List.map_map]
    apply List.map_congr_left
    intro c _
    simp only [Function.comp]
    split_ifs
    · simp [GatewayConnection.dialogue, ServerFrame.isAnswer]
    · rfl

/-- The other steps neither take up a request nor answer one. -/
theorem dialogues_other {step : GatewayStep} (hstep : step.isOther = true) :
    (g.step options step).dialogues = g.dialogues := by
  cases step with
  | connect resolved audit => cases hstep
  | message i raw audit => cases hstep
  | answer i r result audit => cases hstep
  | snapshot i result audit =>
    simp only [RealtimeGateway.step]
    split_ifs
    · cases result with
      | ok snapshot => exact g.dialogues_continueHello options i snapshot audit
      | error e => exact g.dialogues_setHello i .failed
    · rfl
  | sourceSnapshot i result audit =>
    simp only [RealtimeGateway.step]
    split_ifs
    · cases result with
      | ok snapshot => exact g.dialogues_sendHello options i snapshot audit
      | error e => exact g.dialogues_setHello i .failed
    · rfl
  | publish event => exact g.dialogues_publish options event
  | close i =>
    refine g.dialogues_modifyConnection_of_eq i fun c => ?_
    split_ifs <;> rfl

theorem dialogues_connect (resolved : ResolvedContext) (audit : Audit) :
    (g.connect options resolved audit).dialogues = g.dialogues ++ [⟨[], []⟩] := by
  have hjoined (c : GatewayConnection) :
      { g with connections := g.connections ++ [c] }.dialogues = g.dialogues ++ [c.dialogue] :=
    List.map_append
  unfold connect
  split_ifs
  · exact hjoined _
  · exact (dialogues_continueHello options _ _ _ _).trans (hjoined _)

theorem Refuses.isAnswer {frame : ServerFrame} {raw : Option JsValue} (h : Refuses frame raw) :
    frame.isAnswer = true := by
  unfold Refuses at h
  split at h
  · obtain ⟨error, rfl⟩ := h
    rfl
  · obtain ⟨code, message, rfl⟩ := h
    rfl

/-- A message of a client is taken up as a task, or answered by one frame. -/
theorem dialogues_message (i : ℕ) (raw : Option JsValue) (audit : Audit) :
    (Handled options raw ∧ ∃ task, requestId? raw = some task.id ∧ task.answered = false ∧
        (g.handleSocketMessage options i raw audit).dialogues =
          g.dialogues.modify i (·.addTask task)) ∨
      (¬ Handled options raw ∧ ∃ frame, Refuses frame raw ∧
        (g.handleSocketMessage options i raw audit).dialogues =
          g.dialogues.modify i (·.say [frame])) := by
  rcases handleSocketMessage_cases options i raw audit g with
    ⟨hhandled, task, hid, hanswered, heq⟩ | ⟨hn, frame, error, hframe, heq⟩
  · refine .inl ⟨hhandled, task, hid, hanswered, ?_⟩
    rw [heq]
    exact g.dialogues_modifyConnection i fun _ => rfl
  · refine .inr ⟨hn, frame, hframe, ?_⟩
    rw [heq, dialogues_leave]
    exact g.dialogues_send_answer i hframe.isAnswer

/-- What the handler of a task has settled with is answered. -/
theorem dialogues_answer {i r : ℕ} {task : RequestTask} (htask : g.task? i r = some task)
    (hanswered : task.answered = false) (result : Except JsError JsValue) (audit : Audit) :
    (g.step options (.answer i r result audit)).dialogues =
      g.dialogues.modify i fun d => (d.markAnswered r).say (responsesTo task.id result audit) := by
  have hmark :
      (g.modifyConnection i fun c => { c with
        tasks := c.tasks.modify r fun task => { task with answered := true } }).dialogues =
      g.dialogues.modify i (·.markAnswered r) :=
    g.dialogues_modifyConnection i fun _ => rfl
  have hsay (d : Dialogue) (first second : List ServerFrame) :
      (d.say first).say second = d.say (first ++ second) := by
    simp [Dialogue.say]
  rw [task?] at htask
  simp only [RealtimeGateway.step, htask, hanswered, Bool.false_eq_true, if_false]
  cases result with
  | ok value =>
    simp only [respond]
    cases haudit : audit 0 with
    | none =>
      simp only [responsesTo, haudit]
      rw [dialogues_send_answer _ i rfl, hmark, List.modify_modify_eq]
      rfl
    | some e =>
      simp only [responsesTo, haudit]
      rw [dialogues_leave, dialogues_send_answer _ i rfl, dialogues_send_answer _ i rfl, hmark,
        List.modify_modify_eq, List.modify_modify_eq]
      simp only [Function.comp_def, hsay]
      rfl
  | error e =>
    simp only [respond, responsesTo]
    rw [dialogues_leave, dialogues_send_answer _ i rfl, hmark, List.modify_modify_eq]
    rfl

/-- A task that is missing or answered is left alone. -/
theorem step_answer_of_not {i r : ℕ} (h : ∀ task ∈ g.task? i r, task.answered)
    (result : Except JsError JsValue) (audit : Audit) :
    g.step options (.answer i r result audit) = g := by
  simp only [RealtimeGateway.step]
  split
  · rfl
  · next task htask => simp [h task htask]

end RealtimeGateway

end Vertx
