import Vertx.Gateway.Dialogue

/-!
# Requests and the answers to them

A client may have sent many messages whose handlers have not settled.  Every message is answered
once: a request frame by one response, when its handler settles, and anything else by one error
frame.  The response of a resolved handler and the audit callback after it stand in one `try`, so
that what the callback throws sends a second response.
-/

namespace Vertx

open Runs

instance (options : RealtimeGatewayOptions) (raw : Option JsValue) :
    Decidable (RealtimeGateway.Handled options raw) :=
  inferInstanceAs (Decidable (_ ∧ _))

/-- What the request handler, or `source.request`, does with a request in the end: it resolves with
a value, or with one that `JSON.stringify` throws for, or it rejects or throws. -/
inductive HandlerOutcome
  | resolved (value : JsValue)
  | unserialisable (error : JsError)
  | rejected (error : JsError)

namespace HandlerOutcome

def resolves : HandlerOutcome → Bool
  | resolved _ | unserialisable _ => true
  | rejected _ => false

/-- What the `try` block has come to when the response is to be sent. -/
def result : HandlerOutcome → Except JsError JsValue
  | resolved value => .ok value
  | unserialisable error | rejected error => .error error

end HandlerOutcome

/-- A message of a client: its text, when that is JSON, the task it has become, what the handler has
done with it, and the answers that were handed to the client's socket because of it. -/
structure ReceivedMessage where
  raw : Option JsValue
  task : Option ℕ
  outcome : Option HandlerOutcome
  answers : List ServerFrame

namespace ReceivedMessage

/-- One response with the id of the request, which is ok if the handler has resolved. -/
def OneResponse (id : String) (outcome : HandlerOutcome) (frames : List ServerFrame) : Prop :=
  ∃ result : Except ResponseError JsValue, frames = [.res id result] ∧
    (result.isOk ↔ outcome.resolves)

/-- A request frame that reaches the handler is answered by nothing until the handler settles, and
then by one response with its id, which is ok if the handler has resolved.  Any other message never
reaches the handler, and is answered by one response or one error frame. -/
def AnsweredOnce (options : RealtimeGatewayOptions) (m : ReceivedMessage) : Prop :=
  if RealtimeGateway.Handled options m.raw then
    m.task.isSome ∧ ∃ id, RealtimeGateway.requestId? m.raw = some id ∧
      match m.outcome with
      | none => m.answers = []
      | some outcome => OneResponse id outcome m.answers
  else
    m.task = none ∧ m.outcome = none ∧
      match RealtimeGateway.requestId? m.raw with
      | some id => ∃ error, m.answers = [.res id (.error error)]
      | none => ∃ code message, m.answers = [.error code message]

/-- The handler of the message has settled, and `frames` were sent. -/
def settle (outcome : HandlerOutcome) (frames : List ServerFrame) (m : ReceivedMessage) :
    ReceivedMessage :=
  { m with outcome := some outcome, answers := m.answers ++ frames }

end ReceivedMessage

/-- The gateway and, for each of its connections, the messages received. -/
structure AnsweringGateway where
  gateway : RealtimeGateway
  messages : List (List ReceivedMessage)

/-- A step of the environment: a handler settles the `k`-th message of the `i`-th client, or the
gateway takes one of its other steps. -/
inductive AnswerStep
  | gateway (step : GatewayStep)
  | settle (i k : ℕ) (outcome : HandlerOutcome) (audit : Audit)

namespace AnsweringGateway

def initial : AnsweringGateway := ⟨.initial, []⟩

/-- The answers handed to the `i`-th socket. -/
def answers (i : ℕ) (g : RealtimeGateway) : List ServerFrame :=
  (g.dialogues[i]?.map (·.answers)).getD []

/-- The answers that a step has added. -/
def added (i : ℕ) (g g' : RealtimeGateway) : List ServerFrame :=
  (answers i g').drop (answers i g).length

variable (options : RealtimeGatewayOptions)

def message? (s : AnsweringGateway) (i k : ℕ) : Option ReceivedMessage :=
  s.messages[i]?.bind (·[k]?)

/-- The task of a message whose handler has not settled. -/
def openTask? (s : AnsweringGateway) (i k : ℕ) : Option ℕ :=
  (s.message? i k).bind fun m => if m.outcome.isNone then m.task else none

def receive (i : ℕ) (raw : Option JsValue) (audit : Audit) (s : AnsweringGateway) :
    AnsweringGateway :=
  let g := s.gateway.step options (.message i raw audit)
  { gateway := g
    messages := s.messages.modify i fun ms => ms ++
      [{ raw
         task := (g.task? i (s.gateway.taskCount i)).map fun _ => s.gateway.taskCount i
         outcome := none
         answers := added i s.gateway g }] }

def settle (i k r : ℕ) (outcome : HandlerOutcome) (audit : Audit) (s : AnsweringGateway) :
    AnsweringGateway :=
  let g := s.gateway.step options (.answer i r outcome.result audit)
  { gateway := g
    messages := s.messages.modify i (·.modify k (·.settle outcome (added i s.gateway g))) }

def step (s : AnsweringGateway) : AnswerStep → AnsweringGateway
  | .gateway (.connect resolved audit) =>
    { gateway := s.gateway.step options (.connect resolved audit), messages := s.messages ++ [[]] }
  | .gateway (.message i raw audit) =>
    if s.gateway.connections[i]?.any (·.member) then s.receive options i raw audit else s
  | .gateway (.answer _ _ _ _) => s
  | .gateway step => { s with gateway := s.gateway.step options step }
  | .settle i k outcome audit =>
    match s.openTask? i k with
    | none => s
    | some r => s.settle options i k r outcome audit

/-- Every message is answered once, and nothing else is a response or an error frame. -/
def AnsweredOnce (s : AnsweringGateway) : Prop :=
  (∀ ms ∈ s.messages, ∀ m ∈ ms, m.AnsweredOnce options) ∧
    ∀ i, (answers i s.gateway).Perm ((s.messages[i]?.getD []).flatMap (·.answers))

/-- A handler that resolves, resolves with a value that can be sent, and its response can be
recorded. -/
def Recorded (s : AnsweringGateway) : AnswerStep → Prop
  | .settle i k outcome audit => (s.openTask? i k).isSome → outcome.resolves →
      audit 0 = none ∧ ∃ value, outcome = .resolved value
  | .gateway _ => True

end AnsweringGateway

/-! ## One response -/

/-- What `respond` sends is one response exactly when a handler that resolves, resolves with a value
that can be sent, and the callback does not throw. -/
theorem oneResponse_responsesTo (id : String) (outcome : HandlerOutcome) (audit : Audit) :
    ReceivedMessage.OneResponse id outcome (responsesTo id outcome.result audit) ↔
      (outcome.resolves → audit 0 = none ∧ ∃ value, outcome = .resolved value) := by
  have hone (result : Except ResponseError JsValue) :
      ReceivedMessage.OneResponse id outcome [.res id result] ↔
        (result.isOk ↔ outcome.resolves) := by
    simp [ReceivedMessage.OneResponse]
  cases outcome with
  | resolved value =>
    cases haudit : audit 0 with
    | none =>
      simp only [HandlerOutcome.result, responsesTo, haudit, Option.map_none, Option.toList_none,
        hone]
      simp [HandlerOutcome.resolves, Except.isOk, Except.toBool]
    | some e =>
      simp [HandlerOutcome.result, responsesTo, haudit, ReceivedMessage.OneResponse,
        HandlerOutcome.resolves]
  | unserialisable error =>
    simp only [HandlerOutcome.result, responsesTo, hone]
    simp [HandlerOutcome.resolves, Except.isOk, Except.toBool]
  | rejected error =>
    simp only [HandlerOutcome.result, responsesTo, hone]
    simp [HandlerOutcome.resolves, Except.isOk, Except.toBool]

/-- A message whose handler settles. -/
theorem ReceivedMessage.AnsweredOnce.settle_iff {options : RealtimeGatewayOptions}
    {m : ReceivedMessage} (h : m.AnsweredOnce options) {r : ℕ} (hm : m.task = some r)
    (hopen : m.outcome = none) {id : String} (hid : RealtimeGateway.requestId? m.raw = some id)
    (outcome : HandlerOutcome) (frames : List ServerFrame) :
    (m.settle outcome frames).AnsweredOnce options ↔ OneResponse id outcome frames := by
  unfold AnsweredOnce at h
  split_ifs at h with hhandled
  · obtain ⟨hsome, id', hid', hanswers⟩ := h
    obtain rfl := Option.some.inj (hid.symm.trans hid')
    rw [hopen] at hanswers
    have hraw : RealtimeGateway.Handled options (m.settle outcome frames).raw := hhandled
    rw [AnsweredOnce, if_pos hraw]
    simp only [settle, hid, hanswers, hsome, List.nil_append, true_and, Option.some.injEq,
      exists_eq_left']
  · rw [hm] at h
    cases h.1

namespace AnsweringGateway

variable (options : RealtimeGatewayOptions)

/-! ## Messages and tasks -/

/-- The messages of a connection and its dialogue: every task comes from one message, and is
answered when the handler has settled that message. -/
structure Matched (ms : List ReceivedMessage) (d : Dialogue) : Prop where
  once : ∀ m ∈ ms, m.AnsweredOnce options
  tasks : ms.filterMap (·.task) = List.range d.tasks.length
  settled : ∀ m ∈ ms, ∀ r ∈ m.task, ∃ task, d.tasks[r]? = some task ∧
    RealtimeGateway.requestId? m.raw = some task.id ∧ task.answered = m.outcome.isSome
  answers : d.answers.Perm (ms.flatMap (·.answers))

namespace Matched

variable {options} {ms : List ReceivedMessage} {d : Dialogue}

theorem nil : Matched options [] ⟨[], []⟩ where
  once := nofun
  tasks := rfl
  settled := nofun
  answers := .nil

/-- A request frame is taken up. -/
theorem taken (h : Matched options ms d) {raw : Option JsValue} {task : RequestTask}
    (hhandled : RealtimeGateway.Handled options raw)
    (hid : RealtimeGateway.requestId? raw = some task.id) (hanswered : task.answered = false) :
    Matched options (ms ++ [⟨raw, some d.tasks.length, none, []⟩]) (d.addTask task) where
  once := by
    intro m hm
    rcases List.mem_append.1 hm with hm | hm
    · exact h.once m hm
    · rw [List.mem_singleton.1 hm, ReceivedMessage.AnsweredOnce, if_pos hhandled]
      exact ⟨rfl, task.id, hid, rfl⟩
  tasks := by
    simp [Dialogue.addTask, h.tasks, List.range_succ]
  settled := by
    intro m hm r hr
    rcases List.mem_append.1 hm with hm | hm
    · obtain ⟨task', htask', hrest⟩ := h.settled m hm r hr
      refine ⟨task', ?_, hrest⟩
      rw [Dialogue.addTask, List.getElem?_append_left (List.getElem?_eq_some_iff.1 htask').1]
      exact htask'
    · rw [List.mem_singleton.1 hm] at hr ⊢
      rw [← Option.some.inj hr]
      exact ⟨task, by simp [Dialogue.addTask], hid, hanswered⟩
  answers := by
    simpa [Dialogue.addTask] using h.answers

/-- A message that no handler gets. -/
theorem refused (h : Matched options ms d) {raw : Option JsValue} {frame : ServerFrame}
    (hn : ¬ RealtimeGateway.Handled options raw) (hframe : RealtimeGateway.Refuses frame raw) :
    Matched options (ms ++ [⟨raw, none, none, [frame]⟩]) (d.say [frame]) where
  once := by
    intro m hm
    rcases List.mem_append.1 hm with hm | hm
    · exact h.once m hm
    · rw [List.mem_singleton.1 hm, ReceivedMessage.AnsweredOnce, if_neg hn]
      refine ⟨rfl, rfl, ?_⟩
      unfold RealtimeGateway.Refuses at hframe
      split at hframe
      · next id hid =>
        obtain ⟨error, rfl⟩ := hframe
        simp [hid]
      · next hid =>
        obtain ⟨code, message, rfl⟩ := hframe
        simp [hid]
  tasks := by
    simp [Dialogue.say, h.tasks]
  settled := by
    intro m hm r hr
    rcases List.mem_append.1 hm with hm | hm
    · exact h.settled m hm r hr
    · rw [List.mem_singleton.1 hm] at hr
      cases hr
  answers := by
    simpa [Dialogue.say] using h.answers.append_right [frame]

/-- No two messages have become one task. -/
theorem eq_of_task (h : Matched options ms d) {k k' r : ℕ} {m m' : ReceivedMessage}
    (hk : ms[k]? = some m) (hk' : ms[k']? = some m') (hm : m.task = some r)
    (hm' : m'.task = some r) : k = k' := by
  have hnodup : (ms.filterMap (·.task)).Nodup := by
    rw [h.tasks]
    exact List.nodup_range
  exact Keyed.index_eq_of_nodup_filterMap hnodup hk hk' hm hm'

/-- The handler of a request has settled, and one response is sent. -/
theorem answered (h : Matched options ms d) {k r : ℕ} {m : ReceivedMessage} {task : RequestTask}
    {outcome : HandlerOutcome} {result : Except ResponseError JsValue} (hk : ms[k]? = some m)
    (hm : m.task = some r) (hopen : m.outcome = none) (htask : d.tasks[r]? = some task)
    (hresult : result.isOk ↔ outcome.resolves) :
    Matched options (ms.modify k (·.settle outcome [.res task.id result]))
      ((d.markAnswered r).say [.res task.id result]) := by
  obtain ⟨task', htask', hid, -⟩ := h.settled m (List.mem_of_getElem? hk) r hm
  obtain rfl := Option.some.inj (htask.symm.trans htask')
  have hat {k' : ℕ} {m' : ReceivedMessage}
      (hk' : (ms.modify k (·.settle outcome [.res task.id result]))[k']? = some m') :
      (k' = k ∧ m' = m.settle outcome [.res task.id result]) ∨ (k' ≠ k ∧ ms[k']? = some m') := by
    rw [List.getElem?_modify] at hk'
    split_ifs at hk' with heq
    · subst heq
      rw [hk] at hk'
      exact Or.inl ⟨rfl, (Option.some.inj hk').symm⟩
    · exact Or.inr ⟨fun he => heq he.symm, by simpa using hk'⟩
  exact
    { once := by
        intro m' hm'
        obtain ⟨k', hk'⟩ := List.getElem?_of_mem hm'
        rcases hat hk' with ⟨-, rfl⟩ | ⟨-, hk'⟩
        · exact ((h.once m (List.mem_of_getElem? hk)).settle_iff hm hopen hid _ _).2
            ⟨result, rfl, hresult⟩
        · exact h.once m' (List.mem_of_getElem? hk')
      tasks := by
        have hsame (m : ReceivedMessage) : (m.settle outcome [.res task.id result]).task = m.task :=
          rfl
        rw [Keyed.filterMap_modify_of_eq hsame, h.tasks]
        simp [Dialogue.say, Dialogue.markAnswered]
      settled := by
        intro m' hm' r' hr'
        obtain ⟨k', hk'⟩ := List.getElem?_of_mem hm'
        simp only [Dialogue.say, Dialogue.markAnswered, List.getElem?_modify]
        rcases hat hk' with ⟨-, rfl⟩ | ⟨hne, hk'⟩
        · obtain rfl : r = r' := Option.some.inj (hm.symm.trans hr')
          exact ⟨{ task with answered := true }, by simp [htask], hid, rfl⟩
        · have hr : r ≠ r' := by
            rintro rfl
            exact hne (h.eq_of_task hk' hk hr' hm)
          simpa [hr] using h.settled m' (List.mem_of_getElem? hk') r' hr'
      answers := (h.answers.append_right _).trans (Keyed.flatMap_modify_perm hk rfl).symm }

end Matched

/-! ## The whole -/

variable {options} {s : AnsweringGateway} {g g' : RealtimeGateway} {i : ℕ}

/-- Every connection's messages match its dialogue. -/
def Consistent (options : RealtimeGatewayOptions) (s : AnsweringGateway) : Prop :=
  List.Forall₂ (Matched options) s.messages s.gateway.dialogues

theorem added_of_dialogues {d : Dialogue} {f : Dialogue → Dialogue} {frames : List ServerFrame}
    (hd : g.dialogues[i]? = some d) (hg : g'.dialogues = g.dialogues.modify i f)
    (hf : (f d).answers = d.answers ++ frames) : added i g g' = frames := by
  simp [added, answers, hg, hd, hf]

/-- The two sides of one connection. -/
theorem Consistent.connection (h : s.Consistent options) (i : ℕ) :
    (s.messages[i]? = none ∧ s.gateway.dialogues[i]? = none) ∨
      ∃ ms d, s.messages[i]? = some ms ∧ s.gateway.dialogues[i]? = some d ∧
        Matched options ms d := by
  have hrel := Keyed.forall₂_getElem? h i
  generalize s.messages[i]? = ms at hrel ⊢
  generalize s.gateway.dialogues[i]? = d at hrel ⊢
  cases hrel with
  | none => exact Or.inl ⟨rfl, rfl⟩
  | some hmatched => exact Or.inr ⟨_, _, rfl, rfl, hmatched⟩

theorem Consistent.answeredOnce (h : s.Consistent options) : s.AnsweredOnce options := by
  refine ⟨fun ms hms => ?_, fun i => ?_⟩
  · obtain ⟨i, hi⟩ := List.getElem?_of_mem hms
    rcases h.connection i with ⟨hn, -⟩ | ⟨ms', d, hms', -, hmatched⟩
    · rw [hi] at hn
      cases hn
    · obtain rfl := Option.some.inj (hi.symm.trans hms')
      exact hmatched.once
  · rw [answers]
    rcases h.connection i with ⟨hn, hd⟩ | ⟨ms, d, hms, hd, hmatched⟩
    · simp [hn, hd]
    · simpa [hms, hd] using hmatched.answers

theorem Consistent.receive (h : s.Consistent options) (i : ℕ) (raw : Option JsValue)
    (audit : Audit) (hi : s.gateway.connections[i]?.any (·.member)) :
    (s.receive options i raw audit).Consistent options := by
  have hstep : s.gateway.step options (.message i raw audit) =
      s.gateway.handleSocketMessage options i raw audit := if_pos hi
  rcases h.connection i with ⟨-, hd⟩ | ⟨ms, d, hms, hd, hmatched⟩
  · have hnone : s.gateway.connections[i]? = none := by
      simpa [RealtimeGateway.dialogues] using hd
    rw [hnone] at hi
    cases hi
  have hcount : s.gateway.taskCount i = d.tasks.length := by
    rw [RealtimeGateway.taskCount_eq, hd]
    rfl
  simp only [Consistent, AnsweringGateway.receive, hstep, hcount,
    RealtimeGateway.task?_eq]
  rcases s.gateway.dialogues_message options i raw audit with
    ⟨hhandled, task, hid, hanswered, heq⟩ | ⟨hn, frame, hframe, heq⟩
  · have hadded : added i s.gateway (s.gateway.handleSocketMessage options i raw audit) = [] :=
      added_of_dialogues hd heq (List.append_nil _).symm
    rw [hadded, heq, List.getElem?_modify_eq, hd]
    have htask : (d.addTask task).tasks[d.tasks.length]? = some task := by simp [Dialogue.addTask]
    simp only [Option.map_eq_map, Option.map_some, Option.bind_some, htask]
    refine Keyed.forall₂_modify h i fun ms' hms' d' hd' hmatched => ?_
    obtain rfl := Option.some.inj (hd.symm.trans hd')
    exact hmatched.taken hhandled hid hanswered
  · have hadded : added i s.gateway (s.gateway.handleSocketMessage options i raw audit) =
        [frame] := added_of_dialogues hd heq rfl
    rw [hadded, heq, List.getElem?_modify_eq, hd]
    have htask : (d.say [frame]).tasks[d.tasks.length]? = none := by simp [Dialogue.say]
    simp only [Option.map_eq_map, Option.map_some, Option.bind_some, htask, Option.map_none]
    exact Keyed.forall₂_modify h i fun ms' _ d' _ hmatched => hmatched.refused hn hframe

/-- The message of an open task, and the task. -/
theorem Consistent.openTask (h : s.Consistent options) {i k r : ℕ}
    (hopen : s.openTask? i k = some r) :
    ∃ ms d m task, s.messages[i]? = some ms ∧ s.gateway.dialogues[i]? = some d ∧
      Matched options ms d ∧ ms[k]? = some m ∧ m.task = some r ∧ m.outcome = none ∧
      d.tasks[r]? = some task ∧ task.answered = false ∧
      RealtimeGateway.requestId? m.raw = some task.id := by
  obtain ⟨m, hm, hr⟩ := Option.bind_eq_some_iff.1 hopen
  obtain ⟨ms, hms, hk⟩ := Option.bind_eq_some_iff.1 hm
  split_ifs at hr with hnone
  have hnone : m.outcome = none := by simpa using hnone
  rcases h.connection i with ⟨hn, -⟩ | ⟨ms', d, hms', hd, hmatched⟩
  · rw [hms] at hn
    cases hn
  · obtain rfl := Option.some.inj (hms.symm.trans hms')
    obtain ⟨task, htask, hid, hanswered⟩ := hmatched.settled m (List.mem_of_getElem? hk) r hr
    rw [hnone] at hanswered
    exact ⟨ms, d, m, task, hms, hd, hmatched, hk, hr, hnone, htask, hanswered, hid⟩

theorem step_settle {i k r : ℕ} (hopen : s.openTask? i k = some r) (outcome : HandlerOutcome)
    (audit : Audit) :
    s.step options (.settle i k outcome audit) = s.settle options i k r outcome audit := by
  simp only [step, hopen]

/-- The message that is settled, with what is sent for it. -/
theorem Consistent.settled (h : s.Consistent options) {i k r : ℕ}
    (hopen : s.openTask? i k = some r) (outcome : HandlerOutcome) (audit : Audit) :
    ∃ (m : ReceivedMessage) (id : String), m.task = some r ∧ m.outcome = none ∧
      RealtimeGateway.requestId? m.raw = some id ∧
      m.AnsweredOnce options ∧
      (∃ ms ∈ (s.settle options i k r outcome audit).messages,
        m.settle outcome (responsesTo id outcome.result audit) ∈ ms) ∧
      (ReceivedMessage.OneResponse id outcome (responsesTo id outcome.result audit) →
        (s.settle options i k r outcome audit).Consistent options) := by
  obtain ⟨ms, d, m, task, hms, hd, hmatched, hk, hr, hnone, htask, hanswered, hid⟩ :=
    h.openTask hopen
  have hg : s.gateway.task? i r = some task := by
    rw [RealtimeGateway.task?_eq, hd]
    exact htask
  have heq := s.gateway.dialogues_answer options hg hanswered outcome.result audit
  have hadded : added i s.gateway
      (s.gateway.step options (.answer i r outcome.result audit)) =
      responsesTo task.id outcome.result audit := added_of_dialogues hd heq rfl
  refine ⟨m, task.id, hr, hnone, hid, hmatched.once m (List.mem_of_getElem? hk), ?_, ?_⟩
  · refine ⟨ms.modify k (·.settle outcome (responsesTo task.id outcome.result audit)), ?_, ?_⟩
    · refine List.mem_of_getElem? (i := i) ?_
      simp [AnsweringGateway.settle, hms, hadded]
    · refine List.mem_of_getElem? (i := k) ?_
      simp [hk]
  · rintro ⟨result, hone, hresult⟩
    simp only [Consistent, AnsweringGateway.settle, hadded, heq, hone]
    refine Keyed.forall₂_modify h i fun ms' hms' d' hd' hmatched => ?_
    obtain rfl := Option.some.inj (hd.symm.trans hd')
    obtain rfl := Option.some.inj (hms.symm.trans hms')
    exact hmatched.answered hk hr hnone htask hresult

/-- One step: the messages match the dialogues as long as the responses are recorded. -/
theorem Consistent.step (h : s.Consistent options) (step : AnswerStep) (hok : s.Recorded step) :
    (s.step options step).Consistent options := by
  cases step with
  | settle i k outcome audit =>
    cases hopen : s.openTask? i k with
    | none => simpa only [AnsweringGateway.step, hopen] using h
    | some r =>
      rw [step_settle hopen]
      obtain ⟨m, id, -, -, -, -, -, hkeep⟩ := h.settled hopen outcome audit
      refine hkeep ((oneResponse_responsesTo id outcome audit).2 ?_)
      exact hok (by rw [hopen]; rfl)
  | gateway step =>
    cases step with
    | connect resolved audit =>
      change List.Forall₂ _ (s.messages ++ [[]])
        (s.gateway.connect options resolved audit).dialogues
      rw [s.gateway.dialogues_connect options resolved audit]
      exact List.rel_append h (.cons .nil .nil)
    | message i raw audit =>
      simp only [AnsweringGateway.step]
      split_ifs with hi
      · exact h.receive i raw audit hi
      · exact h
    | answer i r result audit => exact h
    | snapshot i result audit =>
      change List.Forall₂ _ s.messages (s.gateway.step options (.snapshot i result audit)).dialogues
      rw [s.gateway.dialogues_other options rfl]
      exact h
    | sourceSnapshot i result audit =>
      change List.Forall₂ _ s.messages
        (s.gateway.step options (.sourceSnapshot i result audit)).dialogues
      rw [s.gateway.dialogues_other options rfl]
      exact h
    | publish event =>
      change List.Forall₂ _ s.messages (s.gateway.step options (.publish event)).dialogues
      rw [s.gateway.dialogues_other options rfl]
      exact h
    | close i =>
      change List.Forall₂ _ s.messages (s.gateway.step options (.close i)).dialogues
      rw [s.gateway.dialogues_other options rfl]
      exact h

/-- A handler that resolves, whose response is not sent or not recorded, is answered by an error or
twice. -/
theorem Consistent.not_answeredOnce (h : s.Consistent options) (step : AnswerStep)
    (hn : ¬ s.Recorded step) : ¬ (s.step options step).AnsweredOnce options := by
  cases step with
  | gateway step => exact absurd trivial hn
  | settle i k outcome audit =>
    cases hopen : s.openTask? i k with
    | none => simp [Recorded, hopen] at hn
    | some r =>
      rw [step_settle hopen]
      obtain ⟨m, id, hr, hnone, hid, honce, ⟨ms, hms, hm⟩, -⟩ := h.settled hopen outcome audit
      intro hanswered
      have hone := (honce.settle_iff hr hnone hid _ _).1 (hanswered.1 ms hms _ hm)
      exact hn fun _ => (oneResponse_responsesTo id outcome audit).1 hone

variable (options)

/-- Every message is answered once in exactly the runs in which the handlers that resolve do so with
values that can be sent, and the callback does not throw when their responses are recorded. -/
theorem answeredOnce_iff (steps : List AnswerStep) :
    Always (AnsweringGateway.step options) (AnsweredOnce options) initial steps ↔
      Each (AnsweringGateway.step options) Recorded initial steps := by
  have hinitial : initial.Consistent options := .nil
  have hgood (s : AnsweringGateway) (h : s.Consistent options) := h.answeredOnce
  have hkeep (s : AnsweringGateway) (step : AnswerStep) (h : s.Consistent options) := h.step step
  have hbreak (s : AnsweringGateway) (step : AnswerStep) (h : s.Consistent options) :=
    h.not_answeredOnce step
  exact always_iff_each hgood hkeep hbreak hinitial steps

/-- The callback throws when the response has been sent. -/
theorem answered_twice :
    ¬ Always
      (AnsweringGateway.step ⟨"workspace-1", none, none, none, false, true, false, false⟩)
      (AnsweredOnce ⟨"workspace-1", none, none, none, false, true, false, false⟩) initial
      [.gateway (.connect ⟨none, none, none⟩ fun _ => none),
        .gateway (.message 0 (some (.obj [("type", .str "req"), ("id", .str "r1"),
          ("method", .str "chat.send")])) fun _ => none),
        .settle 0 0 (.resolved (.obj [])) fun _ => some (.error "disk full")] := by
  intro h
  have honce : ReceivedMessage.AnsweredOnce _
      ⟨some (.obj [("type", .str "req"), ("id", .str "r1"), ("method", .str "chat.send")]), some 0,
        some (.resolved (.obj [])), [.res "r1" (.ok (.obj [])),
          .res "r1" (.error (toResponseError (.error "disk full")))]⟩ :=
    h.2.2.2.1 _ (List.mem_singleton.2 rfl) _ (List.mem_singleton.2 rfl)
  unfold ReceivedMessage.AnsweredOnce at honce
  split_ifs at honce
  · obtain ⟨-, id, -, result, hframes, -⟩ := honce
    cases hframes
  · cases honce.1

end AnsweringGateway

end Vertx
