import Vertx.Domain.MirrorTimes
import Vertx.Js.Socket
import Vertx.Lib.Runs

/-!
# The realtime mirror client

`startRealtimeMirrorClient` keeps a connection to the realtime gateway and applies the events that
it receives to the repository.  Sockets and timers are numbered in the order in which they are made.
A socket emits its close event once and nothing after it; before that it can deliver messages, also
while it is closing.  An error thrown by the mirror in a message handler takes the process down.

The client is in one of four phases: it has a connection, waits for its reconnect timer, waits for
the close event of its last socket, or is done.
-/

namespace Vertx

open Repository Runs

/-! ## Frames -/

/-- The name as frames spell it. -/
def MirrorEventName.text : MirrorEventName → String
  | chat => "chat"
  | sessionMessage => "session.message"
  | sessionsChanged => "sessions.changed"
  | runStatus => "run.status"
  | toolStatus => "tool.status"
  | approvalRequested => "approval.requested"
  | approvalResolved => "approval.resolved"

/-- `MIRROR_EVENTS`. -/
def mirrorEvents : List MirrorEventName :=
  [.chat, .sessionMessage, .sessionsChanged, .runStatus, .toolStatus, .approvalRequested,
    .approvalResolved]

/-- `isRecord` of the client: an object that is no array. -/
def JsValue.isRecord : JsValue → Bool
  | .obj _ => true
  | _ => false

def isGatewayFrame (value : JsValue) : Bool :=
  value.isRecord && (value.field "type").asString?.isSome

/-- The frame of a message, where `raw` is its text as JSON parses it, if it does. -/
def parseFrame (raw : Option JsValue) : Option JsValue := raw.filter isGatewayFrame

/-- The event of a frame that `isMirrorEventFrame` accepts. -/
def mirrorEventOf (frame : JsValue) : Option ProductApiMirrorEvent :=
  if frame.field "type" = .str "event" then
    (mirrorEvents.find? fun name => frame.field "event" = .str name.text).map
      (⟨·, frame.field "payload"⟩)
  else none

/-- The event that a message is mirrored as. -/
def messageEvent (raw : Option JsValue) : Option ProductApiMirrorEvent :=
  (parseFrame raw).bind mirrorEventOf

/-! ## The client -/

/-- The client with every socket and every armed timer.  A promise that `close` returned is pending
when it waits for the close event of a socket.  The messages received and the events handed to the
mirror are recorded with the times that their handlers read. -/
structure MirrorClient (δ : Type) where
  sockets : List ReadyState
  socket : Option ℕ
  reconnectTimer : Option ℕ
  timers : List ℕ
  timersMade : ℕ
  stopped : Bool
  closes : List (Option ℕ)
  repository : Repository δ
  received : List (Clock × Option JsValue)
  mirrored : List (Clock × ProductApiMirrorEvent)
  /-- The mirror has thrown. -/
  crashed : Bool

/-- One thing that happens to the client.  The open and error events are only logged. -/
inductive MirrorClientStep
  | opened (j : ℕ)
  | message (j : ℕ) (clock : Clock) (raw : Option JsValue)
  | error (j : ℕ)
  /-- The server starts the closing handshake. -/
  | closing (j : ℕ)
  | closed (j : ℕ)
  | timer (t : ℕ)
  | close

namespace MirrorClient

variable {δ : Type}

def clearReconnectTimer (s : MirrorClient δ) : MirrorClient δ :=
  match s.reconnectTimer with
  | none => s
  | some t => { s with timers := s.timers.filter (· ≠ t), reconnectTimer := none }

def scheduleReconnect (s : MirrorClient δ) : MirrorClient δ :=
  if s.stopped ∨ s.reconnectTimer.isSome then s
  else { s with
    timers := s.timers ++ [s.timersMade]
    reconnectTimer := some s.timersMade
    timersMade := s.timersMade + 1 }

def connect (s : MirrorClient δ) : MirrorClient δ :=
  if s.stopped then s
  else { s with sockets := s.sockets ++ [.connecting], socket := some s.sockets.length }

def handleMessage [Persist δ] (clock : Clock) (raw : Option JsValue) (s : MirrorClient δ) :
    MirrorClient δ :=
  match messageEvent raw with
  | none => s
  | some event =>
    match (mirrorRealtimeEventToProductApiRepository clock event).run s.repository with
    | .ok _ repository =>
      { s with repository, mirrored := s.mirrored ++ [(clock, event)] }
    | .error _ repository =>
      { s with repository, mirrored := s.mirrored ++ [(clock, event)], crashed := true }

/-- The close handler of the `j`-th socket, and then the promises that wait for it. -/
def onClosed (j : ℕ) (s : MirrorClient δ) : MirrorClient δ :=
  let s := { s with socket := if s.socket = some j then none else s.socket }.scheduleReconnect
  { s with closes := s.closes.map fun awaited => if awaited = some j then none else awaited }

/-- The method `close`.  `terminate` on a connecting socket, like `close` on an open one, is
followed by its close event. -/
def close (s : MirrorClient δ) : MirrorClient δ :=
  let currentSocket := s.socket
  let s := { { s with stopped := true }.clearReconnectTimer with socket := none }
  match currentSocket with
  | none => { s with closes := s.closes ++ [none] }
  | some j =>
    if s.sockets[j]? = some ReadyState.closed then { s with closes := s.closes ++ [none] }
    else { s with
      closes := s.closes ++ [some j]
      sockets := s.sockets.modify j .afterClose }

/-- The `j`-th socket exists and has not emitted its close event. -/
def emits (j : ℕ) (s : MirrorClient δ) : Bool := s.sockets[j]?.any (· ≠ .closed)

def step [Persist δ] (s : MirrorClient δ) (i : MirrorClientStep) : MirrorClient δ :=
  if s.crashed then s
  else
    match i with
    | .opened j => { s with sockets := s.sockets.modify j .afterOpen }
    | .message j clock raw =>
      if s.emits j then
        { s with received := s.received ++ [(clock, raw)] }.handleMessage clock raw
      else s
    | .error _ => s
    | .closing j => { s with sockets := s.sockets.modify j .afterClose }
    | .closed j =>
      if s.emits j then { s with sockets := s.sockets.set j .closed }.onClosed j else s
    | .timer t =>
      if t ∈ s.timers then
        { s with timers := s.timers.filter (· ≠ t), reconnectTimer := none }.connect
      else s
    | .close => s.close

/-- `startRealtimeMirrorClient`. -/
def start (repository : Repository δ) : MirrorClient δ :=
  connect ⟨[], none, none, [], 0, false, [], repository, [], [], false⟩

/-! ## What the client promises -/

/-- The sockets that have not closed and the pending timers. -/
def connections (s : MirrorClient δ) : ℕ := s.sockets.countP (· ≠ .closed) + s.timers.length

/-- There is at most one socket that has not closed or one pending timer, and exactly one of the two
until `close` is called. -/
structure OneConnection (s : MirrorClient δ) : Prop where
  atMost : s.connections ≤ 1
  exactly : s.closes = [] → s.connections = 1

/-- The repository after mirroring events. -/
def mirrorAll [Persist δ] (repository : Repository δ)
    (events : List (Clock × ProductApiMirrorEvent)) : Repository δ :=
  events.foldl (fun r e => (mirrorRealtimeEventToProductApiRepository e.1 e.2).stateAfter r)
    repository

/-- The events of the received messages have been handed to the mirror, in order and each once, and
the repository is what the mirror made of them. -/
structure AppliesReceived [Persist δ] (repository : Repository δ) (s : MirrorClient δ) : Prop where
  mirrored : s.mirrored = s.received.filterMap fun m => (messageEvent m.2).map (m.1, ·)
  repository : s.repository = mirrorAll repository s.mirrored

/-- The promise of the `k`-th call of `close` has resolved. -/
def Resolved (k : ℕ) (s : MirrorClient δ) : Prop := s.closes[k]? = some none

/-- An earlier call of `close` waits for its socket. -/
def Closing (s : MirrorClient δ) : Prop := ∃ j, some j ∈ s.closes

/-- The mirror has done nothing between two states. -/
structure Unmirrored (s t : MirrorClient δ) : Prop where
  mirrored : t.mirrored = s.mirrored
  repository : t.repository = s.repository

/-- `close` is called in the state.  Once the promise of the call has resolved, no socket is made,
and nothing is mirrored unless the call found an earlier one waiting. -/
def SettlesAfterClose [Persist δ] (s : MirrorClient δ) : Prop :=
  ∀ during after : List MirrorClientStep,
    (run step s (.close :: during)).Resolved s.closes.length →
      (run step s (.close :: during ++ after)).sockets.length =
          (run step s (.close :: during)).sockets.length ∧
        (¬ s.Closing →
          Unmirrored (run step s (.close :: during)) (run step s (.close :: during ++ after)))

/-! ## Phases -/

/-- What the client is doing, after `n` sockets that have closed. -/
inductive Phase
  | connected (n : ℕ) (state : ReadyState)
  | waiting (n t : ℕ)
  | closing (n : ℕ) (state : ReadyState)
  | done (n : ℕ)

/-- The client is in a phase. -/
def InPhase (s : MirrorClient δ) : Phase → Prop
  | .connected n state =>
    s.sockets = List.replicate n .closed ++ [state] ∧ state ≠ .closed ∧ s.socket = some n ∧
      s.reconnectTimer = none ∧ s.timers = [] ∧ s.stopped = false ∧ s.closes = []
  | .waiting n t =>
    s.sockets = List.replicate n .closed ∧ s.socket = none ∧ s.reconnectTimer = some t ∧
      s.timers = [t] ∧ s.stopped = false ∧ s.closes = []
  | .closing n state =>
    s.sockets = List.replicate n .closed ++ [state] ∧ state ≠ .closed ∧ s.socket = none ∧
      s.reconnectTimer = none ∧ s.timers = [] ∧ s.stopped ∧
      ∃ later, s.closes = some n :: List.replicate later none
  | .done n =>
    s.sockets = List.replicate n .closed ∧ s.socket = none ∧ s.reconnectTimer = none ∧
      s.timers = [] ∧ s.stopped ∧ ∃ calls, s.closes = List.replicate (calls + 1) none

section

variable {n j : ℕ} {state : ReadyState} {f : ReadyState → ReadyState}

theorem modify_replicate (hf : f .closed = .closed) :
    (List.replicate n ReadyState.closed).modify j f = List.replicate n .closed := by
  apply List.ext_getElem?
  intro k
  rw [List.getElem?_modify, List.getElem?_replicate]
  split_ifs <;> simp [hf]

/-- Only the last socket can change its state. -/
theorem modify_last (hf : f .closed = .closed) :
    (List.replicate n ReadyState.closed ++ [state]).modify j f =
      List.replicate n .closed ++ [if j = n then f state else state] := by
  apply List.ext_getElem?
  intro k
  rw [List.getElem?_modify]
  rcases lt_trichotomy k n with hk | rfl | hk
  · rw [List.getElem?_append_left (by simpa using hk),
      List.getElem?_append_left (by simpa using hk), List.getElem?_replicate, if_pos hk]
    split_ifs <;> simp [hf]
  · simp only [List.getElem?_append_right, List.length_replicate, le_refl, Nat.sub_self,
      List.getElem?_cons_zero, Option.map_eq_map, Option.map_some]
  · rw [List.getElem?_eq_none (by simp; omega), List.getElem?_eq_none (by simp; omega)]
    rfl

theorem set_last : (List.replicate n ReadyState.closed ++ [state]).set n .closed =
    List.replicate (n + 1) .closed := by
  rw [List.set_append_right _ _ (by simp), List.length_replicate, Nat.sub_self, List.set_cons_zero,
    List.replicate_succ']

end

section

variable {s : MirrorClient δ} {n t j : ℕ} {state : ReadyState} {p : Phase}

theorem emits_connected (hs : s.sockets = List.replicate n .closed ++ [state])
    (hstate : state ≠ .closed) :
    s.emits j = decide (j = n) := by
  rw [emits, hs]
  rcases lt_trichotomy j n with hj | rfl | hj
  · rw [List.getElem?_append_left (by simpa using hj), List.getElem?_replicate, if_pos hj]
    simp [hj.ne]
  · simp [hstate]
  · rw [List.getElem?_eq_none (by simp; omega)]
    simp [hj.ne']

theorem emits_closed (hs : s.sockets = List.replicate n .closed) : s.emits j = false := by
  rw [emits, hs, List.getElem?_replicate]
  split_ifs <;> rfl

/-- A message changes neither the connection nor the promises. -/
theorem inPhase_handleMessage [Persist δ] (clock : Clock) (raw : Option JsValue) (h : s.InPhase p) :
    (s.handleMessage clock raw).InPhase p := by
  have hfields : ∃ repository mirrored crashed,
      s.handleMessage clock raw = { s with repository, mirrored, crashed } := by
    unfold handleMessage
    split
    · exact ⟨_, _, _, rfl⟩
    · split <;> exact ⟨_, _, _, rfl⟩
  obtain ⟨repository, mirrored, crashed, hfields⟩ := hfields
  rw [hfields]
  cases p <;> exact h

theorem inPhase_start (repository : Repository δ) :
    (start repository).InPhase (.connected 0 .connecting) :=
  ⟨rfl, nofun, rfl, rfl, rfl, rfl, rfl⟩

/-- The phase after an event of a socket that changes its state. -/
def Phase.modify (j : ℕ) (f : ReadyState → ReadyState) : Phase → Phase
  | .connected n state => .connected n (if j = n then f state else state)
  | .closing n state => .closing n (if j = n then f state else state)
  | phase => phase

theorem inPhase_modify {f : ReadyState → ReadyState}
    (hf : ∀ state, f state = .closed ↔ state = .closed)
    (h : s.InPhase p) : InPhase { s with sockets := s.sockets.modify j f } (p.modify j f) := by
  have hclosed : f .closed = .closed := (hf _).2 rfl
  cases p with
  | connected n state =>
    obtain ⟨hsockets, hstate, hrest⟩ := h
    refine ⟨?_, ?_, hrest⟩
    · show s.sockets.modify j f = _
      rw [hsockets, modify_last hclosed]
    · split_ifs
      · exact mt (hf state).1 hstate
      · exact hstate
  | closing n state =>
    obtain ⟨hsockets, hstate, hrest⟩ := h
    refine ⟨?_, ?_, hrest⟩
    · show s.sockets.modify j f = _
      rw [hsockets, modify_last hclosed]
    · split_ifs
      · exact mt (hf state).1 hstate
      · exact hstate
  | waiting n t =>
    refine ⟨?_, h.2⟩
    show s.sockets.modify j f = _
    rw [h.1, modify_replicate hclosed]
  | done n =>
    refine ⟨?_, h.2⟩
    show s.sockets.modify j f = _
    rw [h.1, modify_replicate hclosed]

/-- The phase after a call of `close`. -/
def Phase.close : Phase → Phase
  | .connected n state => .closing n state.afterClose
  | .waiting n _ => .done n
  | phase => phase

theorem inPhase_close (h : s.InPhase p) : s.close.InPhase p.close := by
  cases p with
  | connected n state =>
    obtain ⟨hsockets, hstate, hsocket, htimer, htimers, hstopped, hcloses⟩ := h
    have hlast : s.sockets[n]? = some state := by rw [hsockets]; simp
    unfold close
    simp only [hsocket, clearReconnectTimer, htimer, hlast, Option.some.injEq, hstate, if_false,
      hcloses]
    refine ⟨?_, ?_, rfl, rfl, htimers, rfl, 0, rfl⟩
    · show s.sockets.modify n .afterClose = _
      rw [hsockets, modify_last rfl, if_pos rfl]
    · exact mt ReadyState.afterClose_eq_closed.1 hstate
  | waiting n t =>
    obtain ⟨hsockets, hsocket, htimer, htimers, hstopped, hcloses⟩ := h
    unfold close
    simp only [hsocket, clearReconnectTimer, htimer, hcloses, htimers]
    exact ⟨hsockets, rfl, rfl, by simp, rfl, 0, rfl⟩
  | closing n state =>
    obtain ⟨hsockets, hstate, hsocket, htimer, htimers, hstopped, later, hcloses⟩ := h
    unfold close
    simp only [hsocket, clearReconnectTimer, htimer, hcloses]
    refine ⟨hsockets, hstate, rfl, rfl, htimers, rfl, later + 1, ?_⟩
    rw [List.replicate_succ']
    rfl
  | done n =>
    obtain ⟨hsockets, hsocket, htimer, htimers, hstopped, calls, hcloses⟩ := h
    unfold close
    simp only [hsocket, clearReconnectTimer, htimer, hcloses]
    refine ⟨hsockets, rfl, rfl, htimers, rfl, calls + 1, ?_⟩
    rw [List.replicate_succ' (n := calls + 1)]

/-- The phase after the close event of the last socket, where `timer` is the next timer. -/
def Phase.closed (timer : ℕ) : Phase → Phase
  | .connected n _ => .waiting (n + 1) timer
  | .closing n _ => .done (n + 1)
  | phase => phase

theorem inPhase_closed (h : s.InPhase p) (hemits : s.emits j) :
    InPhase ({ s with sockets := s.sockets.set j .closed }.onClosed j) (p.closed s.timersMade) := by
  cases p with
  | connected n state =>
    obtain ⟨hsockets, hstate, hsocket, htimer, htimers, hstopped, hcloses⟩ := h
    obtain rfl : j = n := by simpa [emits_connected hsockets hstate] using hemits
    unfold onClosed scheduleReconnect
    simp only [hsocket, if_true, hstopped, htimer, Bool.false_eq_true, Option.isSome_none, or_false,
      if_false, hcloses, htimers]
    refine ⟨?_, rfl, rfl, rfl, rfl, rfl⟩
    show s.sockets.set j .closed = _
    rw [hsockets, set_last]
  | closing n state =>
    obtain ⟨hsockets, hstate, hsocket, htimer, htimers, hstopped, later, hcloses⟩ := h
    obtain rfl : j = n := by simpa [emits_connected hsockets hstate] using hemits
    unfold onClosed scheduleReconnect
    simp only [hsocket, hstopped, true_or, if_true, hcloses, htimers, htimer]
    refine ⟨?_, by simp, rfl, rfl, rfl, later, ?_⟩
    · show s.sockets.set j .closed = _
      rw [hsockets, set_last]
    · simp [List.replicate_succ]
  | waiting n t =>
    rw [emits_closed h.1] at hemits
    cases hemits
  | done n =>
    rw [emits_closed h.1] at hemits
    cases hemits

/-- The phase after the timer. -/
def Phase.timer : Phase → Phase
  | .waiting n _ => .connected n .connecting
  | phase => phase

theorem inPhase_timer (h : s.InPhase p) (ht : t ∈ s.timers) :
    InPhase (connect
      { s with timers := s.timers.filter (· ≠ t), reconnectTimer := none }) p.timer := by
  cases p with
  | waiting n t' =>
    obtain ⟨hsockets, hsocket, htimer, htimers, hstopped, hcloses⟩ := h
    obtain rfl : t = t' := by simpa [htimers] using ht
    unfold connect
    simp only [hstopped, Bool.false_eq_true, if_false, htimers, hsockets]
    exact ⟨rfl, nofun, by simp, rfl, by simp, rfl, hcloses⟩
  | connected n state => simp [h.2.2.2.2.1] at ht
  | closing n state => simp [h.2.2.2.2.1] at ht
  | done n => simp [h.2.2.2.1] at ht

/-! ## The runs -/

/-- The sockets that have been made. -/
def Phase.made : Phase → ℕ
  | .connected n _ | .closing n _ => n + 1
  | .waiting n _ | .done n => n

/-- `close` has been called. -/
def Phase.isStopped : Phase → Bool
  | .closing _ _ | .done _ => true
  | _ => false

theorem inPhase_made (h : s.InPhase p) : s.sockets.length = p.made := by
  cases p <;> simp [h.1, Phase.made]

/-- A client that is stopped makes no socket, and one that is done stays so. -/
structure Phase.Next (p p' : Phase) : Prop where
  stopped : p.isStopped → p'.isStopped ∧ p'.made = p.made
  done : ∀ n, p = .done n → p' = .done n

theorem Phase.Next.refl (p : Phase) : p.Next p := ⟨fun h => ⟨h, rfl⟩, fun _ h => h⟩

theorem Phase.Next.trans {p₁ p₂ p₃ : Phase} (h : p₁.Next p₂) (h' : p₂.Next p₃) : p₁.Next p₃ := by
  refine ⟨fun hp => ?_, fun n hn => h'.done n (h.done n hn)⟩
  obtain ⟨hstopped, hmade⟩ := h.stopped hp
  obtain ⟨hstopped', hmade'⟩ := h'.stopped hstopped
  exact ⟨hstopped', hmade'.trans hmade⟩

variable [Persist δ]

/-- What one step does to the phase. -/
theorem inPhase_step (h : s.InPhase p) (i : MirrorClientStep) :
    ∃ p', (s.step i).InPhase p' ∧ p.Next p' := by
  have hsame : ∃ p', s.InPhase p' ∧ p.Next p' := ⟨p, h, .refl p⟩
  unfold step
  split_ifs
  · exact hsame
  cases i with
  | opened j =>
    refine ⟨_, inPhase_modify (fun _ => ReadyState.afterOpen_eq_closed) h, ?_⟩
    cases p <;> exact ⟨fun h => ⟨h, rfl⟩, by simp [Phase.modify]⟩
  | closing j =>
    refine ⟨_, inPhase_modify (fun _ => ReadyState.afterClose_eq_closed) h, ?_⟩
    cases p <;> exact ⟨fun h => ⟨h, rfl⟩, by simp [Phase.modify]⟩
  | message j clock raw =>
    dsimp only
    split_ifs
    · refine ⟨p, inPhase_handleMessage clock raw ?_, .refl p⟩
      cases p <;> exact h
    · exact hsame
  | error j => exact hsame
  | closed j =>
    dsimp only
    split_ifs with hemits
    · refine ⟨_, inPhase_closed h hemits, ?_⟩
      cases p <;>
        exact ⟨by simp [Phase.closed, Phase.isStopped, Phase.made], by simp [Phase.closed]⟩
    · exact hsame
  | timer t =>
    dsimp only
    split_ifs with ht
    · refine ⟨_, inPhase_timer h ht, ?_⟩
      cases p <;> exact ⟨by simp [Phase.timer, Phase.isStopped], by simp [Phase.timer]⟩
    · exact hsame
  | close =>
    refine ⟨_, inPhase_close h, ?_⟩
    cases p <;> exact ⟨by simp [Phase.close, Phase.isStopped, Phase.made], by simp [Phase.close]⟩

theorem inPhase_run (h : s.InPhase p) (steps : List MirrorClientStep) :
    ∃ p', (run step s steps).InPhase p' ∧ p.Next p' := by
  induction steps generalizing s p with
  | nil => exact ⟨p, h, .refl p⟩
  | cons i steps ih =>
    obtain ⟨p₁, h₁, hnext₁⟩ := inPhase_step h i
    obtain ⟨p₂, h₂, hnext₂⟩ := ih h₁
    exact ⟨p₂, h₂, hnext₁.trans hnext₂⟩

omit [Persist δ] in
/-- In every phase there is one socket or one timer at most. -/
theorem oneConnection_of_inPhase (h : s.InPhase p) : s.OneConnection := by
  have hcount (n : ℕ) : (List.replicate n ReadyState.closed).countP (· ≠ .closed) = 0 := by simp
  cases p with
  | connected n state =>
    obtain ⟨hsockets, hstate, hsocket, htimer, htimers, hstopped, hcloses⟩ := h
    have hone : s.connections = 1 := by
      rw [connections, hsockets, htimers, List.countP_append, hcount]
      simp [hstate]
    exact ⟨hone.le, fun _ => hone⟩
  | waiting n t =>
    obtain ⟨hsockets, hsocket, htimer, htimers, hstopped, hcloses⟩ := h
    have hone : s.connections = 1 := by rw [connections, hsockets, htimers, hcount]; rfl
    exact ⟨hone.le, fun _ => hone⟩
  | closing n state =>
    obtain ⟨hsockets, hstate, hsocket, htimer, htimers, hstopped, later, hcloses⟩ := h
    refine ⟨?_, fun hnone => by simp [hcloses] at hnone⟩
    rw [connections, hsockets, htimers, List.countP_append, hcount]
    simp [hstate]
  | done n =>
    obtain ⟨hsockets, hsocket, htimer, htimers, hstopped, calls, hcloses⟩ := h
    refine ⟨?_, fun hnone => by simp [hcloses] at hnone⟩
    rw [connections, hsockets, htimers, hcount]
    exact Nat.zero_le 1

/-- The mirror's record after a message that is handled. -/
theorem applies_handleMessage {r : Repository δ} {clock : Clock} {raw : Option JsValue}
    (h : s.AppliesReceived r) :
    (handleMessage clock raw
      { s with received := s.received ++ [(clock, raw)] }).AppliesReceived r := by
  obtain ⟨hmirrored, hrepository⟩ := h
  have hevents :
      (s.received ++ [(clock, raw)]).filterMap (fun m => (messageEvent m.2).map (m.1, ·)) =
      s.mirrored ++ ((messageEvent raw).map (clock, ·)).toList := by
    rw [List.filterMap_append, ← hmirrored]
    cases hraw : messageEvent raw <;> simp [hraw]
  unfold handleMessage
  cases hraw : messageEvent raw with
  | none =>
    rw [hraw] at hevents
    exact ⟨by rw [hevents]; simp, hrepository⟩
  | some event =>
    rw [hraw] at hevents
    have hstep : (mirrorRealtimeEventToProductApiRepository clock event).stateAfter s.repository =
        mirrorAll r (s.mirrored ++ [(clock, event)]) := by
      rw [hrepository, mirrorAll, mirrorAll, List.foldl_append]
      rfl
    rw [JsM.stateAfter] at hstep
    dsimp only
    split
    · next hrun =>
      rw [hrun] at hstep
      exact ⟨hevents.symm, hstep⟩
    · next hrun =>
      rw [hrun] at hstep
      exact ⟨hevents.symm, hstep⟩

theorem applies_step {r : Repository δ} (h : s.AppliesReceived r) (i : MirrorClientStep) :
    (s.step i).AppliesReceived r := by
  have hkeep {s' : MirrorClient δ} (hreceived : s'.received = s.received)
      (hmirrored : s'.mirrored = s.mirrored) (hrepository : s'.repository = s.repository) :
      s'.AppliesReceived r := by
    refine ⟨?_, ?_⟩
    · rw [hmirrored, hreceived]
      exact h.mirrored
    · rw [hmirrored, hrepository]
      exact h.repository
  unfold step
  split_ifs
  · exact h
  cases i with
  | message j clock raw =>
    dsimp only
    split_ifs
    · exact applies_handleMessage h
    · exact h
  | opened j | closing j => exact hkeep rfl rfl rfl
  | error j => exact h
  | closed j =>
    dsimp only
    unfold onClosed scheduleReconnect
    split_ifs <;> exact hkeep rfl rfl rfl
  | timer t =>
    dsimp only
    unfold connect
    split_ifs <;> exact hkeep rfl rfl rfl
  | close =>
    dsimp only
    unfold close clearReconnectTimer
    cases s.socket with
    | none => cases s.reconnectTimer <;> exact hkeep rfl rfl rfl
    | some j =>
      cases s.reconnectTimer
      · dsimp only
        split_ifs <;> exact hkeep rfl rfl rfl
      · dsimp only
        split_ifs <;> exact hkeep rfl rfl rfl

/-- A client that is done receives nothing. -/
theorem unchanged_of_done (h : s.InPhase (.done n)) (i : MirrorClientStep) :
    (s.step i).mirrored = s.mirrored ∧ (s.step i).repository = s.repository := by
  obtain ⟨hsockets, hsocket, htimer, htimers, hstopped, hcloses⟩ := h
  have hemits (j : ℕ) : s.emits j = false := emits_closed hsockets
  unfold step
  split_ifs
  · exact ⟨rfl, rfl⟩
  cases i with
  | message j clock raw => simp [hemits]
  | closed j => simp [hemits]
  | timer t => simp [htimers]
  | close => simp [close, hsocket, clearReconnectTimer, htimer]
  | opened j | error j | closing j => exact ⟨rfl, rfl⟩

/-- Nothing happens to a client that is done. -/
theorem unmirrored_of_done (h : s.InPhase (.done n)) (steps : List MirrorClientStep) :
    Unmirrored s (run step s steps) := by
  induction steps generalizing s with
  | nil => exact ⟨rfl, rfl⟩
  | cons i steps ih =>
    obtain ⟨p', h', hnext⟩ := inPhase_step h i
    obtain rfl : p' = .done n := hnext.done n rfl
    obtain ⟨hmirrored, hrepository⟩ := unchanged_of_done h i
    have hrest := ih h'
    exact ⟨hrest.mirrored.trans hmirrored, hrest.repository.trans hrepository⟩

omit [Persist δ] in
/-- The first call of `close` is answered when nothing is left to wait for. -/
theorem done_of_resolved (h : s.InPhase p) (hresolved : s.Resolved 0) : ∃ n, p = .done n := by
  unfold Resolved at hresolved
  cases p with
  | connected n state => simp [h.2.2.2.2.2.2] at hresolved
  | waiting n t => simp [h.2.2.2.2.2] at hresolved
  | closing n state =>
    obtain ⟨later, hcloses⟩ := h.2.2.2.2.2.2
    simp [hcloses] at hresolved
  | done n => exact ⟨n, rfl⟩

omit [Persist δ] in
theorem isStopped_of_resolved {k : ℕ} (h : s.InPhase p) (hresolved : s.Resolved k) :
    p.isStopped := by
  unfold Resolved at hresolved
  cases p with
  | connected n state => simp [h.2.2.2.2.2.2] at hresolved
  | waiting n t => simp [h.2.2.2.2.2] at hresolved
  | closing n state => rfl
  | done n => rfl

theorem settles_of_inPhase (h : s.InPhase p) : s.SettlesAfterClose := by
  intro during after hresolved
  obtain ⟨p', h', hnext⟩ := inPhase_run h (.close :: during)
  rw [run_append]
  refine ⟨?_, fun hclosing => ?_⟩
  · obtain ⟨p'', h'', hnext'⟩ := inPhase_run h' after
    rw [inPhase_made h'', inPhase_made h']
    exact (hnext'.stopped (isStopped_of_resolved h' hresolved)).2
  · have hdone : ∃ n, p' = .done n := by
      cases p with
      | connected n state =>
        rw [h.2.2.2.2.2.2] at hresolved
        exact done_of_resolved h' hresolved
      | waiting n t =>
        rw [h.2.2.2.2.2] at hresolved
        exact done_of_resolved h' hresolved
      | closing n state =>
        obtain ⟨later, hcloses⟩ := h.2.2.2.2.2.2
        exact absurd ⟨n, by simp [hcloses]⟩ hclosing
      | done n => exact ⟨n, hnext.done n rfl⟩
    obtain ⟨n, rfl⟩ := hdone
    exact unmirrored_of_done h' after

end

/-- What the client promises holds after every schedule. -/
structure KeepsPromises [Persist δ] (repository : Repository δ) (s : MirrorClient δ) : Prop where
  connection : s.OneConnection
  applies : s.AppliesReceived repository
  settles : s.SettlesAfterClose

/-- Through every schedule the client has one connection or one timer until it is closed, mirrors
exactly what it receives, and is settled once a call of `close` that found no other one waiting has
been answered. -/
theorem mirror_client [Persist δ] (repository : Repository δ) (steps : List MirrorClientStep) :
    Always step (KeepsPromises repository) (start repository) steps := by
  have hinv : Always step (fun s => (∃ p, s.InPhase p) ∧ s.AppliesReceived repository)
      (start repository) steps := by
    refine Always.of_step (fun s i hs => ?_) ⟨⟨_, inPhase_start repository⟩, rfl, rfl⟩ steps
    obtain ⟨⟨p, hp⟩, happlies⟩ := hs
    obtain ⟨p', hp', -⟩ := inPhase_step hp i
    exact ⟨⟨p', hp'⟩, applies_step happlies i⟩
  refine hinv.imp fun s hs => ?_
  obtain ⟨⟨p, hp⟩, happlies⟩ := hs
  exact ⟨oneConnection_of_inPhase hp, happlies, settles_of_inPhase hp⟩

/-- A second call of `close` is answered at once, and the socket of the first one still delivers. -/
theorem close_twice_mirrors :
    ¬ ∀ early during after : List MirrorClientStep,
      let s := run step (start (createInMemoryProductApiRepository createMockProductApiState)) early
      (run step s (.close :: during)).Resolved s.closes.length →
        (run step s (.close :: during ++ after)).repository =
          (run step s (.close :: during)).repository := by
  intro h
  have hsame := congrArg (·.state.workbench.pendingApprovals) (h [.opened 0, .close] []
    [.message 0 (fun _ => 0) (some (.obj [("type", .str "event"),
      ("event", .str "approval.requested"), ("payload", .obj [])]))] (by rfl))
  revert hsame
  decide +kernel

end MirrorClient

end Vertx
