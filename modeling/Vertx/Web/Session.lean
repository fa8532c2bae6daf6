import Vertx.Web.Events
import Vertx.Web.Reconnect

/-!
# A session page and its connection

The clients that `connectGateway` makes hand their frames to `handleFrame`, report gaps in the
numbers of the events and carry the history requests.  A request goes to the socket of its client
when that is open and fails otherwise.  The hello of a client asks for nothing: after a reconnect
the history is loaded again only when something else asks for it.
-/

namespace Vertx

open Runs

/-- The page with its clients: the number that each client remembers, the clients that the reconnect
timer made, and the `chat.history` requests sent, each with its client and session. -/
structure SessionPage where
  connection : SessionConnection
  page : Page
  lastSeqs : ℕ → JsValue
  reconnected : List ℕ
  historySent : List (ℕ × String)

/-- One thing that happens to the page: to its connection, a frame for one of its clients, a call of
the `loadHistory` that the hook returns, the effect that copies the run, or any other dispatch. -/
inductive SessionStep
  | connection (step : ConnectionStep)
  | frame (j : ℕ) (clock : Clock) (frame : GatewayFrame)
  | loadHistory
  | commit
  | act (clock : Clock) (action : RealtimeAction)

namespace Page

/-- The effects of a new session key: the refs are cleared, the state is reset and the connection
starts. -/
def reset (p : Page) : Page :=
  ({ p with pendingReload := false, activeRunRef := .null }.dispatch (fun _ => 0)
    .sessionReset).dispatch (fun _ => 0) .connectStart

/-- `handleFrame` asks for the history on the frame. -/
def asksHistory (p : Page) (frame : GatewayFrame) : Bool :=
  match frame with
  | .event frame =>
    if frame.event = .sessionMessage ∧ payloadSessionKey frame.payload = some p.sessionKey then
      !p.activeRunRef.truthy
    else
      match isTerminalRunFrame frame with
      | .ok true => p.pendingReload
      | _ => false
  | _ => false

end Page

namespace SessionPage

def initial : SessionPage := ⟨.initial, openedPage "", fun _ => .null, [], []⟩

/-- The socket of the `i`-th client is open. -/
def isOpen (i : ℕ) (s : SessionPage) : Bool := s.connection.clients[i]?.any (·.readyState = .open)

def dispatch (clock : Clock) (action : RealtimeAction) (s : SessionPage) : SessionPage :=
  { s with page := s.page.dispatch clock action }

/-- `client.request("chat.history", …)` on the `i`-th client; its failure is dispatched. -/
def sendHistory (i : ℕ) (key : String) (s : SessionPage) : SessionPage :=
  if s.isOpen i then { s with historySent := s.historySent ++ [(i, key)] }
  else s.dispatch (fun _ => 0) (.connectError (.str "realtime gateway is not connected"))

/-- `onGap` of the `j`-th client. -/
def onGap (j : ℕ) (key : String) (clock : Clock) (frame : GatewayFrame) (s : SessionPage) :
    SessionPage :=
  if (gapReport (s.lastSeqs j) frame).isSome then
    (s.dispatch clock (.recoverStart "检测到事件序列缺口，正在恢复历史消息…")).sendHistory j key
  else s

/-- `onError` of a client. -/
def onError (clock : Clock) (frame : GatewayFrame) (s : SessionPage) : SessionPage :=
  match frame with
  | .error message => s.dispatch clock (.connectError message)
  | _ => s

/-- The `handleFrame` that was made for a session key, with the client in the ref. -/
def onFrame (key : String) (clock : Clock) (frame : GatewayFrame) (s : SessionPage) : SessionPage :=
  let before := { s.page with sessionKey := key, hasClient := s.connection.clientRef.isSome }
  let after := Vertx.handleFrame clock before frame
  match s.connection.clientRef with
  | some i =>
    if before.historyRequests < after.historyRequests then
      { s with page := after }.sendHistory i key
    else { s with page := after }
  | none => { s with page := after }

/-- A message event of the `j`-th client's socket. -/
def receive (j : ℕ) (clock : Clock) (frame : GatewayFrame) (s : SessionPage) : SessionPage :=
  match s.connection.clients[j]? with
  | none => s
  | some c =>
    if c.readyState = .open then
      { (s.onGap j c.sessionKey clock frame).onError clock frame with
        lastSeqs := Function.update s.lastSeqs j (nextLastSeq (s.lastSeqs j) frame) }.onFrame
          c.sessionKey clock frame
    else s

/-- `loadHistory` as the hook returns it: its caller hears of a failure. -/
def loadHistory (s : SessionPage) : SessionPage :=
  match s.connection.clientRef with
  | some i => if s.isOpen i then s.sendHistory i s.connection.sessionKey else s
  | none => s

/-- What a change of the connection does to the page. -/
def pageAfter (s : SessionPage) : ConnectionStep → Page
  | .mount _ => if s.connection.mounted then s.page else s.page.reset
  | .switch key =>
    if s.connection.mounted ∧ key ≠ s.connection.sessionKey then s.page.reset else s.page
  | .unmount => if s.connection.mounted then { s.page with pendingReload := false } else s.page
  | .closed j =>
    if s.connection.clients[j]?.any (·.readyState ≠ .closed) ∧
        s.connection.closedByUserRef = false then
      s.page.dispatch (fun _ => 0) (.recoverStart "Realtime 连接已断开，正在恢复…")
    else s.page
  | .timer t =>
    if (s.connection.armed? t).isSome then s.page.dispatch (fun _ => 0) .connectStart else s.page
  | .opened _ | .close _ => s.page

/-- The clients that the reconnect timer has made after a change of the connection. -/
def reconnectedAfter (s : SessionPage) : ConnectionStep → List ℕ
  | .timer t =>
    if (s.connection.armed? t).isSome then s.reconnected ++ [s.connection.clients.length]
    else s.reconnected
  | _ => s.reconnected

def step (s : SessionPage) : SessionStep → SessionPage
  | .connection step =>
    { s with
      connection := s.connection.step step
      page := s.pageAfter step
      reconnected := s.reconnectedAfter step }
  | .frame j clock frame => s.receive j clock frame
  | .loadHistory => s.loadHistory
  | .commit => { s with page := pageStep s.page .commit }
  | .act clock action => s.dispatch clock action

/-! ## The history requests of a step -/

/-- The requests that a call on the client in the ref sends. -/
def currentRequests (key : String) (s : SessionPage) : List (ℕ × String) :=
  (s.connection.clientRef.filter (s.isOpen ·)).toList.map (·, key)

/-- The `chat.history` requests that a step sends: for a gap in the events of a client, for what
`handleFrame` reacts to, and for the user. -/
def issued (s : SessionPage) : SessionStep → List (ℕ × String)
  | .frame j _ frame =>
    match s.connection.clients[j]? with
    | none => []
    | some c =>
      if c.readyState = .open then
        (if (gapReport (s.lastSeqs j) frame).isSome then [(j, c.sessionKey)] else []) ++
          if { s.page with sessionKey := c.sessionKey }.asksHistory frame then
            s.currentRequests c.sessionKey
          else []
      else []
  | .loadHistory => s.currentRequests s.connection.sessionKey
  | _ => []

/-- The step asks for the history of a session on the open socket of the `i`-th client: an event on
it skips a number, it is the client in the ref and `handleFrame` reacts to a frame, or it is the
client in the ref and the user asks. -/
def Asks (i : ℕ) (key : String) (s : SessionPage) : SessionStep → Prop
  | .frame j _ frame =>
    (∃ c, s.connection.clients[j]? = some c ∧ c.readyState = .open ∧ c.sessionKey = key) ∧
      (i = j ∧ (gapReport (s.lastSeqs j) frame).isSome ∨
        { s.page with sessionKey := key }.asksHistory frame ∧
          s.connection.clientRef = some i ∧ s.isOpen i)
  | .loadHistory =>
    s.connection.sessionKey = key ∧ s.connection.clientRef = some i ∧ s.isOpen i
  | _ => False

end SessionPage

/-! ### What `handleFrame` asks for -/

namespace Page

theorem historyRequests_dispatch (clock : Clock) (action : RealtimeAction) (p : Page) :
    (p.dispatch clock action).historyRequests = p.historyRequests := by
  obtain ⟨state, crashed, h⟩ := p.dispatch_eq clock action
  rw [h]

theorem historyRequests_requestHistory (clock : Clock) (reason : String) (p : Page) :
    (p.requestHistory clock reason).historyRequests =
      p.historyRequests + if p.hasClient then 1 else 0 := by
  unfold requestHistory
  split_ifs
  · exact congrArg (· + 1) (historyRequests_dispatch clock _ p)
  · rfl

theorem asksHistory_congr {p q : Page} (hkey : q.sessionKey = p.sessionKey)
    (hrun : q.activeRunRef = p.activeRunRef) (hpending : q.pendingReload = p.pendingReload)
    (frame : GatewayFrame) : q.asksHistory frame = p.asksHistory frame := by
  unfold asksHistory
  rw [hkey, hrun, hpending]

/-- Besides messages of its own session, the page looks at the frames that end a run. -/
theorem asksHistory_of_ne_message {p : Page} {frame : EventFrame}
    (h : ¬ (frame.event = .sessionMessage ∧
      payloadSessionKey frame.payload = some p.sessionKey)) :
    p.asksHistory (.event frame) =
      match isTerminalRunFrame frame with
      | .ok true => p.pendingReload
      | _ => false := if_neg h

theorem historyRequests_handleFrame (clock : Clock) (p : Page) (frame : GatewayFrame) :
    (handleFrame clock p frame).historyRequests =
      p.historyRequests + if p.hasClient ∧ p.asksHistory frame then 1 else 0 := by
  cases frame with
  | hello frame =>
    rw [if_neg fun h => by cases h.2]
    exact historyRequests_dispatch clock _ p
  | res id =>
    rw [if_neg fun h => by cases h.2]
    rfl
  | error message =>
    rw [if_neg fun h => by cases h.2]
    exact historyRequests_dispatch clock _ p
  | event frame =>
    obtain ⟨state, crashed, hdispatch⟩ := p.dispatch_eq clock (.event frame)
    simp only [handleFrame, hdispatch]
    by_cases hmessage : frame.event = .sessionMessage ∧
        payloadSessionKey frame.payload = some p.sessionKey
    · have hasks : p.asksHistory (.event frame) = !p.activeRunRef.truthy := if_pos hmessage
      rw [if_pos hmessage, hasks]
      by_cases hrun : p.activeRunRef.truthy
      · simp [hrun]
      · rw [if_neg hrun, historyRequests_requestHistory]
        simp [hrun]
    · rw [if_neg hmessage, asksHistory_of_ne_message hmessage]
      cases isTerminalRunFrame frame with
      | error e => simp
      | ok terminal =>
        cases terminal with
        | false => simp
        | true =>
          dsimp only
          by_cases hpending : p.pendingReload
          · rw [if_pos hpending, historyRequests_requestHistory]
            simp [hpending]
          · rw [if_neg hpending]
            simp [hpending]

theorem requests_handleFrame_iff (clock : Clock) (p : Page) (frame : GatewayFrame) :
    p.historyRequests < (handleFrame clock p frame).historyRequests ↔
      p.hasClient ∧ p.asksHistory frame := by
  rw [historyRequests_handleFrame]
  split_ifs with h
  · exact iff_of_true (Nat.lt_succ_self _) h
  · exact iff_of_false (Nat.lt_irrefl _) h

end Page

namespace SessionPage

variable {s : SessionPage}

theorem historySent_sendHistory (i : ℕ) (key : String) (s : SessionPage) :
    (s.sendHistory i key).historySent = s.historySent ++ if s.isOpen i then [(i, key)] else [] := by
  unfold sendHistory
  split_ifs
  · rfl
  · exact (List.append_nil _).symm

/-- The parts of the page that decide about requests. -/
structure SameRefs (s t : SessionPage) : Prop where
  connection : t.connection = s.connection
  activeRunRef : t.page.activeRunRef = s.page.activeRunRef
  pendingReload : t.page.pendingReload = s.page.pendingReload

theorem sameRefs_dispatch (clock : Clock) (action : RealtimeAction) (s : SessionPage) :
    SameRefs s (s.dispatch clock action) := by
  obtain ⟨state, crashed, h⟩ := s.page.dispatch_eq clock action
  unfold SessionPage.dispatch
  rw [h]
  exact ⟨rfl, rfl, rfl⟩

theorem SameRefs.trans {t u : SessionPage} (h : SameRefs s t) (h' : SameRefs t u) :
    SameRefs s u where
  connection := h'.connection.trans h.connection
  activeRunRef := h'.activeRunRef.trans h.activeRunRef
  pendingReload := h'.pendingReload.trans h.pendingReload

theorem sameRefs_sendHistory (i : ℕ) (key : String) (s : SessionPage) :
    SameRefs s (s.sendHistory i key) := by
  unfold sendHistory
  split_ifs
  · exact ⟨rfl, rfl, rfl⟩
  · exact sameRefs_dispatch _ _ s

theorem SameRefs.currentRequests {t : SessionPage} (h : SameRefs s t) (key : String) :
    t.currentRequests key = s.currentRequests key := by
  unfold SessionPage.currentRequests isOpen
  rw [h.connection]

theorem onGap_spec (j : ℕ) (key : String) (clock : Clock) (frame : GatewayFrame)
    (hopen : s.isOpen j = true) :
    SameRefs s (s.onGap j key clock frame) ∧ (s.onGap j key clock frame).historySent =
      s.historySent ++ if (gapReport (s.lastSeqs j) frame).isSome then [(j, key)] else [] := by
  unfold onGap
  split_ifs
  · have hrefs := sameRefs_dispatch clock (.recoverStart "检测到事件序列缺口，正在恢复历史消息…") s
    have hstill : (s.dispatch clock
        (.recoverStart "检测到事件序列缺口，正在恢复历史消息…")).isOpen j = true := by
      unfold isOpen
      rw [hrefs.connection]
      exact hopen
    refine ⟨hrefs.trans (sameRefs_sendHistory j key _), ?_⟩
    rw [historySent_sendHistory, hstill]
    rfl
  · exact ⟨⟨rfl, rfl, rfl⟩, (List.append_nil _).symm⟩

theorem onError_spec (clock : Clock) (frame : GatewayFrame) (s : SessionPage) :
    SameRefs s (s.onError clock frame) ∧ (s.onError clock frame).historySent = s.historySent := by
  cases frame with
  | error message => exact ⟨sameRefs_dispatch clock _ s, rfl⟩
  | _ => exact ⟨⟨rfl, rfl, rfl⟩, rfl⟩

theorem historySent_onFrame (key : String) (clock : Clock) (frame : GatewayFrame)
    (s : SessionPage) :
    (s.onFrame key clock frame).historySent =
      s.historySent ++ if { s.page with sessionKey := key }.asksHistory frame then
        s.currentRequests key else [] := by
  unfold onFrame SessionPage.currentRequests
  dsimp only
  cases hclient : s.connection.clientRef with
  | none =>
    simp only [Option.filter_none, Option.toList_none, List.map_nil, ite_self, List.append_nil]
  | some i =>
    have hsent := Page.requests_handleFrame_iff clock
      { s.page with sessionKey := key, hasClient := (some i).isSome } frame
    have hasks : { s.page with sessionKey := key, hasClient := (some i).isSome }.asksHistory frame =
        { s.page with sessionKey := key }.asksHistory frame :=
      Page.asksHistory_congr rfl rfl rfl frame
    rw [hasks] at hsent
    by_cases h : { s.page with sessionKey := key }.asksHistory frame
    · have hpos := hsent.mpr ⟨rfl, h⟩
      dsimp only at hpos ⊢
      rw [if_pos hpos, historySent_sendHistory, if_pos h]
      have hopen (t : Page) : { s with page := t }.isOpen i = s.isOpen i := rfl
      rw [hopen]
      cases hi : s.isOpen i <;> simp [Option.filter, hi]
    · have hneg := fun hn => h (hsent.mp hn).2
      dsimp only at hneg ⊢
      rw [if_neg hneg, if_neg h, List.append_nil]

/-- A step sends the history requests that `issued` lists. -/
theorem historySent_step (s : SessionPage) (step : SessionStep) :
    (s.step step).historySent = s.historySent ++ s.issued step := by
  cases step with
  | connection step => exact (List.append_nil _).symm
  | commit => exact (List.append_nil _).symm
  | act clock action => exact (List.append_nil _).symm
  | loadHistory =>
    simp only [SessionPage.step, SessionPage.loadHistory, issued, SessionPage.currentRequests]
    cases s.connection.clientRef with
    | none => exact (List.append_nil _).symm
    | some i =>
      dsimp only
      cases hopen : s.isOpen i with
      | false => simp [Option.filter, hopen]
      | true =>
        rw [if_pos rfl, historySent_sendHistory, hopen]
        simp [Option.filter, hopen]
  | frame j clock frame =>
    simp only [SessionPage.step, receive, issued]
    cases hc : s.connection.clients[j]? with
    | none => exact (List.append_nil _).symm
    | some c =>
      dsimp only
      by_cases hopen : c.readyState = .open
      · have hopen' : s.isOpen j = true := by simp [isOpen, hc, hopen]
        obtain ⟨hrefs, hgap⟩ := onGap_spec j c.sessionKey clock frame hopen'
        obtain ⟨hrefs', herror⟩ := onError_spec clock frame (s.onGap j c.sessionKey clock frame)
        have hall := hrefs.trans hrefs'
        rw [if_pos hopen, if_pos hopen, historySent_onFrame]
        dsimp only
        rw [herror, hgap, List.append_assoc]
        refine congrArg (s.historySent ++ ·) (congrArg₂ (· ++ ·) rfl ?_)
        have hasks := Page.asksHistory_congr (p := { s.page with sessionKey := c.sessionKey })
          (q := { ((s.onGap j c.sessionKey clock frame).onError clock frame).page with
            sessionKey := c.sessionKey }) rfl hall.activeRunRef hall.pendingReload frame
        rw [hasks]
        exact if_congr Iff.rfl (hall.currentRequests c.sessionKey) rfl
      · rw [if_neg hopen, if_neg hopen, List.append_nil]

theorem mem_currentRequests {i : ℕ} {key key' : String} :
    (i, key') ∈ s.currentRequests key ↔
      key = key' ∧ s.connection.clientRef = some i ∧ s.isOpen i := by
  unfold SessionPage.currentRequests
  simp only [List.mem_map, Option.mem_toList, Option.filter_eq_some_iff, Prod.mk.injEq]
  constructor
  · rintro ⟨k, ⟨hclient, hopen⟩, rfl, rfl⟩
    exact ⟨rfl, hclient, hopen⟩
  · rintro ⟨rfl, hclient, hopen⟩
    exact ⟨i, ⟨hclient, hopen⟩, rfl, rfl⟩

theorem mem_issued_iff {i : ℕ} {key : String} (step : SessionStep) :
    (i, key) ∈ s.issued step ↔ s.Asks i key step := by
  cases step with
  | connection step | commit | act clock action => exact iff_of_false List.not_mem_nil id
  | loadHistory => exact mem_currentRequests
  | frame j clock frame =>
    dsimp only [issued, Asks]
    cases hc : s.connection.clients[j]? with
    | none =>
      refine iff_of_false List.not_mem_nil ?_
      rintro ⟨⟨c, h, -⟩, -⟩
      cases h
    | some c =>
      dsimp only
      by_cases hopen : c.readyState = .open
      · rw [if_pos hopen, List.mem_append]
        have hgaps : (i, key) ∈ (if (gapReport (s.lastSeqs j) frame).isSome then
            [(j, c.sessionKey)] else []) ↔
              c.sessionKey = key ∧ i = j ∧ (gapReport (s.lastSeqs j) frame).isSome := by
          split_ifs with h <;> simp [h, and_comm, eq_comm]
        have hreacts : (i, key) ∈ (if { s.page with sessionKey := c.sessionKey }.asksHistory frame
            then s.currentRequests c.sessionKey else []) ↔
              c.sessionKey = key ∧ { s.page with sessionKey := c.sessionKey }.asksHistory frame ∧
                s.connection.clientRef = some i ∧ s.isOpen i := by
          split_ifs with h
          · rw [mem_currentRequests]
            simp [h]
          · simp [h]
        rw [hgaps, hreacts]
        constructor
        · rintro (⟨rfl, hgap⟩ | ⟨rfl, hasks⟩)
          · exact ⟨⟨c, rfl, hopen, rfl⟩, .inl hgap⟩
          · exact ⟨⟨c, rfl, hopen, rfl⟩, .inr hasks⟩
        · rintro ⟨⟨_, ⟨⟩, -, rfl⟩, hgap | hasks⟩
          · exact .inl ⟨rfl, hgap⟩
          · exact .inr ⟨rfl, hasks⟩
      · rw [if_neg hopen]
        refine iff_of_false List.not_mem_nil ?_
        rintro ⟨⟨_, ⟨⟩, h, -⟩, -⟩
        exact hopen h

/-! ## Reconnecting -/

/-- Every hello on a socket that the reconnect timer opened is followed by a `chat.history` request
for the session of the page on that socket. -/
def Reconciles (steps : List SessionStep) : Prop :=
  ∀ early j clock hello late, steps = early ++ .frame j clock (.hello hello) :: late →
    j ∈ (run step initial early).reconnected → (run step initial early).isOpen j →
    (j, (run step initial early).connection.sessionKey) ∈
      (run step initial steps).historySent.drop (run step initial early).historySent.length

/-- The hello of a client asks for nothing. -/
theorem issued_hello (j : ℕ) (clock : Clock) (hello : HelloFrame) (s : SessionPage) :
    s.issued (.frame j clock (.hello hello)) = [] := by
  unfold issued
  dsimp only [gapReport, Page.asksHistory]
  cases s.connection.clients[j]? with
  | none => rfl
  | some c => simp

/-- A page reconciles after its reconnects in exactly the runs in which, after each hello on a
reconnected socket, a gap, a frame that `handleFrame` reacts to or the user asks for the history on
that socket. -/
theorem reconciles_iff (steps : List SessionStep) :
    Reconciles steps ↔
      ∀ early j clock hello late, steps = early ++ .frame j clock (.hello hello) :: late →
        j ∈ (run step initial early).reconnected → (run step initial early).isOpen j →
        ∃ between later after, late = between ++ later :: after ∧
          (run step initial (early ++ .frame j clock (.hello hello) :: between)).Asks j
            (run step initial early).connection.sessionKey later := by
  unfold Reconciles
  refine forall_congr' fun early => forall_congr' fun j => forall_congr' fun clock =>
    forall_congr' fun hello => forall_congr' fun late => ?_
  refine imp_congr_right fun hsteps => imp_congr_right fun _ => imp_congr_right fun _ => ?_
  generalize hs : run step initial early = s
  have hlast (rest : List SessionStep) :
      run step initial (early ++ .frame j clock (.hello hello) :: rest) =
        run step (s.step (.frame j clock (.hello hello))) rest := by
    rw [run_append, hs, run_cons]
  have hlength : s.historySent.length =
      (s.step (.frame j clock (.hello hello))).historySent.length := by
    rw [historySent_step, issued_hello, List.append_nil]
  rw [hsteps, hlast, hlength, mem_drop_log historySent_step]
  simp only [hlast, mem_issued_iff]

/-- A page loses its connection and gets a new one: its hello arrives, and nothing asks for the
history. -/
theorem reconnect_without_history :
    ¬ Reconciles [.connection (.mount "main"), .connection (.opened 0),
      .frame 0 (fun _ => 0) (.hello ⟨.obj []⟩), .connection (.closed 0), .connection (.timer 0),
      .connection (.opened 1), .frame 1 (fun _ => 0) (.hello ⟨.obj []⟩)] := by
  intro h
  have hmem := h [.connection (.mount "main"), .connection (.opened 0),
      .frame 0 (fun _ => 0) (.hello ⟨.obj []⟩), .connection (.closed 0), .connection (.timer 0),
      .connection (.opened 1)] 1 (fun _ => 0) ⟨.obj []⟩ [] rfl (by decide) (by decide)
  revert hmem
  decide

end SessionPage

end Vertx
