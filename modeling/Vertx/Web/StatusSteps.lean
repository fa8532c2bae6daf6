import Vertx.Web.StatusActions
import Vertx.Web.StatusPage

/-!
# The connection status after changes and failures

A step sets the status to something or leaves it, and opens, closes or greets sockets or leaves
them.  Here the two are compared for changes of the connection and for requests that fail, one at a
time or with the close of their client.
-/

namespace Vertx

namespace StatusPage

/-! ## What the status says after a step -/

variable (fallbackToMock : Bool) {s t : StatusPage} {j : ℕ}

/-- When the page is up and no history is to decide, the status says whether the page is
connected. -/
def Settled (s : StatusPage) : Prop :=
  s.Live → Deciding s.requests ∨ (s.status = .connected ↔ s.Connected)

/-- While the page is mounted, it does not take a close for its own, and only a socket that has been
opened has received a hello. -/
structure Grounded (s : StatusPage) : Prop where
  flag : s.session.connection.mounted = true → s.session.connection.closedByUserRef = false
  started : ∀ j, s.greeted j = true → Started j s.session.connection

/-- What every step that tells keeps. -/
structure Inv (s : StatusPage) : Prop extends Grounded s where
  settled : s.Settled

/-- The status after a step that sets it, while the page is up. -/
def Sets (s t : StatusPage) (status : Option ConnectionStatus) : Prop :=
  t.session.connection.mounted = s.session.connection.mounted ∧
    s.session.page.Shows t.session.page status

theorem Sets.live {status : Option ConnectionStatus} (h : s.Sets t status) (hlive : t.Live) :
    s.Live ∧ t.status = status.getD s.status := by
  obtain ⟨hup, hstatus⟩ := h.2 hlive.2
  exact ⟨⟨h.1 ▸ hlive.1, hup⟩, hstatus⟩

theorem Sets.trans {u : StatusPage} {status status' : Option ConnectionStatus} (h : s.Sets t status)
    (h' : t.Sets u status') : s.Sets u (status'.or status) :=
  ⟨h'.1.trans h.1, h.2.trans h'.2⟩

theorem Sets.refl (s : StatusPage) : s.Sets s none := ⟨rfl, fun h => ⟨h, rfl⟩⟩

theorem sets_dispatch (clock : Clock) (action : RealtimeAction) (s : StatusPage) :
    s.Sets (s.dispatch clock action) action.status? :=
  ⟨rfl, Page.shows_dispatch clock action s.session.page⟩

/-- A step that sets the status to what the connection is. -/
theorem Settled.of_set {status : ConnectionStatus} (hsets : s.Sets t (some status))
    (h : s.Live → Deciding t.requests ∨ (status = .connected ↔ t.Connected)) : t.Settled := by
  intro hlive
  obtain ⟨hup, hstatus⟩ := hsets.live hlive
  rw [hstatus]
  exact h hup

/-- A step that leaves the status. -/
theorem Settled.of_kept (hs : s.Settled) (hsets : s.Sets t none)
    (hrequests : Deciding s.requests → Deciding t.requests)
    (hconnected : s.Live → Deciding t.requests ∨ (t.Connected ↔ s.Connected)) : t.Settled := by
  intro hlive
  obtain ⟨hup, hstatus⟩ := hsets.live hlive
  rcases hs hup with hdeciding | hiff
  · exact .inl (hrequests hdeciding)
  · refine (hconnected hup).imp_right fun hsame => ?_
    rw [hsame, ← hiff, hstatus]
    rfl

/-! ### Sockets -/

theorem isOpen_modifyReadyState (c : SessionConnection) (i j : ℕ) (f : ReadyState → ReadyState) :
    (c.modifyReadyState j f).clients[i]?.any (·.readyState = .open) =
      c.clients[i]?.any fun client =>
        (if j = i then f client.readyState else client.readyState) = .open := by
  simp only [SessionConnection.modifyReadyState, List.getElem?_modify]
  cases c.clients[i]? with
  | none => rfl
  | some client =>
    simp only [Option.map_eq_map, Option.map_some, Option.any_some]
    split_ifs <;> rfl

theorem not_isOpen_of_afterClose {f : ReadyState → ReadyState} (hf : ∀ state, f state ≠ .open)
    (c : SessionConnection) (i j : ℕ) :
    (c.modifyReadyState j f).clients[i]?.any (·.readyState = .open) = true ↔
      i ≠ j ∧ c.clients[i]?.any (·.readyState = .open) = true := by
  rw [isOpen_modifyReadyState]
  by_cases hij : j = i
  · simp [hij, hf]
  · simp [hij, Ne.symm hij]

theorem connectedBy_closeClient {i : ℕ} :
    (s.closeClient j).ConnectedBy i ↔ i ≠ j ∧ s.ConnectedBy i := by
  have hopen : (s.closeClient j).session.isOpen i = true ↔ i ≠ j ∧ s.session.isOpen i = true :=
    not_isOpen_of_afterClose (by intro state; cases state <;> decide) s.session.connection i j
  have hsame : (s.closeClient j).ConnectedBy i ↔ s.session.connection.clientRef = some i ∧
      (s.closeClient j).session.isOpen i = true ∧ s.greeted i = true := Iff.rfl
  rw [hsame, hopen, ConnectedBy]
  tauto

theorem connected_closeClient : (s.closeClient j).Connected ↔ ∃ i ≠ j, s.ConnectedBy i :=
  exists_congr fun _ => connectedBy_closeClient

theorem sets_closeClient (j : ℕ) (s : StatusPage) : s.Sets (s.closeClient j) none :=
  ⟨rfl, fun h => ⟨h, rfl⟩⟩

/-- The client that `connectGateway` makes is not connected. -/
theorem not_connected_connectGateway {c : SessionConnection} {key : String}
    (h : s.session.connection = c.connectGateway key) : ¬ s.Connected := by
  rintro ⟨i, hclient, hopen, -⟩
  unfold SessionPage.isOpen at hopen
  rw [h] at hclient hopen
  obtain rfl : c.clients.length = i := by
    simpa [SessionConnection.connectGateway] using hclient
  simp [SessionConnection.connectGateway] at hopen

/-! ### Changes of the connection -/

/-- A page that has just started to connect. -/
theorem settled_of_fresh (hpage : ∃ p clock, s.session.page = Page.dispatch clock .connectStart p)
    (hconnection : ∃ c key, s.session.connection = SessionConnection.connectGateway key c) :
    s.Settled := by
  intro hlive
  obtain ⟨p, clock, hpage⟩ := hpage
  obtain ⟨c, key, hconnection⟩ := hconnection
  refine .inr (iff_of_false ?_ (not_connected_connectGateway hconnection))
  have hcrashed := hlive.2
  rw [hpage] at hcrashed
  obtain ⟨-, hstatus⟩ := Page.shows_dispatch clock .connectStart p hcrashed
  rw [status, hpage, hstatus]
  nofun

/-- A change of the connection that is none. -/
theorem settled_of_unchanged (h : s.Settled) {step : ConnectionStep}
    (hpage : s.session.pageAfter step = s.session.page)
    (hconnection : s.session.connection.step step = s.session.connection) :
    { s with session := s.session.step (.connection step) }.Settled := by
  refine h.of_kept ⟨congrArg (·.mounted) hconnection, ?_⟩ id fun _ => .inr ?_
  · intro hup
    simp only [SessionPage.step, hpage] at hup ⊢
    exact ⟨hup, rfl⟩
  · simp only [Connected, ConnectedBy, SessionPage.isOpen, SessionPage.step, hconnection]

theorem settled_connection (h : s.Inv) (step : ConnectionStep) (hne : ∀ j, step ≠ .closed j)
    (hok : s.Tells fallbackToMock (.connection step)) :
    { s with session := s.session.step (.connection step) }.Settled := by
  cases step with
  | mount key =>
    by_cases hmounted : s.session.connection.mounted
    · exact settled_of_unchanged h.settled (if_pos hmounted) (if_pos hmounted)
    · exact settled_of_fresh ⟨_, _, if_neg hmounted⟩ ⟨_, _, if_neg hmounted⟩
  | switch key =>
    by_cases hkey : s.session.connection.mounted ∧ key ≠ s.session.connection.sessionKey
    · exact settled_of_fresh ⟨_, _, if_pos hkey⟩ ⟨_, _, if_pos hkey⟩
    · exact settled_of_unchanged h.settled (if_neg hkey) (if_neg hkey)
  | unmount =>
    by_cases hmounted : s.session.connection.mounted
    · intro hlive
      have hstep : s.session.connection.step .unmount =
          { s.session.connection.cleanup with mounted := false } := if_pos hmounted
      have hup := hlive.1
      simp only [SessionPage.step, hstep] at hup
      cases hup
    · exact settled_of_unchanged h.settled (if_neg hmounted) (if_neg hmounted)
  | opened j =>
    refine h.settled.of_kept (Sets.refl s) id fun _ => .inr (exists_congr fun i => ?_)
    refine and_congr_right fun _ => and_congr_left fun hgreeted => ?_
    obtain ⟨client, hclient, hstarted⟩ := h.started i hgreeted
    have hstate : (if j = i then client.readyState.afterOpen else client.readyState) =
        client.readyState := by
      have hopened : client.readyState.afterOpen = client.readyState := by
        cases hc : client.readyState with
        | connecting => exact absurd hc hstarted
        | _ => rfl
      rw [hopened, ite_self]
    have hopen := isOpen_modifyReadyState s.session.connection i j .afterOpen
    rw [hclient, Option.any_some, hstate] at hopen
    have hbefore : s.session.isOpen i = decide (client.readyState = .open) := by
      rw [SessionPage.isOpen, hclient, Option.any_some]
    rw [hbefore]
    exact Eq.congr_left hopen
  | close j =>
    refine h.settled.of_kept (sets_closeClient j s) id fun hlive => ?_
    refine (hok hlive).imp_right fun hother => connected_closeClient.trans ?_
    constructor
    · rintro ⟨i, -, hi⟩
      exact ⟨i, hi⟩
    · rintro ⟨i, hi⟩
      refine ⟨i, ?_, hi⟩
      rintro rfl
      exact hother hi
  | closed j => exact absurd rfl (hne j)
  | timer t =>
    cases harmed : s.session.connection.armed? t with
    | none =>
      refine settled_of_unchanged h.settled ?_ ?_
      · simp [SessionPage.pageAfter, harmed]
      · simp only [SessionConnection.step, harmed]
    | some key =>
      refine settled_of_fresh ⟨s.session.page, fun _ => 0, ?_⟩
        ⟨s.session.connection.clearTimeout t, key, ?_⟩
      · simp [SessionPage.step, SessionPage.pageAfter, harmed]
      · simp only [SessionPage.step, SessionConnection.step, harmed]

/-! ### Requests that fail -/

/-- The status that the failure of a request sets. -/
def failStatus? : RequestKind → Option ConnectionStatus
  | .gapHistory | .currentHistory => some .error
  | .returnedHistory | .stop => none
  | .send => some (if fallbackToMock then .connected else .error)

theorem sets_reject (message : String) (s : StatusPage) (request : PageRequest) :
    s.Sets (s.reject fallbackToMock message request) (failStatus? fallbackToMock request.kind) := by
  have herror := sets_dispatch (fun _ => 0) (.connectError (.str message)) s
  unfold reject failStatus?
  cases request.kind with
  | gapHistory => exact herror.trans (sets_closeClient request.client _)
  | currentHistory => exact herror
  | returnedHistory => exact Sets.refl s
  | send =>
    dsimp only
    split_ifs
    · exact (sets_dispatch _ _ s).trans (sets_dispatch _ (.hello mockHelloFrame) _)
    · exact herror
  | stop => exact sets_closeClient request.client s

theorem requests_reject (message : String) (s : StatusPage) (request : PageRequest) :
    (s.reject fallbackToMock message request).requests = s.requests := by
  unfold reject
  cases request.kind with
  | send =>
    dsimp only
    split_ifs <;> rfl
  | _ => rfl

/-- The failure of a request for a gap or of a stop closes its client. -/
theorem connectedBy_reject (message : String) (s : StatusPage) (request : PageRequest) (i : ℕ) :
    (s.reject fallbackToMock message request).ConnectedBy i ↔
      ((request.kind = .gapHistory ∨ request.kind = .stop) → i ≠ request.client) ∧
        s.ConnectedBy i := by
  unfold reject
  cases request.kind with
  | gapHistory =>
    simp only [true_or, forall_const]
    exact connectedBy_closeClient
  | stop =>
    simp only [or_true, forall_const]
    exact connectedBy_closeClient
  | currentHistory | returnedHistory => simp [ConnectedBy, dispatch, SessionPage.dispatch,
      SessionPage.isOpen]
  | send =>
    dsimp only
    split_ifs <;> simp [ConnectedBy, dispatch, SessionPage.dispatch, SessionPage.isOpen,
      replayMockFrames]

/-! ### A close event -/

theorem sets_rejectAll (message : String) {status : Option ConnectionStatus}
    (requests : List PageRequest) (h : s.Sets t status) :
    s.Sets (requests.foldl (reject fallbackToMock message) t)
      (requests.foldl (fun status request => (failStatus? fallbackToMock request.kind).or status)
        status) := by
  induction requests generalizing t status with
  | nil => exact h
  | cons request rest ih => exact ih (h.trans (sets_reject fallbackToMock message t request))

theorem requests_rejectAll (message : String) (requests : List PageRequest) (t : StatusPage) :
    (requests.foldl (reject fallbackToMock message) t).requests = t.requests := by
  induction requests generalizing t with
  | nil => rfl
  | cons request rest ih => exact (ih _).trans (requests_reject fallbackToMock message t request)

/-- The requests of a client that is not connected close no other one. -/
theorem connectedBy_rejectAll (message : String) {requests : List PageRequest}
    (hrequests : ∀ request ∈ requests, request.client = j) (ht : ∀ i, t.ConnectedBy i → i ≠ j)
    (i : ℕ) :
    (requests.foldl (reject fallbackToMock message) t).ConnectedBy i ↔ t.ConnectedBy i := by
  induction requests generalizing t with
  | nil => exact Iff.rfl
  | cons request rest ih =>
    have hkept (i : ℕ) : (t.reject fallbackToMock message request).ConnectedBy i ↔
        t.ConnectedBy i := by
      rw [connectedBy_reject, hrequests request List.mem_cons_self]
      exact and_iff_right_of_imp fun hi _ => ht i hi
    rw [List.foldl_cons, ih (fun request hmem => hrequests request (List.mem_cons_of_mem _ hmem))
      (fun i hi => ht i ((hkept i).1 hi)), hkept]

/-- The status after the failures of tasks and stops. -/
theorem failStatus_tasks {requests : List PageRequest}
    (h : ∀ request ∈ requests, request.kind.isHistory = false) (status : ConnectionStatus) :
    requests.foldl (fun status request => (failStatus? fallbackToMock request.kind).or status)
        (some status) =
      some (if ∃ request ∈ requests, request.kind = .send then
        if fallbackToMock then .connected else .error
      else status) := by
  induction requests generalizing status with
  | nil => simp
  | cons request rest ih =>
    rw [List.foldl_cons]
    have hrest := fun request hmem => h request (List.mem_cons_of_mem _ hmem)
    cases hkind : request.kind with
    | send =>
      have hsend : ∃ request' ∈ request :: rest, request'.kind = .send :=
        ⟨request, List.mem_cons_self, hkind⟩
      rw [failStatus?, Option.some_or, ih hrest, ite_self, if_pos hsend]
    | stop =>
      rw [failStatus?, Option.none_or, ih hrest]
      simp [hkind]
    | _ =>
      have hhistory := h request List.mem_cons_self
      rw [hkind] at hhistory
      cases hhistory

theorem deciding_cons {request : PageRequest} {rest : List PageRequest} :
    Deciding (request :: rest) ↔ request.kind.decides = true ∨ Deciding rest := by
  simp [Deciding]

/-- The status after the failures of histories. -/
theorem failStatus_histories {requests : List PageRequest}
    (h : ∀ request ∈ requests, request.kind.isHistory = true) (status : ConnectionStatus) :
    requests.foldl (fun status request => (failStatus? fallbackToMock request.kind).or status)
        (some status) =
      some (if Deciding requests then .error else status) := by
  induction requests generalizing status with
  | nil => simp [Deciding]
  | cons request rest ih =>
    have hrest := fun request hmem => h request (List.mem_cons_of_mem _ hmem)
    rw [List.foldl_cons]
    cases hkind : request.kind with
    | gapHistory | currentHistory =>
      rw [failStatus?, Option.some_or, ih hrest, ite_self, if_pos]
      exact deciding_cons.2 (.inl (by rw [hkind]; rfl))
    | returnedHistory =>
      rw [failStatus?, Option.none_or, ih hrest]
      refine congrArg some (if_congr ?_ rfl rfl)
      rw [deciding_cons, hkind]
      exact (or_iff_right (by decide)).symm
    | _ =>
      have hhistory := h request List.mem_cons_self
      rw [hkind] at hhistory
      cases hhistory

/-- The status after the failures of all requests of a client whose close is being recovered. -/
theorem failStatus_closed (j : ℕ) (all : List PageRequest) :
    ∃ status,
      (failing j all).foldl
        (fun status request => (failStatus? fallbackToMock request.kind).or status)
        (some .recovering) = some status ∧
      (status = .connected ↔ fallbackToMock = true ∧
        (∃ request ∈ all, request.client = j ∧ request.kind = .send) ∧
          ¬ Deciding (all.filter (·.client = j))) := by
  unfold failing
  have hclient : (∃ request ∈ all, request.client = j ∧ request.kind = .send) ↔
      ∃ request ∈ all.filter (·.client = j), request.kind = .send := by
    simp only [List.mem_filter, decide_eq_true_eq, and_assoc]
  rw [hclient]
  generalize all.filter (·.client = j) = requests
  dsimp only
  have htasks : ∀ request ∈ requests.filter (!·.kind.isHistory),
      request.kind.isHistory = false := by simp
  have hhistories : ∀ request ∈ requests.filter (·.kind.isHistory),
      request.kind.isHistory = true := by simp
  have hsend : (∃ request ∈ requests.filter (!·.kind.isHistory), request.kind = .send) ↔
      ∃ request ∈ requests, request.kind = .send := by
    simp only [List.mem_filter]
    refine exists_congr fun request => ?_
    constructor
    · exact fun h => ⟨h.1.1, h.2⟩
    · exact fun h => ⟨⟨h.1, by rw [h.2]; rfl⟩, h.2⟩
  have hdeciding : Deciding (requests.filter (·.kind.isHistory)) ↔ Deciding requests := by
    unfold Deciding
    simp only [List.mem_filter]
    refine exists_congr fun request => ?_
    constructor
    · exact fun h => ⟨h.1.1, h.2⟩
    · intro h
      refine ⟨⟨h.1, ?_⟩, h.2⟩
      have hkind := h.2
      cases hk : request.kind <;> rw [hk] at hkind <;> first | rfl | cases hkind
  rw [List.foldl_append, failStatus_tasks fallbackToMock htasks,
    failStatus_histories fallbackToMock hhistories]
  refine ⟨_, rfl, ?_⟩
  rw [← hsend, ← hdeciding]
  split_ifs <;> simp_all

/-- The close event of a client changes the sockets, and the timer at most. -/
theorem onClosed_spec {c : SessionConnection}
    (h : c.clients[j]?.any (·.readyState ≠ .closed) = true) :
    (c.onClosed j).clients = (c.modifyReadyState j fun _ => .closed).clients ∧
      (c.onClosed j).clientRef = c.clientRef ∧ (c.onClosed j).mounted = c.mounted := by
  obtain ⟨client, hclient, hstate⟩ := (Option.any_eq_true _ _).1 h
  simp only [decide_eq_true_eq] at hstate
  simp only [SessionConnection.onClosed, hclient, hstate, if_false]
  split_ifs
  · exact ⟨rfl, rfl, rfl⟩
  · simp [SessionConnection.setReconnectTimer, SessionConnection.modifyReadyState]

/-- The close event of a client ends what it connects. -/
theorem connectedBy_closeSocket {i : ℕ} (hunclosed : s.isUnclosed j) :
    (s.closeSocket j).ConnectedBy i ↔ i ≠ j ∧ s.ConnectedBy i := by
  obtain ⟨hclients, hclient, -⟩ := onClosed_spec hunclosed
  have hopen := not_isOpen_of_afterClose (f := fun _ => .closed) (by intro _; decide)
    s.session.connection i j
  rw [← hclients] at hopen
  have hsame : (s.closeSocket j).ConnectedBy i ↔
      (s.session.connection.onClosed j).clientRef = some i ∧
        (s.session.connection.onClosed j).clients[i]?.any (·.readyState = .open) = true ∧
        s.greeted i = true := Iff.rfl
  rw [hsame, hopen, hclient, ConnectedBy, SessionPage.isOpen]
  tauto

/-- The close event of a client that is not its own doing. -/
theorem sets_closeSocket (h : s.session.connection.closedByUserRef = false)
    (hunclosed : s.isUnclosed j) : s.Sets (s.closeSocket j) (some .recovering) := by
  refine ⟨(onClosed_spec hunclosed).2.2, ?_⟩
  have hpage : s.session.pageAfter (.closed j) = s.session.page.dispatch (fun _ => 0)
      (.recoverStart "Realtime 连接已断开，正在恢复…") := if_pos ⟨hunclosed, h⟩
  simp only [closeSocket, SessionPage.step, hpage]
  exact Page.shows_dispatch _ _ _

theorem mounted_rejectAll (message : String) (requests : List PageRequest) (t : StatusPage) :
    (requests.foldl (reject fallbackToMock message) t).session.connection.mounted =
      t.session.connection.mounted :=
  (sets_rejectAll fallbackToMock message requests (Sets.refl t)).1

theorem settled_closed (h : s.Grounded) (hok : s.Tells fallbackToMock (.connection (.closed j)))
    (hunclosed : s.isUnclosed j) : (s.onClosed fallbackToMock j).Settled := by
  have hif : s.onClosed fallbackToMock j = (failing j s.requests).foldl
      (reject fallbackToMock "realtime gateway connection closed") (s.closeSocket j) :=
    if_pos hunclosed
  rw [hif]
  intro hlive
  have hmounted : s.session.connection.mounted = true := by
    rw [← (onClosed_spec hunclosed).2.2, ← hlive.1]
    exact (mounted_rejectAll fallbackToMock _ (failing j s.requests) (s.closeSocket j)).symm
  obtain ⟨status, hfold, hstatus⟩ := failStatus_closed fallbackToMock j s.requests
  have hsets := sets_rejectAll fallbackToMock "realtime gateway connection closed"
    (failing j s.requests) (sets_closeSocket (h.flag hmounted) hunclosed)
  rw [hfold] at hsets
  refine Settled.of_set hsets (fun hup => ?_) hlive
  have hclient : ∀ request ∈ failing j s.requests, request.client = j := by
    simp only [failing, List.mem_append, List.mem_filter, decide_eq_true_eq]
    tauto
  have hconnected (i : ℕ) := connectedBy_rejectAll fallbackToMock
    "realtime gateway connection closed" hclient
    (fun i hi => ((connectedBy_closeSocket hunclosed).1 hi).1) i
  rw [requests_rejectAll, hstatus]
  refine (hok hup hunclosed).imp_right fun hiff => hiff.trans ?_
  simp only [Connected, hconnected, connectedBy_closeSocket hunclosed]

/-! ### What every step keeps -/

theorem Grounded.connection (h : s.Grounded) (step : ConnectionStep) :
    { s with session := s.session.step (.connection step) }.Grounded where
  flag := flag_step h.flag step
  started j hj := (h.started j hj).step step

theorem Grounded.closeSocket (h : s.Grounded) (j : ℕ) : (s.closeSocket j).Grounded where
  flag := flag_step h.flag (.closed j)
  started i hi := (h.started i hi).step (.closed j)

theorem Grounded.dispatch (h : s.Grounded) (clock : Clock) (action : RealtimeAction) :
    (s.dispatch clock action).Grounded :=
  ⟨h.flag, h.started⟩

theorem Grounded.closeClient (h : s.Grounded) (j : ℕ) : (s.closeClient j).Grounded :=
  h.connection (.close j)

theorem Grounded.reject (h : s.Grounded) (message : String) (request : PageRequest) :
    (s.reject fallbackToMock message request).Grounded := by
  unfold StatusPage.reject
  cases request.kind with
  | gapHistory => exact (h.dispatch _ _).closeClient request.client
  | currentHistory => exact h.dispatch _ _
  | returnedHistory => exact h
  | send =>
    dsimp only
    split_ifs
    · exact (h.dispatch _ _).dispatch _ _
    · exact h.dispatch _ _
  | stop => exact h.closeClient request.client

theorem Grounded.rejectAll (h : s.Grounded) (message : String) (requests : List PageRequest) :
    (requests.foldl (StatusPage.reject fallbackToMock message) s).Grounded := by
  induction requests generalizing s with
  | nil => exact h
  | cons request rest ih => exact ih (h.reject fallbackToMock message request)

theorem Grounded.onClosed (h : s.Grounded) (j : ℕ) : (s.onClosed fallbackToMock j).Grounded := by
  unfold StatusPage.onClosed
  split_ifs
  · exact (h.closeSocket j).rejectAll fallbackToMock _ _
  · exact h

end StatusPage

end Vertx
