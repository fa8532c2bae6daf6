import Vertx.Web.StatusSteps

/-!
# The connection status of a session page

`status_truthful` says that the status tells whether the page is connected in a run whose steps all
tell.  The page's own history requests hide the status until they are answered.
-/

namespace Vertx

open Runs

namespace StatusPage

variable (fallbackToMock : Bool) {s t : StatusPage} {j : ℕ}

/-! ### Frames -/

/-- The status that a frame sets on a page that asks for no history. -/
def quietStatus? : GatewayFrame → Option ConnectionStatus
  | .hello _ => some .connected
  | .error _ => some .error
  | .res _ | .event _ => none

theorem frameStatus?_of_quiet {p : Page} {frame : GatewayFrame}
    (h : ¬ (p.hasClient = true ∧ p.asksHistory frame = true)) :
    p.frameStatus? frame = quietStatus? frame := by
  cases frame with
  | event frame => exact if_neg h
  | _ => rfl

/-- What `handleFrame` does with a frame, besides sending a request for the history. -/
theorem onFrame_cases (key : String) (clock : Clock) (frame : GatewayFrame) (p : SessionPage) :
    (p.onFrame key clock frame).connection = p.connection ∧
      ({ p.page with sessionKey := key }.asksHistory frame = true →
        ∀ i, p.connection.clientRef = some i → p.isOpen i = false →
          p.page.Shows (p.onFrame key clock frame).page (some .error)) ∧
      ({ p.page with sessionKey := key }.asksHistory frame = false ∨
        p.connection.clientRef = none →
          p.page.Shows (p.onFrame key clock frame).page (quietStatus? frame)) := by
  have hshows := Page.shows_handleFrame clock
    { p.page with sessionKey := key, hasClient := p.connection.clientRef.isSome } frame
  have hsent := Page.requests_handleFrame_iff clock
    { p.page with sessionKey := key, hasClient := p.connection.clientRef.isSome } frame
  have hasks : { p.page with
      sessionKey := key, hasClient := p.connection.clientRef.isSome }.asksHistory frame =
        { p.page with sessionKey := key }.asksHistory frame :=
    Page.asksHistory_congr rfl rfl rfl frame
  rw [hasks] at hsent
  have hquiet : ¬ (p.connection.clientRef.isSome = true ∧
      { p.page with sessionKey := key }.asksHistory frame = true) →
      p.page.Shows (handleFrame clock
        { p.page with sessionKey := key, hasClient := p.connection.clientRef.isSome } frame)
        (quietStatus? frame) := by
    intro h
    rw [frameStatus?_of_quiet (by rw [hasks]; exact h)] at hshows
    exact hshows
  unfold SessionPage.onFrame
  dsimp only
  cases hclient : p.connection.clientRef with
  | none =>
    rw [hclient] at hquiet
    exact ⟨rfl, nofun, fun _ => hquiet (by simp)⟩
  | some i =>
    rw [hclient] at hshows hsent hquiet
    by_cases h : { p.page with sessionKey := key }.asksHistory frame = true
    · have hpos := hsent.2 ⟨rfl, h⟩
      dsimp only at hpos ⊢
      rw [if_pos hpos]
      refine ⟨?_, fun _ k hk hclosed => ?_, ?_⟩
      · unfold SessionPage.sendHistory
        split_ifs <;> rfl
      · obtain rfl := Option.some.inj hk
        have hfail (t : Page) : ({ p with page := t } : SessionPage).sendHistory i key =
            ({ p with page := t } : SessionPage).dispatch (fun _ => 0)
              (.connectError (.str "realtime gateway is not connected")) :=
          if_neg (ne_true_of_eq_false hclosed)
        rw [hfail]
        exact hshows.trans (Page.shows_dispatch (fun _ => 0) (.connectError _) _)
      · rintro (hn | hn)
        · rw [h] at hn
          cases hn
        · cases hn
    · have hneg := mt hsent.1 fun hn => h hn.2
      dsimp only at hneg ⊢
      rw [if_neg hneg]
      exact ⟨rfl, fun hn => absurd hn h, fun _ => hquiet fun hn => h hn.2⟩

/-- A message of an open socket leaves the connection, and if it reports no gap and asks for no
history, its frame says what becomes of the status. -/
theorem receive_cases {clock : Clock} {frame : GatewayFrame} {client : PageClient}
    (p : SessionPage) (hclient : p.connection.clients[j]? = some client)
    (hopen : client.readyState = .open) :
    (p.receive j clock frame).connection = p.connection ∧
      ((gapReport (p.lastSeqs j) frame).isSome = false →
        ({ p.page with sessionKey := client.sessionKey }.asksHistory frame = true →
          ∀ i, p.connection.clientRef = some i → p.isOpen i = false →
            p.page.Shows (p.receive j clock frame).page (some .error)) ∧
        ({ p.page with sessionKey := client.sessionKey }.asksHistory frame = false ∨
          p.connection.clientRef = none →
            p.page.Shows (p.receive j clock frame).page (quietStatus? frame))) := by
  have hreceive : p.receive j clock frame =
      { (p.onGap j client.sessionKey clock frame).onError clock frame with
        lastSeqs := Function.update p.lastSeqs j (nextLastSeq (p.lastSeqs j) frame) }.onFrame
          client.sessionKey clock frame := by
    simp only [SessionPage.receive, hclient, hopen, if_true]
  have hisOpen : p.isOpen j = true := by simp [SessionPage.isOpen, hclient, hopen]
  obtain ⟨hgapRefs, -⟩ := SessionPage.onGap_spec j client.sessionKey clock frame hisOpen
  obtain ⟨herrorRefs, -⟩ :=
    SessionPage.onError_spec clock frame (p.onGap j client.sessionKey clock frame)
  have hrefs := hgapRefs.trans herrorRefs
  obtain ⟨hconnection, hfails, hquiet⟩ := onFrame_cases client.sessionKey clock frame
    { (p.onGap j client.sessionKey clock frame).onError clock frame with
      lastSeqs := Function.update p.lastSeqs j (nextLastSeq (p.lastSeqs j) frame) }
  rw [← hreceive] at hconnection hfails hquiet
  refine ⟨hconnection.trans hrefs.connection, fun hgap => ?_⟩
  have honGap : p.onGap j client.sessionKey clock frame = p := by
    unfold SessionPage.onGap
    rw [hgap]
    rfl
  rw [honGap] at hfails hquiet
  cases frame with
  | error message =>
    refine ⟨fun hasks => (by cases hasks), fun _ => ?_⟩
    exact (Page.shows_dispatch clock (.connectError message) p.page).trans (hquiet (.inl rfl))
  | _ => exact ⟨hfails, hquiet⟩

theorem Deciding.append_left {requests : List PageRequest} (h : Deciding requests)
    (more : List PageRequest) : Deciding (requests ++ more) := by
  obtain ⟨request, hmem, hdecides⟩ := h
  exact ⟨request, List.mem_append_left _ hmem, hdecides⟩

theorem Deciding.append_right {more : List PageRequest} (h : Deciding more)
    (requests : List PageRequest) : Deciding (requests ++ more) := by
  obtain ⟨request, hmem, hdecides⟩ := h
  exact ⟨request, List.mem_append_right _ hmem, hdecides⟩

/-- A message of a socket that is not open is none. -/
theorem receive_of_not_open {clock : Clock} {frame : GatewayFrame}
    (h : s.session.isOpen j = false) : s.receive j clock frame = s := by
  have hsession :
      s.session.receive j clock frame = s.session ∧ frameRequests j frame s.session = [] := by
    unfold SessionPage.isOpen at h
    unfold SessionPage.receive frameRequests
    cases hclient : s.session.connection.clients[j]? with
    | none => exact ⟨rfl, rfl⟩
    | some client =>
      rw [hclient] at h
      have hclosed : client.readyState ≠ .open := by simpa using h
      exact ⟨if_neg hclosed, if_neg hclosed⟩
  obtain ⟨session, greeted, requests⟩ := s
  simp only [receive, hsession.1, hsession.2, h, List.append_nil]
  cases frame <;> rfl

theorem settled_receive (h : s.Inv) {clock : Clock} {frame : GatewayFrame}
    (hok : s.Tells fallbackToMock (.frame j clock frame)) {client : PageClient}
    (hclient : s.session.connection.clients[j]? = some client) (hopen : client.readyState = .open) :
    (s.receive j clock frame).Settled := by
  have hisOpen : s.session.isOpen j = true := by simp [SessionPage.isOpen, hclient, hopen]
  obtain ⟨hconnection, hcases⟩ := @receive_cases _ clock frame _ s.session hclient hopen
  have hmounted : (s.receive j clock frame).session.connection.mounted =
      s.session.connection.mounted := congrArg (·.mounted) hconnection
  have hrequests : frameRequests j frame s.session =
      (if (gapReport (s.session.lastSeqs j) frame).isSome then [⟨j, .gapHistory⟩] else []) ++
        if { s.session.page with sessionKey := client.sessionKey }.asksHistory frame then
          (s.session.connection.clientRef.filter (s.session.isOpen ·)).toList.map
            (⟨·, .currentHistory⟩)
        else [] := by
    simp only [frameRequests, hclient, hopen, if_true]
  cases hgap : (gapReport (s.session.lastSeqs j) frame).isSome with
  | true =>
    refine fun _ => .inl (Deciding.append_right ?_ _)
    rw [hrequests, hgap]
    exact Deciding.append_left ⟨⟨j, .gapHistory⟩, List.mem_singleton_self _, rfl⟩ _
  | false =>
    obtain ⟨hfails, hquiet⟩ := hcases hgap
    have hconnectedBy (i : ℕ) : (s.receive j clock frame).ConnectedBy i ↔
        s.session.connection.clientRef = some i ∧ s.session.isOpen i = true ∧
          (s.receive j clock frame).greeted i = true := by
      simp only [ConnectedBy, SessionPage.isOpen, receive, hconnection]
    have hmore (hdeciding : Deciding s.requests) : Deciding (s.receive j clock frame).requests :=
      hdeciding.append_left _
    cases frame with
    | hello hello =>
      have hgreeted : (s.receive j clock (.hello hello)).greeted =
          Function.update s.greeted j true := if_pos hisOpen
      refine Settled.of_set ⟨hmounted, hquiet (.inl rfl)⟩ fun hup => ?_
      refine (hok hup hisOpen).imp hmore fun hcurrent => iff_of_true rfl ?_
      rcases hcurrent with hj | ⟨i, hi, hiopen, higreeted⟩
      · exact ⟨j, (hconnectedBy j).2 ⟨hj, hisOpen, by rw [hgreeted]; exact Function.update_self ..⟩⟩
      · refine ⟨i, (hconnectedBy i).2 ⟨hi, hiopen, ?_⟩⟩
        rw [hgreeted, Function.update_apply, higreeted, ite_self]
    | error message =>
      refine Settled.of_set ⟨hmounted, hquiet (.inl rfl)⟩ fun hup => ?_
      refine (hok hup hisOpen).imp hmore fun hdown => iff_of_false (by simp) ?_
      rintro ⟨i, hi⟩
      exact hdown ⟨i, (hconnectedBy i).1 hi⟩
    | res id =>
      exact h.settled.of_kept ⟨hmounted, hquiet (.inl rfl)⟩ hmore fun _ =>
        .inr (exists_congr hconnectedBy)
    | event frame =>
      cases hasks : { s.session.page with sessionKey := client.sessionKey }.asksHistory
          (.event frame) with
      | false =>
        exact h.settled.of_kept ⟨hmounted, hquiet (.inl hasks)⟩ hmore fun _ =>
          .inr (exists_congr hconnectedBy)
      | true =>
        cases hcurrent : s.session.connection.clientRef with
        | none =>
          exact h.settled.of_kept ⟨hmounted, hquiet (.inr hcurrent)⟩ hmore fun _ =>
            .inr (exists_congr hconnectedBy)
        | some i =>
          cases hi : s.session.isOpen i with
          | true =>
            refine fun _ => .inl (Deciding.append_right ?_ _)
            rw [hrequests, hasks, hcurrent]
            exact Deciding.append_right ⟨⟨i, .currentHistory⟩, by simp [Option.filter, hi], rfl⟩ _
          | false =>
            refine Settled.of_set ⟨hmounted, hfails hasks i hcurrent hi⟩ fun _ => .inr ?_
            refine iff_of_false (by simp) ?_
            rintro ⟨k, hk⟩
            obtain ⟨href, hkopen, -⟩ := (hconnectedBy k).1 hk
            rw [hcurrent] at href
            obtain rfl := Option.some.inj href
            rw [hi] at hkopen
            cases hkopen

theorem inv_receive (h : s.Inv) {clock : Clock} {frame : GatewayFrame}
    (hok : s.Tells fallbackToMock (.frame j clock frame)) : (s.receive j clock frame).Inv := by
  cases hisOpen : s.session.isOpen j with
  | false =>
    rw [receive_of_not_open hisOpen]
    exact h
  | true =>
    obtain ⟨client, hclient, hopen⟩ := (Option.any_eq_true _ _).1 hisOpen
    replace hopen : client.readyState = .open := of_decide_eq_true hopen
    obtain ⟨hconnection, -⟩ := @receive_cases _ clock frame _ s.session hclient hopen
    refine ⟨⟨?_, fun i hi => ?_⟩, settled_receive fallbackToMock h hok hclient hopen⟩
    · simp only [receive, hconnection]
      exact h.flag
    · have hbefore : Started i s.session.connection := by
        cases frame with
        | hello hello =>
          have hgreeted : Function.update s.greeted j true i = true := by
            rw [receive, hisOpen] at hi
            exact hi
          by_cases hij : i = j
          · subst hij
            exact ⟨client, hclient, by rw [hopen]; decide⟩
          · rw [Function.update_of_ne hij] at hgreeted
            exact h.started i hgreeted
        | _ => exact h.started i hi
      simp only [receive, hconnection]
      exact hbefore

/-! ### Answers and calls -/

/-- A request that decides nothing leaves the deciding ones. -/
theorem Deciding.eraseIdx {requests : List PageRequest} {r : ℕ} {request : PageRequest}
    (h : Deciding requests) (hr : requests[r]? = some request)
    (hkind : request.kind.decides = false) : Deciding (requests.eraseIdx r) := by
  obtain ⟨other, hmem, hdecides⟩ := h
  obtain ⟨i, hi⟩ := List.getElem?_of_mem hmem
  refine ⟨other, List.mem_eraseIdx_iff_getElem?.2 ⟨i, ?_, hi⟩, hdecides⟩
  rintro rfl
  rw [hr] at hi
  rw [Option.some.inj hi, hdecides] at hkind
  cases hkind

/-- The failure of a request, whatever has become of the requests. -/
theorem settled_reject (h : s.Settled) (message : String) (request : PageRequest)
    (requests : List PageRequest)
    (hdeciding : request.kind.decides = false → Deciding s.requests → Deciding requests)
    (hok : s.Live → Deciding requests ∨ s.AnswerTells fallbackToMock request (.error message)) :
    ({ s with requests }.reject fallbackToMock message request).Settled := by
  have hsets := sets_reject fallbackToMock message { s with requests } request
  have hrequests := requests_reject fallbackToMock message { s with requests } request
  have hconnected : ({ s with requests }.reject fallbackToMock message request).Connected ↔
      ∃ i, ((request.kind = .gapHistory ∨ request.kind = .stop) → i ≠ request.client) ∧
        s.ConnectedBy i :=
    exists_congr (connectedBy_reject fallbackToMock message { s with requests } request)
  have hsame (hkind : ¬ (request.kind = .gapHistory ∨ request.kind = .stop)) :
      ({ s with requests }.reject fallbackToMock message request).Connected ↔ s.Connected := by
    rw [hconnected]
    exact exists_congr fun i => and_iff_right fun hn => absurd hn hkind
  unfold AnswerTells at hok
  cases hkind : request.kind with
  | gapHistory =>
    rw [hkind] at hsets hok
    refine Settled.of_set hsets fun hup => ?_
    rw [hrequests]
    refine (hok hup).imp_right fun hdown => iff_of_false nofun ?_
    rw [hconnected, hkind]
    simpa using hdown
  | currentHistory =>
    rw [hkind] at hsets hok
    refine Settled.of_set hsets fun hup => ?_
    rw [hrequests, hsame (by simp [hkind])]
    exact (hok hup).imp_right fun hdown => iff_of_false nofun hdown
  | returnedHistory =>
    rw [hkind] at hsets hdeciding
    refine Settled.of_kept (s := s) h hsets ?_ fun _ => .inr (hsame (by simp [hkind]))
    rw [hrequests]
    exact hdeciding rfl
  | send =>
    rw [hkind] at hsets hok
    refine Settled.of_set hsets fun hup => ?_
    rw [hrequests, hsame (by simp [hkind])]
    refine (hok hup).imp_right fun hiff => Iff.trans ?_ hiff
    cases fallbackToMock <;> simp
  | stop =>
    rw [hkind] at hsets hok hdeciding
    refine Settled.of_kept (s := s) h hsets ?_ fun hup => ?_
    · rw [hrequests]
      exact hdeciding rfl
    · rw [hrequests]
      refine (hok hup).imp_right fun hother => ?_
      rw [hconnected, hkind]
      refine exists_congr fun i => and_iff_right_of_imp fun hi _ => ?_
      rintro rfl
      exact hother hi

theorem inv_onAnswer (h : s.Inv) {r : ℕ} {clock : Clock} {result : Except String JsValue}
    (hok : s.Tells fallbackToMock (.answer r clock result)) :
    (s.onAnswer fallbackToMock r clock result).Inv := by
  unfold onAnswer
  split
  · exact h
  · next request hr =>
    by_cases hopen : s.session.isOpen request.client
    · rw [if_pos hopen]
      have hgrounded : { s with requests := s.requests.eraseIdx r }.Grounded := ⟨h.flag, h.started⟩
      have htells := fun hup => hok hup request hr hopen
      cases result with
      | ok payload =>
        dsimp only
        split_ifs with hhistory
        · refine ⟨hgrounded.dispatch _ _, ?_⟩
          refine Settled.of_set (s := s) (sets_dispatch clock (.historyLoaded _) s) fun hup => ?_
          exact (htells hup).imp_right fun hup => iff_of_true rfl (hup hhistory)
        · refine ⟨hgrounded, ?_⟩
          refine Settled.of_kept (s := s) h.settled (Sets.refl s) (fun hdeciding => ?_)
            fun _ => .inr Iff.rfl
          refine hdeciding.eraseIdx hr ?_
          cases hkind : request.kind <;> simp_all [RequestKind.isHistory, RequestKind.decides]
      | error message =>
        exact ⟨hgrounded.reject fallbackToMock message request,
          settled_reject fallbackToMock h.settled message request _
            (fun hkind hdeciding => hdeciding.eraseIdx hr hkind) htells⟩
    · rw [if_neg hopen]
      exact h

/-- A request that is sent changes nothing yet. -/
theorem inv_addRequest (h : s.Inv) (j : ℕ) (kind : RequestKind) : (s.addRequest j kind).Inv :=
  ⟨⟨h.flag, h.started⟩, Settled.of_kept (s := s) h.settled (Sets.refl s)
    (fun hdeciding => hdeciding.append_left _) fun _ => .inr Iff.rfl⟩

theorem inv_dispatch_kept (h : s.Inv) (clock : Clock) {action : RealtimeAction}
    (hkept : action.status? = none) : (s.dispatch clock action).Inv := by
  have hsets := sets_dispatch clock action s
  rw [hkept] at hsets
  exact ⟨h.dispatch clock action, h.settled.of_kept hsets id fun _ => .inr Iff.rfl⟩

/-- A request on a socket that is not open fails at once. -/
theorem not_connected_of_not_open (hclient : s.session.connection.clientRef = some j)
    (hopen : s.session.isOpen j = false) : ¬ s.Connected := by
  rintro ⟨i, hi, hiopen, -⟩
  rw [hclient] at hi
  obtain rfl := Option.some.inj hi
  rw [hopen] at hiopen
  cases hiopen

/-- A task that cannot be sent fails at once. -/
theorem inv_reject_send (h : s.Inv) (message : String) (j : ℕ) (hdown : ¬ s.Connected)
    (hok : s.Live → fallbackToMock = true → Deciding s.requests) :
    (s.reject fallbackToMock message ⟨j, .send⟩).Inv := by
  refine ⟨h.reject fallbackToMock message _, ?_⟩
  refine settled_reject fallbackToMock h.settled message ⟨j, .send⟩ s.requests (fun _ => id)
    fun hup => ?_
  by_cases hmock : fallbackToMock = true
  · exact .inl (hok hup hmock)
  · exact .inr (iff_of_false hmock hdown)

theorem inv_submitTask (h : s.Inv) {clock : Clock} {text : String}
    (hok : s.Tells fallbackToMock (.submitTask clock text)) :
    (s.submitTask fallbackToMock clock text).Inv := by
  have hqueued : (s.dispatch clock (.userQueue text)).Inv := inv_dispatch_kept h clock rfl
  have htells (hclosed : ¬ ∃ j, s.session.connection.clientRef = some j ∧ s.session.isOpen j) :
      (s.dispatch clock (.userQueue text)).Live → fallbackToMock = true → Deciding s.requests :=
    fun hup hmock =>
      (hok ((sets_dispatch clock (.userQueue text) s).live hup).1 hmock).resolve_right hclosed
  unfold submitTask
  dsimp only
  split
  · next j hclient =>
    by_cases hopen : (s.dispatch clock (.userQueue text)).session.isOpen j
    · rw [if_pos hopen]
      exact inv_addRequest hqueued j .send
    · rw [if_neg hopen]
      refine inv_reject_send fallbackToMock hqueued _ j
        (not_connected_of_not_open hclient (Bool.eq_false_of_not_eq_true hopen)) (htells ?_)
      rintro ⟨i, hi, hiopen⟩
      obtain rfl := Option.some.inj (hclient.symm.trans hi)
      exact hopen hiopen
  · next hclient =>
    refine inv_reject_send fallbackToMock hqueued _ 0 ?_ (htells ?_)
    · rintro ⟨i, hi, -⟩
      rw [hclient] at hi
      cases hi
    · rintro ⟨i, hi, -⟩
      cases hclient.symm.trans hi

theorem inv_stopTask (h : s.Inv) (hok : s.Tells fallbackToMock .stopTask) :
    (s.stopTask fallbackToMock).Inv := by
  have hclose (hdown : s.Live → Deciding s.requests ∨ ¬ s.Connected) :
      (s.dispatch (fun _ => 0) .connectClose).Inv := by
    refine ⟨h.dispatch _ _, Settled.of_set (sets_dispatch _ .connectClose s) fun hup => ?_⟩
    exact (hdown hup).imp_right fun hdown => iff_of_false nofun hdown
  unfold stopTask
  split
  · next j hclient =>
    by_cases hrun : s.renderedRunId.truthy
    · rw [if_pos hrun]
      by_cases hopen : s.session.isOpen j
      · rw [if_pos hopen]
        exact inv_addRequest h j .stop
      · rw [if_neg hopen]
        refine ⟨h.reject fallbackToMock _ _, ?_⟩
        exact settled_reject fallbackToMock h.settled _ ⟨j, .stop⟩ s.requests (fun _ => id)
          fun _ => .inr fun hj => hopen hj.2.1
    · rw [if_neg hrun]
      refine hclose fun hup => (hok hup).imp_right fun hrest => hrest.resolve_left hrun
  · next hclient =>
    refine hclose fun _ => .inr ?_
    rintro ⟨i, hi, -⟩
    rw [hclient] at hi
    cases hi

theorem inv_loadHistory (h : s.Inv) : s.loadHistory.Inv := by
  unfold loadHistory
  split
  · next j hclient =>
    by_cases hopen : s.session.isOpen j
    · rw [if_pos hopen]
      have hsent : s.session.sendHistory j s.session.connection.sessionKey =
          { s.session with
            historySent := s.session.historySent ++ [(j, s.session.connection.sessionKey)] } :=
        if_pos hopen
      rw [hsent]
      have hinv : { s with session := { s.session with
          historySent :=
            s.session.historySent ++ [(j, s.session.connection.sessionKey)] } }.Inv :=
        ⟨⟨h.flag, h.started⟩, h.settled⟩
      exact inv_addRequest hinv j .returnedHistory
    · rw [if_neg hopen]
      exact h
  · exact h

theorem inv_onClosed (h : s.Inv) (hok : s.Tells fallbackToMock (.connection (.closed j))) :
    (s.onClosed fallbackToMock j).Inv := by
  refine ⟨h.onClosed fallbackToMock j, ?_⟩
  by_cases hunclosed : s.isUnclosed j
  · exact settled_closed fallbackToMock h.toGrounded hok hunclosed
  · rw [onClosed, if_neg hunclosed]
    exact h.settled

theorem inv_onFailed (h : s.Inv) (hok : s.Tells fallbackToMock (.failed j)) :
    (s.onFailed fallbackToMock j).Inv := by
  unfold onFailed
  by_cases hunclosed : s.isUnclosed j
  · rw [if_pos hunclosed]
    have herror :=
      h.dispatch (fun _ => 0) (.connectError (.str "realtime gateway connection failed"))
    refine ⟨herror.onClosed fallbackToMock j, ?_⟩
    refine settled_closed fallbackToMock herror (fun hup => ?_) hunclosed
    exact hok ((sets_dispatch _ (.connectError _) s).live hup).1
  · rw [if_neg hunclosed]
    exact h

/-- A step that tells keeps the invariant. -/
theorem inv_step (h : s.Inv) (i : StatusStep) (hok : s.Tells fallbackToMock i) :
    (s.step fallbackToMock i).Inv := by
  cases i with
  | connection step =>
    by_cases hne : ∀ j, step ≠ .closed j
    · have hgrounded := h.connection step
      have hinv : { s with
          session := s.session.step (.connection step), renderedRunId := s.renderedAt step }.Inv :=
        ⟨⟨hgrounded.flag, hgrounded.started⟩, settled_connection fallbackToMock h step hne hok⟩
      cases step with
      | closed j => exact absurd rfl (hne j)
      | _ => exact hinv
    · obtain ⟨j, rfl⟩ := not_forall_not.1 hne
      exact inv_onClosed fallbackToMock h hok
  | failed j => exact inv_onFailed fallbackToMock h hok
  | frame j clock frame => exact inv_receive fallbackToMock h hok
  | answer r clock result => exact inv_onAnswer fallbackToMock h hok
  | submitTask clock text => exact inv_submitTask fallbackToMock h hok
  | stopTask => exact inv_stopTask fallbackToMock h hok
  | loadHistory => exact inv_loadHistory h
  | commit => exact ⟨⟨h.flag, h.started⟩, h.settled⟩
  | mockFrame clock frame => exact inv_dispatch_kept h clock rfl

theorem inv_initial : initial.Inv where
  flag := nofun
  started := nofun
  settled h := absurd h.1 (by decide)

theorem Inv.truthful (h : s.Inv) : s.Truthful := by
  intro hup hnone
  refine (h.settled hup).resolve_left ?_
  rintro ⟨request, hmem, hdecides⟩
  refine hnone request hmem ?_
  cases hkind : request.kind <;> rw [hkind] at hdecides <;> first | rfl | cases hdecides

/-- In a run whose steps all tell, the status is connected in every state exactly if the socket of
the current client is open and its hello has been received. -/
theorem status_truthful (steps : List StatusStep)
    (h : Each (step fallbackToMock) (Tells fallbackToMock) initial steps) :
    Always (step fallbackToMock) Truthful initial steps := by
  have hkeep (s : StatusPage) (i : StatusStep) (hs : s.Inv) (hok : s.Tells fallbackToMock i) :
      (s.step fallbackToMock i).Inv := inv_step fallbackToMock hs i hok
  exact (Always.of_each hkeep inv_initial h).imp fun _ => Inv.truthful

/-- A task that is sent after the hello, and a reconnect. -/
theorem status_truthful_reconnect :
    Always (step true) Truthful initial
      [.connection (.mount "main"), .connection (.opened 0), .frame 0 (fun _ => 0) (.hello ⟨.null⟩),
        .submitTask (fun _ => 0) "report", .answer 0 (fun _ => 0) (.ok .null),
        .connection (.closed 0), .connection (.timer 0), .connection (.opened 1),
        .frame 1 (fun _ => 0) (.hello ⟨.null⟩)] := by
  refine status_truthful true _ ⟨fun _ => trivial, fun _ => trivial, fun _ _ => .inr (.inl rfl),
    fun _ _ => .inr ⟨0, rfl, rfl⟩, ?_, ?_, fun _ => trivial, fun _ => trivial,
    fun _ _ => .inr (.inl rfl), trivial⟩
  · intro _ request hrequest _
    obtain rfl := Option.some.inj hrequest
    exact .inr nofun
  · refine fun _ _ => .inr (iff_of_false (fun h => ?_) ?_)
    · obtain ⟨request, hmem, -⟩ := h.2.1
      cases hmem
    · rintro ⟨i, hi, hclient, -⟩
      exact hi (Option.some.inj hclient).symm

/-- A history request that a session message asks for fails: the status says so although the page is
connected. -/
theorem status_error_while_connected :
    ¬ Always (step true) Truthful initial
      [.connection (.mount "main"), .connection (.opened 0), .frame 0 (fun _ => 0) (.hello ⟨.null⟩),
        .frame 0 (fun _ => 0) (.event ⟨.sessionMessage, .num (.finite 1),
          .obj [("sessionKey", .str "main")], .undefined⟩),
        .answer 0 (fun _ => 0) (.error "history unavailable")] := by
  intro h
  have hlast := (always_iff_run (step true) Truthful initial _).1 h _ [] (List.append_nil _).symm
  have hstatus := (hlast ⟨by decide +kernel, by decide +kernel⟩ (by decide +kernel)).2
    ⟨0, by decide +kernel, by decide +kernel, by decide +kernel⟩
  revert hstatus
  decide +kernel

end StatusPage

end Vertx
