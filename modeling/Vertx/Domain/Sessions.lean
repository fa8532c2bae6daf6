import Vertx.Domain.MirrorFrame

/-!
# Sessions as the mirror keeps them

Three kinds of events write the session that they name.  A chat frame and a `sessions.changed` frame
set its status, each in its own words: `sessions.changed` knows only the word `ended`, which the
upstream gateway does not use.  A session message counts as a message, and so does the chat frame at
the end of an answer.
-/

namespace Vertx

open Repository Runs Keyed

/-! ## What an event writes to a session -/

/-- The event names the session and the mirror does not throw on it. -/
def ProductApiMirrorEvent.Writes (state : ProductApiState) (sessionId : String)
    (e : ProductApiMirrorEvent) : Prop :=
  e.namedSession? = some sessionId ∧ ¬ e.BadTime state

/-- The status of a session. -/
def ProductApiState.sessionStatus (state : ProductApiState) (sessionId : String) :
    Option SessionStatus :=
  (state.getSessionDetail sessionId).map (·.status)

/-- The number of messages of a session. -/
def ProductApiState.sessionMessages (state : ProductApiState) (sessionId : String) : ℕ :=
  ((state.getSessionDetail sessionId).bind (·.messageCount)).getD 0

section

variable {clock : Clock} {state : ProductApiState} {e : ProductApiMirrorEvent} {sessionId : String}

theorem getSessionDetail_mirror (clock : Clock) (state : ProductApiState)
    (e : ProductApiMirrorEvent)
    (sessionId : String) :
    (mirrorNext clock state e).getSessionDetail sessionId =
      match e.sessionWritten clock state with
      | none => state.getSessionDetail sessionId
      | some session =>
        if sessionId = session.id then
          some (((state.getSessionDetail sessionId).map
            (ProductApiState.mergeSession session)).getD session)
        else state.getSessionDetail sessionId := by
  rw [mirrorNext_eq]
  unfold ProductApiState.getSessionDetail
  cases e.sessionWritten clock state with
  | none => rfl
  | some session =>
    dsimp only [Option.elim_some, ProductApiState.upsertSession]
    have hm : ∀ old : SessionDetail, old.id = session.id →
        (ProductApiState.mergeSession session old).id = session.id := fun _ _ => rfl
    split_ifs with hid
    · rw [hid]
      exact find?_upsertFirst_self (fun session : SessionDetail => session.id) hm
    · exact find?_upsertFirst_ne (fun session : SessionDetail => session.id) hm hid

theorem sessionWritten_of_badTime (h : e.BadTime state) : e.sessionWritten clock state = none := by
  have hwrites : mirrorWrites clock state e = [] := mirrorWrites_of_badTime h
  unfold mirrorWrites at hwrites
  simp only [List.append_eq_nil_iff, List.map_eq_nil_iff, Option.toList_eq_nil_iff] at hwrites
  exact hwrites.1.1.2

/-- An event that names another session or none, or that makes the mirror throw, leaves a session as
it is. -/
theorem getSessionDetail_of_not_writes (h : ¬ e.Writes state sessionId) :
    (mirrorNext clock state e).getSessionDetail sessionId = state.getSessionDetail sessionId := by
  rw [getSessionDetail_mirror]
  by_cases hbad : e.BadTime state
  · rw [sessionWritten_of_badTime hbad]
  · rcases @sessionWritten_of_good clock state e hbad with
      ⟨-, hnone⟩ | ⟨input, session, hnamed, hsession, hsome⟩
    · rw [hnone]
    · rw [hsome]
      refine if_neg fun hid => h ⟨?_, hbad⟩
      rw [hnamed, hid, mirroredSession_id hsession]

theorem mirroredSession_fields {input : MirrorSessionInput} {session : SessionDetail}
    (h : mirroredSession clock state input = .ok session) :
    session.status = (input.status.or (state.sessionStatus input.sessionId)).getD .active ∧
      session.messageCount = some (state.sessionMessages input.sessionId +
        if input.incrementMessageCount then 1 else 0) := by
  unfold mirroredSession at h
  cases ht : isoFromValue clock 2 input.updatedAt with
  | error x =>
    rw [ht] at h
    cases h
  | ok updatedAt =>
    rw [ht] at h
    cases h
    exact ⟨rfl, rfl⟩

/-- An event writes the status that it reports and counts a message when it is one. -/
theorem session_of_writes (h : e.Writes state sessionId) (clock : Clock) :
    ∃ input, e.session? clock = some input ∧
      (mirrorNext clock state e).sessionStatus sessionId =
        some ((input.status.or (state.sessionStatus sessionId)).getD .active) ∧
      (mirrorNext clock state e).sessionMessages sessionId =
        state.sessionMessages sessionId + if input.incrementMessageCount then 1 else 0 := by
  obtain ⟨hnamed, hgood⟩ := h
  rw [← session?_sessionId clock] at hnamed
  obtain ⟨input, hinput, rfl⟩ := Option.map_eq_some_iff.1 hnamed
  obtain ⟨session, hsession⟩ := mirroredSession_of_good hgood hinput
  have hwritten : e.sessionWritten clock state = some session := by
    rw [ProductApiMirrorEvent.sessionWritten, hinput, Option.bind_some, hsession]
    rfl
  obtain ⟨hstatus, hcount⟩ := mirroredSession_fields hsession
  refine ⟨input, hinput, ?_⟩
  unfold ProductApiState.sessionStatus ProductApiState.sessionMessages at *
  rw [getSessionDetail_mirror, hwritten]
  dsimp only
  rw [if_pos (mirroredSession_id hsession).symm, ← hstatus]
  cases hold : state.getSessionDetail input.sessionId with
  | none =>
    rw [hold] at hcount
    refine ⟨rfl, ?_⟩
    rw [Option.map_none, Option.getD_none, Option.bind_some, hcount, Option.getD_some]
  | some old =>
    rw [hold] at hcount
    refine ⟨rfl, ?_⟩
    rw [Option.map_some, Option.getD_some, Option.bind_some, ProductApiState.mergeSession, hcount,
      Option.some_or, Option.getD_some]

end

/-! ## Steps of the server -/

/-- What a server step does to a session, besides mirroring an event that writes it. -/
theorem getSessionDetail_step {s : Server} {i : ServerStep} {sessionId : String}
    (hsaved : s.repository.Saved)
    (h : ∀ clock e, i = .mirror clock e → ¬ e.Writes s.repository.state sessionId) :
    (serverStep s i).repository.state.getSessionDetail sessionId =
      s.repository.state.getSessionDetail sessionId := by
  cases i with
  | call clock op =>
    exact @call_induction (fun state =>
      state.getSessionDetail sessionId = s.repository.state.getSessionDetail sessionId) _ _ _ rfl
      fun e entry he => congrArg (List.find? _) (sessions_effect he s.repository.state).2
  | mirror clock e =>
    rw [mirror_state]
    exact getSessionDetail_of_not_writes (h clock e rfl)
  | restart =>
    rw [restart_state hsaved]
    rfl

/-! ## The end of a run -/

namespace ProductApiMirrorEvent

variable (e : ProductApiMirrorEvent)

/-- A chat frame that ends a run. -/
def EndsChat : Prop :=
  e.event = .chat ∧
    ∃ word ∈ ["final", "aborted", "error"], stringField e.payload ["state"] = some word

/-- A `sessions.changed` frame with a status of the upstream gateway for the end of a run. -/
def EndsChanged : Prop :=
  e.event = .sessionsChanged ∧
    ∃ word ∈ ["done", "failed", "killed", "timeout"], e.payload.field "status" = .str word

/-- A chat delta, or a `sessions.changed` frame of a session that is running. -/
def ReportsActivity : Prop :=
  (e.event = .chat ∧ stringField e.payload ["state"] = some "delta") ∨
    (e.event = .sessionsChanged ∧ e.payload.field "status" = .str "running")

/-- A chat frame that ends no run, or a `sessions.changed` frame with another status than
`ended`. -/
def SetsActive : Prop :=
  (e.event = .chat ∧ ¬ e.EndsChat) ∨
    (e.event = .sessionsChanged ∧ e.payload.field "status" ≠ .str "ended")

end ProductApiMirrorEvent

section

variable {clock : Clock} {state : ProductApiState} {e : ProductApiMirrorEvent} {sessionId : String}

theorem isObject_of_session {input : MirrorSessionInput} (h : e.session? clock = some input) :
    e.payload.isObject = true := by
  by_contra hobject
  rw [ProductApiMirrorEvent.session?, if_neg hobject] at h
  cases h

/-- The status that an event reports of a session. -/
theorem status_of_session {input : MirrorSessionInput} (h : e.session? clock = some input) :
    (e.SetsActive ∧ input.status = some .active) ∨
      (¬ e.SetsActive ∧ (input.status = some .ended ∨
        e.event = .sessionMessage ∧ input.status = none)) := by
  have hobject := isObject_of_session h
  rw [ProductApiMirrorEvent.session?, if_pos hobject] at h
  unfold ProductApiMirrorEvent.SetsActive ProductApiMirrorEvent.EndsChat
  cases hevent : e.event <;> rw [hevent] at h <;> dsimp only at h
  case chat =>
    obtain ⟨id, -, rfl⟩ := Option.map_eq_some_iff.1 h
    simp only [chatSessionInput, List.mem_cons, List.not_mem_nil, or_false, exists_eq_or_imp,
      exists_eq_left, true_and, reduceCtorEq, false_and]
    split_ifs with hended <;> tauto
  case sessionMessage =>
    obtain ⟨id, -, rfl⟩ := Option.map_eq_some_iff.1 h
    exact .inr ⟨by simp, .inr ⟨rfl, rfl⟩⟩
  case sessionsChanged =>
    obtain ⟨id, -, rfl⟩ := Option.map_eq_some_iff.1 h
    simp only [sessionsChangedInput, reduceCtorEq, false_and, false_or, true_and]
    split_ifs with hended <;> simp [hended]
  all_goals cases h

theorem status_of_setsActive (h : e.Writes state sessionId) (hactive : e.SetsActive) :
    (mirrorNext clock state e).sessionStatus sessionId = some .active := by
  obtain ⟨input, hinput, hstatus, -⟩ := session_of_writes h clock
  rcases status_of_session hinput with ⟨-, hactive'⟩ | ⟨hnot, -⟩
  · rw [hstatus, hactive']
    rfl
  · exact absurd hactive hnot

theorem status_of_not_setsActive (h : e.Writes state sessionId) (hactive : ¬ e.SetsActive) :
    (mirrorNext clock state e).sessionStatus sessionId = some .ended ∨
      e.event = .sessionMessage ∧ (mirrorNext clock state e).sessionStatus sessionId =
        some ((state.sessionStatus sessionId).getD .active) := by
  obtain ⟨input, hinput, hstatus, -⟩ := session_of_writes h clock
  rcases status_of_session hinput with ⟨hyes, -⟩ | ⟨-, hended | ⟨hmessage, hnone⟩⟩
  · exact absurd hyes hactive
  · left
    rw [hstatus, hended]
    rfl
  · right
    refine ⟨hmessage, ?_⟩
    rw [hstatus, hnone, Option.none_or]

end

/-- The server, and which of the two frames at the end of a run of a session it has mirrored since
the session was last active. -/
structure SessionWatch where
  server : Server
  chatEnded : Prop
  changedEnded : Prop

namespace SessionWatch

variable (sessionId : String)

/-- A frame has been mirrored since the last activity: it is this event, or it was before and this
event reports no activity. -/
def seen (s : SessionWatch) (e : ProductApiMirrorEvent) (was now : Prop) : Prop :=
  (e.Writes s.server.repository.state sessionId ∧ now) ∨
    (was ∧ ¬ (e.Writes s.server.repository.state sessionId ∧ e.ReportsActivity))

def step (s : SessionWatch) (i : ServerStep) : SessionWatch where
  server := serverStep s.server i
  chatEnded := match i with
    | .mirror _ e => s.seen sessionId e s.chatEnded e.EndsChat
    | _ => s.chatEnded
  changedEnded := match i with
    | .mirror _ e => s.seen sessionId e s.changedEnded e.EndsChanged
    | _ => s.changedEnded

/-- Once both frames have been mirrored the session is shown as ended. -/
def ShownEnded (s : SessionWatch) : Prop :=
  s.chatEnded → s.changedEnded → s.server.repository.state.sessionStatus sessionId = some .ended

/-- An event of the session that is mirrored with or after both frames does not set it active. -/
def KeepsEnded (s : SessionWatch) (i : ServerStep) : Prop :=
  match i with
  | .mirror _ e => e.Writes s.server.repository.state sessionId →
      s.seen sessionId e s.chatEnded e.EndsChat →
        s.seen sessionId e s.changedEnded e.EndsChanged → ¬ e.SetsActive
  | _ => True

variable {sessionId} {s : SessionWatch}

theorem shownEnded_of_not_writes {i : ServerStep} (hs : SummariesInv s.server)
    (h : s.ShownEnded sessionId)
    (hnot : ∀ clock e, i = .mirror clock e → ¬ e.Writes s.server.repository.state sessionId) :
    (s.step sessionId i).ShownEnded sessionId := by
  intro hchat hchanged
  have hsame := getSessionDetail_step hs.coherent.saved hnot
  show Option.map _ ((serverStep s.server i).repository.state.getSessionDetail sessionId) = _
  rw [hsame]
  cases i with
  | mirror clock e =>
    have hwrites := hnot clock e rfl
    exact h (hchat.resolve_left fun h => hwrites h.1).1
      (hchanged.resolve_left fun h => hwrites h.1).1
  | call clock op => exact h hchat hchanged
  | restart => exact h hchat hchanged

/-- The event that is mirrored keeps the session ended exactly when it does not set it active. -/
theorem shownEnded_mirror_iff (h : s.ShownEnded sessionId) {clock : Clock}
    {e : ProductApiMirrorEvent} (hwrites : e.Writes s.server.repository.state sessionId) :
    (s.step sessionId (.mirror clock e)).ShownEnded sessionId ↔
      s.KeepsEnded sessionId (.mirror clock e) := by
  have hstatus : (s.step sessionId (.mirror clock e)).server.repository.state =
      mirrorNext clock s.server.repository.state e := mirror_state clock e s.server
  constructor
  · intro hended _ hchat hchanged hactive
    have hshown := hended hchat hchanged
    rw [hstatus, status_of_setsActive hwrites hactive] at hshown
    cases hshown
  · intro hkeeps hchat hchanged
    rw [hstatus]
    have hactive := hkeeps hwrites hchat hchanged
    rcases status_of_not_setsActive hwrites hactive with hended | ⟨hmessage, hkept⟩
    · exact hended
    · have hchat' : s.chatEnded := (hchat.resolve_left fun h => by
        rw [h.2.1] at hmessage
        cases hmessage).1
      have hchanged' : s.changedEnded := (hchanged.resolve_left fun h => by
        rw [h.2.1] at hmessage
        cases hmessage).1
      rw [hkept, h hchat' hchanged']
      rfl

/-- A session is shown as ended whenever both frames of the end of its run have been mirrored,
exactly when no event sets it active with or after the second of them. -/
theorem shown_ended_iff (sessionId : String) (early steps : List ServerStep) :
    Always (step sessionId) (ShownEnded sessionId)
        ⟨run serverStep initialServer early, False, False⟩ steps ↔
      Each (step sessionId) (KeepsEnded sessionId)
        ⟨run serverStep initialServer early, False, False⟩ steps := by
  -- a step keeps the session ended exactly when it is no frame that sets it active
  have hstep : ∀ (s : SessionWatch) (i : ServerStep),
      SummariesInv s.server ∧ s.ShownEnded sessionId →
        ((s.step sessionId i).ShownEnded sessionId ↔ s.KeepsEnded sessionId i) := by
    rintro s i ⟨hs, hended⟩
    cases i with
    | mirror clock e =>
      by_cases hwrites : e.Writes s.server.repository.state sessionId
      · exact shownEnded_mirror_iff hended hwrites
      · refine iff_of_true (shownEnded_of_not_writes hs hended ?_) fun h => absurd h hwrites
        rintro clock e ⟨⟩
        exact hwrites
    | call clock op =>
      exact iff_of_true (shownEnded_of_not_writes hs hended fun _ _ h => nomatch h) trivial
    | restart =>
      exact iff_of_true (shownEnded_of_not_writes hs hended fun _ _ h => nomatch h) trivial
  have hinit : SummariesInv (run serverStep initialServer early) :=
    run_of_step summariesInv_step ⟨coherent_initial, rfl⟩ early
  exact @always_iff_each _ _ (step sessionId) (ShownEnded sessionId)
    (fun s => SummariesInv s.server ∧ s.ShownEnded sessionId) (KeepsEnded sessionId)
    (fun _ h => h.2)
    (fun s i h hok => ⟨summariesInv_step s.server i h.1, (hstep s i h).2 hok⟩)
    (fun s i h hno hended => hno ((hstep s i h).1 hended))
    ⟨run serverStep initialServer early, False, False⟩ ⟨hinit, fun h => h.elim⟩ steps

/-- The two frames at the end of a run, in the order in which the upstream gateway sends them. -/
def endOfRun : List ProductApiMirrorEvent :=
  [⟨.chat, .obj [("runId", .str "run-9"), ("sessionKey", .str "main"), ("state", .str "final")]⟩,
   ⟨.sessionsChanged, .obj [("sessionKey", .str "main"), ("runId", .str "run-9"),
    ("status", .str "done")]⟩]

/-- The session of a run that is done is shown as active. -/
theorem done_session_active :
    (run serverStep initialServer
        (endOfRun.map fun e => .mirror (fun _ => 0) e)).repository.state.sessionStatus "main" =
      some .active ∧
    ¬ Always (step "main") (ShownEnded "main") ⟨initialServer, False, False⟩
      (endOfRun.map fun e => .mirror (fun _ => 0) e) := by
  have hactive : (run serverStep initialServer
      (endOfRun.map fun e => .mirror (fun _ => 0) e)).repository.state.sessionStatus "main" =
        some .active := by decide +kernel
  refine ⟨hactive, fun h => ?_⟩
  -- neither frame reports activity, so both have been mirrored
  have hchat : stringField (.obj [("runId", .str "run-9"), ("sessionKey", .str "main"),
      ("state", .str "final")]) ["state"] = some "final" := by decide
  have hshown := h.2.2 ?_ ?_
  · exact absurd (hactive.symm.trans hshown) (by decide)
  · refine .inr ⟨.inl ⟨⟨by decide, fun hbad => hbad.2.2⟩, rfl, "final", by simp, hchat⟩, ?_⟩
    rintro ⟨-, ⟨⟨⟩, -⟩ | ⟨-, hrunning⟩⟩
    exact absurd hrunning (by decide)
  · refine .inl ⟨⟨by decide, fun hbad => ?_⟩, rfl, "done", by simp, by decide⟩
    exact absurd hbad.2.1 (by decide)

end SessionWatch

end Vertx
