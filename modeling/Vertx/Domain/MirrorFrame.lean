import Vertx.Domain.MirrorTimes
import Vertx.Domain.Summaries

/-!
# What a mirrored event leaves alone

A mirrored event writes one run and one session, those that its payload names, and an approval event
counts in the workbench.  `MirrorFrame` lists everything that such a write keeps: the other parts of
the state, the other records with their order, and what is known about a record already.
-/

namespace Vertx

open Repository Runs Keyed

/-- The id of the run that an event names. -/
def ProductApiMirrorEvent.namedRun? (e : ProductApiMirrorEvent) : Option String :=
  if e.payload.isObject then
    match e.event with
    | .runStatus => stringField e.payload ["runId", "id"]
    | .chat | .toolStatus => stringField e.payload ["runId"]
    | _ => none
  else none

/-- The id of the session that an event names. -/
def ProductApiMirrorEvent.namedSession? (e : ProductApiMirrorEvent) : Option String :=
  if e.payload.isObject then
    match e.event with
    | .chat | .sessionMessage | .sessionsChanged => sessionIdFromPayload e.payload
    | _ => none
  else none

def MirrorEventName.isApproval : MirrorEventName → Bool
  | approvalRequested | approvalResolved => true
  | _ => false

/-! ## What is kept of a known record -/

def RunKept (old new : WorkflowRunSummary) : Prop := new = { old with status := new.status }

def RunDetailKept (old new : WorkflowRunDetail) : Prop :=
  new = { old with status := new.status, resultSummary := new.resultSummary }

def SessionKept (old new : SessionSummary) : Prop :=
  new = { old with status := new.status, updatedAt := new.updatedAt }

/-- The number of messages grows by at most one. -/
def SessionDetailKept (old new : SessionDetail) : Prop :=
  new = { old with
    status := new.status, updatedAt := new.updatedAt, messageCount := new.messageCount } ∧
  ∃ n, old.messageCount = some n ∧ (new.messageCount = some n ∨ new.messageCount = some (n + 1))

/-- What mirroring an event keeps of a state. -/
structure MirrorFrame (e : ProductApiMirrorEvent) (old new : ProductApiState) : Prop where
  workflows : new.workflows = old.workflows
  workflowDetails : new.workflowDetails = old.workflowDetails
  connections : new.connections = old.connections
  settings : new.settings = old.settings
  knowledgeSources : new.knowledgeSources = old.knowledgeSources
  automations : new.automations = old.automations
  workbench :
    new.workbench = { old.workbench with pendingApprovals := new.workbench.pendingApprovals }
  workbench_of_not : e.event.isApproval = false → new.workbench = old.workbench
  otherRuns : new.runs.filter (some ·.id ≠ e.namedRun?) = old.runs.filter (some ·.id ≠ e.namedRun?)
  otherRunDetails : new.runDetails.filter (some ·.id ≠ e.namedRun?) =
    old.runDetails.filter (some ·.id ≠ e.namedRun?)
  otherSessions : new.sessions.filter (some ·.id ≠ e.namedSession?) =
    old.sessions.filter (some ·.id ≠ e.namedSession?)
  otherSessionDetails : new.sessionDetails.filter (some ·.id ≠ e.namedSession?) =
    old.sessionDetails.filter (some ·.id ≠ e.namedSession?)
  run : ∀ runId, e.namedRun? = some runId →
    WrittenAt (·.id) runId RunKept old.runs new.runs ∧
      WrittenAt (·.id) runId RunDetailKept old.runDetails new.runDetails
  session : ∀ sessionId, e.namedSession? = some sessionId →
    WrittenAt (·.id) sessionId SessionKept old.sessions new.sessions ∧
      WrittenAt (·.id) sessionId SessionDetailKept old.sessionDetails new.sessionDetails
  noId : e.event.isApproval = false → e.namedRun? = none → e.namedSession? = none → new = old

/-! ## The records that are written -/

theorem run?_runId (e : ProductApiMirrorEvent) : e.run?.map (·.runId) = e.namedRun? := by
  unfold ProductApiMirrorEvent.run? ProductApiMirrorEvent.namedRun?
  split_ifs
  · cases e.event with
    | runStatus | chat | toolStatus =>
      dsimp only
      rw [Option.map_map]
      exact Option.map_id'
    | _ => rfl
  · rfl

theorem session?_sessionId (clock : Clock) (e : ProductApiMirrorEvent) :
    (e.session? clock).map (·.sessionId) = e.namedSession? := by
  unfold ProductApiMirrorEvent.session? ProductApiMirrorEvent.namedSession?
  split_ifs
  · cases e.event with
    | chat | sessionMessage | sessionsChanged =>
      dsimp only
      rw [Option.map_map]
      exact Option.map_id'
    | _ => rfl
  · rfl

section Records

variable {clock : Clock} {state : ProductApiState} {e : ProductApiMirrorEvent}

/-- An event from which the mirror returns writes the run that it names. -/
theorem mirroredRun_of_good (hgood : ¬ e.BadTime state) {input : MirrorRunInput}
    (hinput : e.run? = some input) : ∃ run, mirroredRun clock state input = .ok run := by
  have hok : (mirroredRun clock state input).toOption.isSome := by
    rw [mirroredRun_isOk]
    by_contra hbad
    obtain ⟨hunknown, hts⟩ : state.getRunDetail input.runId = none ∧ input.ts.outOfRange := by
      simpa using hbad
    refine hgood ?_
    unfold ProductApiMirrorEvent.run? at hinput
    split_ifs at hinput with hp
    unfold ProductApiMirrorEvent.BadTime
    cases hevent : e.event <;> rw [hevent] at hinput <;> dsimp only at hinput
    case runStatus =>
      obtain ⟨runId, hid, rfl⟩ := Option.map_eq_some_iff.1 hinput
      exact ⟨hp, hts, runId, hid, hunknown⟩
    case chat =>
      obtain ⟨runId, hid, rfl⟩ := Option.map_eq_some_iff.1 hinput
      cases hts
    case toolStatus =>
      obtain ⟨runId, hid, rfl⟩ := Option.map_eq_some_iff.1 hinput
      unfold toolStatusInput JsValue.ofString? at hts
      cases h : stringField e.payload ["startedAt", "updatedAt"] <;> rw [h] at hts <;> cases hts
    all_goals cases hinput
  cases h : mirroredRun clock state input with
  | ok run => exact ⟨run, rfl⟩
  | error x => rw [h] at hok; cases hok

/-- An event from which the mirror returns writes the session that it names. -/
theorem mirroredSession_of_good (hgood : ¬ e.BadTime state) {input : MirrorSessionInput}
    (hinput : e.session? clock = some input) :
    ∃ session, mirroredSession clock state input = .ok session := by
  have hok : (mirroredSession clock state input).toOption.isSome := by
    rw [mirroredSession_isOk]
    by_contra hbad
    have htime : input.updatedAt.outOfRange := by simpa using hbad
    refine hgood ?_
    unfold ProductApiMirrorEvent.session? at hinput
    split_ifs at hinput with hp
    unfold ProductApiMirrorEvent.BadTime
    cases hevent : e.event <;> rw [hevent] at hinput <;> dsimp only at hinput
    case chat =>
      obtain ⟨sessionId, hid, rfl⟩ := Option.map_eq_some_iff.1 hinput
      cases htime
    case sessionMessage =>
      obtain ⟨sessionId, hid, rfl⟩ := Option.map_eq_some_iff.1 hinput
      obtain ⟨htext, hts⟩ := (outOfRange_orElse _ _).1 htime
      exact ⟨hp, hts, Option.isSome_iff_exists.2 ⟨sessionId, hid⟩, htext⟩
    case sessionsChanged =>
      obtain ⟨sessionId, hid, rfl⟩ := Option.map_eq_some_iff.1 hinput
      obtain ⟨htext, hts⟩ := (outOfRange_orElse _ _).1 htime
      exact ⟨hp, hts, Option.isSome_iff_exists.2 ⟨sessionId, hid⟩, htext⟩
    all_goals cases hinput
  cases h : mirroredSession clock state input with
  | ok session => exact ⟨session, rfl⟩
  | error x => rw [h] at hok; cases hok

/-- The run that is written has the id of the frame, and a summary. -/
theorem mirroredRun_spec {input : MirrorRunInput} {run : WorkflowRunDetail}
    (h : mirroredRun clock state input = .ok run) :
    run.id = input.runId ∧ run.resultSummary.isSome := by
  unfold mirroredRun at h
  cases hknown : state.getRunDetail input.runId with
  | some existing => rw [hknown] at h; cases h; exact ⟨rfl, rfl⟩
  | none =>
    cases ht : isoFromValue clock 0 input.ts with
    | ok startedAt => rw [hknown, ht] at h; cases h; exact ⟨rfl, rfl⟩
    | error x => rw [hknown, ht] at h; cases h

theorem mirroredRun_kept {input : MirrorRunInput} {run existing : WorkflowRunDetail}
    (h : mirroredRun clock state input = .ok run)
    (hknown : state.getRunDetail input.runId = some existing) : RunDetailKept existing run := by
  have hid : existing.id = input.runId := by simpa using List.find?_some hknown
  unfold mirroredRun at h
  rw [hknown] at h
  cases h
  unfold RunDetailKept
  rw [← hid]
  rfl

theorem mirroredSession_id {input : MirrorSessionInput} {session : SessionDetail}
    (h : mirroredSession clock state input = .ok session) : session.id = input.sessionId := by
  unfold mirroredSession at h
  cases ht : isoFromValue clock 2 input.updatedAt with
  | ok updatedAt => rw [ht] at h; cases h; rfl
  | error x => rw [ht] at h; cases h

theorem mirroredSession_kept {input : MirrorSessionInput} {session existing : SessionDetail}
    (h : mirroredSession clock state input = .ok session)
    (hknown : state.getSessionDetail input.sessionId = some existing)
    (hcounted : existing.messageCount.isSome) : SessionDetailKept existing session := by
  have hid : existing.id = input.sessionId := by simpa using List.find?_some hknown
  obtain ⟨n, hn⟩ := Option.isSome_iff_exists.1 hcounted
  unfold mirroredSession at h
  cases ht : isoFromValue clock 2 input.updatedAt with
  | error x => rw [ht] at h; cases h
  | ok updatedAt =>
    rw [hknown, ht] at h
    cases h
    unfold SessionDetailKept
    refine ⟨by rw [← hid]; rfl, n, hn, ?_⟩
    dsimp only [Option.bind_some]
    rw [hn, Option.getD_some]
    split_ifs
    · exact .inr rfl
    · exact .inl rfl

end Records

/-! ## The lists that are written -/

/-- Every session has a number of messages. -/
def Counted (state : ProductApiState) : Prop :=
  ∀ session ∈ state.sessionDetails, session.messageCount.isSome

section Lists

variable {clock : Clock} {state : ProductApiState}

theorem writtenAt_runDetails {input : MirrorRunInput} {run : WorkflowRunDetail}
    (h : mirroredRun clock state input = .ok run) :
    WrittenAt (·.id) input.runId RunDetailKept state.runDetails
      (state.upsertRun run).runDetails := by
  rw [← (mirroredRun_spec h).1]
  refine writtenAt_upsertFirst _ fun existing hfind => ⟨rfl, ?_⟩
  rw [(mirroredRun_spec h).1] at hfind
  have hkept : run = _ := mirroredRun_kept h hfind
  unfold RunDetailKept ProductApiState.mergeRun
  rw [hkept]

theorem writtenAt_runs (hproj : Projected state) {input : MirrorRunInput} {run : WorkflowRunDetail}
    (h : mirroredRun clock state input = .ok run) :
    WrittenAt (·.id) input.runId RunKept state.runs (state.upsertRun run).runs := by
  rw [← (mirroredRun_spec h).1]
  refine @writtenAt_upsertFirst _ _ _ (·.id) _ run.toWorkflowRunSummary _ _ fun a hfind => ⟨rfl, ?_⟩
  rw [hproj.runs, List.find?_map] at hfind
  obtain ⟨existing, hexisting, rfl⟩ := Option.map_eq_some_iff.1 hfind
  change state.getRunDetail run.id = some existing at hexisting
  rw [(mirroredRun_spec h).1] at hexisting
  have hkept : run = _ := mirroredRun_kept h hexisting
  unfold RunKept
  rw [hkept]

theorem writtenAt_sessionDetails (hcounted : Counted state) {input : MirrorSessionInput}
    {session : SessionDetail} (h : mirroredSession clock state input = .ok session) :
    WrittenAt (·.id) input.sessionId SessionDetailKept state.sessionDetails
      (state.upsertSession session).sessionDetails := by
  rw [← mirroredSession_id h]
  refine writtenAt_upsertFirst _ fun existing hfind => ⟨rfl, ?_⟩
  rw [mirroredSession_id h] at hfind
  have hcount := hcounted existing (List.mem_of_find?_eq_some hfind)
  obtain ⟨hkept, n, hn, hgrown⟩ := mirroredSession_kept h hfind hcount
  refine ⟨?_, n, hn, ?_⟩
  · unfold ProductApiState.mergeSession
    rw [hkept]
  · unfold ProductApiState.mergeSession
    rcases hgrown with hgrown | hgrown <;> simp [hgrown]

theorem writtenAt_sessions (hproj : SessionsProjected state) (hcounted : Counted state)
    {input : MirrorSessionInput} {session : SessionDetail}
    (h : mirroredSession clock state input = .ok session) :
    WrittenAt (·.id) input.sessionId SessionKept state.sessions
      (state.upsertSession session).sessions := by
  rw [← mirroredSession_id h]
  refine @writtenAt_upsertFirst _ _ _ (·.id) _ session.toSessionSummary _ _
    fun a hfind => ⟨rfl, ?_⟩
  rw [hproj, List.find?_map] at hfind
  obtain ⟨existing, hexisting, rfl⟩ := Option.map_eq_some_iff.1 hfind
  change state.getSessionDetail session.id = some existing at hexisting
  rw [mirroredSession_id h] at hexisting
  have hcount := hcounted existing (List.mem_of_find?_eq_some hexisting)
  have hkept : session = _ := (mirroredSession_kept h hexisting hcount).1
  unfold SessionKept
  rw [hkept]

end Lists

/-! ## The frame -/

section Frame

variable {clock : Clock} {state : ProductApiState} {e : ProductApiMirrorEvent}

/-- The named run is written, and no other is. -/
theorem runWritten_of_good (hgood : ¬ e.BadTime state) :
    (e.namedRun? = none ∧ e.runWritten clock state = none) ∨
      ∃ input run, e.namedRun? = some input.runId ∧ mirroredRun clock state input = .ok run ∧
        e.runWritten clock state = some run := by
  rw [← run?_runId]
  unfold ProductApiMirrorEvent.runWritten
  cases hinput : e.run? with
  | none => exact .inl ⟨rfl, rfl⟩
  | some input =>
    obtain ⟨run, hrun⟩ : ∃ run, mirroredRun clock state input = .ok run :=
      mirroredRun_of_good hgood hinput
    refine .inr ⟨input, run, rfl, hrun, ?_⟩
    rw [Option.bind_some, hrun]
    rfl

/-- The named session is written, and no other is. -/
theorem sessionWritten_of_good (hgood : ¬ e.BadTime state) :
    (e.namedSession? = none ∧ e.sessionWritten clock state = none) ∨
      ∃ input session, e.namedSession? = some input.sessionId ∧
        mirroredSession clock state input = .ok session ∧
        e.sessionWritten clock state = some session := by
  rw [← session?_sessionId clock]
  unfold ProductApiMirrorEvent.sessionWritten
  cases hinput : e.session? clock with
  | none => exact .inl ⟨rfl, rfl⟩
  | some input =>
    obtain ⟨session, hsession⟩ := mirroredSession_of_good hgood hinput
    refine .inr ⟨input, session, rfl, hsession, ?_⟩
    rw [Option.bind_some, hsession]
    rfl

/-- A list is written under the name that an event gives, and stays as it is without one. -/
structure NamedWrite {α : Type} (key : α → String) (named : Option String) (R : α → α → Prop)
    (old new : List α) : Prop where
  same : named = none → new = old
  written : ∀ k, named = some k → WrittenAt key k R old new

/-- The records with another id than the named one. -/
theorem NamedWrite.others {α : Type} {key : α → String} {named : Option String} {R : α → α → Prop}
    {old new : List α} (h : NamedWrite key named R old new) :
    new.filter (fun a => some (key a) ≠ named) = old.filter (fun a => some (key a) ≠ named) := by
  cases named with
  | none => rw [h.same rfl]
  | some k => simpa only [ne_eq, Option.some.injEq] using (h.written k rfl).filter_ne

theorem namedWrite_run (hproj : Projected state) (hgood : ¬ e.BadTime state) :
    NamedWrite (·.id) e.namedRun? RunKept state.runs
        ((e.runWritten clock state).elim state state.upsertRun).runs ∧
      NamedWrite (·.id) e.namedRun? RunDetailKept state.runDetails
        ((e.runWritten clock state).elim state state.upsertRun).runDetails := by
  rcases @runWritten_of_good clock state e hgood with ⟨hid, hnone⟩ | ⟨input, run, hid, hok, hsome⟩
  · rw [hid, hnone]
    exact ⟨⟨fun _ => rfl, nofun⟩, ⟨fun _ => rfl, nofun⟩⟩
  · rw [hid, hsome]
    refine ⟨⟨nofun, ?_⟩, ⟨nofun, ?_⟩⟩
    · rintro k ⟨⟩
      exact writtenAt_runs hproj hok
    · rintro k ⟨⟩
      exact writtenAt_runDetails hok

theorem namedWrite_session (hsessions : SessionsProjected state) (hcounted : Counted state)
    (hgood : ¬ e.BadTime state) :
    NamedWrite (·.id) e.namedSession? SessionKept state.sessions
        ((e.sessionWritten clock state).elim state state.upsertSession).sessions ∧
      NamedWrite (·.id) e.namedSession? SessionDetailKept state.sessionDetails
        ((e.sessionWritten clock state).elim state state.upsertSession).sessionDetails := by
  rcases @sessionWritten_of_good clock state e hgood with
    ⟨hid, hnone⟩ | ⟨input, session, hid, hok, hsome⟩
  · rw [hid, hnone]
    exact ⟨⟨fun _ => rfl, nofun⟩, ⟨fun _ => rfl, nofun⟩⟩
  · rw [hid, hsome]
    refine ⟨⟨nofun, ?_⟩, ⟨nofun, ?_⟩⟩
    · rintro k ⟨⟩
      exact writtenAt_sessions hsessions hcounted hok
    · rintro k ⟨⟩
      exact writtenAt_sessionDetails hcounted hok

/-- Without a name nothing is written. -/
theorem runWritten_of_unnamed (h : e.namedRun? = none) : e.runWritten clock state = none := by
  rw [← run?_runId, Option.map_eq_none_iff] at h
  rw [ProductApiMirrorEvent.runWritten, h]
  rfl

theorem sessionWritten_of_unnamed (h : e.namedSession? = none) :
    e.sessionWritten clock state = none := by
  rw [← session?_sessionId clock, Option.map_eq_none_iff] at h
  rw [ProductApiMirrorEvent.sessionWritten, h]
  rfl

theorem workbench?_of_not_approval (h : e.event.isApproval = false) :
    e.workbench? state = none := by
  unfold ProductApiMirrorEvent.workbench?
  split_ifs
  · cases hevent : e.event <;> rw [hevent] at h <;> first | rfl | cases h
  · rfl

theorem workbench?_kept {workbench : WorkbenchSummary} (h : e.workbench? state = some workbench) :
    workbench = { state.workbench with pendingApprovals := workbench.pendingApprovals } := by
  unfold ProductApiMirrorEvent.workbench? at h
  split_ifs at h
  cases hevent : e.event <;> rw [hevent] at h <;> cases h <;> rfl

theorem audit?_of_not_approval (h : e.event.isApproval = false) : e.audit? none = none := by
  unfold ProductApiMirrorEvent.audit?
  split_ifs
  · cases hevent : e.event <;> rw [hevent] at h <;> first | rfl | cases h
  · rfl

theorem mirrorFrame_of_good (hproj : Projected state) (hsessions : SessionsProjected state)
    (hcounted : Counted state) (hgood : ¬ e.BadTime state) :
    MirrorFrame e state (mirrorNext clock state e) := by
  rw [mirrorNext_eq]
  obtain ⟨hruns, hrunDetails⟩ := @namedWrite_run clock state e hproj hgood
  obtain ⟨hlist, hdetails⟩ := @namedWrite_session clock state e hsessions hcounted hgood
  constructor
  case workbench =>
    cases hw : e.workbench? state with
    | none => rfl
    | some workbench => exact workbench?_kept hw
  case workbench_of_not =>
    intro h
    rw [workbench?_of_not_approval h]
    rfl
  case otherRuns => exact hruns.others
  case otherRunDetails => exact hrunDetails.others
  case otherSessions => exact hlist.others
  case otherSessionDetails => exact hdetails.others
  case run =>
    intro runId hrunId
    exact ⟨hruns.written runId hrunId, hrunDetails.written runId hrunId⟩
  case session =>
    intro sessionId hsessionId
    exact ⟨hlist.written sessionId hsessionId, hdetails.written sessionId hsessionId⟩
  case noId =>
    intro hnot hnoRun hnoSession
    have hrun : e.runWritten clock state = none := runWritten_of_unnamed hnoRun
    have hsession : e.sessionWritten clock state = none := sessionWritten_of_unnamed hnoSession
    rw [mirrorAudit?, hrun, hsession, workbench?_of_not_approval hnot, audit?_of_not_approval hnot]
    rfl
  all_goals rfl

end Frame

/-! ## Every reachable state -/

theorem counted_step {s : Server} (step : ServerStep) (hsaved : s.repository.Saved)
    (h : Counted s.repository.state) : Counted (serverStep s step).repository.state := by
  cases step with
  | call clock op =>
    refine call_induction h fun e entry he session hmem => h session ?_
    rw [← (sessions_effect he s.repository.state).2]
    exact hmem
  | mirror clock e =>
    rw [mirror_state, mirrorNext_eq]
    intro session hmem
    dsimp only at hmem
    cases hs : e.sessionWritten clock s.repository.state with
    | none =>
      rw [hs] at hmem
      exact h session hmem
    | some written =>
      rw [hs] at hmem
      have hcount : written.messageCount.isSome := by
        unfold ProductApiMirrorEvent.sessionWritten at hs
        obtain ⟨input, -, hok⟩ := Option.bind_eq_some_iff.1 hs
        unfold mirroredSession at hok
        cases ht : isoFromValue clock 2 input.updatedAt with
        | ok updatedAt => rw [ht] at hok; cases hok; rfl
        | error x => rw [ht] at hok; cases hok
      rcases mem_upsertFirst (fun s : SessionDetail => s.id) hmem with hmem | rfl | ⟨old, -, -, rfl⟩
      · exact h session hmem
      · exact hcount
      · change (written.messageCount.or old.messageCount).isSome = true
        rw [Option.isSome_or, hcount, Bool.true_or]
  | restart =>
    rw [restart_state hsaved]
    exact h

/-- What the frame of a mirrored event rests on. -/
structure FrameInv (s : Server) : Prop extends SummariesInv s where
  counted : Counted s.repository.state

theorem frameInv_step (s : Server) (step : ServerStep) (h : FrameInv s) :
    FrameInv (serverStep s step) where
  toSummariesInv := summariesInv_step s step h.toSummariesInv
  counted := counted_step step h.coherent.saved h.counted

theorem frameInv_initial : FrameInv initialServer where
  toSummariesInv := ⟨coherent_initial, rfl⟩
  counted := by
    intro session hmem
    have hmem : session ∈ mockSessionDetails := hmem
    simp only [mockSessionDetails, List.mem_cons, List.not_mem_nil, or_false] at hmem
    rcases hmem with rfl | rfl <;> rfl

/-- In every state that a server reaches, an event from which the mirror returns changes nothing but
the run and the session that it names, the number of pending approvals and the audit log, and keeps
what identifies a known run or session. -/
theorem mirror_frame (steps : List ServerStep) (clock : Clock) (e : ProductApiMirrorEvent)
    (hreturns : (mirrorRealtimeEventToProductApiRepository clock e).Returns
      (run serverStep initialServer steps).repository) :
    MirrorFrame e (run serverStep initialServer steps).repository.state
      (serverStep (run serverStep initialServer steps) (.mirror clock e)).repository.state := by
  have hinv : FrameInv (run serverStep initialServer steps) :=
    run_of_step frameInv_step frameInv_initial steps
  have hgood := (returns_mirror clock _ e).1 hreturns
  rw [mirror_state]
  exact mirrorFrame_of_good hinv.coherent.projected hinv.sessions hinv.counted hgood

/-- The end of the run that the mock state shows as running. -/
theorem mirror_frame_completed :
    MirrorFrame ⟨.runStatus, .obj [("runId", .str "run-1"), ("status", .str "completed")]⟩
      createMockProductApiState
      (serverStep initialServer (.mirror (fun _ => 0)
        ⟨.runStatus,
          .obj [("runId", .str "run-1"), ("status", .str "completed")]⟩)).repository.state :=
  mirror_frame [] (fun _ => 0) _
    ((returns_mirror _ _ _).2 fun h => absurd h.2.1 (by decide +kernel))

end Vertx
