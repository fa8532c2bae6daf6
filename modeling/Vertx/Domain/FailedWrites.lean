import Vertx.Domain.Sessions
import Vertx.Domain.Operations

/-!
# Writes that fail

The repository changes its state in memory and writes the file afterwards, so that a write that
throws leaves the change in memory, and an operation of several writes leaves the earlier ones in
the file too.  Nothing is left behind only where the writes up to the one that fails write what is
there already.
-/

namespace Vertx

open Repository Keyed

/-! ## A file that cannot be written -/

/-- A state file on a disk with room for some more writes. -/
structure FaultyFile where
  file : StateFile
  writesLeft : ℕ

/-- What `writeFileSync` throws when the disk is full. -/
def diskFull : JsError := .error "ENOSPC: no space left on device, write"

/-- `writeState`, where the write after the last that there is room for leaves the file alone. -/
instance : Persist FaultyFile where
  persist state disk := match disk.writesLeft with
    | 0 => (.error diskFull, disk)
    | n + 1 => (.ok (), ⟨⟨some state.wire⟩, n⟩)

/-- The state after mutations. -/
def applyAll (fs : List (ProductApiState → ProductApiState)) (state : ProductApiState) :
    ProductApiState :=
  fs.foldl (fun state f => f state) state

/-- The file after the mutations that were written. -/
def fileAfter (file : StateFile) (state : ProductApiState) :
    List (ProductApiState → ProductApiState) → StateFile
  | [] => file
  | f :: fs => ⟨some (applyAll (f :: fs) state).wire⟩

/-- The mutations up to the write that fails are made in memory, and those before it are written. -/
theorem writeAll_faulty {fs : List (ProductApiState → ProductApiState)} {k : ℕ} (hk : k < fs.length)
    (state : ProductApiState) (file : StateFile) :
    (writeAll fs).run (⟨state, ⟨file, k⟩⟩ : Repository FaultyFile) =
      .error diskFull
        ⟨applyAll (fs.take (k + 1)) state, ⟨fileAfter file state (fs.take k), 0⟩⟩ := by
  induction fs generalizing k state file with
  | nil => cases hk
  | cons f fs ih =>
    rw [writeAll, EStateM.run_bind, run_mutate_persist]
    cases k with
    | zero => rfl
    | succ k =>
      have hfile : fileAfter ⟨some (f state).wire⟩ (f state) (fs.take k) =
          fileAfter file state ((f :: fs).take (k + 1)) := by
        rw [List.take_succ_cons]
        cases fs.take k <;> rfl
      rw [← hfile]
      exact ih (Nat.lt_of_succ_lt_succ hk) (f state) _

namespace Operation

/-- The store on a disk with room for `k` more writes. -/
def onFaultyFile (s : Store StateFile) (k : ℕ) : Store FaultyFile :=
  s.withDisk ⟨s.repository.disk, k⟩

variable (s : Store StateFile) (o : Operation) (k : ℕ)

/-- The operation throws when there is room for `k` writes only, and leaves the state in memory and
the file as they were. -/
def LeavesNoTrace : Prop :=
  ∃ e s', o.perform.run (onFaultyFile s k) = .error e s' ∧
    s'.repository.state = s.repository.state ∧ s'.repository.disk.file = s.repository.disk

variable {s o k}

theorem leavesNoTrace_iff_applyAll (hk : k < (o.writes s).length) :
    o.LeavesNoTrace s k ↔
      applyAll ((o.writes s).take (k + 1)) s.repository.state = s.repository.state ∧
        fileAfter s.repository.disk s.repository.state ((o.writes s).take k) =
          s.repository.disk := by
  have h := o.performs (onFaultyFile s k)
  have hrun : (writeAll (o.writes s)).run (onFaultyFile s k).repository = _ :=
    writeAll_faulty hk s.repository.state s.repository.disk
  unfold Performs at h
  rw [onFaultyFile, writes_withDisk, ← onFaultyFile, hrun] at h
  obtain ⟨s', hthrow, hs'⟩ := h
  unfold LeavesNoTrace
  rw [hthrow]
  constructor
  · rintro ⟨e, s'', heq, hstate, hfile⟩
    cases heq
    rw [hs'] at hstate hfile
    exact ⟨hstate, hfile⟩
  · rintro ⟨hstate, hfile⟩
    exact ⟨diskFull, s', rfl, by rw [hs']; exact hstate, by rw [hs']; exact hfile⟩

end Operation

/-! ## Writes that change nothing -/

section

variable {state : ProductApiState}

theorem upsertConnection_eq_self {connection : ChannelConnectionSummary} :
    state.upsertConnection connection = state ↔
      state.connections.find? (·.id = connection.id) = some connection := by
  have hlist : state.upsertConnection connection = state ↔
      upsertFirst (·.id) (fun _ => connection) connection state.connections = state.connections :=
    ⟨congrArg ProductApiState.connections, fun h => by rw [ProductApiState.upsertConnection, h]⟩
  rw [hlist, upsertFirst_eq_self]
  simp only [exists_eq_right']

theorem upsertAutomation_eq_self {automation : AutomationSummary} :
    state.upsertAutomation automation = state ↔
      state.getAutomation automation.id = some automation := by
  have hlist : state.upsertAutomation automation = state ↔
      upsertFirst (·.id) (fun _ => automation) automation state.automations = state.automations :=
    ⟨congrArg ProductApiState.automations, fun h => by rw [ProductApiState.upsertAutomation, h]⟩
  rw [hlist, upsertFirst_eq_self, ProductApiState.getAutomation]
  simp only [exists_eq_right']

theorem setSettings_eq_self {settings : SettingsDetail} :
    state.setSettings settings = state ↔ settings = state.settings :=
  ⟨fun h => congrArg ProductApiState.settings h, fun h => by
    rw [ProductApiState.setSettings, h]⟩

end

/-- The first write of the operation writes what is there already: the connection is connected, and
active just now; the input changes no setting; the automation has been run just now. -/
def StoreOp.RewritesOnly (clock : Clock) (state : ProductApiState) : StoreOp → Prop
  | connectFeishu => ∃ connection,
      state.connections.find? (·.channelType = "feishu") = some connection ∧
        state.connections.find? (·.id = connection.id) = some connection ∧
        connection.status = .connected ∧ connection.lastActiveAt = isoNow clock 0
  | updateSettings input => JsValue.merge state.settings input.spread = state.settings
  | runAutomation automationId => ∃ automation, state.getAutomation automationId = some automation ∧
      automation.lastRunAt = some (isoNow clock 0) ∧
        (automation.status = .active ∧ automation.triggerType ≠ .str "manual" →
          automation.nextRunAt = some (isoNow clock 1))
  | _ => False

theorem connectFeishu_rewritesOnly_iff (clock : Clock) (state : ProductApiState) :
    state.upsertConnection (feishuConnection clock state) = state ↔
      StoreOp.connectFeishu.RewritesOnly clock state := by
  rw [upsertConnection_eq_self]
  unfold feishuConnection StoreOp.RewritesOnly
  cases h : state.connections.find? (·.channelType = "feishu") with
  | none =>
    refine iff_of_false (fun hfound => ?_) (by simp)
    have hchannel := List.find?_eq_none.1 h _ (List.mem_of_find?_eq_some hfound)
    exact hchannel (decide_eq_true rfl)
  | some connection =>
    dsimp only
    constructor
    · intro hfound
      have hchannel : connection.channelType = "feishu" := by simpa using List.find?_some h
      have hsame := eq_of_find?_eq_some h hfound (decide_eq_true rfl) (decide_eq_true hchannel)
      refine ⟨connection, rfl, ?_, ?_, ?_⟩
      · rw [hsame] at hfound ⊢
        exact hfound
      · rw [hsame]
      · rw [hsame]
    · rintro ⟨_, ⟨⟩, hfound, hstatus, hactive⟩
      rw [hfound, ← hstatus, ← hactive]

theorem runAutomation_rewritesOnly_iff {clock : Clock} {state : ProductApiState}
    {automationId : String} {automation : AutomationSummary}
    (h : state.getAutomation automationId = some automation) :
    state.upsertAutomation (triggeredAutomation clock automation) = state ↔
      (StoreOp.runAutomation automationId).RewritesOnly clock state := by
  have hid : automation.id = automationId := by simpa using List.find?_some h
  have hfound :
      state.getAutomation (triggeredAutomation clock automation).id = some automation := by
    rw [show (triggeredAutomation clock automation).id = automationId from hid, h]
  rw [upsertAutomation_eq_self, hfound, Option.some_inj]
  constructor
  · intro hsame
    refine ⟨automation, h, congrArg AutomationSummary.lastRunAt hsame, fun hnext => ?_⟩
    have hnextRunAt := congrArg AutomationSummary.nextRunAt hsame
    rwa [triggeredAutomation, if_pos hnext] at hnextRunAt
  · rintro ⟨_, hfound', hlast, hnext⟩
    obtain rfl := Option.some.inj (h.symm.trans hfound')
    unfold triggeredAutomation
    split_ifs with hactive
    · rw [← hlast, ← hnext hactive]
    · rw [← hlast]

theorem toggledAutomation_ne (clock : Clock) (automation : AutomationSummary) :
    toggledAutomation clock automation ≠ automation := by
  intro hsame
  have hstatus := congrArg AutomationSummary.status hsame
  unfold toggledAutomation at hstatus
  cases h : automation.status <;> rw [h] at hstatus <;> cases hstatus

/-- A write that makes a list of records longer changes the state. -/
theorem ne_of_length {α : Type} {state state' : ProductApiState}
    (records : ProductApiState → List α)
    (h : (records state').length = (records state).length + 1) : state' ≠ state := by
  rintro rfl
  omega

/-- The first write of an operation changes nothing when it writes what is there already. -/
theorem firstWrite_eq_self_iff {clock : Clock} {s : Store StateFile} {op : StoreOp}
    {e : StoreEffect} (h : op.Does clock s e) :
    applyAll (e.writes.take 1) s.repository.state = s.repository.state ↔
      op.RewritesOnly clock s.repository.state := by
  cases h with
  | createWorkflow _ => exact iff_of_false (ne_of_length ProductApiState.workflows rfl) id
  | startWorkflowRun _ => exact iff_of_false (ne_of_length ProductApiState.runs rfl) id
  | retryRun _ _ => exact iff_of_false (ne_of_length ProductApiState.runs rfl) id
  | connectFeishu => exact connectFeishu_rewritesOnly_iff clock s.repository.state
  | updateSettings => exact setSettings_eq_self
  | createKnowledgeSource _ =>
    exact iff_of_false (ne_of_length ProductApiState.knowledgeSources rfl) id
  | createAutomation _ => exact iff_of_false (ne_of_length ProductApiState.automations rfl) id
  | @toggleAutomation automationId automation h =>
    have hid : automation.id = automationId := by simpa using List.find?_some h
    refine iff_of_false (fun heq => ?_) id
    have hfound : s.repository.state.getAutomation automation.id =
        some (toggledAutomation clock automation) := upsertAutomation_eq_self.1 heq
    rw [hid, h] at hfound
    exact toggledAutomation_ne clock _ (Option.some.inj hfound).symm
  | runAutomation h => exact runAutomation_rewritesOnly_iff h

/-- A run is listed from its first write on. -/
theorem laterRunWrite_ne {clock : Clock} {s : Store StateFile} {workflow : WorkflowDetail}
    {action : String} {k : ℕ} (hk : k ≠ 0) (hlen : k < 3) :
    applyAll
      (((runEffect clock s workflow action).writes ++ [s.auditWrite clock action]).take (k + 1))
      s.repository.state ≠ s.repository.state := by
  have hk : k = 1 ∨ k = 2 := by omega
  rcases hk with rfl | rfl
  · exact ne_of_length ProductApiState.runs rfl
  · exact ne_of_length ProductApiState.runs rfl

/-- The writes of an operation up to one after the first always change the state. -/
theorem laterWrite_ne {clock : Clock} {s : Store StateFile} {op : StoreOp} {e : StoreEffect}
    (h : op.Does clock s e) {k : ℕ} (hk : k ≠ 0)
    (hlen : k < (e.writes ++ [s.auditWrite clock e.action]).length) :
    applyAll ((e.writes ++ [s.auditWrite clock e.action]).take (k + 1)) s.repository.state ≠
      s.repository.state := by
  cases h with
  | startWorkflowRun _ => exact laterRunWrite_ne hk hlen
  | retryRun _ _ => exact laterRunWrite_ne hk hlen
  | _ =>
    have hk : k = 1 := by
      have hlen : k < 2 := hlen
      omega
    subst hk
    exact ne_of_length ProductApiState.auditEvents rfl

/-! ## What the mirror knows already -/

/-- The run is known as the event reports it. -/
def RunKnown (state : ProductApiState) (input : MirrorRunInput) : Prop :=
  ∃ run, state.getRunDetail input.runId = some run ∧
    state.runs.find? (·.id = input.runId) = some run.toWorkflowRunSummary ∧
    run.status = toRunStatus input.status ∧
    ∃ text, run.resultSummary = some text ∧ ∀ told ∈ input.resultSummary, told = text

/-- The session is known as the event reports it, and the event counts no message. -/
def SessionKnown (clock : Clock) (state : ProductApiState) (input : MirrorSessionInput) : Prop :=
  ∃ session, state.getSessionDetail input.sessionId = some session ∧
    state.sessions.find? (·.id = input.sessionId) = some session.toSessionSummary ∧
    (∀ status ∈ input.status, session.status = status) ∧
    isoFromValue clock 2 input.updatedAt = .ok session.updatedAt ∧
    session.messageCount.isSome ∧ input.incrementMessageCount = false

section

variable {clock : Clock} {state : ProductApiState}

theorem upsertRun_eq_self {run : WorkflowRunDetail} (h : run.resultSummary.isSome) :
    state.upsertRun run = state ↔
      state.getRunDetail run.id = some run ∧
        state.runs.find? (·.id = run.id) = some run.toWorkflowRunSummary := by
  obtain ⟨text, htext⟩ := Option.isSome_iff_exists.1 h
  have hmerge : ProductApiState.mergeRun run = fun _ => run := by
    funext old
    rw [ProductApiState.mergeRun, htext, Option.some_or, ← htext]
  have hlists : state.upsertRun run = state ↔
      upsertFirst (·.id) (ProductApiState.mergeRun run) run state.runDetails = state.runDetails ∧
        upsertFirst (·.id) (fun _ => run.toWorkflowRunSummary) run.toWorkflowRunSummary state.runs =
          state.runs :=
    ⟨fun h => ⟨congrArg ProductApiState.runDetails h, congrArg ProductApiState.runs h⟩,
      fun ⟨hdetails, hruns⟩ => by rw [ProductApiState.upsertRun, hdetails, hruns]⟩
  rw [hlists, hmerge, upsertFirst_eq_self, upsertFirst_eq_self, ProductApiState.getRunDetail]
  simp only [exists_eq_right']

/-- The record written of a known run is the one that is there. -/
theorem mirroredRun_eq_known_iff {input : MirrorRunInput} {run : WorkflowRunDetail}
    (h : state.getRunDetail input.runId = some run) :
    mirroredRun clock state input = .ok run ↔
      run.status = toRunStatus input.status ∧
        ∃ text, run.resultSummary = some text ∧ ∀ told ∈ input.resultSummary, told = text := by
  have hid : run.id = input.runId := by simpa using List.find?_some h
  unfold mirroredRun
  rw [h]
  constructor
  · intro hsame
    have hsame := Except.ok.inj hsame
    refine ⟨(congrArg (·.status) hsame).symm, _, (congrArg (·.resultSummary) hsame).symm, ?_⟩
    intro told htold
    rw [Option.mem_def.1 htold]
    rfl
  · rintro ⟨hstatus, text, htext, htold⟩
    have hsummary (fallback : String) :
        (input.resultSummary.or run.resultSummary).getD fallback = text := by
      rw [htext]
      cases hinput : input.resultSummary with
      | none => rfl
      | some told => exact htold told hinput
    change Except.ok (WorkflowRunDetail.mk ⟨input.runId, run.workflowId, run.title,
      toRunStatus input.status, run.startedAt⟩
      (some ((input.resultSummary.or run.resultSummary).getD _))) = Except.ok run
    rw [hsummary, ← htext, ← hstatus, ← hid]

/-- Writing a run changes nothing exactly when the run is known as it is reported. -/
theorem mirroredRun_known_iff {input : MirrorRunInput} {run : WorkflowRunDetail}
    (h : mirroredRun clock state input = .ok run) :
    state.upsertRun run = state ↔ RunKnown state input := by
  obtain ⟨hid, hsummary⟩ := mirroredRun_spec h
  rw [upsertRun_eq_self hsummary, hid]
  constructor
  · rintro ⟨hdetail, hrun⟩
    exact ⟨run, hdetail, hrun, (mirroredRun_eq_known_iff hdetail).1 h⟩
  · rintro ⟨run', hdetail, hrun, hknown⟩
    obtain rfl : run = run' :=
      Except.ok.inj (h.symm.trans ((mirroredRun_eq_known_iff hdetail).2 hknown))
    exact ⟨hdetail, hrun⟩

theorem upsertSession_eq_self {session : SessionDetail} (h : session.messageCount.isSome) :
    state.upsertSession session = state ↔
      state.getSessionDetail session.id = some session ∧
        state.sessions.find? (·.id = session.id) = some session.toSessionSummary := by
  obtain ⟨count, hcount⟩ := Option.isSome_iff_exists.1 h
  have hmerge : ProductApiState.mergeSession session = fun _ => session := by
    funext old
    rw [ProductApiState.mergeSession, hcount, Option.some_or, ← hcount]
  have hlists : state.upsertSession session = state ↔
      upsertFirst (·.id) (ProductApiState.mergeSession session) session state.sessionDetails =
          state.sessionDetails ∧
        upsertFirst (·.id) (fun _ => session.toSessionSummary) session.toSessionSummary
          state.sessions = state.sessions :=
    ⟨fun h => ⟨congrArg ProductApiState.sessionDetails h, congrArg ProductApiState.sessions h⟩,
      fun h => by rw [ProductApiState.upsertSession, h.1, h.2]⟩
  rw [hlists, hmerge, upsertFirst_eq_self, upsertFirst_eq_self, ProductApiState.getSessionDetail]
  simp only [exists_eq_right']

/-- The record written of a known session is the one that is there. -/
theorem mirroredSession_eq_known_iff {input : MirrorSessionInput} {session : SessionDetail}
    (h : state.getSessionDetail input.sessionId = some session) :
    mirroredSession clock state input = .ok session ↔
      (∀ status ∈ input.status, session.status = status) ∧
        isoFromValue clock 2 input.updatedAt = .ok session.updatedAt ∧
        session.messageCount.isSome ∧ input.incrementMessageCount = false := by
  have hid : session.id = input.sessionId := by simpa using List.find?_some h
  unfold mirroredSession
  rw [h]
  cases ht : isoFromValue clock 2 input.updatedAt with
  | error e => exact iff_of_false (fun hsame => by cases hsame) fun hknown => by cases hknown.2.1
  | ok updatedAt =>
    constructor
    · intro hsame
      have hsame := Except.ok.inj hsame
      have hcount : some ((session.messageCount).getD 0 +
          if input.incrementMessageCount then 1 else 0) = session.messageCount :=
        congrArg (·.messageCount) hsame
      refine ⟨fun status hstatus => ?_, congrArg Except.ok (congrArg (·.updatedAt) hsame), ?_, ?_⟩
      · refine (congrArg (·.status) hsame).symm.trans ?_
        rw [Option.mem_def.1 hstatus]
        rfl
      · rw [← hcount]
        rfl
      · by_contra hincrement
        rw [Bool.not_eq_false] at hincrement
        rw [if_pos hincrement] at hcount
        have hmore := congrArg (Option.getD · 0) hcount
        simp at hmore
    · rintro ⟨hstatus, hupdated, hcount, hcounts⟩
      obtain ⟨n, hn⟩ := Option.isSome_iff_exists.1 hcount
      have hkept : (input.status.or (some session.status)).getD .active = session.status := by
        cases hinput : input.status with
        | none => rfl
        | some status => exact (hstatus status hinput).symm
      change Except.ok (SessionDetail.mk ⟨input.sessionId, session.title, session.channelType,
        (input.status.or (some session.status)).getD .active, updatedAt⟩
        (some ((session.messageCount).getD 0 + if input.incrementMessageCount then 1 else 0))) =
          Except.ok session
      rw [hkept, hcounts, Except.ok.inj hupdated, ← hid, hn]
      exact congrArg (fun count => Except.ok (SessionDetail.mk session.toSessionSummary count))
        hn.symm

theorem mirroredSession_known_iff {input : MirrorSessionInput} {session : SessionDetail}
    (h : mirroredSession clock state input = .ok session) :
    state.upsertSession session = state ↔ SessionKnown clock state input := by
  have hcount : session.messageCount.isSome := by
    rw [(mirroredSession_fields h).2]
    rfl
  rw [upsertSession_eq_self hcount, mirroredSession_id h]
  constructor
  · rintro ⟨hdetail, hsession⟩
    exact ⟨session, hdetail, hsession, (mirroredSession_eq_known_iff hdetail).1 h⟩
  · rintro ⟨session', hdetail, hsession, hknown⟩
    obtain rfl : session = session' :=
      Except.ok.inj (h.symm.trans ((mirroredSession_eq_known_iff hdetail).2 hknown))
    exact ⟨hdetail, hsession⟩

end

namespace ProductApiMirrorEvent

variable (clock : Clock) (state : ProductApiState) (e : ProductApiMirrorEvent)

/-- The ways in which an event can be mirrored, each with its writes. -/
inductive Does : List (ProductApiState → ProductApiState) → Prop
  | run {input : MirrorRunInput} {run : WorkflowRunDetail} (hrun : e.run? = some input)
      (hok : mirroredRun clock state input = .ok run) (hsession : e.session? clock = none) :
      Does [(·.upsertRun run)]
  | auditedRun {input : MirrorRunInput} {run : WorkflowRunDetail} {entry : AuditEventSummary}
      (hrun : e.run? = some input) (hok : mirroredRun clock state input = .ok run)
      (hsession : e.session? clock = none) : Does [(·.upsertRun run), (·.prependAuditEvent entry)]
  | runAndSession {input : MirrorRunInput} {run : WorkflowRunDetail} {input' : MirrorSessionInput}
      {session : SessionDetail} (hrun : e.run? = some input)
      (hok : mirroredRun clock state input = .ok run) (hsession : e.session? clock = some input')
      (hok' : mirroredSession clock state input' = .ok session) :
      Does [(·.upsertRun run), (·.upsertSession session)]
  | session {input : MirrorSessionInput} {session : SessionDetail} (hrun : e.run? = none)
      (hsession : e.session? clock = some input)
      (hok : mirroredSession clock state input = .ok session) : Does [(·.upsertSession session)]
  | approval {workbench : WorkbenchSummary} {entry : AuditEventSummary} (hrun : e.run? = none)
      (hsession : e.session? clock = none) (hworkbench : e.workbench? state = some workbench) :
      Does [(·.setWorkbenchState workbench), (·.prependAuditEvent entry)]

/-- An event that writes anything does so in one of these ways. -/
theorem does_of_writes {clock : Clock} {state : ProductApiState} {e : ProductApiMirrorEvent}
    (h : mirrorWrites clock state e ≠ []) : e.Does clock state (mirrorWrites clock state e) := by
  have hgood : ¬ e.BadTime state := fun hbad => h (mirrorWrites_of_badTime hbad)
  obtain ⟨event, payload⟩ := e
  by_cases hobject : payload.isObject
  swap
  · refine absurd ?_ h
    simp [mirrorWrites, runWritten, sessionWritten, run?, session?, workbench?, audit?, hobject]
  have hrun : (mk event payload).run? = _ := if_pos hobject
  have hsession : (mk event payload).session? clock = _ := if_pos hobject
  have hworkbench : (mk event payload).workbench? state = _ := if_pos hobject
  have haudit (run : Option WorkflowRunDetail) : (mk event payload).audit? run = _ := if_pos hobject
  unfold mirrorWrites runWritten sessionWritten at h ⊢
  dsimp only at h ⊢
  rw [haudit, hworkbench] at h ⊢
  cases event with
  | runStatus | toolStatus =>
    rw [hsession] at h ⊢
    cases hinput : (mk _ payload).run? with
    | none =>
      rw [hinput] at h
      exact absurd rfl h
    | some input =>
      obtain ⟨run, hok⟩ := mirroredRun_of_good hgood hinput
      rw [Option.bind_some, hok]
      exact .auditedRun hinput hok hsession
  | chat =>
    cases hinput : (mk .chat payload).run? with
    | none =>
      cases hinput' : (mk .chat payload).session? clock with
      | none =>
        rw [hinput, hinput'] at h
        exact absurd rfl h
      | some input' =>
        obtain ⟨session, hok'⟩ := mirroredSession_of_good hgood hinput'
        rw [Option.bind_some, hok']
        exact .session hinput hinput' hok'
    | some input =>
      obtain ⟨run, hok⟩ := mirroredRun_of_good hgood hinput
      rw [Option.bind_some, hok]
      cases hinput' : (mk .chat payload).session? clock with
      | none => exact .run hinput hok hinput'
      | some input' =>
        obtain ⟨session, hok'⟩ := mirroredSession_of_good hgood hinput'
        rw [Option.bind_some, hok']
        exact .runAndSession hinput hok hinput' hok'
  | sessionMessage | sessionsChanged =>
    rw [hrun] at h ⊢
    cases hinput : (mk _ payload).session? clock with
    | none =>
      rw [hinput] at h
      exact absurd rfl h
    | some input =>
      obtain ⟨session, hok⟩ := mirroredSession_of_good hgood hinput
      rw [Option.bind_some, hok]
      exact .session hrun hinput hok
  | approvalRequested | approvalResolved =>
    rw [hrun, hsession]
    exact .approval hrun hsession hworkbench

/-- The writes of the event up to the one that finds no room write what is there already: the run
and the session are known as it reports them, or it resolves an approval when none is pending. -/
def RewritesOnly (clock : Clock) (r : Repository StateFile) (k : ℕ) : Prop :=
  match e.run?, k with
  | some input, 0 => RunKnown r.state input
  | some input, _ + 1 => RunKnown r.state input ∧ r.Saved ∧
      ∃ input' ∈ e.session? clock, SessionKnown clock r.state input'
  | none, 0 => (∃ input ∈ e.session? clock, SessionKnown clock r.state input) ∨
      e.event = .approvalResolved ∧ r.state.workbench.pendingApprovals = 0
  | none, _ + 1 => False

theorem setWorkbench_eq_self_iff {e : ProductApiMirrorEvent} {state : ProductApiState}
    {workbench : WorkbenchSummary} (h : e.workbench? state = some workbench) :
    state.setWorkbenchState workbench = state ↔
      e.event = .approvalResolved ∧ state.workbench.pendingApprovals = 0 := by
  have hsame : state.setWorkbenchState workbench = state ↔ workbench = state.workbench :=
    ⟨congrArg ProductApiState.workbench, fun h => by rw [ProductApiState.setWorkbenchState, h]⟩
  rw [hsame]
  unfold workbench? at h
  split_ifs at h
  cases hevent : e.event <;> rw [hevent] at h <;> cases h
  · refine iff_of_false (fun heq => ?_) (by simp)
    have hpending := congrArg WorkbenchSummary.pendingApprovals heq
    exact absurd hpending (Nat.succ_ne_self _)
  · refine ⟨fun heq => ⟨rfl, ?_⟩, fun ⟨_, hnone⟩ => ?_⟩
    · have hpending : state.workbench.pendingApprovals - 1 = state.workbench.pendingApprovals :=
        congrArg WorkbenchSummary.pendingApprovals heq
      omega
    · rw [hnone, Nat.zero_sub, ← hnone]

/-- A run and a session are written to different lists. -/
theorem upsertRun_upsertSession_eq_self_iff {state : ProductApiState} {run : WorkflowRunDetail}
    {session : SessionDetail} :
    (state.upsertRun run).upsertSession session = state ↔
      state.upsertRun run = state ∧ state.upsertSession session = state := by
  refine ⟨fun h => ?_, fun ⟨hrun, hsession⟩ => by rw [hrun, hsession]⟩
  have hdetails : (state.upsertRun run).runDetails = state.runDetails :=
    (congrArg ProductApiState.runDetails h :)
  have hruns : (state.upsertRun run).runs = state.runs := (congrArg ProductApiState.runs h :)
  have hrun : state.upsertRun run = state := by
    change { state with
      runDetails := (state.upsertRun run).runDetails, runs := (state.upsertRun run).runs } = state
    rw [hdetails, hruns]
  rw [hrun] at h
  exact ⟨hrun, h⟩

theorem rewritesOnly_iff {clock : Clock} {e : ProductApiMirrorEvent} {r : Repository StateFile}
    {fs : List (ProductApiState → ProductApiState)} (h : e.Does clock r.state fs) {k : ℕ}
    (hk : k < fs.length) :
    (applyAll (fs.take (k + 1)) r.state = r.state ∧ fileAfter r.disk r.state (fs.take k) = r.disk) ↔
      e.RewritesOnly clock r k := by
  unfold RewritesOnly
  cases h with
  | run hrun hok hsession =>
    obtain rfl : k = 0 := Nat.lt_one_iff.1 hk
    rw [hrun]
    exact (and_iff_left rfl).trans (mirroredRun_known_iff hok)
  | auditedRun hrun hok hsession =>
    rw [hrun, hsession]
    rcases k with _ | k
    · exact (and_iff_left rfl).trans (mirroredRun_known_iff hok)
    · obtain rfl : k = 0 := Nat.lt_one_iff.1 (Nat.lt_of_succ_lt_succ hk)
      refine iff_of_false (fun heq => ?_) (by simp)
      exact ne_of_length ProductApiState.auditEvents rfl heq.1
  | @runAndSession _ run input' session hrun hok hsession hok' =>
    rw [hrun, hsession]
    rcases k with _ | k
    · exact (and_iff_left rfl).trans (mirroredRun_known_iff hok)
    · obtain rfl : k = 0 := Nat.lt_one_iff.1 (Nat.lt_of_succ_lt_succ hk)
      have hfile : r.state.upsertRun run = r.state →
          (fileAfter r.disk r.state [(·.upsertRun run)] = r.disk ↔ r.Saved) := by
        intro hsame
        change StateFile.mk (some (r.state.upsertRun run).wire) = r.disk ↔ _
        rw [hsame]
        exact eq_comm
      simp only [Option.mem_some_iff, exists_eq_left']
      rw [← mirroredRun_known_iff hok, ← mirroredSession_known_iff hok']
      refine (and_congr_left' upsertRun_upsertSession_eq_self_iff).trans ?_
      constructor
      · rintro ⟨⟨hsame, hsession⟩, hsaved⟩
        exact ⟨hsame, (hfile hsame).1 hsaved, hsession⟩
      · rintro ⟨hsame, hsaved, hsession⟩
        exact ⟨⟨hsame, hsession⟩, (hfile hsame).2 hsaved⟩
  | @session input session hrun hsession hok =>
    obtain rfl : k = 0 := Nat.lt_one_iff.1 hk
    have hevent : e.event ≠ .approvalResolved := by
      intro hevent
      unfold session? at hsession
      rw [hevent] at hsession
      split_ifs at hsession
    rw [hrun, hsession]
    simp only [Option.mem_some_iff, exists_eq_left', hevent, false_and, or_false]
    exact (and_iff_left rfl).trans (mirroredSession_known_iff hok)
  | approval hrun hsession hworkbench =>
    rw [hrun, hsession]
    rcases k with _ | k
    · simp only [Option.mem_def, reduceCtorEq, false_and, exists_false, false_or]
      exact (and_iff_left rfl).trans (setWorkbench_eq_self_iff hworkbench)
    · obtain rfl : k = 0 := Nat.lt_one_iff.1 (Nat.lt_of_succ_lt_succ hk)
      exact iff_of_false (fun heq => ne_of_length ProductApiState.auditEvents rfl heq.1) id

end ProductApiMirrorEvent

/-! ## Operations that leave no trace -/

namespace Operation

/-- The writes of the operation up to the one that finds no room write what is there already. -/
def RewritesOnly (s : Store StateFile) (k : ℕ) : Operation → Prop
  | call clock op => k = 0 ∧ op.RewritesOnly clock s.repository.state
  | mirror clock event => event.RewritesOnly clock s.repository k

theorem writes_call (clock : Clock) (op : StoreOp) (s : Store StateFile) :
    (call clock op).writes s = match op.effect clock s with
      | some e => e.writes ++ [s.auditWrite clock e.action]
      | none => [] := rfl

/-- An operation whose write fails leaves no trace exactly when the writes up to that one write what
is there already. -/
theorem leavesNoTrace_iff (s : Store StateFile) (o : Operation) (k : ℕ)
    (hk : k < (o.writes s).length) : o.LeavesNoTrace s k ↔ o.RewritesOnly s k := by
  rw [leavesNoTrace_iff_applyAll hk]
  cases o with
  | mirror clock event =>
    refine ProductApiMirrorEvent.rewritesOnly_iff (ProductApiMirrorEvent.does_of_writes ?_) hk
    intro hnil
    have hlen : k < (mirrorWrites clock s.repository.state event).length := hk
    rw [hnil] at hlen
    cases hlen
  | call clock op =>
    rw [writes_call] at hk ⊢
    cases heffect : op.effect clock s with
    | none =>
      rw [heffect] at hk
      cases hk
    | some e =>
      rw [heffect] at hk
      have hdoes := does_of_effect heffect
      unfold RewritesOnly
      rcases k with _ | k
      · have hfirst : (e.writes ++ [s.auditWrite clock e.action]).take 1 = e.writes.take 1 := by
          cases hdoes <;> rfl
        refine (and_iff_left rfl).trans (Iff.trans ?_ (and_iff_right rfl).symm)
        change applyAll ((e.writes ++ [s.auditWrite clock e.action]).take 1) _ = _ ↔ _
        rw [hfirst]
        exact firstWrite_eq_self_iff hdoes
      · refine iff_of_false (fun heq => ?_) (by simp)
        exact laterWrite_ne hdoes (Nat.succ_ne_zero k) hk heq.1

theorem emptySettings_leave_no_trace :
    0 < ((call (fun _ => 0) (.updateSettings (.obj []))).writes initialServer).length ∧
      (call (fun _ => 0) (.updateSettings (.obj []))).LeavesNoTrace initialServer 0 := by
  have hwrites :
      0 < ((call (fun _ => 0) (.updateSettings (.obj []))).writes initialServer).length :=
    Nat.zero_lt_two
  exact ⟨hwrites, (leavesNoTrace_iff _ _ 0 hwrites).2 ⟨rfl, rfl⟩⟩

/-- The call that creates a workflow of this name. -/
def createNamed : Operation := .call (fun _ => 0) (.createWorkflow (.obj [("name", .str "weekly")]))

/-- A workflow whose creation failed is listed, and there are two of them after a second try. -/
theorem failed_creation_kept :
    0 < (createNamed.writes initialServer).length ∧ ¬ createNamed.LeavesNoTrace initialServer 0 ∧
      let failed := createNamed.perform.stateAfter (onFaultyFile initialServer 0)
      let retried := createNamed.perform.stateAfter
        (onFaultyFile (failed.withDisk failed.repository.disk.file) 2)
      (failed.repository.state.workflows.filter (·.name = "weekly")).length = 1 ∧
        (retried.repository.state.workflows.filter (·.name = "weekly")).length = 2 := by
  have hwrites : 0 < (createNamed.writes initialServer).length := Nat.zero_lt_two
  refine ⟨hwrites, fun h => ?_, ?_⟩
  · have hsame := ((leavesNoTrace_iff_applyAll hwrites).1 h).1
    exact ne_of_length ProductApiState.workflows rfl hsame
  · decide +kernel

end Operation

end Vertx
