import Vertx.Js.Program
import Vertx.Domain.Effects

/-!
# What the operations write on any disk

An operation of the store and the mirroring of an event are sequences of mutations, each written to
the disk before the next.  A write that throws ends the operation where it stands.  `Performs` says
so of a program, from the state it is run in; the rules follow the ways in which the programs are
put together, and assume nothing of the disk.
-/

namespace Vertx

open Repository

section

variable {δ σ α β : Type} [Persist δ]

/-- Mutations in order, each with the write that follows it. -/
def Repository.writeAll : List (ProductApiState → ProductApiState) → RepoM δ Unit
  | [] => pure ()
  | f :: fs => do
    mutate f
    writeAll fs

/-- Run from this state, the program does to its repository what the mutations do: it ends there
when they are all written, and throws where a write throws. -/
def Performs (view : σ → Repository δ) (x : JsM σ α)
    (fs : List (ProductApiState → ProductApiState)) (s : σ) : Prop :=
  match (writeAll fs).run (view s) with
  | .ok _ r => view (x.stateAfter s) = r
  | .error e r => ∃ s', x.run s = .error e s' ∧ view s' = r

section Rules

variable {view : σ → Repository δ} {s : σ} {fs : List (ProductApiState → ProductApiState)}

/-- A program that leaves the repository alone. -/
theorem performs_nil {x : JsM σ α} (h : view (x.stateAfter s) = view s) : Performs view x [] s := h

theorem Performs.congr {x y : JsM σ α} (h : x.run s = y.run s) (hy : Performs view y fs s) :
    Performs view x fs s := by
  unfold Performs JsM.stateAfter at *
  rwa [h]

/-- A first program that returns and leaves the repository alone. -/
theorem Performs.after {x : JsM σ α} {k : α → JsM σ β} {a : α} {s' : σ} (hx : x.run s = .ok a s')
    (hview : view s' = view s) (h : Performs view (k a) fs s') : Performs view (x >>= k) fs s := by
  unfold Performs JsM.stateAfter at *
  rw [EStateM.run_bind, hx]
  rw [hview] at h
  exact h

/-- What is made of the result changes nothing. -/
theorem Performs.map {x : JsM σ α} (h : Performs view x fs s) (g : α → β) :
    Performs view (x >>= fun a => (pure (g a) : JsM σ β)) fs s := by
  unfold Performs at *
  cases hw : (writeAll fs).run (view s) with
  | ok a r =>
    rw [hw] at h
    refine Eq.trans (congrArg view ?_) h
    rw [JsM.stateAfter_bind]
    unfold JsM.stateAfter
    cases x.run s <;> rfl
  | error e r =>
    rw [hw] at h
    obtain ⟨s', hrun, hview⟩ := h
    refine ⟨s', ?_, hview⟩
    rw [EStateM.run_bind, hrun]

end Rules

/-- A mutation, with what the disk does at the write that follows it. -/
theorem Repository.run_mutate_persist (f : ProductApiState → ProductApiState) (r : Repository δ) :
    (mutate f).run r = match (Persist.persist (f r.state) r.disk).1 with
      | .ok _ => .ok () (r.update f)
      | .error e => .error e (r.update f) := rfl

omit [Persist δ] in
theorem Store.run_onRepository (x : RepoM δ α) (s : Store δ) :
    (onRepository x).run s = match x.run s.repository with
      | .ok a r => .ok a { s with repository := r }
      | .error e r => .error e { s with repository := r } := rfl

theorem Store.run_onRepository_mutate_persist (f : ProductApiState → ProductApiState)
    (s : Store δ) : (onRepository (mutate f)).run s =
      match (Persist.persist (f s.repository.state) s.repository.disk).1 with
      | .ok _ => .ok () (s.update f)
      | .error e => .error e (s.update f) := by
  rw [run_onRepository, run_mutate_persist]
  cases (Persist.persist (f s.repository.state) s.repository.disk).1 <;> rfl

/-- A mutation is written before what follows it. -/
theorem Performs.mutate {f : ProductApiState → ProductApiState} {k : Unit → RepoM δ β}
    {fs : List (ProductApiState → ProductApiState)} {r : Repository δ}
    (h : Performs id (k ()) fs (r.update f)) :
    Performs id (Repository.mutate f >>= k) (f :: fs) r := by
  unfold Performs JsM.stateAfter at *
  rw [writeAll, EStateM.run_bind, EStateM.run_bind, id_eq, run_mutate_persist]
  cases (Persist.persist (f r.state) r.disk).1 with
  | ok u => exact h
  | error e => exact ⟨_, rfl, rfl⟩

/-- A mutation of the store's repository is written before what follows it. -/
theorem Performs.onRepository {f : ProductApiState → ProductApiState} {k : Unit → StoreM δ β}
    {fs : List (ProductApiState → ProductApiState)} {s : Store δ}
    (h : Performs Store.repository (k ()) fs (s.update f)) :
    Performs Store.repository (Store.onRepository (Repository.mutate f) >>= k) (f :: fs) s := by
  unfold Performs JsM.stateAfter at *
  rw [writeAll, EStateM.run_bind, EStateM.run_bind, run_mutate_persist,
    Store.run_onRepository_mutate_persist]
  cases (Persist.persist (f s.repository.state) s.repository.disk).1 with
  | ok u => exact h
  | error e => exact ⟨_, rfl, rfl⟩

/-- On a disk whose writes do not throw, the mutations are all written. -/
theorem run_writeAll [ReliablePersist δ] (fs : List (ProductApiState → ProductApiState))
    (r : Repository δ) : (writeAll fs).run r = .ok () (r.updates fs) := by
  induction fs generalizing r with
  | nil => rfl
  | cons f fs ih =>
    rw [writeAll, EStateM.run_bind, run_mutate]
    exact ih (r.update f)

theorem Performs.view_stateAfter [ReliablePersist δ] {view : σ → Repository δ} {x : JsM σ α}
    {fs : List (ProductApiState → ProductApiState)} {s : σ} (h : Performs view x fs s) :
    view (x.stateAfter s) = (view s).updates fs := by
  unfold Performs at h
  rwa [run_writeAll] at h

end

/-! ## The operations of the store -/

section

variable {δ α β : Type} [Persist δ]

/-- The audit entry of an operation. -/
def Store.auditWrite (clock : Clock) (s : Store δ) (action : String) :
    ProductApiState → ProductApiState :=
  (·.prependAuditEvent (buildAuditEvent clock 2 s.auditCounter action .info))

/-- The writes of an operation, the audit entry at the end. -/
def StoreOp.writes (clock : Clock) (s : Store δ) (op : StoreOp) :
    List (ProductApiState → ProductApiState) :=
  match op.effect clock s with
  | some e => e.writes ++ [s.auditWrite clock e.action]
  | none => []

/-- A counter is taken before what follows. -/
theorem Performs.counter {g : Store δ → ℕ × Store δ} {k : ℕ → StoreM δ α} {s : Store δ}
    {fs : List (ProductApiState → ProductApiState)} (hg : (g s).2.repository = s.repository)
    (h : Performs Store.repository (k (g s).1) fs (g s).2) :
    Performs Store.repository (modifyGet g >>= k) fs s :=
  .after rfl hg h

/-- What is read decides what follows. -/
theorem Performs.read {g : ProductApiState → β} {k : β → StoreM δ α} {s : Store δ}
    {fs : List (ProductApiState → ProductApiState)}
    (h : Performs Store.repository (k (g s.repository.state)) fs s) :
    Performs Store.repository (Store.onRepository (Repository.read g) >>= k) fs s :=
  .after rfl rfl h

theorem performs_appendAuditEvent (clock : Clock) (action : String) (s : Store δ) :
    Performs Store.repository (Store.appendAuditEvent clock action .info)
      [s.auditWrite clock action] s := by
  refine Performs.counter rfl ?_
  rw [← bind_pure (Store.onRepository _)]
  exact Performs.onRepository (performs_nil rfl)

theorem performs_createRun (clock : Clock) (workflow : WorkflowDetail) (action : String)
    (s : Store δ) :
    Performs Store.repository (Store.createRunFromWorkflow clock workflow action)
      ((runEffect clock s workflow action).writes ++ [s.auditWrite clock action]) s := by
  refine Performs.counter rfl ?_
  refine Performs.onRepository (Performs.onRepository ?_)
  exact (performs_appendAuditEvent clock action _).map fun _ => _

/-- An operation performs its writes. -/
theorem performs_writes (clock : Clock) (op : StoreOp) (s : Store δ) :
    Performs Store.repository (op.perform clock) (op.writes clock s) s := by
  unfold StoreOp.writes
  cases op with
  | createWorkflow input =>
    refine Performs.map (Performs.counter rfl ?_) fun _ => ()
    dsimp only [StoreOp.effect]
    cases newWorkflow clock ("wf-" ++ s.workflowCounter.repr) input with
    | error e => exact performs_nil rfl
    | ok workflow =>
      exact .onRepository ((performs_appendAuditEvent clock _ _).map fun _ => workflow)
  | startWorkflowRun workflowId =>
    refine Performs.map (Performs.read ?_) fun _ => ()
    dsimp only [StoreOp.effect]
    cases s.repository.state.getWorkflowDetail workflowId with
    | none => exact performs_nil rfl
    | some workflow => exact (performs_createRun clock workflow _ s).map some
  | retryRun runId =>
    refine Performs.map (Performs.read ?_) fun _ => ()
    dsimp only [StoreOp.effect]
    cases s.repository.state.getRunDetail runId with
    | none => exact performs_nil rfl
    | some run =>
      refine Performs.read ?_
      rw [Option.bind_some]
      cases s.repository.state.getWorkflowDetail run.workflowId with
      | none => exact performs_nil rfl
      | some workflow => exact (performs_createRun clock workflow _ s).map some
  | connectFeishu =>
    refine Performs.map (Performs.read ?_) fun _ => ()
    exact .onRepository ((performs_appendAuditEvent clock _ _).map fun _ => _)
  | updateSettings input =>
    refine Performs.map (Performs.read ?_) fun _ => ()
    exact .onRepository ((performs_appendAuditEvent clock _ _).map fun _ => _)
  | createKnowledgeSource input =>
    refine Performs.map (Performs.counter rfl ?_) fun _ => ()
    dsimp only [StoreOp.effect]
    cases newKnowledgeSource clock ("knowledge-" ++ s.knowledgeCounter.repr) input with
    | error e => exact performs_nil rfl
    | ok source => exact .onRepository ((performs_appendAuditEvent clock _ _).map fun _ => source)
  | createAutomation input =>
    refine Performs.map (Performs.counter rfl ?_) fun _ => ()
    dsimp only [StoreOp.effect]
    cases newAutomation clock ("automation-" ++ s.automationCounter.repr) input with
    | error e => exact performs_nil rfl
    | ok automation =>
      exact .onRepository ((performs_appendAuditEvent clock _ _).map fun _ => automation)
  | toggleAutomation automationId =>
    refine Performs.map (Performs.read ?_) fun _ => ()
    dsimp only [StoreOp.effect]
    cases s.repository.state.getAutomation automationId with
    | none => exact performs_nil rfl
    | some automation =>
      exact .onRepository ((performs_appendAuditEvent clock _ _).map fun _ => _)
  | runAutomation automationId =>
    refine Performs.map (Performs.read ?_) fun _ => ()
    dsimp only [StoreOp.effect]
    cases s.repository.state.getAutomation automationId with
    | none => exact performs_nil rfl
    | some automation =>
      exact .onRepository ((performs_appendAuditEvent clock _ _).map fun _ => _)

end

/-! ## The mirror -/

section

variable {δ α : Type} [Persist δ] {clock : Clock} {r : Repository δ}
  {fs : List (ProductApiState → ProductApiState)}

theorem Performs.mirrorRun {input : MirrorRunInput} {run : WorkflowRunDetail}
    {k : WorkflowRunDetail → RepoM δ α} (h : mirroredRun clock r.state input = .ok run)
    (hk : Performs id (k run) fs (r.update (·.upsertRun run))) :
    Performs id (Vertx.mirrorRun clock input >>= k) ((·.upsertRun run) :: fs) r := by
  refine Performs.congr ?_ (Performs.mutate (k := fun _ => k run) hk)
  simp only [Vertx.mirrorRun, EStateM.run_bind, run_read, h, JsM.run_ofExcept_ok,
    run_mutate_persist]
  cases (Persist.persist (r.state.upsertRun run) r.disk).1 <;> rfl

theorem performs_mirrorRun_error {input : MirrorRunInput} {e : JsError}
    {k : WorkflowRunDetail → RepoM δ α} (h : mirroredRun clock r.state input = .error e) :
    Performs id (mirrorRun clock input >>= k) [] r := by
  refine performs_nil ?_
  unfold JsM.stateAfter
  simp only [mirrorRun, EStateM.run_bind, run_read, h, JsM.run_ofExcept_error]

theorem Performs.mirrorSession {input : MirrorSessionInput} {session : SessionDetail}
    {k : SessionDetail → RepoM δ α} (h : mirroredSession clock r.state input = .ok session)
    (hk : Performs id (k session) fs (r.update (·.upsertSession session))) :
    Performs id (Vertx.mirrorSession clock input >>= k) ((·.upsertSession session) :: fs) r := by
  refine Performs.congr ?_ (Performs.mutate (k := fun _ => k session) hk)
  simp only [Vertx.mirrorSession, EStateM.run_bind, run_read, h, JsM.run_ofExcept_ok,
    run_mutate_persist]
  cases (Persist.persist (r.state.upsertSession session) r.disk).1 <;> rfl

theorem performs_mirrorSession_error {input : MirrorSessionInput} {e : JsError}
    {k : SessionDetail → RepoM δ α} (h : mirroredSession clock r.state input = .error e) :
    Performs id (mirrorSession clock input >>= k) [] r := by
  refine performs_nil ?_
  unfold JsM.stateAfter
  simp only [mirrorSession, EStateM.run_bind, run_read, h, JsM.run_ofExcept_error]

theorem performs_mirrorAudit (clock : Clock) (action : String) (level : AuditLevel)
    (r : Repository δ) :
    Performs id (mirrorAudit clock action level)
      [(·.prependAuditEvent (mirrorEntry clock r.state action level))] r := by
  refine Performs.after rfl rfl ?_
  rw [← bind_pure (Repository.mutate _)]
  exact Performs.mutate (performs_nil rfl)

/-- Mirroring an event performs its writes. -/
theorem performs_mirrorWrites (clock : Clock) (e : ProductApiMirrorEvent) (r : Repository δ) :
    Performs id (mirrorRealtimeEventToProductApiRepository clock e)
      (mirrorWrites clock r.state e) r := by
  unfold mirrorRealtimeEventToProductApiRepository mirrorWrites ProductApiMirrorEvent.runWritten
    ProductApiMirrorEvent.sessionWritten ProductApiMirrorEvent.run? ProductApiMirrorEvent.session?
    ProductApiMirrorEvent.workbench? ProductApiMirrorEvent.audit?
  obtain ⟨event, payload⟩ := e
  by_cases hp : payload.isObject
  swap
  · simp only [hp]
    exact performs_nil rfl
  simp only [hp, if_true]
  cases event with
  | runStatus =>
    simp only [mirrorRunStatus]
    cases stringField payload ["runId", "id"] with
    | none => exact performs_nil rfl
    | some runId =>
      rw [Option.map_some, Option.bind_some]
      cases h : mirroredRun clock r.state (runStatusInput payload runId) with
      | ok run => exact .mirrorRun h (performs_mirrorAudit clock _ .info _)
      | error e => exact performs_mirrorRun_error h
  | toolStatus =>
    simp only [mirrorToolStatus]
    cases stringField payload ["runId"] with
    | none => exact performs_nil rfl
    | some runId =>
      rw [Option.map_some, Option.bind_some]
      cases h : mirroredRun clock r.state (toolStatusInput payload runId) with
      | ok run => exact .mirrorRun h (performs_mirrorAudit clock _ .info _)
      | error e => exact performs_mirrorRun_error h
  | chat =>
    simp only [mirrorChat]
    cases stringField payload ["runId"] with
    | none =>
      cases sessionIdFromPayload payload with
      | none => exact performs_nil rfl
      | some sessionId =>
        rw [Option.map_some, Option.bind_some]
        cases h : mirroredSession clock r.state (chatSessionInput clock payload sessionId) with
        | ok session => exact .mirrorSession h (performs_nil rfl)
        | error e => exact performs_mirrorSession_error h
    | some runId =>
      obtain ⟨run, hrun⟩ := mirroredRun_chat clock r.state payload runId
      rw [Option.map_some, Option.bind_some, hrun]
      cases sessionIdFromPayload payload with
      | none => exact .mirrorRun hrun (performs_nil rfl)
      | some sessionId =>
        refine Performs.mirrorRun hrun ?_
        -- the session is looked up after the run is written, which leaves the sessions alone
        have hs : mirroredSession clock (r.update (·.upsertRun run)).state
            (chatSessionInput clock payload sessionId) =
              mirroredSession clock r.state (chatSessionInput clock payload sessionId) := rfl
        rw [Option.map_some, Option.bind_some]
        cases h : mirroredSession clock r.state (chatSessionInput clock payload sessionId) with
        | ok session => exact .mirrorSession (hs.trans h) (performs_nil rfl)
        | error e => exact performs_mirrorSession_error (hs.trans h)
  | sessionMessage =>
    simp only [mirrorSessionMessage]
    cases sessionIdFromPayload payload with
    | none => exact performs_nil rfl
    | some sessionId =>
      rw [Option.map_some, Option.bind_some]
      cases h : mirroredSession clock r.state (sessionMessageInput payload sessionId) with
      | ok session => exact .mirrorSession h (performs_nil rfl)
      | error e => exact performs_mirrorSession_error h
  | sessionsChanged =>
    simp only [mirrorSessionsChanged]
    cases sessionIdFromPayload payload with
    | none => exact performs_nil rfl
    | some sessionId =>
      rw [Option.map_some, Option.bind_some]
      cases h : mirroredSession clock r.state (sessionsChangedInput payload sessionId) with
      | ok session => exact .mirrorSession h (performs_nil rfl)
      | error e => exact performs_mirrorSession_error h
  | approvalRequested =>
    exact .after rfl rfl (.mutate (performs_mirrorAudit clock _ .warning _))
  | approvalResolved => exact .after rfl rfl (.mutate (performs_mirrorAudit clock _ .info _))

/-- On a disk whose writes do not throw, the writes of an event are all made, also when it
throws. -/
theorem stateAfter_mirror [ReliablePersist δ] (clock : Clock) (e : ProductApiMirrorEvent)
    (r : Repository δ) : (mirrorRealtimeEventToProductApiRepository clock e).stateAfter r =
      r.updates (mirrorWrites clock r.state e) := (performs_mirrorWrites clock e r).view_stateAfter

end

/-! ## Operations of the server -/

/-- The store with another disk behind it. -/
def Store.withDisk {δ δ' : Type} (s : Store δ) (disk : δ') : Store δ' :=
  { s with repository := ⟨s.repository.state, disk⟩ }

/-- A call of the store, or the mirroring of an event. -/
inductive Operation
  | call (clock : Clock) (op : StoreOp)
  | mirror (clock : Clock) (event : ProductApiMirrorEvent)

namespace Operation

variable {δ : Type}

/-- Runs the operation on a store. -/
def perform [Persist δ] : Operation → StoreM δ Unit
  | call clock op => op.perform clock
  | mirror clock event =>
    Store.onRepository (mirrorRealtimeEventToProductApiRepository clock event)

/-- The writes of the operation, in order. -/
def writes (s : Store δ) : Operation → List (ProductApiState → ProductApiState)
  | call clock op => op.writes clock s
  | mirror clock event => mirrorWrites clock s.repository.state event

theorem writes_withDisk {δ' : Type} (o : Operation) (s : Store δ) (disk : δ') :
    o.writes (s.withDisk disk) = o.writes s := by
  cases o with
  | mirror clock event => rfl
  | call clock op => cases op <;> rfl

theorem performs [Persist δ] (o : Operation) (s : Store δ) :
    Performs Store.repository o.perform (o.writes s) s := by
  cases o with
  | call clock op => exact performs_writes clock op s
  | mirror clock event =>
    have h := performs_mirrorWrites clock event s.repository
    unfold Performs JsM.stateAfter at *
    rw [perform, Store.run_onRepository]
    cases hw : (writeAll (mirrorWrites clock s.repository.state event)).run s.repository with
    | ok u r =>
      rw [id_eq, hw] at h
      rw [writes, hw]
      refine Eq.trans ?_ h
      cases (mirrorRealtimeEventToProductApiRepository clock event).run s.repository <;> rfl
    | error e r =>
      rw [id_eq, hw] at h
      rw [writes, hw]
      obtain ⟨r', hrun, hr⟩ := h
      exact ⟨{ s with repository := r' }, by rw [hrun], hr⟩

end Operation

end Vertx
