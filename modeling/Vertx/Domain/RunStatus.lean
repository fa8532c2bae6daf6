import Vertx.Lib.Runs
import Vertx.Domain.Server

/-!
# The status of a mirrored run

Every mirrored event about a run overwrites the run's status with what the event reports, and a tool
event reports `running` unless the tool failed.  A run that has ended therefore keeps its status
only while every event about it reports the same outcome.
-/

namespace Vertx

open Repository Runs

/-- The run that an event is written to.  An event about an unknown run with a time that is no date
is dropped. -/
def ProductApiMirrorEvent.runId? (clock : Clock) (state : ProductApiState)
    (e : ProductApiMirrorEvent) : Option String :=
  e.run?.bind fun input =>
    if (state.getRunDetail input.runId).isSome ∨
      (isoFromValue clock 0 input.ts).toOption.isSome then
      some input.runId
    else none

/-- The status that an event reports of the run it is about. -/
def ProductApiMirrorEvent.status? (e : ProductApiMirrorEvent) : Option RunStatus :=
  e.run?.map fun input => toRunStatus input.status

theorem runWritten_id (clock : Clock) (state : ProductApiState) (e : ProductApiMirrorEvent) :
    (e.runWritten clock state).map (·.id) = e.runId? clock state := by
  unfold ProductApiMirrorEvent.runWritten ProductApiMirrorEvent.runId?
  cases e.run? with
  | none => rfl
  | some input =>
    simp only [Option.bind_some, mirroredRun]
    cases state.getRunDetail input.runId with
    | some run => rfl
    | none => cases isoFromValue clock 0 input.ts <;> rfl

theorem runWritten_status {clock : Clock} {state : ProductApiState} {e : ProductApiMirrorEvent}
    {run : WorkflowRunDetail} (h : e.runWritten clock state = some run) :
    e.status? = some run.status := by
  unfold ProductApiMirrorEvent.runWritten at h
  unfold ProductApiMirrorEvent.status?
  obtain ⟨input, hinput, hrun⟩ := Option.bind_eq_some_iff.1 h
  rw [hinput, Option.map_some]
  simp only [mirroredRun] at hrun
  cases hd : state.getRunDetail input.runId with
  | some old =>
    rw [hd] at hrun
    cases hrun
    rfl
  | none =>
    rw [hd] at hrun
    cases hi : isoFromValue clock 0 input.ts with
    | error e =>
      simp only [hi] at hrun
      cases hrun
    | ok startedAt =>
      simp only [hi] at hrun
      cases hrun
      rfl

/-- The status of a run. -/
def ProductApiState.runStatus (state : ProductApiState) (runId : String) : Option RunStatus :=
  (state.getRunDetail runId).map (·.status)

/-- A mirrored event overwrites the status of the run it is written to. -/
theorem runStatus_mirror (clock : Clock) (state : ProductApiState) (e : ProductApiMirrorEvent)
    (runId : String) :
    (mirrorNext clock state e).runStatus runId =
      if e.runId? clock state = some runId then e.status? else state.runStatus runId := by
  unfold ProductApiState.runStatus
  rw [getRunDetail_mirror, ← runWritten_id]
  cases h : e.runWritten clock state with
  | none => simp
  | some run =>
    rw [runWritten_status h]
    by_cases hid : runId = run.id
    · subst hid
      cases state.getRunDetail run.id <;> simp [ProductApiState.mergeRun]
    · simp [hid, Ne.symm hid]

/-! ## Watching one run -/

/-- A repository, and the outcome of the watched run when it has ended and not been restarted. -/
structure Watch (δ : Type) where
  repository : Repository δ
  ended : Option RunStatus

section

variable {δ : Type} [Persist δ]

/-- A `run.status` event that announces a run anew. -/
def ProductApiMirrorEvent.restarts (e : ProductApiMirrorEvent) : Bool :=
  e.event = .runStatus &&
    ["queued", "started", "running"].any fun word =>
      (e.payload.field "status").orElse (e.payload.field "phase") = .str word

/-- The outcome that a `run.status` or `chat` event puts a run into. -/
def ProductApiMirrorEvent.outcome? (e : ProductApiMirrorEvent) : Option RunStatus :=
  if e.event = .runStatus ∨ e.event = .chat then
    e.status?.filter fun status => status = .completed ∨ status = .failed
  else none

/-- Mirrors an event while watching run `runId`. -/
def watchStep (runId : String) (w : Watch δ) (step : Clock × ProductApiMirrorEvent) : Watch δ where
  repository := (mirrorRealtimeEventToProductApiRepository step.1 step.2).stateAfter w.repository
  ended :=
    if step.2.runId? step.1 w.repository.state = some runId then
      if step.2.restarts then none else step.2.outcome?.or w.ended
    else w.ended

/-- After the end, an event that is no restart leaves the status of the run as it is. -/
def StatusKept (runId : String) (w : Watch δ) (step : Clock × ProductApiMirrorEvent) : Prop :=
  w.ended.isSome → ¬ step.2.restarts →
    (watchStep runId w step).repository.state.runStatus runId =
      w.repository.state.runStatus runId

end

/-- The words by which upstream reports an outcome. -/
def RunStatus.words : RunStatus → List String
  | .completed => ["completed", "final"]
  | .failed => ["failed", "error", "aborted"]
  | _ => []

/-- An event reports outcome `status` in its own words. -/
def ProductApiMirrorEvent.Confirms (e : ProductApiMirrorEvent) (status : RunStatus) : Prop :=
  match e.event with
  | .runStatus => ∃ word ∈ status.words,
    (e.payload.field "status").orElse (e.payload.field "phase") = .str word
  | .chat => ∃ word ∈ status.words, e.payload.field "state" = .str word
  | .toolStatus => status = .failed ∧ e.payload.field "phase" = .str "failed"
  | _ => False

/-- After the end, an event about the run that is no restart reports the same outcome. -/
def OutcomeConfirmed {δ : Type} (runId : String) (w : Watch δ)
    (step : Clock × ProductApiMirrorEvent) : Prop :=
  ∀ status ∈ w.ended, step.2.runId? step.1 w.repository.state = some runId →
    ¬ step.2.restarts → step.2.Confirms status

/-! ## The exact condition -/

theorem stringField_eq_some {record : JsValue} {key : String} (word : String) :
    stringField record [key] = some word ↔ record.field key = .str word ∧ nonBlank word := by
  simp only [stringField, List.findSome?_cons, List.findSome?_nil]
  cases record.field key with
  | str s =>
    by_cases hs : nonBlank s
    · simp only [hs, if_true, Option.some.injEq, JsValue.str.injEq]
      exact ⟨fun h => ⟨h, h ▸ hs⟩, And.left⟩
    · simp only [hs, Bool.false_eq_true, if_false, reduceCtorEq, JsValue.str.injEq, false_iff,
        not_and]
      exact fun h => h ▸ hs
  | _ => simp

theorem nonBlank_of_mem_words {status : RunStatus} {word : String} (h : word ∈ status.words) :
    nonBlank word := by
  cases status <;> simp only [RunStatus.words, List.mem_cons, List.not_mem_nil, or_false] at h
  · rcases h with rfl | rfl <;> decide
  · rcases h with rfl | rfl | rfl <;> decide

/-- An outcome is reported by its own words only. -/
theorem toRunStatus_eq_iff {status : RunStatus} (ht : status = .completed ∨ status = .failed)
    (value : JsValue) : toRunStatus value = status ↔ ∃ word ∈ status.words, value = .str word := by
  unfold toRunStatus
  rcases ht with rfl | rfl <;> simp only [RunStatus.words, List.mem_cons, List.not_mem_nil] <;>
    split_ifs <;> grind

/-- An event reports an outcome exactly when it does so in its own words. -/
theorem status_eq_iff_confirms {e : ProductApiMirrorEvent} {status reported : RunStatus}
    (h : e.status? = some reported) (ht : status = .completed ∨ status = .failed) :
    reported = status ↔ e.Confirms status := by
  obtain ⟨input, hinput, rfl⟩ := Option.map_eq_some_iff.1 h
  obtain ⟨event, payload⟩ := e
  unfold ProductApiMirrorEvent.run? at hinput
  split_ifs at hinput with hp
  cases event <;> simp only [Option.map_eq_some_iff, reduceCtorEq] at hinput <;>
    obtain ⟨runId, -, rfl⟩ := hinput
  case runStatus => exact toRunStatus_eq_iff ht _
  case chat =>
    rw [toRunStatus_eq_iff ht]
    refine exists_congr fun word => and_congr_right fun hw => ?_
    rw [← (stringField_eq_some word).trans (and_iff_left (nonBlank_of_mem_words hw))]
    simp only [chatRunInput]
    cases stringField payload ["state"] <;> simp [JsValue.ofString?]
  case toolStatus =>
    simp only [ProductApiMirrorEvent.Confirms, toolStatusInput,
      ← (stringField_eq_some "failed").trans (and_iff_left (by decide))]
    by_cases hphase : stringField payload ["phase"] = some "failed"
    · rcases ht with rfl | rfl <;> simp [hphase, toRunStatus]
    · rcases ht with rfl | rfl <;> simp [hphase, toRunStatus]

theorem status?_of_runId? {clock : Clock} {state : ProductApiState} {e : ProductApiMirrorEvent}
    {runId : String} (h : e.runId? clock state = some runId) :
    ∃ reported, e.status? = some reported := by
  obtain ⟨input, hinput, -⟩ := Option.bind_eq_some_iff.1 h
  exact ⟨_, congrArg (Option.map _) hinput⟩

section

variable {δ : Type} [Persist δ] [ReliablePersist δ]

theorem watchStep_state (runId : String) (w : Watch δ) (step : Clock × ProductApiMirrorEvent) :
    (watchStep runId w step).repository.state =
      mirrorNext step.1 w.repository.state step.2 := by
  simp only [watchStep, stateAfter_mirror, updates_state, mirrorNext]

/-- The watched run has the outcome that the watch remembers. -/
def WatchInv (runId : String) (w : Watch δ) : Prop :=
  ∀ status ∈ w.ended,
    (status = .completed ∨ status = .failed) ∧ w.repository.state.runStatus runId = some status

theorem statusKept_iff {runId : String} {w : Watch δ} {step : Clock × ProductApiMirrorEvent}
    (h : WatchInv runId w) : StatusKept runId w step ↔ OutcomeConfirmed runId w step := by
  unfold StatusKept OutcomeConfirmed
  cases hended : w.ended with
  | none => simp
  | some status =>
    obtain ⟨ht, hstatus⟩ := h status hended
    simp only [Option.isSome_some, true_implies, Option.mem_some_iff, forall_eq']
    rw [watchStep_state, runStatus_mirror, hstatus]
    by_cases hid : step.2.runId? step.1 w.repository.state = some runId
    · obtain ⟨reported, hreported⟩ := status?_of_runId? hid
      simp only [hid, if_true, true_implies, hreported, Option.some.injEq,
        status_eq_iff_confirms hreported ht]
    · simp only [hid, if_false, false_implies, implies_true]

theorem watchInv_step {runId : String} {w : Watch δ} {step : Clock × ProductApiMirrorEvent}
    (h : WatchInv runId w) (hok : OutcomeConfirmed runId w step) :
    WatchInv runId (watchStep runId w step) := by
  intro status hstatus
  rw [watchStep_state, runStatus_mirror]
  by_cases hid : step.2.runId? step.1 w.repository.state = some runId
  · obtain ⟨reported, hreported⟩ := status?_of_runId? hid
    simp only [watchStep, hid, if_true] at hstatus ⊢
    split_ifs at hstatus with hrestart
    · cases hstatus
    · rcases Option.or_eq_some_iff.1 hstatus with hout | ⟨-, hended⟩
      · unfold ProductApiMirrorEvent.outcome? at hout
        split_ifs at hout
        obtain ⟨hstatus, ht⟩ := Option.filter_eq_some_iff.1 hout
        exact ⟨by simpa using ht, hstatus⟩
      · refine ⟨(h status hended).1, ?_⟩
        rw [hreported, (status_eq_iff_confirms hreported (h status hended).1).2
          (hok status hended hid hrestart)]
  · simp only [watchStep, hid, if_false] at hstatus ⊢
    exact h status hstatus

/-- From any repository, an ended run keeps its status in exactly the runs in which every later
event about it, up to a restart, reports the same outcome. -/
theorem run_status_absorbing_iff (r : Repository δ) (runId : String)
    (steps : List (Clock × ProductApiMirrorEvent)) :
    Each (watchStep runId) (StatusKept runId) ⟨r, none⟩ steps ↔
      Each (watchStep runId) (OutcomeConfirmed runId) ⟨r, none⟩ steps :=
  each_iff_each (fun _ _ => statusKept_iff) (fun _ _ => watchInv_step)
    (fun _ h => absurd h (by simp)) steps

end

/-- A `run.status` event about run `main`. -/
def statusEvent (status : String) : ProductApiMirrorEvent :=
  ⟨.runStatus, .obj [("runId", .str "main"), ("status", .str status)]⟩

/-- A `chat` event about run `main`. -/
def chatEvent (state : String) : ProductApiMirrorEvent :=
  ⟨.chat, .obj [("runId", .str "main"), ("state", .str state)]⟩

/-- A `tool.status` event about run `main`. -/
def toolEvent (phase : String) : ProductApiMirrorEvent :=
  ⟨.toolStatus, .obj [("runId", .str "main"), ("phase", .str phase)]⟩

/-- The mock repository, watched from the start. -/
def mockWatch : Watch Unit := ⟨createInMemoryProductApiRepository createMockProductApiState, none⟩

/-- A run that is reported complete twice stays completed. -/
theorem run_status_absorbing_completed :
    Each (watchStep "main") (StatusKept "main") mockWatch
      [(fun _ => 0, statusEvent "completed"), (fun _ => 0, chatEvent "final")] := by
  refine (run_status_absorbing_iff _ "main" _).2 ⟨fun _ h => (by cases h), ?_, trivial⟩
  intro status hstatus _ _
  have hended : (watchStep "main" mockWatch (fun _ => 0, statusEvent "completed")).ended =
    some .completed := by decide
  obtain rfl : RunStatus.completed = status := Option.some.inj (hended.symm.trans hstatus)
  exact ⟨"final", by decide, rfl⟩

/-- A tool result after the end revives the run, and the end of the lifecycle completes an aborted
one. -/
theorem run_status_overwritten :
    ¬ Each (watchStep "main") (StatusKept "main") mockWatch
      [(fun _ => 0, statusEvent "completed"), (fun _ => 0, toolEvent "completed")] ∧
    ¬ Each (watchStep "main") (StatusKept "main") mockWatch
      [(fun _ => 0, chatEvent "aborted"), (fun _ => 0, statusEvent "completed")] := by
  refine ⟨fun h => ?_, fun h => ?_⟩
  · exact absurd (h.2.1 (by decide) (by decide)) (by decide)
  · exact absurd (h.2.1 (by decide) (by decide)) (by decide)

end Vertx
