import Vertx.Js.Value
import Vertx.Lib.Runs

/-!
# The lifecycle of a session's runs

A lifecycle event changes six fields of a session's row.  The events of a session are persisted one
after the other; `lifecycle_run` says what the row holds after every such run.
-/

namespace Vertx

open Runs

/-- The fields of a session's row that lifecycle events change.  A missing field is `undefined`. -/
structure LifecycleSession where
  updatedAt : JsValue
  status : JsValue
  startedAt : JsValue
  endedAt : JsValue
  runtimeMs : JsValue
  abortedLastRun : JsValue
  deriving DecidableEq

/-- What the derivation reads of an event. -/
structure LifecycleEvent where
  ts : JsValue
  data : JsValue
  deriving DecidableEq

inductive LifecyclePhase
  | start
  | «end»
  | error
  deriving DecidableEq, Repr

/-- A number that is a finite positive time. -/
def finiteTimestamp? : JsValue → Option ℚ
  | .num (.finite q) => if 0 < q then some q else none
  | _ => none

def timestampValue (t : Option ℚ) : JsValue := (t.map fun q => .num (.finite q)).getD .undefined

namespace LifecycleEvent

def phase? (event : LifecycleEvent) : Option LifecyclePhase :=
  match event.data.field "phase" with
  | .str "start" => some .start
  | .str "end" => some .end
  | .str "error" => some .error
  | _ => none

def terminalStatus (event : LifecycleEvent) : String :=
  if event.phase? = some .error then "failed"
  else if event.data.field "stopReason" = .str "aborted" then "killed"
  else if event.data.field "aborted" = .bool true then "timeout"
  else "done"

def startedAt? (existingStartedAt : JsValue) (event : LifecycleEvent) : Option ℚ :=
  ((finiteTimestamp? (event.data.field "startedAt")).or (finiteTimestamp? existingStartedAt)).or
    (finiteTimestamp? event.ts)

def endedAt? (event : LifecycleEvent) : Option ℚ :=
  (finiteTimestamp? (event.data.field "endedAt")).or (finiteTimestamp? event.ts)

end LifecycleEvent

def resolveRuntimeMs (startedAt endedAt : Option ℚ) (existingRuntimeMs : JsValue) : JsValue :=
  match startedAt, endedAt with
  | some started, some ended =>
    .num ((JsNumber.finite 0).max ((JsNumber.finite ended).sub (.finite started)))
  | _, _ =>
    match existingRuntimeMs with
    | .num (.finite q) => if 0 ≤ q then existingRuntimeMs else .undefined
    | _ => .undefined

/-- `deriveGatewaySessionLifecycleSnapshot`: the fields that the event changes, if any. -/
def deriveGatewaySessionLifecycleSnapshot (session : Option LifecycleSession)
    (event : LifecycleEvent) : Option LifecycleSession :=
  let existing (field : LifecycleSession → JsValue) := (session.map field).getD .undefined
  match event.phase? with
  | none => none
  | some .start =>
    let startedAt := event.startedAt? (existing (·.startedAt))
    some {
      updatedAt := (timestampValue startedAt).orElse (existing (·.updatedAt))
      status := .str "running"
      startedAt := timestampValue startedAt
      endedAt := .undefined
      runtimeMs := .undefined
      abortedLastRun := .bool false }
  | some _ =>
    let startedAt := event.startedAt? (existing (·.startedAt))
    let endedAt := event.endedAt?
    some {
      updatedAt := (timestampValue endedAt).orElse (existing (·.updatedAt))
      status := .str event.terminalStatus
      startedAt := timestampValue startedAt
      endedAt := timestampValue endedAt
      runtimeMs := resolveRuntimeMs startedAt endedAt (existing (·.runtimeMs))
      abortedLastRun := .bool (event.terminalStatus = "killed") }

/-- `resolveMergedUpdatedAt`.  The field of an entry is a number or missing. -/
def resolveMergedUpdatedAt (now : ℤ) (existing patch : JsValue) : JsNumber :=
  let orZero : JsValue → JsNumber
    | .num n => n
    | _ => .finite 0
  ((orZero existing).max (orZero patch)).max (.finite now)

/-- `persistGatewaySessionLifecycleEvent` of a session that has an entry: the changed fields replace
the old ones, and the entry's time does not go back. -/
def persistLifecycleEvent (entry : LifecycleSession) (input : ℤ × LifecycleEvent) :
    LifecycleSession :=
  match deriveGatewaySessionLifecycleSnapshot (some entry) input.2 with
  | none => entry
  | some patch =>
    { patch with
      updatedAt := .num (resolveMergedUpdatedAt input.1 entry.updatedAt patch.updatedAt) }

/-! ## Sessions after their events -/

namespace LifecycleEvent

/-- The status that the event gives a session. -/
def shownStatus (event : LifecycleEvent) : String :=
  if event.phase? = some .start then "running" else event.terminalStatus

/-- The start time in the data of an event with a phase. -/
def explicitStart? (event : LifecycleEvent) : Option ℚ :=
  if event.phase?.isSome then finiteTimestamp? (event.data.field "startedAt") else none

/-- The time of an event with a phase. -/
def time? (event : LifecycleEvent) : Option ℚ :=
  if event.phase?.isSome then finiteTimestamp? event.ts else none

end LifecycleEvent

namespace LifecycleSession

/-- What the fields of a session say about each other. -/
structure Coherent (session : LifecycleSession) : Prop where
  running : session.status = .str "running" →
    session.endedAt = .undefined ∧ session.runtimeMs = .undefined
  killed : session.abortedLastRun = .bool true ↔ session.status = .str "killed"
  runtime : ∀ started ended, finiteTimestamp? session.startedAt = some started →
    finiteTimestamp? session.endedAt = some ended →
      session.runtimeMs =
        .num ((JsNumber.finite 0).max ((JsNumber.finite ended).sub (.finite started)))

end LifecycleSession

theorem finiteTimestamp?_pos {v : JsValue} {q : ℚ} (h : finiteTimestamp? v = some q) : 0 < q := by
  unfold finiteTimestamp? at h
  split at h
  · split_ifs at h with hq
    obtain rfl := Option.some.inj h
    exact hq
  · cases h

theorem finiteTimestamp?_timestampValue {t : Option ℚ} (h : ∀ q, t = some q → 0 < q) :
    finiteTimestamp? (timestampValue t) = t := by
  cases t with
  | none => rfl
  | some q => exact if_pos (h q rfl)

theorem startedAt?_pos {existing : JsValue} {event : LifecycleEvent} {q : ℚ}
    (h : event.startedAt? existing = some q) : 0 < q := by
  unfold LifecycleEvent.startedAt? at h
  rw [Option.or_eq_some_iff, Option.or_eq_some_iff] at h
  rcases h with (h | ⟨-, h⟩) | ⟨-, h⟩ <;> exact finiteTimestamp?_pos h

theorem endedAt?_pos {event : LifecycleEvent} {q : ℚ} (h : event.endedAt? = some q) : 0 < q := by
  unfold LifecycleEvent.endedAt? at h
  rw [Option.or_eq_some_iff] at h
  rcases h with h | ⟨-, h⟩ <;> exact finiteTimestamp?_pos h

theorem persistLifecycleEvent_of_none {input : ℤ × LifecycleEvent} (h : input.2.phase? = none)
    (entry : LifecycleSession) : persistLifecycleEvent entry input = entry := by
  unfold persistLifecycleEvent deriveGatewaySessionLifecycleSnapshot
  rw [h]

theorem startedAt_persistLifecycleEvent {input : ℤ × LifecycleEvent}
    (h : input.2.phase?.isSome) (entry : LifecycleSession) :
    (persistLifecycleEvent entry input).startedAt =
      timestampValue (input.2.startedAt? entry.startedAt) := by
  obtain ⟨phase, hphase⟩ := Option.isSome_iff_exists.1 h
  unfold persistLifecycleEvent deriveGatewaySessionLifecycleSnapshot
  rw [hphase]
  cases phase <;> rfl

theorem status_persistLifecycleEvent {input : ℤ × LifecycleEvent}
    (h : input.2.phase?.isSome) (entry : LifecycleSession) :
    (persistLifecycleEvent entry input).status = .str input.2.shownStatus := by
  obtain ⟨phase, hphase⟩ := Option.isSome_iff_exists.1 h
  unfold persistLifecycleEvent deriveGatewaySessionLifecycleSnapshot LifecycleEvent.shownStatus
  rw [hphase]
  cases phase <;> rfl

theorem terminalStatus_ne_running (event : LifecycleEvent) : event.terminalStatus ≠ "running" := by
  unfold LifecycleEvent.terminalStatus
  split_ifs <;> decide

/-- An event with a phase leaves a session whose fields agree, whatever they said before. -/
theorem coherent_persistLifecycleEvent {input : ℤ × LifecycleEvent}
    (h : input.2.phase?.isSome) (entry : LifecycleSession) :
    (persistLifecycleEvent entry input).Coherent := by
  obtain ⟨phase, hphase⟩ := Option.isSome_iff_exists.1 h
  have hrunning := terminalStatus_ne_running input.2
  have hended : finiteTimestamp? (timestampValue input.2.endedAt?) = input.2.endedAt? :=
    finiteTimestamp?_timestampValue fun _ h => endedAt?_pos h
  have hstarted : finiteTimestamp? (timestampValue (input.2.startedAt? entry.startedAt)) =
      input.2.startedAt? entry.startedAt :=
        finiteTimestamp?_timestampValue fun _ h => startedAt?_pos h
  have hterminal : ∀ updatedAt : JsValue, LifecycleSession.Coherent {
      updatedAt := updatedAt
      status := .str input.2.terminalStatus
      startedAt := timestampValue (input.2.startedAt? entry.startedAt)
      endedAt := timestampValue input.2.endedAt?
      runtimeMs := resolveRuntimeMs (input.2.startedAt? entry.startedAt) input.2.endedAt?
        entry.runtimeMs
      abortedLastRun := .bool (input.2.terminalStatus = "killed") } := by
    intro updatedAt
    refine ⟨fun h => absurd (JsValue.str.inj h) hrunning, by simp, ?_⟩
    intro started ended hs he
    rw [hstarted] at hs
    rw [hended] at he
    show resolveRuntimeMs _ _ _ = _
    rw [hs, he]
    rfl
  unfold persistLifecycleEvent deriveGatewaySessionLifecycleSnapshot
  rw [hphase]
  cases phase with
  | start => exact ⟨fun _ => ⟨rfl, rfl⟩, by simp, fun _ _ _ he => by cases he⟩
  | «end» => exact hterminal _
  | error => exact hterminal _

theorem finiteTimestamp?_startedAt (entry : LifecycleSession) (input : ℤ × LifecycleEvent) :
    finiteTimestamp? (persistLifecycleEvent entry input).startedAt =
      (input.2.explicitStart?.or (finiteTimestamp? entry.startedAt)).or input.2.time? := by
  by_cases h : input.2.phase?.isSome
  · rw [startedAt_persistLifecycleEvent h,
      finiteTimestamp?_timestampValue fun _ h => startedAt?_pos h]
    simp only [LifecycleEvent.startedAt?, LifecycleEvent.explicitStart?, LifecycleEvent.time?, h,
      if_true]
  · rw [persistLifecycleEvent_of_none (by simpa using h)]
    simp only [LifecycleEvent.explicitStart?, LifecycleEvent.time?, h, Bool.false_eq_true, if_false,
      Option.none_or, Option.or_none]

/-- The start time after a run is the last one that an event brought; without one it is the time the
session had, and without that the first time of an event. -/
theorem startedAt_run (events : List (ℤ × LifecycleEvent)) (entry : LifecycleSession) :
    finiteTimestamp? (run persistLifecycleEvent entry events).startedAt =
      ((events.filterMap (·.2.explicitStart?)).getLast?.or (finiteTimestamp? entry.startedAt)).or
        (events.filterMap (·.2.time?)).head? := by
  induction events generalizing entry with
  | nil => simp
  | cons e events ih =>
    have hlast : ((e :: events).filterMap (·.2.explicitStart?)).getLast? =
        (events.filterMap (·.2.explicitStart?)).getLast?.or e.2.explicitStart? := by
      rw [List.filterMap_cons]
      cases e.2.explicitStart? with
      | none => rw [Option.or_none]
      | some started =>
        show (started :: _).getLast? = _
        rw [List.getLast?_cons]
        cases (events.filterMap (·.2.explicitStart?)).getLast? <;> rfl
    have hfirst : ((e :: events).filterMap (·.2.time?)).head? =
        e.2.time?.or (events.filterMap (·.2.time?)).head? := by
      rw [List.filterMap_cons]
      cases e.2.time? <;> rfl
    rw [run_cons, ih, finiteTimestamp?_startedAt, hlast, hfirst, Option.or_assoc, Option.or_assoc,
      Option.or_assoc, Option.or_assoc, Option.or_assoc]

theorem run_of_quiet {events : List (ℤ × LifecycleEvent)} (h : ∀ e ∈ events, e.2.phase? = none)
    (entry : LifecycleSession) : run persistLifecycleEvent entry events = entry := by
  induction events with
  | nil => rfl
  | cons e events ih =>
    rw [run_cons, persistLifecycleEvent_of_none (h e List.mem_cons_self),
      ih fun e' he' => h e' (List.mem_cons_of_mem _ he')]

/-- After every run of events of a session: the start time is the last one an event brought, else
the one from before, else the time of the first event; and after the last event with a phase the
status is that event's and the fields agree with each other. -/
theorem lifecycle_run (entry : LifecycleSession) (events : List (ℤ × LifecycleEvent)) :
    finiteTimestamp? (run persistLifecycleEvent entry events).startedAt =
        ((events.filterMap (·.2.explicitStart?)).getLast?.or (finiteTimestamp? entry.startedAt)).or
          (events.filterMap (·.2.time?)).head? ∧
      ∀ early e late, events = early ++ e :: late → e.2.phase?.isSome →
        (∀ e' ∈ late, e'.2.phase? = none) →
        (run persistLifecycleEvent entry events).status = .str e.2.shownStatus ∧
          (run persistLifecycleEvent entry events).Coherent := by
  refine ⟨startedAt_run events entry, ?_⟩
  rintro early e late rfl hphase hlate
  rw [run_append, run_cons, run_of_quiet hlate]
  exact ⟨status_persistLifecycleEvent hphase _, coherent_persistLifecycleEvent hphase _⟩

end Vertx
