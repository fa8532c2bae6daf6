import Vertx.Adapter.Bridge
import Vertx.Adapter.ToolEvents
import Vertx.Domain.MirrorClient
import Vertx.Domain.MirrorFrame

/-!
# Tool events in the audit log

A tool event that the source surfaces reaches the mirror on both of its frames, and the mirror adds
an audit entry for each.  So no tool event is surfaced once, and none is logged once.
-/

namespace Vertx

open Repository Runs

/-- The message by which the gateway publishes a frame. -/
def EventFrame.message (frame : EventFrame) : JsValue :=
  .obj [
    ("type", .str "event"),
    ("event", .str frame.event.text),
    ("seq", frame.seq),
    ("payload", frame.payload),
    ("stateVersion", frame.stateVersion)]

/-- The adapter of the gateway and the repository that mirrors its events. -/
structure ToolBridge (δ : Type) where
  adapter : RealtimeBridgeAdapter
  repository : Repository δ

/-- A tool event with the times at which its frames are normalised and mirrored. -/
structure ToolInput where
  event : ToolEvent
  clocks : ℕ → Clock
  mirrorClocks : ℕ → Clock

/-- The audit entries about tools. -/
def toolEntries {δ : Type} (r : Repository δ) : List AuditEventSummary :=
  r.state.auditEvents.filter fun entry => "runtime.tool.".toList.isPrefixOf entry.action.toList

namespace ToolBridge

variable {δ : Type} [Persist δ] (context : RealtimeBridgeContext)

/-- The gateway publishes an event and the mirror client handles its message. -/
def publish (clock : Clock) (event : RealtimeSourceEvent) (s : ToolBridge δ) : ToolBridge δ :=
  match s.adapter.createEventFrame event context with
  | .error _ => s
  | .ok (frame, adapter) =>
    match messageEvent (some frame.message.wire) with
    | none => { s with adapter }
    | some mirrored => {
        adapter
        repository :=
          (mirrorRealtimeEventToProductApiRepository clock mirrored).stateAfter s.repository }

/-- A tool event of the upstream gateway. -/
def step (s : ToolBridge δ) (i : ToolInput) : ToolBridge δ :=
  (i.event.surfaced i.clocks).zipIdx.foldl
    (fun s published => s.publish context (i.mirrorClocks published.2) published.1) s

/-- One `tool.status` event is emitted. -/
def SurfacedOnce (_ : ToolBridge δ) (i : ToolInput) : Prop :=
  ((i.event.surfaced i.clocks).filter (·.event = .toolStatus)).length = 1

/-- The audit log gains one entry about a tool. -/
def LoggedOnce (s : ToolBridge δ) (i : ToolInput) : Prop :=
  (toolEntries (s.step context i).repository).length = (toolEntries s.repository).length + 1

variable {s : ToolBridge δ}

theorem merge_cons {key : String} {v : JsValue} {rest more : List (String × JsValue)}
    (h : key ∉ more.map (·.1)) :
    JsValue.merge ((key, v) :: rest) more = (key, v) :: JsValue.merge rest more := by
  unfold JsValue.merge
  induction more generalizing rest with
  | nil => rfl
  | cons kv more ih =>
    rw [List.map_cons, List.mem_cons, not_or] at h
    rw [List.foldl_cons, List.foldl_cons, JsValue.setField, if_neg h.1, ih h.2]

/-- The payload of a status begins with its run. -/
theorem wire_status (clock : Clock) (e : ToolEvent) (sessionKey toolCallId : String) :
    ∃ rest, (injectContext (.obj (e.status clock sessionKey toolCallId)) context).wire =
      .obj (("runId", .str e.runId) :: rest) := by
  have hkey : "runId" ∉ context.contextFields.map (·.1) := by
    intro hmem
    have hcontext := contextFields_keys context hmem
    revert hcontext
    decide
  refine ⟨JsValue.wireFields (JsValue.merge (e.status clock sessionKey toolCallId).tail
    context.contextFields), ?_⟩
  rw [injectContext, ToolEvent.status, merge_cons hkey, JsValue.wire, JsValue.wireFields,
    if_neg (by simp)]
  rfl

/-- The message of a `tool.status` frame is mirrored as such. -/
theorem messageEvent_status {frame : EventFrame} (hevent : frame.event = .toolStatus)
    (hseq : frame.seq ≠ .undefined) (hpayload : frame.payload ≠ .undefined) :
    messageEvent (some frame.message.wire) = some ⟨.toolStatus, frame.payload.wire⟩ := by
  have hwire : ∃ rest, frame.message.wire = .obj (("type", .str "event") ::
      ("event", .str "tool.status") :: ("seq", frame.seq.wire) :: ("payload", frame.payload.wire) ::
        rest) := by
    refine ⟨JsValue.wireFields [("stateVersion", frame.stateVersion)], ?_⟩
    simp only [EventFrame.message, JsValue.wire, JsValue.wireFields, hevent, GatewayEventName.text,
      if_neg hseq, if_neg hpayload, reduceCtorEq, if_false]
  obtain ⟨rest, hwire⟩ := hwire
  rw [hwire]
  simp [messageEvent, parseFrame, Option.filter, isGatewayFrame, JsValue.isRecord,
    JsValue.lookup_cons, JsValue.asString?, mirrorEventOf, mirrorEvents, MirrorEventName.text]

/-- Mirroring a `tool.status` event of a run adds an entry about a tool. -/
theorem toolEntries_mirror [ReliablePersist δ] (clock : Clock) (r : Repository δ) (runId : String)
    (rest : List (String × JsValue)) :
    (toolEntries ((mirrorRealtimeEventToProductApiRepository clock
        ⟨.toolStatus, .obj (("runId", .str runId) :: rest)⟩).stateAfter r)).length =
      (toolEntries r).length + if nonBlank runId then 1 else 0 := by
  set e : ProductApiMirrorEvent := ⟨.toolStatus, .obj (("runId", .str runId) :: rest)⟩ with he
  have hgood : ¬ e.BadTime r.state := fun h => h.2.2
  have hnamed : e.namedRun? = if nonBlank runId then some runId else none := by
    simp only [ProductApiMirrorEvent.namedRun?, he, JsValue.isObject, if_true, stringField,
      List.findSome?_cons, List.findSome?_nil, JsValue.field_obj, JsValue.lookup_cons]
    split_ifs <;> rfl
  have hlog : (toolEntries ((mirrorRealtimeEventToProductApiRepository clock e).stateAfter r)) =
      ((mirrorAudit? clock r.state e).toList.filter fun entry =>
        "runtime.tool.".toList.isPrefixOf entry.action.toList) ++ toolEntries r := by
    unfold toolEntries
    rw [stateAfter_mirror, updates_state]
    change List.filter _ (mirrorNext clock r.state e).auditEvents = _
    rw [mirrorNext_eq, List.filter_append]
  rw [hlog, List.length_append, Nat.add_comm]
  rw [Nat.add_left_cancel_iff]
  have haudit (run : Option WorkflowRunDetail) : e.audit? run = run.map fun _ =>
      ("runtime.tool." ++ (stringField e.payload ["phase"]).getD "unknown", .info) := rfl
  rw [mirrorAudit?, haudit]
  rcases @runWritten_of_good clock r.state e hgood with ⟨hnone, hrun⟩ | ⟨input, run, hsome, -, hrun⟩
  · rw [hnamed] at hnone
    have hblank : nonBlank runId = false := by
      by_contra hn
      rw [if_pos (by simpa using hn)] at hnone
      cases hnone
    rw [hrun, hblank]
    rfl
  · rw [hnamed] at hsome
    have hnonblank : nonBlank runId = true := by
      by_contra hn
      rw [if_neg hn] at hsome
      cases hsome
    have hprefix (phase : String) :
        "runtime.tool.".toList.isPrefixOf ("runtime.tool." ++ phase).toList = true := by
      rw [String.toList_append]
      exact List.isPrefixOf_iff_prefix.2 (List.prefix_append _ _)
    rw [hrun, hnonblank, Option.map_some, Option.map_some, Option.toList_some,
      List.filter_cons_of_pos (by exact hprefix _)]
    rfl

/-- A status is published and mirrored, and logged when its run has a name. -/
theorem toolEntries_publish [ReliablePersist δ] (clock statusClock : Clock) (s : ToolBridge δ)
    (e : ToolEvent) (sessionKey toolCallId : String) {frame : OpenClawEventFrame}
    (hframe : frame.seq = .undefined) :
    (toolEntries (s.publish context clock (frame.normalized .toolStatus
        (.obj (e.status statusClock sessionKey toolCallId)))).repository).length =
      (toolEntries s.repository).length + if nonBlank e.runId then 1 else 0 := by
  obtain ⟨rest, hwire⟩ := wire_status context statusClock e sessionKey toolCallId
  obtain ⟨published, adapter, hcreate, hname, hseq, hpayload⟩ : ∃ published adapter,
      s.adapter.createEventFrame (frame.normalized .toolStatus
          (.obj (e.status statusClock sessionKey toolCallId))) context = .ok (published, adapter) ∧
        published.event = .toolStatus ∧ published.seq ≠ .undefined ∧ published.payload =
          injectContext (.obj (e.status statusClock sessionKey toolCallId)) context := by
    unfold RealtimeBridgeAdapter.createEventFrame
    simp only [OpenClawEventFrame.normalized, hframe]
    exact ⟨_, _, rfl, rfl, by simp [JsValue.orElse, JsValue.isNullish], rfl⟩
  have hmessage : messageEvent (some published.message.wire) =
      some ⟨.toolStatus, .obj (("runId", .str e.runId) :: rest)⟩ := by
    rw [messageEvent_status hname hseq (by simp [hpayload, injectContext]), hpayload, hwire]
  unfold publish
  rw [hcreate]
  dsimp only
  rw [hmessage]
  exact toolEntries_mirror clock s.repository e.runId rest

/-- A tool event is logged twice or not at all. -/
theorem toolEntries_step [ReliablePersist δ] (s : ToolBridge δ) (i : ToolInput) :
    (toolEntries (s.step context i).repository).length = (toolEntries s.repository).length ∨
      (toolEntries (s.step context i).repository).length =
        (toolEntries s.repository).length + 2 := by
  unfold step
  by_cases h : i.event.Surfaces
  · obtain ⟨sessionKey, toolCallId, hsurfaced⟩ := ToolEvent.surfaced_of_surfaces h i.clocks
    rw [hsurfaced]
    simp only [List.zipIdx_cons, List.zipIdx_nil, List.foldl_cons, List.foldl_nil]
    rw [toolEntries_publish context _ _ _ i.event sessionKey toolCallId rfl,
      toolEntries_publish context _ _ _ i.event sessionKey toolCallId rfl]
    split_ifs
    · exact .inr rfl
    · exact .inl rfl
  · rw [ToolEvent.surfaced_of_not_surfaces h]
    exact .inl rfl

omit [Persist δ] in
theorem not_surfacedOnce (s : ToolBridge δ) (i : ToolInput) : ¬ s.SurfacedOnce i := by
  unfold SurfacedOnce
  by_cases h : i.event.Surfaces
  · obtain ⟨sessionKey, toolCallId, hsurfaced⟩ := ToolEvent.surfaced_of_surfaces h i.clocks
    rw [hsurfaced]
    exact Nat.succ_ne_self 1
  · rw [ToolEvent.surfaced_of_not_surfaces h]
    exact Nat.zero_ne_one

/-- Every tool event is surfaced once, and every one logged once, exactly when there is none. -/
theorem surfaced_once_iff [ReliablePersist δ] (s : ToolBridge δ) (events : List ToolInput) :
    (Each (step context) SurfacedOnce s events ↔ events = []) ∧
      (Each (step context) (LoggedOnce context) s events ↔ events = []) := by
  cases events with
  | nil => exact ⟨iff_of_true trivial rfl, iff_of_true trivial rfl⟩
  | cons i events =>
    refine ⟨iff_of_false (fun h => not_surfacedOnce s i h.1) nofun,
      iff_of_false (fun h => ?_) nofun⟩
    have hone := h.1
    unfold LoggedOnce at hone
    rcases toolEntries_step context s i with hnone | htwo <;> omega

/-- The start of a tool call. -/
def sampleInput : ToolInput where
  event := {
    runId := "r1"
    sessionKey := some "main"
    seq := 1
    ts := 0
    data := [("phase", .str "start"), ("name", .str "search"), ("toolCallId", .str "call-1")]
    snapshot := []
    snapshot_keys := fun _ _ => nofun }
  clocks := fun _ _ => 0
  mirrorClocks := fun _ _ => 0

theorem start_not_logged_once :
    ¬ Each (step ⟨"default", none, none⟩) (LoggedOnce ⟨"default", none, none⟩)
      (⟨.initial, createInMemoryProductApiRepository createMockProductApiState⟩ : ToolBridge Unit)
      [sampleInput] :=
  fun h => nomatch (surfaced_once_iff _ _ [sampleInput]).2.1 h

/-- The start of a tool call is emitted twice. -/
theorem start_surfaces_twice :
    ¬ Each (step ⟨"default", none, none⟩) SurfacedOnce
      (⟨.initial, createInMemoryProductApiRepository createMockProductApiState⟩ : ToolBridge Unit)
      [sampleInput] := by
  rintro ⟨honce, -⟩
  have hlength : ((sampleInput.event.surfaced sampleInput.clocks).filter
      (·.event = .toolStatus)).length = 1 := honce
  revert hlength
  decide +kernel

end ToolBridge

end Vertx
