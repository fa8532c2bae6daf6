import Vertx.Lib.History
import Vertx.Web.Stream

/-!
# The open approvals

The page lists an approval from its request to its resolution.  Over a whole history of actions the
list holds the ids whose newest frame is a request, each with the title and at the place of the
request that opened it.  A frame whose id is no text, or an empty one, is not looked at.
-/

namespace Vertx

open History Runs

/-- The id that an approval frame names: a request opens it with a title, a resolution closes it. -/
def RealtimeAction.approval? : RealtimeAction → Option (String × Option String)
  | .event frame =>
    match frame.event with
    | .approvalRequested =>
      (frame.payload.stringAt "id").map fun id => (id, some (approvalTitle frame.payload))
    | .approvalResolved => (frame.payload.stringAt "id").map fun id => (id, none)
    | _ => none
  | _ => none

/-- What the approval frames of a history name. -/
def approvalLog (actions : List RealtimeAction) : List (String × Option String) :=
  actions.filterMap (·.approval?)

/-- Not a reset, and an object where the payload is that of an approval frame. -/
def RealtimeAction.ReadsApprovals : RealtimeAction → Prop
  | .sessionReset => False
  | .event frame =>
    frame.event = .approvalRequested ∨ frame.event = .approvalResolved → frame.payload.isObject
  | _ => True

/-- The ids and titles of a list of approvals. -/
def titles (pending : List PendingApproval) : List (String × String) :=
  pending.map fun approval => (approval.id, approval.title)

/-- An action that names no approval leaves the list alone. -/
def LeavesApprovals (s : RealtimeState) (i : Clock × RealtimeAction) : Prop :=
  i.2.approval?.filter (·.1 ≠ "") = none → (reduceStep s i).pendingApprovals = s.pendingApprovals

theorem titles_injective : Function.Injective titles :=
  List.map_injective_iff.2 fun a b h => by
    cases a
    cases b
    simpa using h

theorem mem_titles {pending : List PendingApproval} {id : String} :
    id ∈ (titles pending).map (·.1) ↔ pending.any (·.id = id) := by
  simp [titles]

/-- A request opens its approval. -/
theorem titles_requestApproval (payload : JsValue) (pending : List PendingApproval) :
    titles (requestApproval payload pending) =
      ((approvalId? payload).map fun id => (id, some (approvalTitle payload))).toList.foldl track
        (titles pending) := by
  unfold requestApproval
  cases approvalId? payload with
  | none => rfl
  | some id =>
    simp only [Option.map_some, Option.toList_some, List.foldl_cons, List.foldl_nil, track,
      mem_titles]
    split_ifs
    · rfl
    · rw [titles, List.map_append]
      rfl

/-- A resolution closes its approval. -/
theorem titles_resolveApproval (payload : JsValue) (pending : List PendingApproval) :
    titles (resolveApproval payload pending) =
      ((approvalId? payload).map fun id => (id, none)).toList.foldl track (titles pending) := by
  unfold resolveApproval
  cases approvalId? payload with
  | none => rfl
  | some id =>
    simp only [Option.map_some, Option.toList_some, List.foldl_cons, List.foldl_nil, track, titles,
      List.filter_map, Function.comp_def]

variable {clock : Clock} {s s' : RealtimeState} {frame : EventFrame}

/-- Only approval frames touch the list. -/
theorem approvals_of_ne_approval (hrequested : frame.event ≠ .approvalRequested)
    (hresolved : frame.event ≠ .approvalResolved)
    (h : realtimeReducer clock s (.event frame) = .ok s') :
    s'.pendingApprovals = s.pendingApprovals := by
  obtain ⟨event, seq, payload, stateVersion⟩ := frame
  replace h : applyEvent clock { s with lastSeq := seq } ⟨event, seq, payload, stateVersion⟩ =
      .ok s' := h
  cases event with
  | chat => cases applyChatEvent_cases h <;> rfl
  | agent =>
    obtain ⟨-, stream, -, rfl⟩ := applyAgentStream_iff.1 h
    rfl
  | toolStatus =>
    obtain ⟨-, key, messages, -, -, rfl⟩ := applyToolStatus_iff.1 h
    rfl
  | runStatus =>
    obtain rfl := applyRunStatus_cases h
    split_ifs <;> rfl
  | approvalRequested => exact absurd rfl hrequested
  | approvalResolved => exact absurd rfl hresolved
  | sessionMessage | sessionsChanged | shutdown =>
    cases h
    rfl

/-- What a frame names, if it is an approval frame with an id that is listed. -/
theorem approval?_filter (id? : Option String) (title? : Option String) :
    (id?.map fun id => (id, title?)).filter (·.1 ≠ "") =
      (id?.filter (· ≠ "")).map fun id => (id, title?) := by
  cases id? with
  | none => rfl
  | some id => by_cases hid : id = "" <;> simp [Option.filter, hid]

/-- An action tracks the approval that it names. -/
theorem titles_step (s : RealtimeState) {i : Clock × RealtimeAction} (h : i.2.ReadsApprovals) :
    titles (reduceStep s i).pendingApprovals =
      (i.2.approval?.filter (·.1 ≠ "")).toList.foldl track (titles s.pendingApprovals) := by
  obtain ⟨clock, action⟩ := i
  cases action with
  | sessionReset => exact h.elim
  | event frame =>
    obtain ⟨event, seq, payload, stateVersion⟩ := frame
    by_cases hevent : event = .approvalRequested ∨ event = .approvalResolved
    · have hnull : payload.isNullish = false := by
        have hobject : payload.isObject := h hevent
        cases payload with
        | undefined | null => cases hobject
        | _ => rfl
      rcases hevent with rfl | rfl
      · have hstep : realtimeReducer clock s
            (.event ⟨.approvalRequested, seq, payload, stateVersion⟩) = .ok _ :=
          applyApprovalRequested_eq { s with lastSeq := seq } hnull
        rw [reduceStep_of_ok hstep]
        simp only [RealtimeAction.approval?, approval?_filter]
        exact titles_requestApproval payload s.pendingApprovals
      · have hstep : realtimeReducer clock s
            (.event ⟨.approvalResolved, seq, payload, stateVersion⟩) = .ok _ :=
          applyApprovalResolved_eq { s with lastSeq := seq } hnull
        rw [reduceStep_of_ok hstep]
        simp only [RealtimeAction.approval?, approval?_filter]
        exact titles_resolveApproval payload s.pendingApprovals
    · rw [not_or] at hevent
      have hnone : (RealtimeAction.event ⟨event, seq, payload, stateVersion⟩).approval? = none := by
        cases event with
        | approvalRequested => exact absurd rfl hevent.1
        | approvalResolved => exact absurd rfl hevent.2
        | _ => rfl
      rw [hnone]
      cases hr : realtimeReducer clock s (.event ⟨event, seq, payload, stateVersion⟩) with
      | error e =>
        rw [reduceStep_of_error hr]
        rfl
      | ok s' =>
        rw [reduceStep_of_ok hr, approvals_of_ne_approval hevent.1 hevent.2 hr]
        rfl
  | _ => rfl

theorem titles_run (s : RealtimeState) (steps : List (Clock × RealtimeAction))
    (h : ∀ i ∈ steps, i.2.ReadsApprovals) :
    titles (run reduceStep s steps).pendingApprovals =
      ((approvalLog (steps.map (·.2))).filter (·.1 ≠ "")).foldl track
        (titles s.pendingApprovals) := by
  induction steps generalizing s with
  | nil => rfl
  | cons i steps ih =>
    obtain ⟨hi, hsteps⟩ := List.forall_mem_cons.1 h
    have hlog : (approvalLog ((i :: steps).map (·.2))).filter (·.1 ≠ "") =
        (i.2.approval?.filter (·.1 ≠ "")).toList ++
          (approvalLog (steps.map (·.2))).filter (·.1 ≠ "") := by
      rw [List.map_cons, approvalLog, List.filterMap_cons]
      cases i.2.approval? with
      | none => rfl
      | some entry => by_cases hid : entry.1 = "" <;> simp [Option.filter, hid, approvalLog]
    rw [run_cons, ih _ hsteps, titles_step s hi, hlog, List.foldl_append]

/-- The list holds the approvals with a text for an id, not empty, that are open, and no other
action changes it. -/
theorem approvals_exact (steps : List (Clock × RealtimeAction))
    (h : ∀ i ∈ steps, i.2.ReadsApprovals) :
    Tracks ((approvalLog (steps.map (·.2))).filter (·.1 ≠ ""))
        (titles (run reduceStep initialRealtimeState steps).pendingApprovals) ∧
      Each reduceStep LeavesApprovals initialRealtimeState steps := by
  refine ⟨?_, (each_iff_split _ _).2 ?_⟩
  · rw [titles_run _ _ h]
    exact tracks_foldl _
  · rintro early i late rfl hnone
    have hstep := titles_step (run reduceStep initialRealtimeState early) (h i (by simp))
    rw [hnone] at hstep
    exact titles_injective hstep

/-- An approval frame with an id and a title. -/
def approvalFrame (event : GatewayEventName) (id title : String) : Clock × RealtimeAction :=
  (fun _ => 0, .event ⟨event, .undefined, .obj [("id", .str id), ("title", .str title)],
    .undefined⟩)

theorem readsApprovals_approvalFrame (event : GatewayEventName) (id title : String) :
    (approvalFrame event id title).2.ReadsApprovals := fun _ => rfl

/-- An approval is requested again after its resolution, with another open since before. -/
def reopenedApproval : List (Clock × RealtimeAction) :=
  [approvalFrame .approvalRequested "a" "Send", approvalFrame .approvalRequested "b" "Delete",
    approvalFrame .approvalResolved "a" "", (fun _ => 0, .connectClose),
    approvalFrame .approvalRequested "a" "Send again"]

theorem approvals_exact_reopened :
    Tracks ((approvalLog (reopenedApproval.map (·.2))).filter (·.1 ≠ ""))
        (titles (run reduceStep initialRealtimeState reopenedApproval).pendingApprovals) ∧
      Each reduceStep LeavesApprovals initialRealtimeState reopenedApproval := by
  refine approvals_exact reopenedApproval ?_
  simp only [reopenedApproval, List.forall_mem_cons]
  exact ⟨readsApprovals_approvalFrame _ _ _, readsApprovals_approvalFrame _ _ _,
    readsApprovals_approvalFrame _ _ _, trivial, readsApprovals_approvalFrame _ _ _,
    fun _ => nofun⟩

example : titles (run reduceStep initialRealtimeState reopenedApproval).pendingApprovals =
    [("b", "Delete"), ("a", "Send again")] := by decide +kernel

/-- A request with the empty text for an id is not listed. -/
theorem empty_id_not_listed :
    let steps := [approvalFrame .approvalRequested "" "Send"]
    (∀ i ∈ steps, i.2.ReadsApprovals) ∧
      ¬ Tracks (approvalLog (steps.map (·.2)))
        (titles (run reduceStep initialRealtimeState steps).pendingApprovals) := by
  refine ⟨fun i hi => ?_, fun h => ?_⟩
  · rw [List.mem_singleton.1 hi]
    exact readsApprovals_approvalFrame _ _ _
  · have hlisted := (h.mem_iff "").2 ⟨"Send", by decide +kernel⟩
    revert hlisted
    decide +kernel

end Vertx
