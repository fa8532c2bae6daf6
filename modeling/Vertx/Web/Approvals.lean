import Vertx.Domain.Operations
import Vertx.Lib.Runs
import Vertx.Web.State

/-!
# Two counts of the pending approvals

The mirror keeps a number of pending approvals in the workbench, the page a list of them.  The
mirror counts every event; the page looks at the `id` of the payload and counts an approval once.
The two agree exactly as long as every request is new to the page and every resolution is of an
approval on its list.
-/

namespace Vertx

open Repository Runs

/-- The two kinds of approval events. -/
inductive ApprovalEvent
  | requested
  | resolved
  deriving DecidableEq, Repr

def ApprovalEvent.mirrored : ApprovalEvent → MirrorEventName
  | requested => .approvalRequested
  | resolved => .approvalResolved

def ApprovalEvent.published : ApprovalEvent → GatewayEventName
  | requested => .approvalRequested
  | resolved => .approvalResolved

/-- An approval event with a JSON object as its payload, as both consumers receive it. -/
structure ApprovalInput where
  clock : Clock
  event : ApprovalEvent
  fields : List (String × JsValue)
  seq : JsValue
  stateVersion : JsValue

def ApprovalInput.mirrorEvent (i : ApprovalInput) : ProductApiMirrorEvent where
  event := i.event.mirrored
  payload := .obj i.fields

def ApprovalInput.frame (i : ApprovalInput) : EventFrame where
  event := i.event.published
  seq := i.seq
  payload := .obj i.fields
  stateVersion := i.stateVersion

/-- The product API's repository beside the state of a page. -/
structure ApprovalViews where
  repository : Repository Unit
  page : RealtimeState

/-- Both consumers handle an event; the page keeps its state when its reducer throws. -/
def approvalStep (v : ApprovalViews) (i : ApprovalInput) : ApprovalViews where
  repository :=
    (mirrorRealtimeEventToProductApiRepository i.clock i.mirrorEvent).stateAfter v.repository
  page := (realtimeReducer i.clock v.page (.event i.frame)).toOption.getD v.page

/-- The ids of the approvals that the page shows. -/
def ApprovalViews.openIds (v : ApprovalViews) : List String := v.page.pendingApprovals.map (·.id)

/-- The number that the workbench shows. -/
def ApprovalViews.count (v : ApprovalViews) : ℕ := v.repository.state.workbench.pendingApprovals

/-- The workbench counts what the page shows. -/
def CountsAgree (v : ApprovalViews) : Prop := v.count = v.page.pendingApprovals.length

/-- The id by which the page knows an approval. -/
def ApprovalInput.id? (i : ApprovalInput) : Option String :=
  ((JsValue.obj i.fields).stringAt "id").filter (· ≠ "")

/-! ## What an event does to the two -/

theorem count_step (v : ApprovalViews) (i : ApprovalInput) :
    (approvalStep v i).count = match i.event with
      | .requested => v.count + 1
      | .resolved => v.count - 1 := by
  obtain ⟨clock, event, fields, seq, stateVersion⟩ := i
  have hstate := congrArg Repository.state
    (stateAfter_mirror clock ⟨event.mirrored, .obj fields⟩ v.repository)
  cases event <;>
  · unfold ApprovalViews.count
    simp only [approvalStep, ApprovalInput.mirrorEvent]
    rw [hstate, updates_state]
    rfl

theorem openIds_step (v : ApprovalViews) (i : ApprovalInput) :
    (approvalStep v i).openIds = match i.event, i.id? with
      | _, none => v.openIds
      | .requested, some id => if id ∈ v.openIds then v.openIds else v.openIds ++ [id]
      | .resolved, some id => v.openIds.filter (· ≠ id) := by
  obtain ⟨clock, event, fields, seq, stateVersion⟩ := i
  unfold ApprovalViews.openIds approvalStep realtimeReducer applyEvent ApprovalInput.id?
  cases event with
  | requested =>
    simp only [ApprovalInput.frame, ApprovalEvent.published, applyApprovalRequested,
      JsValue.isNullish, Bool.false_eq_true, if_false]
    cases ((JsValue.obj fields).stringAt "id").filter (· ≠ "") with
    | none => rfl
    | some id =>
      by_cases h : v.page.pendingApprovals.any (·.id = id)
      · have hm : id ∈ v.page.pendingApprovals.map (·.id) := by simpa using h
        simp [hm, Except.toOption, h]
      · have hm : id ∉ v.page.pendingApprovals.map (·.id) := by simpa using h
        simp [hm, Except.toOption, h]
  | resolved =>
    simp only [ApprovalInput.frame, ApprovalEvent.published, applyApprovalResolved,
      JsValue.isNullish, Bool.false_eq_true, if_false]
    cases ((JsValue.obj fields).stringAt "id").filter (· ≠ "") with
    | none => rfl
    | some id =>
      simp only [Except.toOption, Option.getD_some, List.filter_map, Function.comp_def]

/-- Removing an id from a list without duplicates takes one element away when the id is there. -/
theorem length_filter_ne {ids : List String} (h : ids.Nodup) (id : String) :
    (ids.filter (· ≠ id)).length = if id ∈ ids then ids.length - 1 else ids.length := by
  have hfilter : ids.filter (· ≠ id) = ids.erase id := by
    rw [h.erase_eq_filter]
    exact List.filter_congr fun a _ => by simp [bne, beq_eq_decide]
  rw [hfilter, List.length_erase]

/-! ## The invariant -/

/-- A request is of an approval that is not on the page's list, a resolution of one that is, unless
the list is empty. -/
def Tracked (v : ApprovalViews) (i : ApprovalInput) : Prop :=
  match i.event with
  | .requested => ∃ id, i.id? = some id ∧ id ∉ v.openIds
  | .resolved => v.openIds = [] ∨ ∃ id, i.id? = some id ∧ id ∈ v.openIds

structure ApprovalInv (v : ApprovalViews) : Prop where
  agree : v.count = v.openIds.length
  nodup : v.openIds.Nodup

theorem nodup_step {v : ApprovalViews} (h : v.openIds.Nodup) (i : ApprovalInput) :
    (approvalStep v i).openIds.Nodup := by
  rw [openIds_step]
  cases i.event with
  | requested =>
    cases i.id? with
    | none => exact h
    | some id =>
      dsimp only
      split_ifs with hm
      · exact h
      · rw [← List.concat_eq_append]
        exact h.concat hm
  | resolved =>
    cases i.id? with
    | none => exact h
    | some id => exact h.filter _

/-- The counts agree after an event exactly when the page tracks it. -/
theorem agree_step_iff {v : ApprovalViews} (h : ApprovalInv v) (i : ApprovalInput) :
    (approvalStep v i).count = (approvalStep v i).openIds.length ↔ Tracked v i := by
  have hagree := h.agree
  rw [count_step, openIds_step]
  unfold Tracked
  cases i.event with
  | requested =>
    cases i.id? with
    | none => simp [hagree]
    | some id => by_cases hm : id ∈ v.openIds <;> simp [hm, hagree]
  | resolved =>
    cases i.id? with
    | none =>
      simp only [reduceCtorEq, false_and, exists_false, or_false, hagree]
      rw [← List.length_eq_zero_iff]
      omega
    | some id =>
      dsimp only
      rw [length_filter_ne h.nodup, hagree]
      by_cases hm : id ∈ v.openIds
      · simp [hm]
      · simp only [hm, if_false, Option.some.injEq, exists_eq_left', or_false]
        rw [← List.length_eq_zero_iff]
        omega

/-- The views agree after every event of a sequence exactly when every event is tracked. -/
theorem countsAgree_iff (v : ApprovalViews) (hcount : v.count = 0)
    (hpage : v.page = initialRealtimeState) (inputs : List ApprovalInput) :
    Always approvalStep CountsAgree v inputs ↔ Each approvalStep Tracked v inputs := by
  have hinit : ApprovalInv v := by
    have hids : v.openIds = [] := by rw [ApprovalViews.openIds, hpage]; rfl
    exact ⟨by rw [hids, hcount]; rfl, by rw [hids]; exact List.nodup_nil⟩
  have hiff : ∀ w, CountsAgree w ↔ w.count = w.openIds.length := fun w => by
    rw [CountsAgree, ApprovalViews.openIds, List.length_map]
  refine always_iff_each (fun w hw => (hiff w).2 hw.agree) (fun w i hw hok => ?_)
    (fun w i hw hbad => ?_) hinit inputs
  · exact ⟨(agree_step_iff hw i).2 hok, nodup_step hw.nodup i⟩
  · exact fun h => hbad ((agree_step_iff hw i).1 ((hiff _).1 h))

/-! ## Runs -/

/-- No approval is pending. -/
def noApprovals : ApprovalViews where
  repository := createInMemoryProductApiRepository
    { createMockProductApiState with workbench := { mockWorkbench with pendingApprovals := 0 } }
  page := initialRealtimeState

/-- An event of the approval with the given id. -/
def approvalInput (event : ApprovalEvent) (id : String) : ApprovalInput where
  clock := fun _ => 0
  event := event
  fields := [("id", .str id)]
  seq := .undefined
  stateVersion := .undefined

/-- The same request twice: the workbench counts two approvals, the page shows one. -/
theorem counts_differ_on_duplicate :
    noApprovals.count = 0 ∧ noApprovals.page = initialRealtimeState ∧
      ¬ Always approvalStep CountsAgree noApprovals
        [approvalInput .requested "a", approvalInput .requested "a"] := by
  refine ⟨rfl, rfl, fun h => ?_⟩
  have hend : CountsAgree _ := h.2.2
  revert hend
  unfold CountsAgree
  decide +kernel

/-- A request and its resolution leave both counts at zero. -/
theorem counts_agree_on_resolution :
    Always approvalStep CountsAgree noApprovals
      [approvalInput .requested "a", approvalInput .resolved "a"] := by
  refine (countsAgree_iff noApprovals rfl rfl _).2 ⟨?_, ?_, trivial⟩
  · exact ⟨"a", rfl, by decide +kernel⟩
  · exact .inr ⟨"a", rfl, by decide +kernel⟩

end Vertx
