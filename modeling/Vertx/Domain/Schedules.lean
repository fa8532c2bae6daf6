import Vertx.Domain.Summaries

/-!
# When automations run next

Three operations set `nextRunAt`, each by a condition of its own, and one of them keeps the old
value.  `schedules_coherent` says what the field means in every state of a server: the automation is
active and not started by hand.
-/

namespace Vertx

open Repository Runs Keyed

/-- An automation has a next run exactly if it is active and is not started by hand. -/
def AutomationSummary.Scheduled (a : AutomationSummary) : Prop :=
  a.nextRunAt.isSome ↔ a.status = .active ∧ a.triggerType ≠ .str "manual"

instance : DecidablePred AutomationSummary.Scheduled := fun a =>
  inferInstanceAs
    (Decidable (a.nextRunAt.isSome ↔ a.status = .active ∧ a.triggerType ≠ .str "manual"))

def AutomationStatus.flip : AutomationStatus → AutomationStatus
  | active => paused
  | paused => active

/-- The automation that a call with this id addresses stands at the `i`-th place of the list. -/
def ProductApiState.Addresses (state : ProductApiState) (automationId : String) (i : ℕ) : Prop :=
  state.automations.findIdx? (·.id = automationId) = some i

instance (state : ProductApiState) (automationId : String) (i : ℕ) :
    Decidable (state.Addresses automationId i) :=
  inferInstanceAs (Decidable (state.automations.findIdx? (·.id = automationId) = some i))

/-- Place by place, the automations keep their ids, and their statuses become what `status` makes of
the place and the old one. -/
def StatusesBecome (status : ℕ → AutomationStatus → AutomationStatus)
    (state next : ProductApiState) : Prop :=
  ∀ i, next.automations[i]?.map (fun a => (a.id, a.status)) =
    state.automations[i]?.map fun a => (a.id, status i a.status)

/-- The call flips the status of the automation that it addresses and of no other. -/
def FlipsAddressed (automationId : String) (state next : ProductApiState) : Prop :=
  StatusesBecome (fun i status => if state.Addresses automationId i then status.flip else status)
    state next

/-! ## The records that the operations write -/

theorem scheduled_newAutomation {clock : Clock} {id : String} {input : JsValue}
    {automation : AutomationSummary} (h : newAutomation clock id input = .ok automation) :
    automation.Scheduled := by
  unfold newAutomation at h
  cases ht : input.get "triggerType" with
  | error e =>
    rw [ht] at h
    cases h
  | ok triggerType =>
    rw [ht] at h
    cases hn : trimmedOr input "name" ("未命名自动化 " ++ id) with
    | error e =>
      dsimp only [bind, Except.bind] at h
      rw [hn] at h
      cases h
    | ok name =>
      dsimp only [bind, Except.bind] at h
      rw [hn] at h
      cases h
      unfold AutomationSummary.Scheduled
      dsimp only
      by_cases hmanual : triggerType.orElse (.str "schedule") = .str "manual"
      · simp [hmanual]
      · simp [hmanual]

theorem scheduled_toggledAutomation (clock : Clock) (automation : AutomationSummary) :
    (toggledAutomation clock automation).Scheduled := by
  unfold AutomationSummary.Scheduled toggledAutomation
  dsimp only
  by_cases hnext :
      (if automation.status = .active then AutomationStatus.paused else .active) = .active ∧
        automation.triggerType ≠ .str "manual"
  · rw [if_pos hnext]
    exact iff_of_true rfl hnext
  · rw [if_neg hnext]
    exact iff_of_false Bool.false_ne_true hnext

/-- Where a run sets no next one, it carries the old value over. -/
theorem scheduled_triggeredAutomation (clock : Clock) {automation : AutomationSummary}
    (h : automation.Scheduled) : (triggeredAutomation clock automation).Scheduled := by
  unfold AutomationSummary.Scheduled triggeredAutomation
  dsimp only
  by_cases hnext : automation.status = .active ∧ automation.triggerType ≠ .str "manual"
  · rw [if_pos hnext]
    exact iff_of_true rfl hnext
  · rw [if_neg hnext]
    exact h

theorem status_toggledAutomation (clock : Clock) (automation : AutomationSummary) :
    (toggledAutomation clock automation).status = automation.status.flip := by
  cases h : automation.status <;> simp [toggledAutomation, AutomationStatus.flip, h]

/-- Serialisation keeps the trigger types that are started by hand, and no others become so. -/
theorem JsValue.wire_eq_str {v : JsValue} {s : String} : v.wire = .str s ↔ v = .str s := by
  cases v with
  | num x =>
    rw [wire]
    split_ifs <;> simp
  | _ => simp [wire]

/-! ## The invariant -/

/-- Every automation in the state is scheduled as its status and its trigger say. -/
def Schedules (state : ProductApiState) : Prop := ∀ a ∈ state.automations, a.Scheduled

theorem Schedules.upsertAutomation {state : ProductApiState} (h : Schedules state)
    {automation : AutomationSummary} (ha : automation.Scheduled) :
    Schedules (state.upsertAutomation automation) := by
  intro a hmem
  rcases mem_upsertFirst _ hmem with hold | rfl | ⟨-, -, -, rfl⟩
  · exact h a hold
  · exact ha
  · exact ha

theorem Schedules.effect {clock : Clock} {op : StoreOp} {s : Server} {e : StoreEffect}
    (he : op.effect clock s = some e) (h : Schedules s.repository.state) :
    Schedules (e.next s.repository.state) := by
  cases does_of_effect he with
  | createAutomation hnew => exact List.forall_mem_cons.2 ⟨scheduled_newAutomation hnew, h⟩
  | toggleAutomation hfound => exact h.upsertAutomation (scheduled_toggledAutomation clock _)
  | runAutomation hfound =>
    refine h.upsertAutomation (scheduled_triggeredAutomation clock (h _ ?_))
    exact List.mem_of_find?_eq_some hfound
  | _ => exact h

theorem Schedules.wire {state : ProductApiState} (h : Schedules state) : Schedules state.wire := by
  intro a hmem
  obtain ⟨b, hb, rfl⟩ := List.mem_map.1 hmem
  have hscheduled := h b hb
  unfold AutomationSummary.Scheduled at hscheduled ⊢
  rw [hscheduled, ne_eq, ne_eq, JsValue.wire_eq_str]

theorem schedules_step {s : Server} (step : ServerStep) (hsaved : s.repository.Saved)
    (h : Schedules s.repository.state) : Schedules (serverStep s step).repository.state := by
  cases step with
  | call clock op => exact call_induction h fun e entry he => h.effect he
  | mirror clock e =>
    rw [mirror_state, mirrorNext_eq]
    exact h
  | restart =>
    rw [restart_state hsaved]
    exact h.wire

/-- What every step keeps. -/
structure SchedulesInv (s : Server) : Prop where
  coherent : Coherent s
  schedules : Schedules s.repository.state

theorem schedulesInv_step (s : Server) (step : ServerStep) (h : SchedulesInv s) :
    SchedulesInv (serverStep s step) where
  coherent := coherent_step step h.coherent
  schedules := schedules_step step h.coherent.saved h.schedules

theorem schedulesInv_initial : SchedulesInv initialServer :=
  ⟨coherent_initial, by unfold Schedules; decide⟩

/-! ## Statuses -/

/-- The list after one of its automations is written back, place by place. -/
theorem getElem?_upsertAutomation {state : ProductApiState} {automationId : String}
    {automation next : AutomationSummary} (h : state.getAutomation automationId = some automation)
    (hid : next.id = automationId) (i : ℕ) :
    (state.upsertAutomation next).automations[i]? =
      state.automations[i]?.map fun a =>
        if state.Addresses automationId i then next else a := by
  have hmem : next.id ∈ state.automations.map (·.id) :=
    List.mem_map.2 ⟨automation, List.mem_of_find?_eq_some h, by
      rw [hid]
      simpa using List.find?_some h⟩
  rw [ProductApiState.upsertAutomation, upsertFirst_of_mem _ hmem, getElem?_modifyFirst, hid]
  rfl

/-- What stands at the place that a call addresses is what it found. -/
theorem getElem?_of_addresses {state : ProductApiState} {automationId : String}
    {automation : AutomationSummary} (h : state.getAutomation automationId = some automation)
    {i : ℕ}
    (hi : state.Addresses automationId i) : state.automations[i]? = some automation := by
  unfold ProductApiState.getAutomation at h
  unfold ProductApiState.Addresses at hi
  rw [List.find?_eq_bind_findIdx?_getElem?, hi] at h
  exact h

/-- Writing back an automation changes its status and no other. -/
theorem statusesBecome_upsertAutomation {state : ProductApiState} {automationId : String}
    {automation next : AutomationSummary} (h : state.getAutomation automationId = some automation)
    (hid : next.id = automation.id) {status : ℕ → AutomationStatus → AutomationStatus}
    (hnext : ∀ i, state.Addresses automationId i → next.status = status i automation.status)
    (hother : ∀ i, ¬ state.Addresses automationId i → ∀ old, status i old = old) :
    StatusesBecome status state (state.upsertAutomation next) := by
  intro i
  have hfound : automation.id = automationId := by simpa using List.find?_some h
  rw [getElem?_upsertAutomation h (hid.trans hfound), Option.map_map]
  by_cases hi : state.Addresses automationId i
  · rw [getElem?_of_addresses h hi, Option.map_some, Option.map_some, Function.comp_apply,
      if_pos hi, hid, hnext i hi]
  · refine Option.map_congr fun a _ => ?_
    rw [Function.comp_apply, if_neg hi, hother i hi]

theorem statusesBecome_refl {state next : ProductApiState}
    {status : ℕ → AutomationStatus → AutomationStatus}
    (hlist : next.automations = state.automations)
    (h : ∀ i a, state.automations[i]? = some a → status i a.status = a.status) :
    StatusesBecome status state next := by
  intro i
  rw [hlist]
  refine Option.map_congr fun a ha => ?_
  rw [h i a ha]

/-- A call with an id that is not listed leaves the automations alone. -/
theorem not_addresses {state : ProductApiState} {automationId : String}
    (h : state.getAutomation automationId = none) (i : ℕ) : ¬ state.Addresses automationId i := by
  have hnone : state.automations.findIdx? (·.id = automationId) = none := by
    rw [List.findIdx?_eq_none_iff]
    intro a ha
    simpa using List.find?_eq_none.1 h a ha
  unfold ProductApiState.Addresses
  rw [hnone]
  exact nofun

theorem flipsAddressed_toggle (clock : Clock) (automationId : String) (s : Server) :
    FlipsAddressed automationId s.repository.state
      (serverStep s (.call clock (.toggleAutomation automationId))).repository.state := by
  cases he : (StoreOp.toggleAutomation automationId).effect clock s with
  | none =>
    have hnone : s.repository.state.getAutomation automationId = none := Option.map_eq_none_iff.1 he
    rw [call_of_none he, consume_repository]
    exact statusesBecome_refl rfl fun i a _ => if_neg (not_addresses hnone i)
  | some e =>
    rw [call_of_effect he, commit_state, allot_repository]
    obtain ⟨automation, hfound, rfl⟩ := Option.map_eq_some_iff.1 he
    have hid : (toggledAutomation clock automation).id = automation.id := rfl
    refine statusesBecome_upsertAutomation hfound hid (fun i hi => ?_) fun i hi old => if_neg hi
    rw [if_pos hi]
    exact status_toggledAutomation clock automation

theorem statuses_run (clock : Clock) (automationId : String) (s : Server) :
    StatusesBecome (fun _ status => status) s.repository.state
      (serverStep s (.call clock (.runAutomation automationId))).repository.state := by
  cases he : (StoreOp.runAutomation automationId).effect clock s with
  | none =>
    rw [call_of_none he, consume_repository]
    exact statusesBecome_refl rfl fun _ _ _ => rfl
  | some e =>
    rw [call_of_effect he, commit_state, allot_repository]
    obtain ⟨automation, hfound, rfl⟩ := Option.map_eq_some_iff.1 he
    have hid : (triggeredAutomation clock automation).id = automation.id := rfl
    exact statusesBecome_upsertAutomation hfound hid (fun _ _ => rfl) fun _ _ _ => rfl

/-- In every state of every run of the server, starting from the mock state, each automation has a
next run exactly if it is active and not started by hand; toggling flips the status of the
automation that it addresses and of no other, and running one changes no status. -/
theorem schedules_coherent (steps : List ServerStep) :
    Always serverStep (fun s =>
      (∀ a ∈ s.repository.state.automations,
        (a.nextRunAt.isSome ↔ a.status = .active ∧ a.triggerType ≠ .str "manual")) ∧
      ∀ clock automationId,
        FlipsAddressed automationId s.repository.state
            (serverStep s (.call clock (.toggleAutomation automationId))).repository.state ∧
          StatusesBecome (fun _ status => status) s.repository.state
            (serverStep s (.call clock (.runAutomation automationId))).repository.state)
      initialServer steps := by
  have halways : Always serverStep SchedulesInv initialServer steps :=
    Always.of_step schedulesInv_step schedulesInv_initial steps
  refine halways.imp fun s h => ⟨h.schedules, fun clock automationId => ?_⟩
  exact ⟨flipsAddressed_toggle clock automationId s, statuses_run clock automationId s⟩

end Vertx
