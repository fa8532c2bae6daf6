import Vertx.Domain.AuditLog
import Vertx.Web.Queries

/-!
# The query cache after a mutation

`cache_coherent_iff` says for which mutations the `onSuccess` of the hook covers all the queries
whose responses have changed: not for the three on workflows and runs, which leave the audit log
out, and for those that write the cached automations where the cache agrees with the server.
-/

namespace Vertx

open Repository JsString Keyed

/-! ## Coherence -/

/-- The action makes the cache fetch the key again, or hold this response under it.  A filter
selects the keys that it is a prefix of. -/
def CacheAction.Refreshes (cached : Option (List AutomationSummary)) (key : QueryKey)
    (response : Option ResponseBody) : CacheAction → Prop
  | invalidateQueries queryKey => queryKey <+: key.parts
  | setQueryData queryKey updater =>
    queryKey = key.parts ∧ response = some (.automations (updater cached))

/-- Every key whose response has changed is refreshed by one of the actions, when the cache holds
these automations. -/
def CacheCoherent {δ : Type} [Persist δ] (cached : Option (List AutomationSummary))
    (before after : Store δ) (actions : List CacheAction) : Prop :=
  ∀ key : QueryKey, key.response after ≠ key.response before →
    ∃ action ∈ actions, action.Refreshes cached key (key.response after)

/-- The cached automations agree with the listed ones but for those with this id, of which all
listed after the first are `next` already. -/
def Patchable (id : String) (next : AutomationSummary) (cached listed : List AutomationSummary) :
    Prop :=
  List.Forall₂ (fun c a => c = a ∨ c.id = id ∧ a.id = id) cached listed ∧
    ∀ a ∈ (listed.dropWhile (·.id ≠ id)).tail, a.id = id → a = next

/-- The automation has been run just now: running it leaves it as it is. -/
def AutomationSummary.RunNow (clock : Clock) (a : AutomationSummary) : Prop :=
  a.lastRunAt = some (isoNow clock 0) ∧
    (a.status = .active ∧ a.triggerType ≠ .str "manual" → a.nextRunAt = some (isoNow clock 1))

/-- The mutations that refresh all that they change.  Those that write the cached automations do so
when these agree with what the server lists. -/
def Mutation.Covered {δ : Type} (clock : Clock) (cached : Option (List AutomationSummary))
    (s : Store δ) : Mutation → Prop
  | createWorkflow _ | startWorkflowRun _ | retryWorkflowRun _ => False
  | connectFeishu | updateSettings _ | createKnowledgeSource _ => True
  | createAutomation _ =>
    (cached.getD []).filter (·.id ≠ "automation-" ++ s.automationCounter.repr) =
      s.repository.state.wire.automations
  | toggleAutomation id =>
    ∀ a, (pathId id).bind s.repository.state.getAutomation = some a →
      Patchable a.id (toggledAutomation clock a).wire (cached.getD [])
        s.repository.state.wire.automations
  | runAutomation id =>
    ∀ a, (pathId id).bind s.repository.state.getAutomation = some a → a.RunNow clock ∨
      Patchable a.id (triggeredAutomation clock a).wire (cached.getD [])
        s.repository.state.wire.automations

/-! ## The coherence of the cache -/

variable {clock : Clock} {s next : Server} {op : StoreOp} {e : StoreEffect}
  {cached : Option (List AutomationSummary)} {actions : List CacheAction}

/-- Every operation is logged, so the response to the audit log changes. -/
theorem audit_changed (he : op.effect clock s = some e) :
    QueryKey.auditEventSummaries.response ((op.allot s).commit clock e) ≠
      QueryKey.auditEventSummaries.response s := by
  rw [response_eq, response_eq, commit_state, allot_repository]
  intro hsame
  have hlog := ResponseBody.auditEvents.inj (Option.some.inj hsame)
  have hlength := congrArg List.length hlog
  simp [ProductApiState.prependAuditEvent, auditEvents_effect he] at hlength

/-- The cache is not coherent when no action refreshes the audit log. -/
theorem not_coherent (he : op.effect clock s = some e)
    (hactions : ∀ action ∈ actions, ∃ name rest,
      action = .invalidateQueries (keyName name :: rest) ∧
        keyName name ≠ keyName "audit-event-summaries") :
    ¬ CacheCoherent cached s ((op.allot s).commit clock e) actions := by
  intro h
  obtain ⟨action, hmem, hrefreshes⟩ := h .auditEventSummaries (audit_changed he)
  obtain ⟨name, rest, rfl, hname⟩ := hactions action hmem
  exact hname (List.cons_prefix_cons.1 hrefreshes).1

/-- The cache is coherent when each key is refreshed or its response has stayed. -/
theorem coherent_of_keys
    (h : ∀ key : QueryKey, (∃ action ∈ actions, ∃ queryKey, action = .invalidateQueries queryKey ∧
        queryKey <+: key.parts) ∨
      key.read ((op.allot s).commit clock e).repository.state = key.read s.repository.state) :
    CacheCoherent cached s ((op.allot s).commit clock e) actions := by
  intro key hchanged
  rcases h key with ⟨action, hmem, queryKey, rfl, hparts⟩ | hsame
  · exact ⟨_, hmem, hparts⟩
  · rw [response_eq, response_eq] at hchanged
    exact absurd hsame hchanged

/-- A mutation of automations leaves the other queries alone but for the audit log, so that all
hangs on the automations that it writes to the cache. -/
theorem coherent_automations_iff
    {updater : Option (List AutomationSummary) → List AutomationSummary}
    (hframe : ∀ key : QueryKey, key ≠ .automationSummaries → key ≠ .auditEventSummaries →
      key.read next.repository.state = key.read s.repository.state) :
    CacheCoherent cached s next
        [.setQueryData [keyName "automation-summaries"] updater,
          .invalidateQueries [keyName "audit-event-summaries"]] ↔
      (next.repository.state.wire.automations ≠ s.repository.state.wire.automations →
        updater cached = next.repository.state.wire.automations) := by
  constructor
  · intro h hchanged
    have hresponse : QueryKey.automationSummaries.response next ≠
        QueryKey.automationSummaries.response s := by
      rw [response_eq, response_eq]
      intro hsame
      exact hchanged (ResponseBody.automations.inj (Option.some.inj hsame))
    obtain ⟨action, hmem, hrefreshes⟩ := h .automationSummaries hresponse
    rw [response_eq] at hrefreshes
    rcases List.mem_pair.1 hmem with rfl | rfl
    · exact (ResponseBody.automations.inj (Option.some.inj hrefreshes.2)).symm
    · have hparts : ¬ [keyName "audit-event-summaries"] <+: QueryKey.automationSummaries.parts := by
        decide +kernel
      exact absurd hrefreshes hparts
  · intro h key hchanged
    rw [response_eq, response_eq] at hchanged
    by_cases hautomations : key = .automationSummaries
    · subst hautomations
      refine ⟨_, List.mem_cons_self, rfl, ?_⟩
      rw [response_eq, h fun hsame => hchanged (congrArg (some ∘ ResponseBody.automations) hsame)]
      rfl
    · by_cases haudit : key = .auditEventSummaries
      · subst haudit
        exact ⟨_, List.mem_cons_of_mem _ List.mem_cons_self, List.prefix_rfl⟩
      · exact absurd (hframe key hautomations haudit) hchanged

section Upsert

variable {state : ProductApiState} {automationId : String} {a b : AutomationSummary}

/-- The list that the client reads after an automation is written back. -/
theorem wire_upsertAutomation (state : ProductApiState) (b : AutomationSummary) :
    (state.upsertAutomation b).wire.automations =
      upsertFirst (·.id) (fun _ => b.wire) b.wire state.wire.automations :=
  map_upsertFirst (fun a : AutomationSummary => a.id) (fun _ => rfl) (fun _ => rfl)

theorem find?_wire (h : state.getAutomation automationId = some a) :
    state.wire.automations.find? (·.id = a.id) = some a.wire := by
  have hid : a.id = automationId := by simpa using List.find?_some h
  have hlist : state.wire.automations = state.automations.map (·.wire) := rfl
  rw [hlist, List.find?_map, hid]
  exact congrArg (Option.map _) h

/-- Replacing the automation in the cache gives the new list when the cache can be patched. -/
theorem replaceAutomation_eq_iff (h : state.getAutomation automationId = some a)
    (hid : b.id = a.id) :
    replaceAutomation b.wire cached = (state.upsertAutomation b).wire.automations ↔
      Patchable a.id b.wire (cached.getD []) state.wire.automations := by
  have hfound := find?_wire h
  have hmem : b.wire.id ∈ state.wire.automations.map (·.id) := by
    refine List.mem_map.2 ⟨a.wire, List.mem_of_find?_eq_some hfound, ?_⟩
    exact hid.symm
  rw [wire_upsertAutomation]
  have hiff := @map_replace_eq_upsertFirst_iff _ _ _ (fun a : AutomationSummary => a.id) _ _
    (cached.getD []) hmem
  have hkey : b.wire.id = a.id := hid
  rw [hkey] at hiff
  unfold replaceAutomation
  rw [hkey]
  exact hiff

theorem wire_upsertAutomation_eq_iff (h : state.getAutomation automationId = some a)
    (hid : b.id = a.id) :
    (state.upsertAutomation b).wire.automations = state.wire.automations ↔ b.wire = a.wire := by
  have hkey : b.wire.id = a.id := hid
  rw [wire_upsertAutomation, upsertFirst_eq_self, hkey, find?_wire h]
  simp [eq_comm]

end Upsert

/-- A cache that holds what the server lists can be patched when no two automations share an id. -/
theorem patchable_self {id : String} {next : AutomationSummary} {listed : List AutomationSummary}
    (h : (listed.map (·.id)).Nodup) : Patchable id next listed listed := by
  refine ⟨List.forall₂_same.2 fun _ _ => .inl rfl, fun a ha hid => ?_⟩
  exfalso
  cases hdrop : listed.dropWhile (·.id ≠ id) with
  | nil =>
    rw [hdrop] at ha
    cases ha
  | cons b rest =>
    rw [hdrop] at ha
    have hb : b.id = id := by
      have hne : listed.dropWhile (·.id ≠ id) ≠ [] := by
        rw [hdrop]
        exact List.cons_ne_nil b rest
      have hhead := List.head_dropWhile_not (fun a : AutomationSummary => decide (a.id ≠ id)) hne
      have hfirst : (listed.dropWhile (·.id ≠ id)).head hne = b := by
        simp only [hdrop, List.head_cons]
      rw [hfirst] at hhead
      simpa using hhead
    have hsuffix : b :: rest <:+ listed := hdrop ▸ List.dropWhile_suffix _
    have hnodup := (hsuffix.sublist.map (·.id)).nodup h
    rw [List.map_cons, List.nodup_cons, hb] at hnodup
    exact hnodup.1 (List.mem_map.2 ⟨a, ha, hid⟩)

theorem toggled_wire_ne (clock : Clock) (a : AutomationSummary) :
    (toggledAutomation clock a).wire ≠ a.wire := by
  intro hsame
  have hstatus : (toggledAutomation clock a).wire.status = a.wire.status :=
    congrArg AutomationSummary.status hsame
  change (toggledAutomation clock a).status = a.status at hstatus
  unfold toggledAutomation at hstatus
  cases h : a.status <;> rw [h] at hstatus <;> cases hstatus

theorem triggered_wire_eq_iff (clock : Clock) (a : AutomationSummary) :
    (triggeredAutomation clock a).wire = a.wire ↔ a.RunNow clock := by
  constructor
  · intro hsame
    refine ⟨(congrArg AutomationSummary.lastRunAt hsame).symm, fun hnext => ?_⟩
    have hnextRunAt : (triggeredAutomation clock a).wire.nextRunAt = a.wire.nextRunAt :=
      congrArg AutomationSummary.nextRunAt hsame
    change (triggeredAutomation clock a).nextRunAt = a.nextRunAt at hnextRunAt
    rw [triggeredAutomation, if_pos hnext] at hnextRunAt
    exact hnextRunAt.symm
  · rintro ⟨hlast, hnext⟩
    have hsame : triggeredAutomation clock a = a := by
      unfold triggeredAutomation
      split_ifs with hactive
      · rw [← hlast, ← hnext hactive]
      · rw [← hlast]
    rw [hsame]

/-- A mutation that writes an automation back covers its list when it changes nothing, or when the
cache can be patched. -/
theorem coherent_replace_iff {automationId : String} {a b : AutomationSummary}
    (hfound : s.repository.state.getAutomation automationId = some a) (hid : b.id = a.id)
    (hframe : ∀ key : QueryKey, key ≠ .auditEventSummaries →
      key.read next.repository.state = key.read (s.repository.state.upsertAutomation b)) :
    CacheCoherent cached s next
        [.setQueryData [keyName "automation-summaries"] (replaceAutomation b.wire),
          .invalidateQueries [keyName "audit-event-summaries"]] ↔
      b.wire = a.wire ∨
        Patchable a.id b.wire (cached.getD []) s.repository.state.wire.automations := by
  have hnext : next.repository.state.wire.automations =
      (s.repository.state.upsertAutomation b).wire.automations :=
    ResponseBody.automations.inj (Option.some.inj (hframe .automationSummaries nofun))
  refine (coherent_automations_iff fun key h1 h2 => ?_).trans ?_
  · rw [hframe key h2]
    cases key with
    | automationSummaries => exact absurd rfl h1
    | _ => rfl
  · rw [hnext, ← wire_upsertAutomation_eq_iff hfound hid, ← replaceAutomation_eq_iff hfound hid,
      or_iff_not_imp_left]

/-! ### The mutations -/

section Mutations

variable {result : ResponseBody}

theorem coherent_connectFeishu :
    CacheCoherent cached s ((StoreOp.connectFeishu.allot s).commit clock
      ⟨[(·.upsertConnection (feishuConnection clock s.repository.state))],
        "channel_connection.feishu.connected"⟩) (Mutation.connectFeishu.onSuccess result) := by
  refine coherent_of_keys fun key => ?_
  cases key with
  | channelConnectionSummaries => exact .inl ⟨_, .head _, _, rfl, List.prefix_rfl⟩
  | workbenchSummary => exact .inl ⟨_, .tail _ (.head _), _, rfl, List.prefix_rfl⟩
  | auditEventSummaries => exact .inl ⟨_, .tail _ (.tail _ (.head _)), _, rfl, List.prefix_rfl⟩
  | _ => exact .inr rfl

theorem coherent_updateSettings {input payload : JsValue} :
    CacheCoherent cached s (((StoreOp.updateSettings payload).allot s).commit clock
      ⟨[(·.setSettings (JsValue.merge s.repository.state.settings payload.spread))],
        "settings.updated"⟩) ((Mutation.updateSettings input).onSuccess result) := by
  refine coherent_of_keys fun key => ?_
  cases key with
  | settingsDetail => exact .inl ⟨_, .head _, _, rfl, List.prefix_rfl⟩
  | auditEventSummaries => exact .inl ⟨_, .tail _ (.head _), _, rfl, List.prefix_rfl⟩
  | _ => exact .inr rfl

theorem coherent_createKnowledgeSource {input payload : JsValue} {source : KnowledgeSourceSummary} :
    CacheCoherent cached s (((StoreOp.createKnowledgeSource payload).allot s).commit clock
      ⟨[(·.prependKnowledgeSource source)], "knowledge_source.created"⟩)
      ((Mutation.createKnowledgeSource input).onSuccess result) := by
  refine coherent_of_keys fun key => ?_
  cases key with
  | knowledgeSourceSummaries => exact .inl ⟨_, .head _, _, rfl, List.prefix_rfl⟩
  | auditEventSummaries => exact .inl ⟨_, .tail _ (.head _), _, rfl, List.prefix_rfl⟩
  | _ => exact .inr rfl

theorem coherent_createAutomation_iff {input payload : JsValue} {automation : AutomationSummary}
    (hnew : newAutomation clock ("automation-" ++ s.automationCounter.repr) payload =
      .ok automation)
    (hresult : result.automation? = some automation.wire) :
    CacheCoherent cached s (((StoreOp.createAutomation payload).allot s).commit clock
        ⟨[(·.prependAutomation automation)], "automation.created"⟩)
        ((Mutation.createAutomation input).onSuccess result) ↔
      (Mutation.createAutomation input).Covered clock cached s := by
  have hid : automation.id = "automation-" ++ s.automationCounter.repr := newAutomation_id hnew
  replace hid : automation.wire.id = "automation-" ++ s.automationCounter.repr := hid
  rw [Mutation.onSuccess, hresult]
  refine (coherent_automations_iff fun key h1 h2 => ?_).trans ?_
  · cases key with
    | automationSummaries => exact absurd rfl h1
    | auditEventSummaries => exact absurd rfl h2
    | _ => rfl
  · change (automation.wire :: s.repository.state.wire.automations ≠ _ →
      addAutomation automation.wire cached =
        automation.wire :: s.repository.state.wire.automations) ↔ _
    rw [imp_iff_right (List.cons_ne_self _ _), addAutomation, hid, List.cons.injEq,
      and_iff_right rfl]
    rfl

theorem coherent_toggleAutomation_iff {id : JsString} {automationId : String}
    {a : AutomationSummary} (hid : pathId id = some automationId)
    (hfound : s.repository.state.getAutomation automationId = some a)
    (hresult : result.automation? = some (toggledAutomation clock a).wire) :
    CacheCoherent cached s (((StoreOp.toggleAutomation automationId).allot s).commit clock
        ⟨[(·.upsertAutomation (toggledAutomation clock a))],
          "automation." ++ (toggledAutomation clock a).status.text⟩)
        ((Mutation.toggleAutomation id).onSuccess result) ↔
      (Mutation.toggleAutomation id).Covered clock cached s := by
  have hkeep : (toggledAutomation clock a).id = a.id := rfl
  have hsought : (pathId id).bind s.repository.state.getAutomation = some a := by
    rw [hid, Option.bind_some, hfound]
  rw [Mutation.onSuccess, hresult]
  refine (coherent_replace_iff hfound hkeep fun key h => ?_).trans ?_
  · cases key with
    | auditEventSummaries => exact absurd rfl h
    | _ => rfl
  · simp [Mutation.Covered, hsought, toggled_wire_ne]

theorem coherent_runAutomation_iff {id : JsString} {automationId : String}
    {a : AutomationSummary} (hid : pathId id = some automationId)
    (hfound : s.repository.state.getAutomation automationId = some a)
    (hresult : result.automation? = some (triggeredAutomation clock a).wire) :
    CacheCoherent cached s (((StoreOp.runAutomation automationId).allot s).commit clock
        ⟨[(·.upsertAutomation (triggeredAutomation clock a))], "automation.run.triggered"⟩)
        ((Mutation.runAutomation id).onSuccess result) ↔
      (Mutation.runAutomation id).Covered clock cached s := by
  have hkeep : (triggeredAutomation clock a).id = a.id := rfl
  have hsought : (pathId id).bind s.repository.state.getAutomation = some a := by
    rw [hid, Option.bind_some, hfound]
  rw [Mutation.onSuccess, hresult]
  refine (coherent_replace_iff hfound hkeep fun key h => ?_).trans ?_
  · cases key with
    | auditEventSummaries => exact absurd rfl h
    | _ => rfl
  · simp [Mutation.Covered, hsought, triggered_wire_eq_iff]

end Mutations

/-- After a mutation that succeeds, the `onSuccess` of its hook refreshes every query whose response
has changed exactly if the mutation is none on workflows and runs and, where it writes the cached
automations, these agree with what the server has listed. -/
theorem cache_coherent_iff (clock : Clock) (m : Mutation) (cached : Option (List AutomationSummary))
    {s next : Server} {result : ResponseBody} (h : m.mutate clock s = some (next, result)) :
    CacheCoherent cached s next (m.onSuccess result) ↔ m.Covered clock cached s := by
  obtain ⟨op, e, hop, he, rfl, hresult⟩ := effect_of_mutate h
  cases m with
  | createWorkflow input =>
    refine iff_of_false (not_coherent he fun action hmem => ?_) id
    obtain rfl := List.mem_singleton.1 hmem
    exact ⟨_, _, rfl, by decide +kernel⟩
  | startWorkflowRun id | retryWorkflowRun id =>
    refine iff_of_false (not_coherent he fun action hmem => ?_) not_false
    simp only [Mutation.onSuccess, List.mem_cons, List.not_mem_nil, or_false] at hmem
    rcases hmem with rfl | rfl | rfl
    · exact ⟨_, _, rfl, by decide +kernel⟩
    · exact ⟨_, _, rfl, by decide +kernel⟩
    · exact ⟨_, _, rfl, by decide +kernel⟩
  | connectFeishu =>
    obtain rfl := Option.some.inj hop
    obtain rfl := Option.some.inj he
    exact iff_of_true coherent_connectFeishu trivial
  | updateSettings input =>
    obtain ⟨payload, -, rfl⟩ := Option.map_eq_some_iff.1 hop
    obtain rfl := Option.some.inj he
    exact iff_of_true coherent_updateSettings trivial
  | createKnowledgeSource input =>
    obtain ⟨payload, -, rfl⟩ := Option.map_eq_some_iff.1 hop
    cases does_of_effect he
    exact iff_of_true coherent_createKnowledgeSource trivial
  | createAutomation input =>
    obtain ⟨payload, -, rfl⟩ := Option.map_eq_some_iff.1 hop
    cases does_of_effect he with
    | createAutomation hnew =>
      rw [StoreOp.automation?, hnew] at hresult
      exact coherent_createAutomation_iff hnew hresult
  | toggleAutomation id =>
    obtain ⟨automationId, hid, rfl⟩ := Option.map_eq_some_iff.1 hop
    cases does_of_effect he with
    | toggleAutomation hfound =>
      rw [StoreOp.automation?, hfound] at hresult
      exact coherent_toggleAutomation_iff hid hfound hresult
  | runAutomation id =>
    obtain ⟨automationId, hid, rfl⟩ := Option.map_eq_some_iff.1 hop
    cases does_of_effect he with
    | runAutomation hfound =>
      rw [StoreOp.automation?, hfound] at hresult
      exact coherent_runAutomation_iff hid hfound hresult

/-- The first automation is toggled while the cache holds what the server lists. -/
theorem cache_coherent_toggle :
    ∃ next result,
      (Mutation.toggleAutomation (ofChars "automation-1".toList)).mutate (fun _ => 0)
          initialServer = some (next, result) ∧
        CacheCoherent (some initialServer.repository.state.wire.automations) initialServer next
          ((Mutation.toggleAutomation (ofChars "automation-1".toList)).onSuccess result) := by
  have hsome : ((Mutation.toggleAutomation (ofChars "automation-1".toList)).mutate (fun _ => 0)
      initialServer).isSome := by
    decide +kernel
  obtain ⟨⟨next, result⟩, h⟩ := Option.isSome_iff_exists.1 hsome
  exact ⟨next, result, h,
    (cache_coherent_iff _ _ _ h).2 fun a _ => patchable_self (by decide +kernel)⟩

/-- After a workflow is created, the audit log on the server has an entry that the cache is not told
of. -/
theorem created_workflow_incoherent :
    ∃ next result,
      (Mutation.createWorkflow (.obj [("name", .str "weekly")])).mutate (fun _ => 0) initialServer =
          some (next, result) ∧
        ¬ CacheCoherent (some initialServer.repository.state.wire.automations) initialServer next
          ((Mutation.createWorkflow (.obj [("name", .str "weekly")])).onSuccess result) := by
  have hsome : ((Mutation.createWorkflow (.obj [("name", .str "weekly")])).mutate (fun _ => 0)
      initialServer).isSome := by
    decide +kernel
  obtain ⟨⟨next, result⟩, h⟩ := Option.isSome_iff_exists.1 hsome
  obtain ⟨op, e, -, he, rfl, -⟩ := effect_of_mutate h
  refine ⟨_, result, h, not_coherent he fun action hmem => ?_⟩
  obtain rfl := List.mem_singleton.1 hmem
  exact ⟨_, _, rfl, by decide +kernel⟩

end Vertx
