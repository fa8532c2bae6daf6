import Vertx.Http.Typing

/-!
# Queries and mutations of the web app

Every query of the web app is cached under a key, and every mutation names in its `onSuccess` the
keys to fetch again, or writes the cached automations itself.  A mutation that succeeds performs one
operation of the store, and a query reads one part of its state.
-/

namespace Vertx

open Repository Store JsM JsString

/-! ## Requests -/

def KnowledgeSourceSummary.wire (k : KnowledgeSourceSummary) : KnowledgeSourceSummary :=
  { k with sourceType := k.sourceType.wire }

def AutomationSummary.wire (a : AutomationSummary) : AutomationSummary :=
  { a with triggerType := a.triggerType.wire }

/-- A body as the client reads it from its text. -/
def ResponseBody.wire : ResponseBody → ResponseBody
  | settings s => settings (JsValue.wireFields s)
  | knowledgeSources ks => knowledgeSources (ks.map (·.wire))
  | knowledgeSource k => knowledgeSource k.wire
  | automations as => automations (as.map (·.wire))
  | automation a => automation a.wire
  | body => body

def HttpResponse.ok (response : HttpResponse) : Bool :=
  200 ≤ response.status && response.status < 300

/-- The id that the handler finds in the path of a request: the URL has no such path when the id is
empty, is a dot segment or cannot be escaped. -/
def pathId (id : JsString) : Option String :=
  match encodeURIComponent id with
  | .ok escaped =>
    if escaped = [] ∨ isDotSegment escaped then none else some (JsString.ofChars escaped).text
  | .error _ => none

/-- What `write` makes of its body. -/
def requestBody (input : JsValue) : Option (Except JsError JsValue) :=
  if input = .undefined then none else some (.ok input.wire)

section

variable {δ : Type}

/-- A request that reaches this branch of the handler: the store after it, and what
`readJsonResponse` returns when the response is a success. -/
def request (branch : HandlerM δ Unit) (s : Store δ) : Option (Store δ × ResponseBody) :=
  match branch.run ⟨s, []⟩ with
  | .ok _ ⟨next, [response]⟩ => if response.ok then some (next, response.body.wire) else none
  | _ => none

end

/-! ## Queries -/

/-- The keys of the queries. -/
inductive QueryKey
  | workbenchSummary
  | workflowSummaries
  | workflowDetail (workflowId : JsString)
  | workflowRunSummaries
  | workflowRunDetail (runId : JsString)
  | sessionSummaries
  | sessionDetail (sessionId : JsString)
  | channelConnectionSummaries
  | settingsDetail
  | auditEventSummaries
  | knowledgeSourceSummaries
  | automationSummaries
  deriving DecidableEq, Repr

def keyName (name : String) : JsString := JsString.ofChars name.toList

/-- The key as the array that the query cache knows it by. -/
def QueryKey.parts : QueryKey → List JsString
  | workbenchSummary => [keyName "workbench-summary"]
  | workflowSummaries => [keyName "workflow-summaries"]
  | workflowDetail workflowId => [keyName "workflow-detail", workflowId]
  | workflowRunSummaries => [keyName "workflow-run-summaries"]
  | workflowRunDetail runId => [keyName "workflow-run-detail", runId]
  | sessionSummaries => [keyName "session-summaries"]
  | sessionDetail sessionId => [keyName "session-detail", sessionId]
  | channelConnectionSummaries => [keyName "channel-connection-summaries"]
  | settingsDetail => [keyName "settings-detail"]
  | auditEventSummaries => [keyName "audit-event-summaries"]
  | knowledgeSourceSummaries => [keyName "knowledge-source-summaries"]
  | automationSummaries => [keyName "automation-summaries"]

section

variable {δ : Type} [Persist δ]

/-- The branch of the handler that the `queryFn` of the key reaches; a query reads no clock. -/
def QueryKey.branch : QueryKey → Option (HandlerM δ Unit)
  | workbenchSummary => some (answer (fun _ => 0) none .getWorkbenchSummary)
  | workflowSummaries => some (answer (fun _ => 0) none .listWorkflows)
  | workflowDetail id => (pathId id).map (answerEntity (fun _ => 0) · .getWorkflowDetail)
  | workflowRunSummaries => some (answer (fun _ => 0) none .listRuns)
  | workflowRunDetail id => (pathId id).map (answerEntity (fun _ => 0) · .getRunDetail)
  | sessionSummaries => some (answer (fun _ => 0) none .listSessions)
  | sessionDetail id => (pathId id).map (answerEntity (fun _ => 0) · .getSessionDetail)
  | channelConnectionSummaries => some (answer (fun _ => 0) none .listConnections)
  | settingsDetail => some (answer (fun _ => 0) none .getSettings)
  | auditEventSummaries => some (answer (fun _ => 0) none .listAuditEvents)
  | knowledgeSourceSummaries => some (answer (fun _ => 0) none .listKnowledgeSources)
  | automationSummaries => some (answer (fun _ => 0) none .listAutomations)

/-- The response to the query; none when it fails. -/
def QueryKey.response (s : Store δ) (key : QueryKey) : Option ResponseBody :=
  (key.branch.bind (request · s)).map (·.2)

end

/-! ## Mutations -/

/-- A mutation of the hooks, with its argument. -/
inductive Mutation
  | createWorkflow (input : JsValue)
  | startWorkflowRun (workflowId : JsString)
  | retryWorkflowRun (runId : JsString)
  | connectFeishu
  | updateSettings (input : JsValue)
  | createKnowledgeSource (input : JsValue)
  | createAutomation (input : JsValue)
  | toggleAutomation (automationId : JsString)
  | runAutomation (automationId : JsString)
  deriving DecidableEq, Repr

/-- What `onSuccess` does to the query cache.  Only automations are written to it. -/
inductive CacheAction
  | invalidateQueries (queryKey : List JsString)
  | setQueryData (queryKey : List JsString)
      (updater : Option (List AutomationSummary) → List AutomationSummary)

/-- The automation that a mutation has returned. -/
def ResponseBody.automation? : ResponseBody → Option AutomationSummary
  | automation a => some a
  | _ => none

/-- `(current ?? []).map((item) => (item.id === automation.id ? automation : item))`. -/
def replaceAutomation (automation : AutomationSummary) (current : Option (List AutomationSummary)) :
    List AutomationSummary :=
  (current.getD []).map fun item => if item.id = automation.id then automation else item

/-- `[automation, ...(current ?? []).filter((item) => item.id !== automation.id)]`. -/
def addAutomation (automation : AutomationSummary) (current : Option (List AutomationSummary)) :
    List AutomationSummary :=
  automation :: (current.getD []).filter (·.id ≠ automation.id)

namespace Mutation

def onSuccess (result : ResponseBody) : Mutation → List CacheAction
  | createWorkflow _ => [.invalidateQueries [keyName "workflow-summaries"]]
  | startWorkflowRun workflowId => [
      .invalidateQueries [keyName "workflow-run-summaries"],
      .invalidateQueries [keyName "workflow-detail", workflowId],
      .invalidateQueries [keyName "workbench-summary"]]
  | retryWorkflowRun runId => [
      .invalidateQueries [keyName "workflow-run-summaries"],
      .invalidateQueries [keyName "workflow-run-detail", runId],
      .invalidateQueries [keyName "workbench-summary"]]
  | connectFeishu => [
      .invalidateQueries [keyName "channel-connection-summaries"],
      .invalidateQueries [keyName "workbench-summary"],
      .invalidateQueries [keyName "audit-event-summaries"]]
  | updateSettings _ => [
      .invalidateQueries [keyName "settings-detail"],
      .invalidateQueries [keyName "audit-event-summaries"]]
  | createKnowledgeSource _ => [
      .invalidateQueries [keyName "knowledge-source-summaries"],
      .invalidateQueries [keyName "audit-event-summaries"]]
  | createAutomation _ =>
    (result.automation?.map fun a =>
      .setQueryData [keyName "automation-summaries"] (addAutomation a)).toList ++
      [.invalidateQueries [keyName "audit-event-summaries"]]
  | toggleAutomation _ | runAutomation _ =>
    (result.automation?.map fun a =>
      .setQueryData [keyName "automation-summaries"] (replaceAutomation a)).toList ++
      [.invalidateQueries [keyName "audit-event-summaries"]]

variable {δ : Type} [Persist δ]

/-- The branch of the handler that the `mutationFn` reaches. -/
def branch (clock : Clock) : Mutation → Option (HandlerM δ Unit)
  | createWorkflow input => some (answer clock (requestBody input) .createWorkflow)
  | startWorkflowRun id => (pathId id).map (answerEntity clock · .startWorkflowRun)
  | retryWorkflowRun id => (pathId id).map (answerEntity clock · .retryRun)
  | connectFeishu => some (answer clock none .connectFeishu)
  | updateSettings input => some (answer clock (requestBody input) .updateSettings)
  | createKnowledgeSource input => some (answer clock (requestBody input) .createKnowledgeSource)
  | createAutomation input => some (answer clock (requestBody input) .createAutomation)
  | toggleAutomation id => (pathId id).map (answerEntity clock · .toggleAutomation)
  | runAutomation id => (pathId id).map (answerEntity clock · .runAutomation)

/-- The store after the mutation and what it returns, when it succeeds. -/
def mutate (clock : Clock) (m : Mutation) (s : Store δ) : Option (Store δ × ResponseBody) :=
  (m.branch clock).bind (request · s)

end Mutation

/-! ## What a mutation does -/

/-- The store operation that a mutation makes the server perform. -/
def Mutation.storeOp? : Mutation → Option StoreOp
  | createWorkflow input => (bodyValue? (requestBody input)).map .createWorkflow
  | startWorkflowRun id => (pathId id).map .startWorkflowRun
  | retryWorkflowRun id => (pathId id).map .retryRun
  | connectFeishu => some .connectFeishu
  | updateSettings input => (bodyValue? (requestBody input)).map .updateSettings
  | createKnowledgeSource input => (bodyValue? (requestBody input)).map .createKnowledgeSource
  | createAutomation input => (bodyValue? (requestBody input)).map .createAutomation
  | toggleAutomation id => (pathId id).map .toggleAutomation
  | runAutomation id => (pathId id).map .runAutomation

section

variable {δ : Type} {α : Type}

theorem run_onStore_writeJson (p : StoreM δ α) (status : ℕ) (f : α → ResponseBody) (s : Store δ) :
    (onStore p >>= fun a => writeJson status (f a)).run ⟨s, []⟩ = match p.run s with
      | .ok a s' => .ok () ⟨s', [⟨status, f a⟩]⟩
      | .error e s' => .error e ⟨s', []⟩ := by
  rw [EStateM.run_bind, run_onStore]
  cases p.run s <;> rfl

/-- A branch that passes the result of the store on. -/
theorem request_onStore {p : StoreM δ α} {status : ℕ} {f : α → ResponseBody} {s next : Store δ}
    {result : ResponseBody}
    (h : request (onStore p >>= fun a => writeJson status (f a)) s = some (next, result)) :
    ∃ a, p.run s = .ok a next ∧ result = (f a).wire := by
  rw [request, run_onStore_writeJson] at h
  cases hp : p.run s with
  | error e s' =>
    rw [hp] at h
    cases h
  | ok a s' =>
    rw [hp] at h
    obtain ⟨-, h⟩ := Option.ite_none_right_eq_some.1 h
    cases h
    exact ⟨a, rfl, rfl⟩

/-- A branch that passes its body to the store and the result on. -/
theorem request_withBody {body : Option (Except JsError JsValue)} {p : JsValue → StoreM δ α}
    {status : ℕ} {f : α → ResponseBody} {s next : Store δ} {result : ResponseBody}
    (h : request (readJsonBody body >>= fun payload => onStore (p payload) >>= fun a =>
      writeJson status (f a)) s = some (next, result)) :
    ∃ payload a, bodyValue? body = some payload ∧ (p payload).run s = .ok a next ∧
      result = (f a).wire := by
  rcases body with - | (e | payload)
  · obtain ⟨a, hrun, hresult⟩ := request_onStore (p := p (.obj [])) h
    exact ⟨_, a, rfl, hrun, hresult⟩
  · cases h
  · obtain ⟨a, hrun, hresult⟩ := request_onStore (p := p payload) h
    exact ⟨_, a, rfl, hrun, hresult⟩

theorem run_onStore_writeFound (p : StoreM δ (Option α)) (status : ℕ) (f : α → ResponseBody)
    (s : Store δ) :
    (onStore p >>= fun found => writeFound status (found.map f)).run ⟨s, []⟩ =
      match p.run s with
      | .ok (some a) s' => .ok () ⟨s', [⟨status, f a⟩]⟩
      | .ok none s' => .ok () ⟨s', [⟨404, .notFound⟩]⟩
      | .error e s' => .error e ⟨s', []⟩ := by
  rw [EStateM.run_bind, run_onStore]
  rcases p.run s with ⟨- | a, s'⟩ | ⟨e, s'⟩ <;> rfl

/-- A branch that answers that it has found nothing does not succeed. -/
theorem request_found {p : StoreM δ (Option α)} {status : ℕ} {f : α → ResponseBody}
    {s next : Store δ} {result : ResponseBody}
    (h : request (onStore p >>= fun found => writeFound status (found.map f)) s =
      some (next, result)) :
    ∃ a, p.run s = .ok (some a) next ∧ result = (f a).wire := by
  rw [request, run_onStore_writeFound] at h
  rcases hp : p.run s with ⟨- | a, s'⟩ | ⟨e, s'⟩
  · rw [hp] at h
    cases h
  · rw [hp] at h
    obtain ⟨-, h⟩ := Option.ite_none_right_eq_some.1 h
    cases h
    exact ⟨a, rfl, rfl⟩
  · rw [hp] at h
    cases h

variable [Persist δ] [ReliablePersist δ]

/-- What an operation returns after its write and its audit entry. -/
theorem returned_of_run {f : ProductApiState → ProductApiState} {clock : Clock} {action : String}
    {s next : Store δ} {x a : α}
    (h : (onRepository (mutate f) >>= fun _ => appendAuditEvent clock action .info >>= fun _ =>
      (pure x : StoreM δ α)).run s = .ok a next) : x = a := by
  simp only [EStateM.run_bind, run_onRepository_mutate, run_appendAuditEvent, EStateM.run_pure,
    EStateM.Result.ok.injEq] at h
  exact h.1

/-- An operation that makes a record succeeds when it can make it, and returns it. -/
theorem made_of_run {g : Store δ → ℕ × Store δ} {make : ℕ → Except JsError α}
    {write : α → ProductApiState → ProductApiState} {clock : Clock} {action : String}
    {s next : Store δ} {a : α}
    (h : (modifyGet g >>= fun counter => JsM.ofExcept (make counter) >>= fun a =>
      onRepository (mutate (write a)) >>= fun _ => appendAuditEvent clock action .info >>= fun _ =>
        (pure a : StoreM δ α)).run s = .ok a next) : make (g s).1 = .ok a := by
  rw [EStateM.run_bind, EStateM.run_modifyGet] at h
  dsimp only at h
  cases hmake : make (g s).1 with
  | error e =>
    rw [hmake, EStateM.run_bind, run_ofExcept_error] at h
    cases h
  | ok b =>
    rw [hmake, EStateM.run_bind, run_ofExcept_ok] at h
    rw [returned_of_run h]

omit [Persist δ] [ReliablePersist δ] in
/-- An operation that looks a record up succeeds when it finds one. -/
theorem found_of_run {β : Type} {get : ProductApiState → Option β}
    {k : Option β → StoreM δ (Option α)}
    {s next : Store δ} {a : α} (h : (onRepository (read get) >>= k).run s = .ok (some a) next)
    (hnone : k none = pure none) :
    ∃ b, get s.repository.state = some b ∧ (k (some b)).run s = .ok (some a) next := by
  rw [EStateM.run_bind, run_onRepository_read] at h
  dsimp only at h
  cases hget : get s.repository.state with
  | none =>
    rw [hget, hnone] at h
    cases h
  | some b =>
    rw [hget] at h
    exact ⟨b, rfl, h⟩

/-- The store after an operation that ends without an exception. -/
theorem next_of_run {clock : Clock} {op : StoreOp} {p : StoreM δ α}
    (hp : op.perform clock = p >>= fun _ => pure ()) {s next : Store δ} {a : α}
    (h : p.run s = .ok a next) {e : StoreEffect} (he : op.effect clock s = some e) :
    next = (op.allot s).commit clock e := by
  have hafter := stateAfter_perform clock op s
  rw [hp, stateAfter_discard, he] at hafter
  refine Eq.trans ?_ hafter
  rw [stateAfter, h]

omit [Persist δ] [ReliablePersist δ] in
/-- The automation that an operation returns. -/
def StoreOp.automation? (clock : Clock) (s : Store δ) : StoreOp → Option AutomationSummary
  | createAutomation input =>
    (newAutomation clock ("automation-" ++ s.automationCounter.repr) input).toOption
  | toggleAutomation automationId =>
    (s.repository.state.getAutomation automationId).map (toggledAutomation clock)
  | runAutomation automationId =>
    (s.repository.state.getAutomation automationId).map (triggeredAutomation clock)
  | _ => none

/-- A mutation that succeeds has performed its operation, and returns the automation if there is
one. -/
theorem effect_of_mutate {clock : Clock} {m : Mutation} {s next : Store δ} {result : ResponseBody}
    (h : m.mutate clock s = some (next, result)) :
    ∃ op e, m.storeOp? = some op ∧ op.effect clock s = some e ∧
      next = (op.allot s).commit clock e ∧
      result.automation? = (op.automation? clock s).map (·.wire) := by
  cases m with
  | createWorkflow input =>
    obtain ⟨payload, workflow, hpayload, hrun, rfl⟩ :=
      request_withBody (p := Store.createWorkflow clock) h
    have hnew := made_of_run hrun
    have he : (StoreOp.createWorkflow payload).effect clock s =
        some ⟨[(·.prependWorkflow workflow)], "workflow.created"⟩ := by
      dsimp only at hnew
      rw [StoreOp.effect, hnew]
    exact ⟨_, _, congrArg (Option.map _) hpayload, he, next_of_run rfl hrun he, rfl⟩
  | startWorkflowRun id =>
    obtain ⟨branch, hbranch, h⟩ := Option.bind_eq_some_iff.1 h
    obtain ⟨workflowId, hid, rfl⟩ := Option.map_eq_some_iff.1 hbranch
    obtain ⟨run, hrun, rfl⟩ := request_found (p := Store.startWorkflowRun clock workflowId) h
    obtain ⟨workflow, hfound, -⟩ := found_of_run hrun rfl
    have he : (StoreOp.startWorkflowRun workflowId).effect clock s =
        some (runEffect clock s workflow "workflow.run.started") := by
      rw [StoreOp.effect, hfound, Option.map_some]
    exact ⟨_, _, congrArg (Option.map _) hid, he, next_of_run rfl hrun he, rfl⟩
  | retryWorkflowRun id =>
    obtain ⟨branch, hbranch, h⟩ := Option.bind_eq_some_iff.1 h
    obtain ⟨runId, hid, rfl⟩ := Option.map_eq_some_iff.1 hbranch
    obtain ⟨run, hrun, rfl⟩ := request_found (p := Store.retryRun clock runId) h
    obtain ⟨runDetail, hdetail, hrest⟩ := found_of_run hrun rfl
    obtain ⟨workflow, hfound, -⟩ := found_of_run hrest rfl
    have he : (StoreOp.retryRun runId).effect clock s =
        some (runEffect clock s workflow "workflow.run.retried") := by
      rw [StoreOp.effect, hdetail, Option.bind_some, hfound, Option.map_some]
    exact ⟨_, _, congrArg (Option.map _) hid, he, next_of_run rfl hrun he, rfl⟩
  | connectFeishu =>
    obtain ⟨connection, hrun, rfl⟩ := request_onStore (p := Store.connectFeishu clock) h
    have hperform : StoreOp.connectFeishu.perform clock =
        (Store.connectFeishu clock : StoreM δ ChannelConnectionSummary) >>= fun _ => pure () := rfl
    exact ⟨_, _, rfl, rfl, next_of_run hperform hrun rfl, rfl⟩
  | updateSettings input =>
    obtain ⟨payload, settings, hpayload, hrun, rfl⟩ :=
      request_withBody (p := Store.updateSettings clock) h
    have hperform : (StoreOp.updateSettings payload).perform clock =
        (Store.updateSettings clock payload : StoreM δ SettingsDetail) >>= fun _ => pure () := rfl
    exact ⟨_, _, congrArg (Option.map _) hpayload, rfl, next_of_run hperform hrun rfl, rfl⟩
  | createKnowledgeSource input =>
    obtain ⟨payload, source, hpayload, hrun, rfl⟩ :=
      request_withBody (p := Store.createKnowledgeSource clock) h
    have hnew := made_of_run hrun
    have he : (StoreOp.createKnowledgeSource payload).effect clock s =
        some ⟨[(·.prependKnowledgeSource source)], "knowledge_source.created"⟩ := by
      dsimp only at hnew
      rw [StoreOp.effect, hnew]
    exact ⟨_, _, congrArg (Option.map _) hpayload, he, next_of_run rfl hrun he, rfl⟩
  | createAutomation input =>
    obtain ⟨payload, automation, hpayload, hrun, rfl⟩ :=
      request_withBody (p := Store.createAutomation clock) h
    have hnew := made_of_run hrun
    dsimp only at hnew
    have he : (StoreOp.createAutomation payload).effect clock s =
        some ⟨[(·.prependAutomation automation)], "automation.created"⟩ := by
      rw [StoreOp.effect, hnew]
    refine ⟨_, _, congrArg (Option.map _) hpayload, he, next_of_run rfl hrun he, ?_⟩
    rw [StoreOp.automation?, hnew]
    rfl
  | toggleAutomation id =>
    obtain ⟨branch, hbranch, h⟩ := Option.bind_eq_some_iff.1 h
    obtain ⟨automationId, hid, rfl⟩ := Option.map_eq_some_iff.1 hbranch
    obtain ⟨next', hrun, rfl⟩ := request_found (p := Store.toggleAutomation clock automationId) h
    obtain ⟨automation, hfound, hrest⟩ := found_of_run hrun rfl
    obtain rfl := Option.some.inj (returned_of_run hrest)
    have he : (StoreOp.toggleAutomation automationId).effect clock s =
        some ⟨[(·.upsertAutomation (toggledAutomation clock automation))],
          "automation." ++ (toggledAutomation clock automation).status.text⟩ :=
      congrArg (Option.map _) hfound
    refine ⟨_, _, congrArg (Option.map _) hid, he, next_of_run rfl hrun he, ?_⟩
    rw [StoreOp.automation?, hfound]
    rfl
  | runAutomation id =>
    obtain ⟨branch, hbranch, h⟩ := Option.bind_eq_some_iff.1 h
    obtain ⟨automationId, hid, rfl⟩ := Option.map_eq_some_iff.1 hbranch
    obtain ⟨next', hrun, rfl⟩ := request_found (p := Store.runAutomation clock automationId) h
    obtain ⟨automation, hfound, hrest⟩ := found_of_run hrun rfl
    obtain rfl := Option.some.inj (returned_of_run hrest)
    have he : (StoreOp.runAutomation automationId).effect clock s =
        some ⟨[(·.upsertAutomation (triggeredAutomation clock automation))],
          "automation.run.triggered"⟩ :=
      congrArg (Option.map _) hfound
    refine ⟨_, _, congrArg (Option.map _) hid, he, next_of_run rfl hrun he, ?_⟩
    rw [StoreOp.automation?, hfound]
    rfl

end

/-! ## What a query reads -/

/-- What the query reads off the state. -/
def QueryKey.read (state : ProductApiState) : QueryKey → Option ResponseBody
  | workbenchSummary => some (.workbench (computeWorkbenchFromRepository state))
  | workflowSummaries => some (.workflows state.workflows)
  | workflowDetail id => ((pathId id).bind state.getWorkflowDetail).map .workflow
  | workflowRunSummaries => some (.runs state.runs)
  | workflowRunDetail id => ((pathId id).bind state.getRunDetail).map .run
  | sessionSummaries => some (.sessions state.sessions)
  | sessionDetail id => ((pathId id).bind state.getSessionDetail).map .session
  | channelConnectionSummaries => some (.connections state.connections)
  | settingsDetail => some (.settings state.wire.settings)
  | auditEventSummaries => some (.auditEvents state.auditEvents)
  | knowledgeSourceSummaries => some (.knowledgeSources state.wire.knowledgeSources)
  | automationSummaries => some (.automations state.wire.automations)

/-- A query for one record, whose text the client reads back. -/
theorem response_detail {δ α : Type} {get : String → ProductApiState → Option α}
    {f : α → ResponseBody} (hwire : ∀ a, (f a).wire = f a) {branch : String → HandlerM δ Unit}
    (hbranch : ∀ id, branch id = onState (get id) >>= fun found => writeFound 200 (found.map f))
    (id : Option String) (s : Store δ) :
    ((id.map branch).bind (request · s)).map (·.2) =
      (id.bind (get · s.repository.state)).map f := by
  cases id with
  | none => rfl
  | some id =>
    rw [Option.map_some, Option.bind_some, Option.bind_some, hbranch, request, EStateM.run_bind]
    have hread : (onState (get id) : HandlerM δ (Option α)).run ⟨s, []⟩ =
        .ok (get id s.repository.state) ⟨s, []⟩ := rfl
    rw [hread]
    cases get id s.repository.state with
    | none => rfl
    | some a => exact congrArg some (hwire a)

theorem response_eq {δ : Type} [Persist δ] (s : Store δ) (key : QueryKey) :
    key.response s = key.read s.repository.state := by
  cases key with
  | workflowDetail id => exact response_detail (fun _ => rfl) (fun _ => rfl) (pathId id) s
  | workflowRunDetail id => exact response_detail (fun _ => rfl) (fun _ => rfl) (pathId id) s
  | sessionDetail id => exact response_detail (fun _ => rfl) (fun _ => rfl) (pathId id) s
  | _ => rfl

end Vertx
