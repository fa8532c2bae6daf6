import Vertx.Domain.Store
import Vertx.Http.RoundTrip

/-!
# Answering requests

The whole request handler of the product API server, with the store it calls and the responses it
writes.  The target is parsed before the `try` block, everything that reads the body or calls the
store stands inside it.  A request gets exactly one response when its target can be parsed, and
none otherwise.
-/

namespace Vertx

open Repository

/-- The configuration of the handler. -/
structure HandlerConfig extends ProductApiServerConfig where
  workspaceId : String
  serverVersion : String

/-- A request: `body` is none when there are no bytes, else what `JSON.parse` makes of them. -/
structure HttpRequest where
  method : HttpMethod
  target : List Char
  body : Option (Except JsError JsValue)

inductive ResponseBody
  | empty
  | health (workspaceId version : String)
  | notFound
  | failed (error : JsError)
  | workbench (workbench : WorkbenchSummary)
  | workflows (workflows : List WorkflowSummary)
  | workflow (workflow : WorkflowDetail)
  | runs (runs : List WorkflowRunSummary)
  | run (run : WorkflowRunDetail)
  | sessions (sessions : List SessionSummary)
  | session (session : SessionDetail)
  | connections (connections : List ChannelConnectionSummary)
  | connection (connection : ChannelConnectionSummary)
  | settings (settings : SettingsDetail)
  | knowledgeSources (knowledgeSources : List KnowledgeSourceSummary)
  | knowledgeSource (knowledgeSource : KnowledgeSourceSummary)
  | automations (automations : List AutomationSummary)
  | automation (automation : AutomationSummary)
  | auditEvents (auditEvents : List AuditEventSummary)
  deriving DecidableEq, Repr

structure HttpResponse where
  status : ℕ
  body : ResponseBody
  deriving DecidableEq, Repr

/-- What a run of the handler works on: the store, and the responses written to its request. -/
structure Exchange (δ : Type) where
  store : Store δ
  written : List HttpResponse

abbrev HandlerM (δ : Type) := JsM (Exchange δ)

section

variable {δ : Type} {α : Type}

/-- `writeHead` and `end`; the headers of a response can be written once. -/
def writeJson (status : ℕ) (body : ResponseBody) : HandlerM δ Unit := fun x =>
  match x.written with
  | [] => .ok () { x with written := [⟨status, body⟩] }
  | _ => .error (.error "Cannot write headers after they are sent to the client") x

def notFound : HandlerM δ Unit := writeJson 404 .notFound

/-- A call of the store. -/
def onStore (p : StoreM δ α) : HandlerM δ α := fun x =>
  match p.run x.store with
  | .ok a s => .ok a { x with store := s }
  | .error e s => .error e { x with store := s }

/-- A call of the store that only reads. -/
def onState (f : ProductApiState → α) : HandlerM δ α := do
  return f (← get).store.repository.state

def readJsonBody (body : Option (Except JsError JsValue)) : HandlerM δ JsValue :=
  match body with
  | none => return .obj []
  | some parsed => JsM.ofExcept parsed

def computeWorkbenchFromRepository (state : ProductApiState) : WorkbenchSummary :=
  { state.workbench with
    recentRuns := state.runs.length
    recentSessions := state.sessions.length
    connectedChannels := (state.connections.filter (·.status = .connected)).length }

/-- Writes what was found, or the answer that nothing was. -/
def writeFound (status : ℕ) (found : Option ResponseBody) : HandlerM δ Unit :=
  match found with
  | none => notFound
  | some body => writeJson status body

/-- The id in a path, which consists of ASCII characters. -/
def JsString.text (id : JsString) : String := String.ofList (id.map JsString.unitChar)

variable [Persist δ]

/-- The branches of the handler for one entity. -/
def answerEntity (clock : Clock) (id : String) : EntityOp → HandlerM δ Unit
  | .getWorkflowDetail => do
    writeFound 200 ((← onState (·.getWorkflowDetail id)).map .workflow)
  | .startWorkflowRun => do
    writeFound 201 ((← onStore (Store.startWorkflowRun clock id)).map .run)
  | .getRunDetail => do
    writeFound 200 ((← onState (·.getRunDetail id)).map .run)
  | .retryRun => do
    writeFound 201 ((← onStore (Store.retryRun clock id)).map .run)
  | .getSessionDetail => do
    writeFound 200 ((← onState (·.getSessionDetail id)).map .session)
  | .toggleAutomation => do
    writeFound 200 ((← onStore (Store.toggleAutomation clock id)).map .automation)
  | .runAutomation => do
    writeFound 200 ((← onStore (Store.runAutomation clock id)).map .automation)

/-- The branches of the handler inside the `try` block. -/
def answer (clock : Clock) (body : Option (Except JsError JsValue)) : ApiCall → HandlerM δ Unit
  | .getWorkbenchSummary => do
    writeJson 200 (.workbench (← onState computeWorkbenchFromRepository))
  | .listWorkflows => do writeJson 200 (.workflows (← onState (·.workflows)))
  | .createWorkflow => do
    let payload ← readJsonBody body
    writeJson 201 (.workflow (← onStore (Store.createWorkflow clock payload)))
  | .listRuns => do writeJson 200 (.runs (← onState (·.runs)))
  | .listSessions => do writeJson 200 (.sessions (← onState (·.sessions)))
  | .listConnections => do writeJson 200 (.connections (← onState (·.connections)))
  | .connectFeishu => do writeJson 200 (.connection (← onStore (Store.connectFeishu clock)))
  | .getSettings => do writeJson 200 (.settings (← onState (·.settings)))
  | .updateSettings => do
    let payload ← readJsonBody body
    writeJson 200 (.settings (← onStore (Store.updateSettings clock payload)))
  | .listKnowledgeSources => do
    writeJson 200 (.knowledgeSources (← onState (·.knowledgeSources)))
  | .createKnowledgeSource => do
    let payload ← readJsonBody body
    writeJson 201 (.knowledgeSource (← onStore (Store.createKnowledgeSource clock payload)))
  | .listAutomations => do writeJson 200 (.automations (← onState (·.automations)))
  | .createAutomation => do
    let payload ← readJsonBody body
    writeJson 201 (.automation (← onStore (Store.createAutomation clock payload)))
  | .listAuditEvents => do writeJson 200 (.auditEvents (← onState (·.auditEvents)))
  | .entity op id => answerEntity clock id.text op

/-- The request handler of `startProductApiServer`. -/
def handleRequest (parser : UrlParser) (config : HandlerConfig) (clock : Clock)
    (request : HttpRequest) : HandlerM δ Unit :=
  match handle parser config.toProductApiServerConfig request.method request.target with
  | none => throw .typeError
  | some .preflight => writeJson 204 .empty
  | some .health => writeJson 200 (.health config.workspaceId config.serverVersion)
  | some .notFound => notFound
  | some (.call call) =>
    tryCatch (answer clock request.body call) fun e => writeJson 500 (.failed e)

end

/-! ## One response -/

section

variable {δ : Type} {α β : Type}

/-- The program writes no response. -/
def Silent (p : HandlerM δ α) : Prop :=
  ∀ x, match p.run x with
    | .ok _ y | .error _ y => y.written = x.written

/-- Before anything is written, the program writes one response, or throws and writes none. -/
def WritesOnce (p : HandlerM δ Unit) : Prop :=
  ∀ x, x.written = [] → match p.run x with
    | .ok _ y => ∃ response, y.written = [response]
    | .error _ y => y.written = []

theorem run_onStore (p : StoreM δ α) (x : Exchange δ) :
    (onStore p).run x = match p.run x.store with
      | .ok a s => .ok a { x with store := s }
      | .error e s => .error e { x with store := s } := rfl

theorem silent_onStore (p : StoreM δ α) : Silent (onStore p) := by
  intro x
  rw [run_onStore]
  cases p.run x.store <;> rfl

theorem silent_onState (f : ProductApiState → α) : Silent (onState f : HandlerM δ α) :=
  fun _ => rfl

theorem silent_readJsonBody (body : Option (Except JsError JsValue)) :
    Silent (readJsonBody body : HandlerM δ JsValue) := by
  intro x
  cases body with
  | none => rfl
  | some parsed => cases parsed <;> rfl

theorem writesOnce_writeJson (status : ℕ) (body : ResponseBody) :
    WritesOnce (writeJson status body : HandlerM δ Unit) := by
  intro x hx
  simp only [EStateM.run, writeJson, hx]
  exact ⟨_, rfl⟩

theorem writesOnce_writeFound (status : ℕ) (found : Option ResponseBody) :
    WritesOnce (writeFound status found : HandlerM δ Unit) := by
  cases found with
  | none => exact writesOnce_writeJson 404 .notFound
  | some body => exact writesOnce_writeJson status body

/-- A response may come after steps that write none. -/
theorem Silent.bind {p : HandlerM δ α} {k : α → HandlerM δ Unit} (hp : Silent p)
    (hk : ∀ a, WritesOnce (k a)) : WritesOnce (p >>= k) := by
  intro x hx
  have hpx := hp x
  rw [EStateM.run_bind]
  cases h : p.run x with
  | error e y =>
    rw [h] at hpx
    exact hpx.trans hx
  | ok a y =>
    rw [h] at hpx
    exact hk a y (hpx.trans hx)

/-- The handler of an exception writes the response that is missing. -/
theorem WritesOnce.tryCatch {p : HandlerM δ Unit} (hp : WritesOnce p) (status : ℕ)
    (body : JsError → ResponseBody) {x : Exchange δ} (hx : x.written = []) :
    ∃ y response, (tryCatch p fun e => writeJson status (body e)).run x = .ok () y ∧
      y.written = [response] := by
  have hpx := hp x hx
  have hrun : (MonadExcept.tryCatch p fun e => writeJson status (body e)).run x =
      match p.run x with
      | .ok a y => .ok a y
      | .error e y => (writeJson status (body e)).run y := by
    change EStateM.tryCatch p _ x = match p x with | .ok a y => _ | .error e y => _
    unfold EStateM.tryCatch
    cases p x <;> rfl
  cases h : p.run x with
  | ok a y =>
    rw [h] at hpx hrun
    obtain ⟨response, hy⟩ := hpx
    exact ⟨y, response, hrun, hy⟩
  | error e y =>
    rw [h] at hpx hrun
    have hy : y.written = [] := hpx
    refine ⟨{ y with written := [⟨status, body e⟩] }, _, hrun.trans ?_, rfl⟩
    simp only [EStateM.run, writeJson, hy]

variable [Persist δ]

theorem writesOnce_answerEntity (clock : Clock) (id : String) (op : EntityOp) :
    WritesOnce (answerEntity clock id op : HandlerM δ Unit) := by
  cases op
  case getWorkflowDetail | getRunDetail | getSessionDetail =>
    exact (silent_onState _).bind fun _ => writesOnce_writeFound _ _
  all_goals exact (silent_onStore _).bind fun _ => writesOnce_writeFound _ _

theorem writesOnce_answer (clock : Clock) (body : Option (Except JsError JsValue))
    (call : ApiCall) :
    WritesOnce (answer clock body call : HandlerM δ Unit) := by
  cases call
  case entity op id => exact writesOnce_answerEntity clock id.text op
  case connectFeishu => exact (silent_onStore _).bind fun _ => writesOnce_writeJson _ _
  case createWorkflow | updateSettings | createKnowledgeSource | createAutomation =>
    refine (silent_readJsonBody body).bind fun payload => ?_
    exact (silent_onStore _).bind fun _ => writesOnce_writeJson _ _
  all_goals exact (silent_onState _).bind fun _ => writesOnce_writeJson _ _

/-- A request gets exactly one response, and nothing is thrown, exactly when the URL parser accepts
its target. -/
theorem responds_once_iff (parser : UrlParser) (config : HandlerConfig) (clock : Clock)
    (request : HttpRequest) (store : Store δ) :
    (∃ x response, (handleRequest parser config clock request).run ⟨store, []⟩ = .ok () x ∧
        x.written = [response]) ↔
      (parser.pathname request.target).isSome := by
  have hparse : (handle parser config.toProductApiServerConfig request.method
      request.target).isSome = (parser.pathname request.target).isSome := Option.isSome_map
  rw [← hparse]
  unfold handleRequest
  cases handle parser config.toProductApiServerConfig request.method request.target with
  | none => exact iff_of_false (fun ⟨_, _, h, _⟩ => by cases h) (by simp)
  | some outcome =>
    refine iff_of_true ?_ rfl
    cases outcome with
    | preflight | health | notFound => exact ⟨_, _, rfl, rfl⟩
    | call call => exact (writesOnce_answer clock request.body call).tryCatch 500 .failed rfl

end

/-- The target `//`, which names no host: the handler throws before it writes anything. -/
theorem no_response_to_slashes :
    ∃ x, (handleRequest (localParser []) ⟨defaultConfig, "workspace-dev", "0.1.0"⟩ (fun _ => 0)
        ⟨.get, ['/', '/'], none⟩).run
      ⟨createProductApiStore (createInMemoryProductApiRepository createMockProductApiState), []⟩ =
        .error .typeError x ∧ x.written = [] :=
  ⟨_, rfl, rfl⟩

end Vertx
