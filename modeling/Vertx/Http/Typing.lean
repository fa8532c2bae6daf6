import Vertx.Lib.Runs
import Vertx.Domain.Inputs
import Vertx.Http.Handler

/-!
# Requests and the types of the state

A request reaches the store through at most one call, which `HttpRequest.storeOp?` names.
`well_typed_iff` says for which requests the state of a server keeps the type that the API declares
for it.
-/

namespace Vertx

open Repository Store JsM Runs

/-- The value of a body, when it can be parsed; a request without a body brings an empty object. -/
def bodyValue? : Option (Except JsError JsValue) → Option JsValue
  | none => some (.obj [])
  | some (.ok value) => some value
  | some (.error _) => none

/-- The operation on one entity that can change the state. -/
def EntityOp.storeOp? (id : String) : EntityOp → Option StoreOp
  | startWorkflowRun => some (.startWorkflowRun id)
  | retryRun => some (.retryRun id)
  | toggleAutomation => some (.toggleAutomation id)
  | runAutomation => some (.runAutomation id)
  | getWorkflowDetail | getRunDetail | getSessionDetail => none

/-- The operation of a call that can change the state. -/
def ApiCall.storeOp? (body : Option (Except JsError JsValue)) : ApiCall → Option StoreOp
  | createWorkflow => (bodyValue? body).map .createWorkflow
  | connectFeishu => some .connectFeishu
  | updateSettings => (bodyValue? body).map .updateSettings
  | createKnowledgeSource => (bodyValue? body).map .createKnowledgeSource
  | createAutomation => (bodyValue? body).map .createAutomation
  | entity op id => op.storeOp? id.text
  | _ => none

/-- The operation that a request makes the store perform, if any. -/
def HttpRequest.storeOp? (parser : UrlParser) (config : HandlerConfig) (request : HttpRequest) :
    Option StoreOp :=
  match handle parser config.toProductApiServerConfig request.method request.target with
  | some (.call call) => call.storeOp? request.body
  | _ => none

/-- A request, and the clock while it is answered. -/
structure Arrival where
  clock : Clock
  request : HttpRequest

section

variable {δ : Type} {α : Type}

theorem keeps_writeJson (status : ℕ) (body : ResponseBody) :
    Keeps Exchange.store (writeJson status body : HandlerM δ Unit) := by
  intro x
  obtain ⟨store, written⟩ := x
  cases written <;> rfl

theorem keeps_writeFound (status : ℕ) (found : Option ResponseBody) :
    Keeps Exchange.store (writeFound status found : HandlerM δ Unit) := by
  cases found with
  | none => exact keeps_writeJson 404 .notFound
  | some body => exact keeps_writeJson status body

theorem store_onStore (p : StoreM δ α) (x : Exchange δ) :
    ((onStore p).stateAfter x).store = p.stateAfter x.store := by
  unfold stateAfter
  rw [run_onStore]
  cases p.run x.store <;> rfl

/-- A body that cannot be parsed ends the branch; any other is passed on. -/
theorem store_readJsonBody (body : Option (Except JsError JsValue)) (k : JsValue → HandlerM δ Unit)
    (x : Exchange δ) :
    ((readJsonBody body >>= k).stateAfter x).store =
      ((bodyValue? body).map fun value => ((k value).stateAfter x).store).getD x.store := by
  rw [stateAfter_bind]
  cases body with
  | none => rfl
  | some parsed => cases parsed <;> rfl

variable [Persist δ]

/-- Serves one request. -/
def serveRequest (parser : UrlParser) (config : HandlerConfig) (store : Store δ) (a : Arrival) :
    Store δ :=
  ((handleRequest parser config a.clock a.request).stateAfter ⟨store, []⟩).store

/-- The store after an operation, if one is performed. -/
def Store.performed (clock : Clock) (store : Store δ) (op : Option StoreOp) : Store δ :=
  (op.map fun op => (op.perform clock).stateAfter store).getD store

/-- The store after the branch of one entity. -/
theorem store_answerEntity (clock : Clock) (id : String) (op : EntityOp) (x : Exchange δ) :
    ((answerEntity clock id op).stateAfter x).store =
      x.store.performed clock (op.storeOp? id) := by
  cases op with
  | getWorkflowDetail | getRunDetail | getSessionDetail => exact keeps_writeFound _ _ x
  | startWorkflowRun | retryRun | toggleAutomation | runAutomation =>
    refine (Keeps.after (fun _ => keeps_writeFound _ _) _ x).trans ?_
    rw [store_onStore]
    exact (stateAfter_discard _ _).symm

/-- A branch that passes its body on to one operation. -/
theorem store_withBody {clock : Clock} {body : Option (Except JsError JsValue)} {status : ℕ}
    {p : JsValue → StoreM δ α} {op : JsValue → StoreOp} {f : α → ResponseBody}
    (hp : ∀ value, (op value).perform clock = p value >>= fun _ => pure ()) (x : Exchange δ) :
    ((readJsonBody body >>= fun value => onStore (p value) >>= fun a =>
      writeJson status (f a)).stateAfter x).store =
      x.store.performed clock ((bodyValue? body).map op) := by
  rw [store_readJsonBody]
  cases bodyValue? body with
  | none => rfl
  | some value =>
    refine (Keeps.after (fun _ => keeps_writeJson _ _) _ x).trans ?_
    rw [store_onStore, ← stateAfter_discard, ← hp]
    rfl

/-- The store after the branches of the handler. -/
theorem store_answer (clock : Clock) (body : Option (Except JsError JsValue)) (call : ApiCall)
    (x : Exchange δ) :
    ((answer clock body call).stateAfter x).store =
      x.store.performed clock (call.storeOp? body) := by
  cases call with
  | entity op id => exact store_answerEntity clock id.text op x
  | createWorkflow | updateSettings | createKnowledgeSource | createAutomation =>
    exact store_withBody (fun _ => rfl) x
  | connectFeishu =>
    refine (Keeps.after (fun _ => keeps_writeJson _ _) _ x).trans ?_
    rw [store_onStore]
    exact (stateAfter_discard _ _).symm
  | _ => exact keeps_writeJson _ _ x

/-- A request changes the store as the operation that it makes the store perform. -/
theorem serveRequest_eq (parser : UrlParser) (config : HandlerConfig) (store : Store δ)
    (a : Arrival) :
    serveRequest parser config store a =
      store.performed a.clock (a.request.storeOp? parser config) := by
  unfold serveRequest handleRequest HttpRequest.storeOp?
  cases handle parser config.toProductApiServerConfig a.request.method a.request.target with
  | none => rfl
  | some outcome =>
    cases outcome with
    | preflight | health | notFound => rfl
    | call call =>
      have hanswer := store_answer a.clock a.request.body call ⟨store, []⟩
      dsimp only at hanswer ⊢
      rw [← hanswer, stateAfter_tryCatch]
      unfold stateAfter
      cases (answer a.clock a.request.body call).run ⟨store, []⟩ with
      | ok u y => rfl
      | error e y => exact keeps_writeJson 500 (.failed e) y

/-! ## Well typed states -/

/-- What the request makes the store copy has its declared type. -/
def HttpRequest.typed (parser : UrlParser) (config : HandlerConfig) (request : HttpRequest) :
    Bool :=
  (request.storeOp? parser config).all (·.inputTyped)

/-- The request reaches an operation that cannot read its body or finds nothing to act on. -/
def HttpRequest.rejected (parser : UrlParser) (config : HandlerConfig) (state : ProductApiState)
    (request : HttpRequest) : Bool :=
  (request.storeOp? parser config).any fun op => !op.accepted state

/-- One request keeps the state well typed exactly when what it copies is well typed. -/
theorem wellTyped_serveRequest_iff (parser : UrlParser) (config : HandlerConfig) {store : Store δ}
    (a : Arrival) (h : WellTyped store.repository.state) :
    WellTyped (serveRequest parser config store a).repository.state ↔
      a.request.typed parser config := by
  rw [serveRequest_eq, HttpRequest.typed]
  cases a.request.storeOp? parser config with
  | none => exact iff_of_true h rfl
  | some op =>
    have hcopied := copied_perform a.clock op store
    cases he : op.effect a.clock store with
    | none =>
      rw [he] at hcopied
      have hrejected : op.accepted store.repository.state = false := by
        rw [← isSome_effect a.clock, he, Option.isSome_none]
      exact iff_of_true ((wellTyped_congr hcopied).2 h) (inputTyped_of_rejected hrejected)
    | some e =>
      rw [he] at hcopied
      exact (wellTyped_congr hcopied).trans (wellTyped_effect_iff he h)

theorem rejected_unchanged {parser : UrlParser} {config : HandlerConfig} {store : Store δ}
    {a : Arrival} (h : a.request.rejected parser config store.repository.state) :
    (serveRequest parser config store a).repository = store.repository := by
  unfold HttpRequest.rejected at h
  rw [serveRequest_eq]
  cases hop : a.request.storeOp? parser config with
  | none => rfl
  | some op =>
    rw [hop, Option.any_some, Bool.not_eq_true', ← isSome_effect a.clock,
      Option.isSome_eq_false_iff, Option.isNone_iff_eq_none] at h
    change ((op.perform a.clock).stateAfter store).repository = _
    rw [stateAfter_of_none h, consume_repository]

/-- Every state that a run of requests leads to, from the mock state and on any disk, has the type
that the API declares for it exactly when every request that reaches `updateSettings`,
`createKnowledgeSource` or `createAutomation` with an input it accepts brings settings, a source
type or a trigger type of the declared types.  A request that is rejected changes nothing. -/
theorem well_typed_iff (parser : UrlParser) (config : HandlerConfig) (disk : δ) :
    (∀ arrivals : List Arrival,
      Always (serveRequest parser config) (fun store => WellTyped store.repository.state)
          (createProductApiStore ⟨createMockProductApiState, disk⟩) arrivals ↔
        ∀ a ∈ arrivals, a.request.typed parser config) ∧
      ∀ (store : Store δ) (a : Arrival), a.request.rejected parser config store.repository.state →
        (serveRequest parser config store a).repository = store.repository := by
  refine ⟨fun arrivals => ?_, fun store a h => rejected_unchanged h⟩
  have hinit : WellTyped
      (createProductApiStore (⟨createMockProductApiState, disk⟩ : Repository δ)).repository.state :=
    wellTyped_mock
  generalize createProductApiStore (⟨createMockProductApiState, disk⟩ : Repository δ) =
    store at hinit
  induction arrivals generalizing store with
  | nil => exact iff_of_true hinit nofun
  | cons a arrivals ih =>
    have hstep := wellTyped_serveRequest_iff parser config a hinit
    rw [Always, List.forall_mem_cons, ← hstep, and_iff_right hinit]
    constructor
    · intro halways
      exact ⟨halways.head, (ih _ halways.head).1 halways⟩
    · rintro ⟨hnext, hrest⟩
      exact (ih _ hnext).2 hrest

end

/-- `PUT /api/settings` with a number for the model. -/
def untypedSettings : Arrival :=
  ⟨fun _ => 0, .put, "/api/settings".toList,
    some (.ok (.obj [("defaultModel", .num (.ofNat 5))]))⟩

theorem untyped_after_untypedSettings :
    ¬ Always (serveRequest (localParser []) ⟨defaultConfig, "workspace-dev", "0.1.0"⟩)
      (fun store => WellTyped store.repository.state)
      (createProductApiStore (createInMemoryProductApiRepository createMockProductApiState))
      [untypedSettings] := by
  rintro ⟨-, h⟩
  have hbroken : ¬ WellTyped (serveRequest (localParser [])
      ⟨defaultConfig, "workspace-dev", "0.1.0"⟩
      (createProductApiStore (createInMemoryProductApiRepository createMockProductApiState))
      untypedSettings).repository.state := by
    decide +kernel
  exact hbroken h

end Vertx
