import Vertx.Http.Server
import Vertx.Js.Value

/-!
# Requests of the product API client

The seven methods of the client that name an entity put its id, escaped, into a path below `/api`,
and `buildUrl` appends the path to the base URL, sparing a second `/api` when the base ends in one.
-/

namespace Vertx

open JsString

/-- A method of the client that names an entity. -/
inductive ClientOp
  | getWorkflowDetail
  | startWorkflowRun
  | getWorkflowRunDetail
  | retryWorkflowRun
  | getSessionDetail
  | toggleAutomation
  | runAutomation
  deriving DecidableEq, Repr

namespace ClientOp

/-- `read` sends a GET request, and `write` is called with POST. -/
def method : ClientOp → HttpMethod
  | getWorkflowDetail | getWorkflowRunDetail | getSessionDetail => .get
  | startWorkflowRun | retryWorkflowRun | toggleAutomation | runAutomation => .post

/-- What stands before the id in the path of the request. -/
def before : ClientOp → List Char
  | getWorkflowDetail | startWorkflowRun => "/api/workflows/".toList
  | getWorkflowRunDetail | retryWorkflowRun => "/api/runs/".toList
  | getSessionDetail => "/api/sessions/".toList
  | toggleAutomation | runAutomation => "/api/automations/".toList

/-- What stands after it. -/
def after : ClientOp → List Char
  | getWorkflowDetail | getWorkflowRunDetail | getSessionDetail => []
  | startWorkflowRun | runAutomation => "/run".toList
  | retryWorkflowRun => "/retry".toList
  | toggleAutomation => "/toggle".toList

/-- The path of the request. -/
def path (op : ClientOp) (escaped : List Char) : List Char := op.before ++ escaped ++ op.after

/-- The store operation that the method is meant to reach. -/
def entityOp : ClientOp → EntityOp
  | getWorkflowDetail => .getWorkflowDetail
  | startWorkflowRun => .startWorkflowRun
  | getWorkflowRunDetail => .getRunDetail
  | retryWorkflowRun => .retryRun
  | getSessionDetail => .getSessionDetail
  | toggleAutomation => .toggleAutomation
  | runAutomation => .runAutomation

end ClientOp

/-- `trimTrailingSlash`, which the constructor applies to its `baseUrl`. -/
def trimTrailingSlash : Option (List Char) → Option (List Char)
  | none => none
  | some value =>
    let trimmed := (jsTrim (String.ofList value)).toList
    if trimmed = [] then none
    else if ['/'] <:+ trimmed then some trimmed.dropLast
    else some trimmed

def buildUrl (baseUrl : Option (List Char)) (path : List Char) : List Char :=
  match baseUrl with
  | none => path
  | some base =>
    if "/api".toList <:+ base ∧ "/api/".toList <+: path then base ++ path.drop 4 else base ++ path

/-- The URL that a method of a client made with `baseUrl` requests: it throws when the id cannot be
escaped, and requests nothing without a base URL. -/
def ClientOp.request (baseUrl : Option (List Char)) (op : ClientOp) (id : JsString) :
    Except UriError (Option (List Char)) := do
  let escaped ← encodeURIComponent id
  match trimTrailingSlash baseUrl with
  | none | some [] => return none
  | some base => return some (buildUrl (some base) (op.path escaped))

/-- What the server does on a call of a client made with its URL; none when no request reaches
the handler. -/
def serve (parser : UrlParser) (config : ProductApiServerConfig) (port : ℕ) (op : ClientOp)
    (id : JsString) : Option Outcome :=
  match op.request (some (config.url port)) id with
  | .ok (some url) => (parser.requestTarget url).bind (handle parser config op.method)
  | _ => none

/-! ## The paths of the client and the routes of the server -/

namespace ClientOp

/-- The part of the path that the server looks up. -/
def routePath (op : ClientOp) (segment : List Char) : List Char :=
  op.before.drop 4 ++ segment ++ op.after

variable (op : ClientOp) (segment : List Char)

theorem path_eq : op.path segment = "/api".toList ++ op.routePath segment := by
  have hb : op.before = "/api".toList ++ op.before.drop 4 := by cases op <;> decide
  rw [routePath, path, hb]
  simp only [List.append_assoc]
  rfl

/-- The first route that fits the paths of a method is the one of its store operation. -/
theorem find?_routes : routes.find? (fun r => !r.rejects op.method (op.before.drop 4) op.after) =
    some (.entity op.method (op.before.drop 4) op.after op.entityOp) := by
  cases op <;> decide

theorem route_routePath (hne : segment ≠ []) (hs : '/' ∉ segment) :
    route op.method (op.routePath segment) = some (.entity op.entityOp (ofChars segment)) :=
  route_of_find op.find?_routes hne hs

/-- No other route calls that operation. -/
theorem mem_routes {m : HttpMethod} {b a : List Char}
    (h : .entity m b a op.entityOp ∈ routes) : b = op.before.drop 4 ∧ a = op.after := by
  have hall : routes.all (fun r => match r with
      | .entity _ b a o => o ≠ op.entityOp || (b = op.before.drop 4 && a = op.after)
      | _ => true) := by
    cases op <;> decide
  simpa using List.all_eq_true.1 hall _ h

theorem of_route {path : List Char} {id : JsString}
    (h : route op.method path = some (.entity op.entityOp id)) :
    ∃ segment, path = op.routePath segment ∧ segment ≠ [] ∧ '/' ∉ segment ∧
      id = ofChars segment := by
  obtain ⟨b, a, segment, hmem, rfl, hne, hs, rfl⟩ := route_eq_entity h
  obtain ⟨rfl, rfl⟩ := op.mem_routes hmem
  exact ⟨segment, rfl, hne, hs, rfl⟩

/-- The path of a route is a path when its base and its id are. -/
theorem isUrlPath_routePath (p : List Char) :
    isUrlPath (p ++ op.routePath segment) ↔ (p = [] ∨ isUrlPath p) ∧ isPathTail segment := by
  have hshape : ∃ word, isPathTail word ∧ op.before.drop 4 = '/' :: word ++ ['/'] := by
    cases op
    case getWorkflowDetail | startWorkflowRun => exact ⟨"workflows".toList, by decide, by decide⟩
    case getWorkflowRunDetail | retryWorkflowRun => exact ⟨"runs".toList, by decide, by decide⟩
    case getSessionDetail => exact ⟨"sessions".toList, by decide, by decide⟩
    case toggleAutomation | runAutomation => exact ⟨"automations".toList, by decide, by decide⟩
  have hafter : op.after = [] ∨ ∃ word, isPathTail word ∧ op.after = '/' :: word := by
    cases op
    case getWorkflowDetail | getWorkflowRunDetail | getSessionDetail => exact .inl rfl
    case startWorkflowRun | runAutomation => exact .inr ⟨"run".toList, by decide, by decide⟩
    case retryWorkflowRun => exact .inr ⟨"retry".toList, by decide, by decide⟩
    case toggleAutomation => exact .inr ⟨"toggle".toList, by decide, by decide⟩
  obtain ⟨word, hword, hb⟩ := hshape
  have htail : isPathTail (segment ++ op.after) = isPathTail segment := by
    rcases hafter with ha | ⟨w, hw, ha⟩
    · rw [ha, List.append_nil]
    · rw [ha, isPathTail_append, hw, Bool.and_true]
  have hpath : p ++ op.routePath segment = p ++ '/' :: (word ++ '/' :: (segment ++ op.after)) := by
    rw [routePath, hb]
    simp
  rw [hpath, isUrlPath_append, isPathTail_append, hword, htail]
  simp

/-- The route path begins with a slash and a letter, and not with `/api`. -/
theorem routePath_head : ∃ c d r, op.routePath segment = '/' :: c :: d :: r ∧ c ≠ '/' ∧
    ¬ (c = 'a' ∧ d = 'p') := by
  cases op <;> exact ⟨_, _, _, rfl, by decide, by decide⟩

theorem count_routePath (hs : '/' ∉ segment) :
    (op.routePath segment).count '/' = (op.routePath []).count '/' := by
  simp [routePath, List.count_eq_zero.2 hs]

end ClientOp

end Vertx
