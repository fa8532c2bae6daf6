import Vertx.Http.Url

/-!
# The request handler of the product API server

The handler answers preflight and health requests, cuts the base path off the rest, and looks the
remaining path up in a fixed list of routes.  Seven routes carry the id of an entity as one path
segment, which the handler passes to the store as it stands.
-/

namespace Vertx

inductive HttpMethod
  | get
  | post
  | put
  | options
  | other (name : String)
  deriving DecidableEq, Repr

/-- The fields of the server's configuration that requests meet. -/
structure ProductApiServerConfig where
  host : List Char
  basePath : List Char
  healthPath : List Char
  deriving DecidableEq, Repr

def httpBaseUrl (host : List Char) (port : ℕ) : List Char :=
  let normalizedHost := if host = "0.0.0.0".toList then "127.0.0.1".toList else host
  "http://".toList ++ normalizedHost ++ ':' :: port.repr.toList

/-- The `url` of a server that listens on `port`. -/
def ProductApiServerConfig.url (config : ProductApiServerConfig) (port : ℕ) : List Char :=
  httpBaseUrl config.host port ++ config.basePath

/-- A store operation on one entity. -/
inductive EntityOp
  | getWorkflowDetail
  | startWorkflowRun
  | getRunDetail
  | retryRun
  | getSessionDetail
  | toggleAutomation
  | runAutomation
  deriving DecidableEq, Repr

/-- A call that the handler makes to the store. -/
inductive ApiCall
  | getWorkbenchSummary
  | listWorkflows
  | createWorkflow
  | listRuns
  | listSessions
  | listConnections
  | connectFeishu
  | getSettings
  | updateSettings
  | listKnowledgeSources
  | createKnowledgeSource
  | listAutomations
  | createAutomation
  | listAuditEvents
  | entity (op : EntityOp) (id : JsString)
  deriving DecidableEq, Repr

/-- One test of the handler: a method with a whole path, or with the expression
`^before([^/]+)after$`. -/
inductive Route
  | exact (method : HttpMethod) (path : List Char) (call : ApiCall)
  | entity (method : HttpMethod) (before after : List Char) (op : EntityOp)
  deriving DecidableEq, Repr

/-- The group of `^before([^/]+)after$`, where `after` is empty or begins with a slash. -/
def matchSegment (before after path : List Char) : Option (List Char) :=
  if before <+: path then
    let rest := path.drop before.length
    let segment := rest.takeWhile (· ≠ '/')
    if segment ≠ [] ∧ rest.dropWhile (· ≠ '/') = after then some segment else none
  else none

def Route.call? (method : HttpMethod) (path : List Char) : Route → Option ApiCall
  | exact m p call => if method = m ∧ path = p then some call else none
  | entity m before after op =>
    if method = m then
      (matchSegment before after path).map fun segment => .entity op (JsString.ofChars segment)
    else none

/-- The tests in the order in which the handler makes them. -/
def routes : List Route := [
  .exact .get "/workbench/summary".toList .getWorkbenchSummary,
  .exact .get "/workflows".toList .listWorkflows,
  .exact .post "/workflows".toList .createWorkflow,
  .entity .get "/workflows/".toList [] .getWorkflowDetail,
  .entity .post "/workflows/".toList "/run".toList .startWorkflowRun,
  .exact .get "/runs".toList .listRuns,
  .entity .get "/runs/".toList [] .getRunDetail,
  .entity .post "/runs/".toList "/retry".toList .retryRun,
  .exact .get "/sessions".toList .listSessions,
  .entity .get "/sessions/".toList [] .getSessionDetail,
  .exact .get "/channel-connections".toList .listConnections,
  .exact .post "/channel-connections/feishu/connect".toList .connectFeishu,
  .exact .get "/settings".toList .getSettings,
  .exact .put "/settings".toList .updateSettings,
  .exact .get "/knowledge-sources".toList .listKnowledgeSources,
  .exact .post "/knowledge-sources".toList .createKnowledgeSource,
  .exact .get "/automations".toList .listAutomations,
  .exact .post "/automations".toList .createAutomation,
  .entity .post "/automations/".toList "/toggle".toList .toggleAutomation,
  .entity .post "/automations/".toList "/run".toList .runAutomation,
  .exact .get "/audit-events".toList .listAuditEvents]

def route (method : HttpMethod) (path : List Char) : Option ApiCall :=
  routes.findSome? (·.call? method path)

/-- What the handler does with a request. -/
inductive Outcome
  | preflight
  | health
  | notFound
  | call (call : ApiCall)
  deriving DecidableEq, Repr

/-- The handler; none when it throws on a target that is not a URL. -/
def handle (parser : UrlParser) (config : ProductApiServerConfig) (method : HttpMethod)
    (target : List Char) : Option Outcome :=
  (parser.pathname target).map fun pathname =>
    if method = .options then .preflight
    else if method = .get ∧ pathname = config.healthPath then .health
    else if config.basePath <+: pathname then
      let routePath := pathname.drop config.basePath.length
      match route method (if routePath = [] then ['/'] else routePath) with
      | some call => .call call
      | none => .notFound
    else .notFound

/-! ## Routes with an entity id -/

/-- A segment ends where the next slash stands. -/
theorem span_segment {s after : List Char} (hs : '/' ∉ s) (hafter : after = [] ∨ ['/'] <+: after) :
    (s ++ after).takeWhile (· ≠ '/') = s ∧ (s ++ after).dropWhile (· ≠ '/') = after := by
  have hall : ∀ c ∈ s, (decide (c ≠ '/')) = true := fun c hc => by
    simpa using fun h : c = '/' => hs (h ▸ hc)
  have hnil : after.takeWhile (· ≠ '/') = [] ∧ after.dropWhile (· ≠ '/') = after := by
    rcases hafter with rfl | ⟨r, rfl⟩
    · exact ⟨rfl, rfl⟩
    · simp
  rw [List.takeWhile_append_of_pos hall, List.dropWhile_append_of_pos hall, hnil.1, hnil.2]
  simp

theorem matchSegment_eq_some {before after path segment : List Char}
    (hafter : after = [] ∨ ['/'] <+: after) :
    matchSegment before after path = some segment ↔
      path = before ++ segment ++ after ∧ segment ≠ [] ∧ '/' ∉ segment := by
  unfold matchSegment
  constructor
  · intro h
    by_cases hpre : before <+: path
    swap
    · rw [if_neg hpre] at h
      cases h
    obtain ⟨rest, rfl⟩ := hpre
    rw [if_pos (List.prefix_append _ _), List.drop_left] at h
    dsimp only at h
    split_ifs at h with hseg
    obtain rfl := Option.some.inj h
    refine ⟨?_, hseg.1, ?_⟩
    · rw [List.append_assoc, ← hseg.2, List.takeWhile_append_dropWhile]
    · intro hm
      simpa using List.mem_takeWhile_imp hm
  · rintro ⟨rfl, hne, hs⟩
    rw [List.append_assoc, if_pos (List.prefix_append _ _), List.drop_left]
    simp only [(span_segment hs hafter).1, (span_segment hs hafter).2]
    rw [if_pos ⟨hne, trivial⟩]

/-- The route rejects every path made of `before`, a segment and `after`. -/
def Route.rejects (method : HttpMethod) (before after : List Char) : Route → Bool
  | exact m p _ => m ≠ method || !(before <+: p : Bool)
  | entity m b a _ =>
    m ≠ method || (!(b <+: before : Bool) && !(before <+: b : Bool)) || (b = before && a ≠ after)

theorem Route.call?_of_rejects {method : HttpMethod} {before after segment : List Char} {r : Route}
    (hr : ∀ m b a op, r = .entity m b a op → a = [] ∨ ['/'] <+: a)
    (hafter : after = [] ∨ ['/'] <+: after) (hs : '/' ∉ segment)
    (h : r.rejects method before after) :
    r.call? method (before ++ segment ++ after) = none := by
  cases r with
  | exact m p call =>
    refine if_neg ?_
    rintro ⟨rfl, hp⟩
    have hpre : before <+: p := ⟨segment ++ after, by rw [← hp, List.append_assoc]⟩
    simp [Route.rejects, hpre] at h
  | entity m b a op =>
    by_cases hm : method = m
    swap
    · exact if_neg hm
    subst hm
    refine (if_pos rfl).trans (Option.map_eq_none_iff.2 ?_)
    rw [Option.eq_none_iff_forall_ne_some]
    intro seg hseg
    obtain ⟨hpath, -, hs'⟩ := (matchSegment_eq_some (hr _ _ _ _ rfl)).1 hseg
    have hb : b <+: before ++ segment ++ after := ⟨seg ++ a, by rw [hpath, List.append_assoc]⟩
    have hbefore : before <+: before ++ segment ++ after :=
      ⟨segment ++ after, by rw [List.append_assoc]⟩
    simp only [Route.rejects, ne_eq, not_true_eq_false, decide_false, Bool.false_or,
      Bool.or_eq_true, Bool.and_eq_true, Bool.not_eq_true', decide_eq_true_eq,
      decide_eq_false_iff_not] at h
    rcases h with ⟨h1, h2⟩ | ⟨rfl, hne⟩
    · exact (List.prefix_or_prefix_of_prefix hb hbefore).elim h1 h2
    · rw [List.append_assoc, List.append_assoc, List.append_cancel_left_eq] at hpath
      have ha := (span_segment hs' (hr _ _ _ _ rfl)).2
      rw [← hpath, (span_segment hs hafter).2] at ha
      exact hne ha.symm

/-- The routes are well formed: what follows an id begins with a slash. -/
theorem routes_after {r : Route} (hr : r ∈ routes) {m : HttpMethod} {b a : List Char}
    {op : EntityOp}
    (h : r = .entity m b a op) : a = [] ∨ ['/'] <+: a := by
  subst h
  simp only [routes, List.mem_cons, List.not_mem_nil, or_false, Route.entity.injEq, reduceCtorEq,
    false_or] at hr
  rcases hr with ⟨-, -, rfl, -⟩ | ⟨-, -, rfl, -⟩ | ⟨-, -, rfl, -⟩ | ⟨-, -, rfl, -⟩ |
    ⟨-, -, rfl, -⟩ | ⟨-, -, rfl, -⟩ | ⟨-, -, rfl, -⟩ <;> decide

/-- The first route that does not reject the paths of an id takes them. -/
theorem route_of_find {method : HttpMethod} {before after segment : List Char} {op : EntityOp}
    (h : routes.find? (fun r => !r.rejects method before after) =
      some (.entity method before after op))
    (hne : segment ≠ []) (hs : '/' ∉ segment) :
    route method (before ++ segment ++ after) = some (.entity op (JsString.ofChars segment)) := by
  obtain ⟨-, as, bs, hsplit, has⟩ := List.find?_eq_some_iff_append.1 h
  have hmem : ∀ r ∈ as, r ∈ routes := fun r hr => by
    rw [hsplit]
    exact List.mem_append_left _ hr
  have hafter : after = [] ∨ ['/'] <+: after := by
    refine routes_after (r := .entity method before after op) ?_ rfl
    rw [hsplit]
    exact List.mem_append_right _ List.mem_cons_self
  have hnone : as.findSome? (·.call? method (before ++ segment ++ after)) = none := by
    refine List.findSome?_eq_none_iff.2 fun r hr => ?_
    refine Route.call?_of_rejects (fun m b a op => routes_after (hmem r hr)) hafter hs ?_
    simpa using has r hr
  have hcall : (Route.entity method before after op).call? method (before ++ segment ++ after) =
      some (.entity op (JsString.ofChars segment)) := by
    rw [Route.call?, if_pos rfl, (matchSegment_eq_some hafter).2 ⟨rfl, hne, hs⟩, Option.map_some]
  rw [route, hsplit, List.findSome?_append, hnone, Option.none_or, List.findSome?_cons, hcall]

/-- A route that calls an operation with an id has matched the id as a segment. -/
theorem route_eq_entity {method : HttpMethod} {path : List Char} {op : EntityOp} {id : JsString}
    (h : route method path = some (.entity op id)) :
    ∃ before after segment, .entity method before after op ∈ routes ∧
      path = before ++ segment ++ after ∧ segment ≠ [] ∧ '/' ∉ segment ∧
      id = JsString.ofChars segment := by
  obtain ⟨r, hr, hcall⟩ := List.exists_of_findSome?_eq_some h
  cases r with
  | exact m p call =>
    simp only [Route.call?, Option.ite_none_right_eq_some, Option.some.injEq] at hcall
    obtain ⟨-, rfl⟩ := hcall
    simp [routes] at hr
  | entity m b a op' =>
    simp only [Route.call?, Option.ite_none_right_eq_some, Option.map_eq_some_iff,
      ApiCall.entity.injEq] at hcall
    obtain ⟨rfl, segment, hseg, rfl, rfl⟩ := hcall
    obtain ⟨hpath, hne, hs⟩ := (matchSegment_eq_some (routes_after hr rfl)).1 hseg
    exact ⟨b, a, segment, hr, hpath, hne, hs, rfl⟩

end Vertx
